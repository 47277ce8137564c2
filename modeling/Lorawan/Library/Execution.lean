import Mathlib.Data.List.Basic
import Mathlib.Data.List.DropRight
import Mathlib.Logic.Function.Iterate
import Mathlib.Tactic.Common

/-! # Executions of state machines

A machine consumes one input at a time and answers each with an output. This
file holds the rules by which a fact about single steps becomes a fact about
whole runs. It names no particular machine.
-/

namespace Lorawan

/-- A deterministic machine. Whatever the environment may choose is part of the
input. -/
structure Machine (State : Type u) (Input : Type v) (Output : Type w) where
  step : State → Input → State × Output

namespace Machine

variable {State : Type u} {Input : Type v} {Output : Type w}

def next (machine : Machine State Input Output) (state : State) (input : Input) : State :=
  (machine.step state input).1

def reply (machine : Machine State Input Output) (state : State) (input : Input) : Output :=
  (machine.step state input).2

def run (machine : Machine State Input Output) : State → List Input → State
  | state, [] => state
  | state, input :: inputs => run machine (machine.next state input) inputs

/-- What was asked and answered along a run, oldest first. -/
def trace (machine : Machine State Input Output) :
    State → List Input → List (Input × Output)
  | _, [] => []
  | state, input :: inputs =>
      (input, machine.reply state input) :: trace machine (machine.next state input) inputs

/-- Every step of the run is taken from a state, and with an input, in `guard`. -/
def Along (machine : Machine State Input Output) (guard : State → Input → Prop) :
    State → List Input → Prop
  | _, [] => True
  | state, input :: inputs =>
      guard state input ∧ Along machine guard (machine.next state input) inputs

/-- `property` holds in every state of the run, the first and the last included. -/
def Throughout (machine : Machine State Input Output) (property : State → Prop) :
    State → List Input → Prop
  | state, [] => property state
  | state, input :: inputs =>
      property state ∧ Throughout machine property (machine.next state input) inputs

/-- The states that the steps of a run lead to, oldest first. -/
def visited (machine : Machine State Input Output) : State → List Input → List State
  | _, [] => []
  | state, input :: inputs =>
      machine.next state input :: visited machine (machine.next state input) inputs

variable (machine : Machine State Input Output)

@[simp] theorem run_nil (state : State) : machine.run state [] = state := rfl

@[simp] theorem run_cons (state : State) (input : Input) (inputs : List Input) :
    machine.run state (input :: inputs) = machine.run (machine.next state input) inputs := rfl

theorem run_append (state : State) (first second : List Input) :
    machine.run state (first ++ second) = machine.run (machine.run state first) second := by
  induction first generalizing state with
  | nil => rfl
  | cons input inputs induction => exact induction (machine.next state input)

@[simp] theorem trace_nil (state : State) : machine.trace state [] = [] := rfl

@[simp] theorem trace_cons (state : State) (input : Input) (inputs : List Input) :
    machine.trace state (input :: inputs) =
      (input, machine.reply state input) ::
        machine.trace (machine.next state input) inputs := rfl

/-! ## Machines whose next state does not depend on the input -/

section Autonomous

variable {machine : Machine State Input Output} {advance : State → State}
  (autonomous : ∀ state input, machine.next state input = advance state)

include autonomous

theorem run_eq_iterate (inputs : List Input) (state : State) :
    machine.run state inputs = advance^[inputs.length] state := by
  induction inputs generalizing state with
  | nil => rfl
  | cons input inputs induction =>
      rw [run_cons, autonomous, induction, List.length_cons, Function.iterate_succ_apply]

theorem visited_eq_iterate (inputs : List Input) (state : State) :
    machine.visited state inputs =
      (List.range inputs.length).map (fun offset => advance^[offset + 1] state) := by
  induction inputs generalizing state with
  | nil => rfl
  | cons input inputs induction =>
      rw [visited, autonomous, induction, List.length_cons, List.range_succ_eq_map,
        List.map_cons, List.map_map]
      rfl

end Autonomous

/-! ## Unguarded invariants -/

theorem run_invariant (invariant : State → Prop)
    (preserved : ∀ state input, invariant state → invariant (machine.next state input))
    (inputs : List Input) (state : State) (holds : invariant state) :
    invariant (machine.run state inputs) := by
  induction inputs generalizing state with
  | nil => exact holds
  | cons input inputs induction =>
      exact induction (machine.next state input) (preserved state input holds)

theorem throughout_of_preserved (invariant : State → Prop)
    (preserved : ∀ state input, invariant state → invariant (machine.next state input))
    (inputs : List Input) (state : State) (holds : invariant state) :
    machine.Throughout invariant state inputs := by
  induction inputs generalizing state with
  | nil => exact holds
  | cons input inputs induction =>
      exact ⟨holds, induction (machine.next state input) (preserved state input holds)⟩

/-! ## Invariants of runs whose steps are guarded -/

theorem Along.mono {machine : Machine State Input Output}
    {weak strong : State → Input → Prop}
    (implies : ∀ state input, strong state input → weak state input)
    {inputs : List Input} {state : State} (along : machine.Along strong state inputs) :
    machine.Along weak state inputs := by
  induction inputs generalizing state with
  | nil => trivial
  | cons input inputs induction =>
      exact ⟨implies state input along.1, induction along.2⟩

theorem Along.and {machine : Machine State Input Output}
    {left right : State → Input → Prop} {inputs : List Input} {state : State}
    (alongLeft : machine.Along left state inputs)
    (alongRight : machine.Along right state inputs) :
    machine.Along (fun state input => left state input ∧ right state input) state inputs := by
  induction inputs generalizing state with
  | nil => trivial
  | cons input inputs induction =>
      exact ⟨⟨alongLeft.1, alongRight.1⟩, induction alongLeft.2 alongRight.2⟩

theorem along_congr {machine : Machine State Input Output}
    {left right : State → Input → Prop} {inputs : List Input} {state : State}
    (agree : machine.Along (fun state input => left state input ↔ right state input)
      state inputs) :
    machine.Along left state inputs ↔ machine.Along right state inputs := by
  induction inputs generalizing state with
  | nil => exact Iff.rfl
  | cons input inputs induction => exact and_congr agree.1 (induction agree.2)

theorem throughout_mono {machine : Machine State Input Output}
    {strong weak : State → Prop} (implies : ∀ state, strong state → weak state)
    {inputs : List Input} {state : State} (holds : machine.Throughout strong state inputs) :
    machine.Throughout weak state inputs := by
  induction inputs generalizing state with
  | nil => exact implies state holds
  | cons input inputs induction => exact ⟨implies state holds.1, induction holds.2⟩

theorem along_of_forall {guard : State → Input → Prop}
    (always : ∀ state input, guard state input) (inputs : List Input) (state : State) :
    machine.Along guard state inputs := by
  induction inputs generalizing state with
  | nil => trivial
  | cons input inputs induction =>
      exact ⟨always state input, induction (machine.next state input)⟩

/-- A guard on the inputs alone. -/
theorem along_of_mem {guard : Input → Prop} {inputs : List Input}
    (every : ∀ input ∈ inputs, guard input) (state : State) :
    machine.Along (fun _ input => guard input) state inputs := by
  induction inputs generalizing state with
  | nil => trivial
  | cons input inputs induction =>
      have first : guard input := every input List.mem_cons_self
      have rest : ∀ other ∈ inputs, guard other := fun other member =>
        every other (List.mem_cons_of_mem input member)
      exact ⟨first, induction rest (machine.next state input)⟩

theorem along_append (guard : State → Input → Prop) (state : State)
    (first second : List Input) :
    machine.Along guard state (first ++ second) ↔
      machine.Along guard state first ∧
        machine.Along guard (machine.run state first) second := by
  induction first generalizing state with
  | nil => simp [Along]
  | cons input inputs induction => simp [Along, induction, and_assoc]

/-- A property that a step keeps exactly when its guard holds, and that no step restores. -/
theorem run_iff_along {guard : State → Input → Prop} {property : State → Prop}
    (invariant : State → Prop)
    (preserved : ∀ state input, invariant state → invariant (machine.next state input))
    (step : ∀ state input, invariant state →
      (property (machine.next state input) ↔ property state ∧ guard state input))
    (inputs : List Input) (state : State) (holds : invariant state) :
    property (machine.run state inputs) ↔
      property state ∧ machine.Along guard state inputs := by
  induction inputs generalizing state with
  | nil => simp [Along]
  | cons input inputs induction =>
      rw [run_cons, induction _ (preserved state input holds), step state input holds, and_assoc]
      rfl

theorem run_invariant_along {guard : State → Input → Prop} (invariant : State → Prop)
    (preserved : ∀ state input, invariant state → guard state input →
      invariant (machine.next state input))
    (inputs : List Input) (state : State) (along : machine.Along guard state inputs)
    (holds : invariant state) : invariant (machine.run state inputs) := by
  induction inputs generalizing state with
  | nil => exact holds
  | cons input inputs induction =>
      exact induction (machine.next state input) along.2 (preserved state input holds along.1)

/-- A fact that an invariant implies at each guarded step holds along the run. -/
theorem along_of_invariant {guard consequence : State → Input → Prop}
    (invariant : State → Prop)
    (preserved : ∀ state input, invariant state → guard state input →
      invariant (machine.next state input))
    (implies : ∀ state input, invariant state → guard state input → consequence state input)
    (inputs : List Input) (state : State) (along : machine.Along guard state inputs)
    (holds : invariant state) : machine.Along consequence state inputs := by
  induction inputs generalizing state with
  | nil => trivial
  | cons input inputs induction =>
      have later := induction (machine.next state input) along.2
        (preserved state input holds along.1)
      exact ⟨implies state input holds along.1, later⟩

/-- When a step that is `safe` keeps `property` exactly under `guard`, a safe run keeps it
in every state exactly when every step meets `guard`. -/
theorem throughout_iff_along_of_safe {safe guard : State → Input → Prop}
    {property : State → Prop} (invariant : State → Prop)
    (preserved : ∀ state input, invariant state → safe state input →
      invariant (machine.next state input))
    (exact_step : ∀ state input, invariant state → safe state input → property state →
      (property (machine.next state input) ↔ guard state input))
    (inputs : List Input) (state : State) (along : machine.Along safe state inputs)
    (keeps : invariant state) (holds : property state) :
    machine.Throughout property state inputs ↔ machine.Along guard state inputs := by
  induction inputs generalizing state with
  | nil => exact ⟨fun _ => trivial, fun _ => holds⟩
  | cons input inputs induction =>
      have rest := induction (machine.next state input) along.2
        (preserved state input keeps along.1)
      have step := exact_step state input keeps along.1 holds
      constructor
      · intro throughout
        have nextHolds : property (machine.next state input) := by
          cases inputs with
          | nil => exact throughout.2
          | cons _ _ => exact throughout.2.1
        exact ⟨step.mp nextHolds, (rest nextHolds).mp throughout.2⟩
      · intro guarded
        exact ⟨holds, (rest (step.mpr guarded.1)).mpr guarded.2⟩

/-- The same where every step is safe. -/
theorem throughout_iff_along {guard : State → Input → Prop} {property : State → Prop}
    (invariant : State → Prop)
    (preserved : ∀ state input, invariant state → invariant (machine.next state input))
    (exact_step : ∀ state input, invariant state → property state →
      (property (machine.next state input) ↔ guard state input))
    (inputs : List Input) (state : State) (keeps : invariant state) (holds : property state) :
    machine.Throughout property state inputs ↔ machine.Along guard state inputs :=
  machine.throughout_iff_along_of_safe invariant
    (fun state input keeps _ => preserved state input keeps)
    (fun state input keeps _ => exact_step state input keeps)
    inputs state (machine.along_of_forall (fun _ _ => trivial) inputs state) keeps holds

/-! ## Invariants that mention the history -/

/-- A relation between the trace so far and the state, kept by each guarded
step, holds at the end of a guarded run. -/
theorem history_along {guard : State → Input → Prop}
    (relates : List (Input × Output) → State → Prop)
    (preserved : ∀ past state input, relates past state → guard state input →
      relates (past ++ [(input, machine.reply state input)]) (machine.next state input))
    (inputs : List Input) (past : List (Input × Output)) (state : State)
    (along : machine.Along guard state inputs) (holds : relates past state) :
    relates (past ++ machine.trace state inputs) (machine.run state inputs) := by
  induction inputs generalizing past state with
  | nil => simpa using holds
  | cons input inputs induction =>
      have later := induction (past ++ [(input, machine.reply state input)])
        (machine.next state input) along.2 (preserved past state input holds along.1)
      simpa [List.append_assoc] using later

theorem history (relates : List (Input × Output) → State → Prop)
    (preserved : ∀ past state input, relates past state →
      relates (past ++ [(input, machine.reply state input)]) (machine.next state input))
    (inputs : List Input) (state : State) (initially : relates [] state) :
    relates (machine.trace state inputs) (machine.run state inputs) := by
  exact machine.history_along relates
    (fun past state input holds _ => preserved past state input holds)
    inputs [] state (machine.along_of_forall (fun _ _ => trivial) inputs state) initially

/-! ## Refinement by a view -/

/-- While the invariant holds, the abstract machine makes the same replies in the
states that the view shows of the concrete one. -/
structure Refinement {Abstract : Type z} (concrete : Machine State Input Output)
    (abstract : Machine Abstract Input Output) where
  view : State → Abstract
  invariant : State → Prop
  preserved : ∀ state input, invariant state → invariant (concrete.next state input)
  view_next : ∀ state input, invariant state →
    view (concrete.next state input) = abstract.next (view state) input
  reply_eq : ∀ state input, invariant state →
    concrete.reply state input = abstract.reply (view state) input

namespace Refinement

variable {Abstract : Type z} {concrete : Machine State Input Output}
  {abstract : Machine Abstract Input Output} (refinement : concrete.Refinement abstract)

theorem invariant_run (inputs : List Input) (state : State)
    (holds : refinement.invariant state) : refinement.invariant (concrete.run state inputs) :=
  concrete.run_invariant refinement.invariant refinement.preserved inputs state holds

theorem view_run (inputs : List Input) (state : State) (holds : refinement.invariant state) :
    refinement.view (concrete.run state inputs) =
      abstract.run (refinement.view state) inputs := by
  induction inputs generalizing state with
  | nil => rfl
  | cons input inputs induction =>
      have later := induction _ (refinement.preserved state input holds)
      simpa [refinement.view_next state input holds] using later

/-- Both machines make the same replies along a run. -/
theorem trace_eq (inputs : List Input) (state : State) (holds : refinement.invariant state) :
    concrete.trace state inputs = abstract.trace (refinement.view state) inputs := by
  induction inputs generalizing state with
  | nil => rfl
  | cons input inputs induction =>
      have later := induction _ (refinement.preserved state input holds)
      rw [refinement.view_next state input holds] at later
      simp [later, refinement.reply_eq state input holds]

theorem throughout_iff {property : State → Prop} {viewed : Abstract → Prop}
    (agree : ∀ state, refinement.invariant state →
      (property state ↔ viewed (refinement.view state)))
    (inputs : List Input) (state : State) (holds : refinement.invariant state) :
    concrete.Throughout property state inputs ↔
      abstract.Throughout viewed (refinement.view state) inputs := by
  induction inputs generalizing state with
  | nil => exact agree state holds
  | cons input inputs induction =>
      have later := induction _ (refinement.preserved state input holds)
      rw [refinement.view_next state input holds] at later
      exact and_congr (agree state holds) later

theorem along_iff {guard : State → Input → Prop} {viewed : Abstract → Input → Prop}
    (agree : ∀ state input, refinement.invariant state →
      (guard state input ↔ viewed (refinement.view state) input))
    (inputs : List Input) (state : State) (holds : refinement.invariant state) :
    concrete.Along guard state inputs ↔
      abstract.Along viewed (refinement.view state) inputs := by
  induction inputs generalizing state with
  | nil => exact Iff.rfl
  | cons input inputs induction =>
      have later := induction _ (refinement.preserved state input holds)
      rw [refinement.view_next state input holds] at later
      exact and_congr (agree state input holds) later

end Refinement

end Machine

/-! ## Histories -/

/-- The latest observation among the events of a history, oldest first. -/
def latest (observe : Event → Option Value) (past : List Event) : Option Value :=
  (past.filterMap observe).getLast?

@[simp] theorem latest_nil (observe : Event → Option Value) : latest observe [] = none := rfl

@[simp] theorem latest_append (observe : Event → Option Value) (past : List Event)
    (event : Event) :
    latest observe (past ++ [event]) = (observe event).or (latest observe past) := by
  cases observed : observe event <;> simp [latest, observed]

theorem latest_congr {first second : Event → Option Value} {past : List Event}
    (agree : ∀ event ∈ past, first event = second event) :
    latest first past = latest second past := by
  rw [latest, latest, List.filterMap_congr agree]

/-- Two histories of one event with the same observations. -/
theorem eq_of_filterMap_singleton {Item Other Value : Type} {observe : Item → Option Value}
    {select : Other → Option Value} {item : Item} {other : Other}
    (same : [item].filterMap observe = [other].filterMap select) : observe item = select other := by
  cases seen : observe item <;> cases selected : select other <;> simp_all

/-- How many events `count` since the last one that is a `mark`. -/
def countSince (mark count : Event → Bool) (past : List Event) : Nat :=
  (past.rtakeWhile fun event => !mark event).countP count

theorem countSince_append (mark count : Event → Bool) (past : List Event) (event : Event) :
    countSince mark count (past ++ [event]) =
      if mark event then 0 else countSince mark count past + if count event then 1 else 0 := by
  cases marks : mark event with
  | true => simp [countSince, marks]
  | false => simp [countSince, marks, List.countP_append, List.countP_singleton]

end Lorawan

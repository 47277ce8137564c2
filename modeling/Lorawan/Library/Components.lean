import Lorawan.Library.Execution

/-! # Machines that are made of others

A machine may hold another one and drive it: every step of the whole asks some calls of the
part, one after the other. In every run of the whole the part then makes a run of its own. -/

namespace Lorawan.Machine

variable {State : Type u} {Input : Type v} {Output : Type w}
  {PartState : Type u'} {Call : Type v'} {Reply : Type w'}

/-- The part goes from one state to the other by just these calls and replies. -/
def Performs (part : Machine PartState Call Reply) (before : PartState)
    (events : List (Call × Reply)) (after : PartState) : Prop :=
  part.trace before (events.map Prod.fst) = events ∧
    part.run before (events.map Prod.fst) = after

namespace Performs

variable {part : Machine PartState Call Reply} {before after : PartState}

theorem nil (same : before = after) : part.Performs before [] after := ⟨rfl, same⟩

theorem one {call : Call} {reply : Reply} (step : part.step before call = (after, reply)) :
    part.Performs before [(call, reply)] after := by
  simp [Performs, trace, run, next, Machine.reply, step]

end Performs

theorem map_fst_trace (machine : Machine State Input Output) (state : State)
    (inputs : List Input) : (machine.trace state inputs).map Prod.fst = inputs := by
  induction inputs generalizing state with
  | nil => rfl
  | cons input inputs induction => rw [trace_cons, List.map_cons, induction]

structure Component (whole : Machine State Input Output)
    (part : Machine PartState Call Reply) where
  view : State → PartState
  /-- What a step of the whole asks of the part. -/
  calls : State → Input → List Call
  view_next : ∀ state input,
    view (whole.next state input) = part.run (view state) (calls state input)

namespace Component

variable {whole : Machine State Input Output} {part : Machine PartState Call Reply}
  (component : whole.Component part)

/-- All that a run of the whole asks of the part. -/
def callsAlong : State → List Input → List Call
  | _, [] => []
  | state, input :: inputs =>
      component.calls state input ++ callsAlong (whole.next state input) inputs

theorem view_run (inputs : List Input) (state : State) :
    component.view (whole.run state inputs) =
      part.run (component.view state) (component.callsAlong state inputs) := by
  induction inputs generalizing state with
  | nil => rfl
  | cons input inputs induction =>
      rw [run_cons, induction, component.view_next, callsAlong, run_append]

/-- What is done to the part, read off what the whole is asked and answers. -/
def Observes (observed : Input × Output → List (Call × Reply)) : Prop :=
  ∀ state input,
    part.trace (component.view state) (component.calls state input) =
      observed (input, whole.reply state input)

theorem trace_append (part : Machine PartState Call Reply) (state : PartState)
    (first second : List Call) :
    part.trace state (first ++ second) =
      part.trace state first ++ part.trace (part.run state first) second := by
  induction first generalizing state with
  | nil => rfl
  | cons call calls induction =>
      rw [List.cons_append, trace_cons, induction, trace_cons, run_cons, List.cons_append]

/-- The history of the part is contained in the history of the whole. -/
theorem trace_eq {observed : Input × Output → List (Call × Reply)}
    (observes : component.Observes observed) (inputs : List Input) (state : State) :
    part.trace (component.view state) (component.callsAlong state inputs) =
      (whole.trace state inputs).flatMap observed := by
  induction inputs generalizing state with
  | nil => rfl
  | cons input inputs induction =>
      have later := induction (whole.next state input)
      rw [component.view_next] at later
      rw [callsAlong, trace_append, later, observes, trace_cons, List.flatMap_cons]

/-- The part's share of the history takes it from its first state to its last one. -/
theorem performs_run {observed : Input × Output → List (Call × Reply)}
    (observes : component.Observes observed) (inputs : List Input) (state : State) :
    part.Performs (component.view state) ((whole.trace state inputs).flatMap observed)
      (component.view (whole.run state inputs)) := by
  have history := component.trace_eq observes inputs state
  have asked : component.callsAlong state inputs =
      ((whole.trace state inputs).flatMap observed).map Prod.fst := by
    rw [← history, map_fst_trace]
  constructor
  · rw [← asked, history]
  · rw [← asked, ← component.view_run]

end Component

/-- The component whose calls can be read off the history of the whole. -/
def Component.ofEvents {whole : Machine State Input Output} {part : Machine PartState Call Reply}
    (view : State → PartState) (observed : Input × Output → List (Call × Reply))
    (performs : ∀ state input, part.Performs (view state)
      (observed (input, whole.reply state input)) (view (whole.next state input))) :
    whole.Component part where
  view := view
  calls state input := (observed (input, whole.reply state input)).map Prod.fst
  view_next := fun state input => (performs state input).2.symm

end Lorawan.Machine

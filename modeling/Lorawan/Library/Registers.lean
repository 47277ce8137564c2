import Lorawan.Library.Execution

/-! # What is written and kept

A part of the state may hold what some steps write to it and keep it in all others. It is
then what the history says was written last. -/

namespace Lorawan

section Latest

variable {Event : Type u} {Value : Type v} {Other : Type w}

@[simp] theorem latest_none (past : List Event) :
    latest (fun _ => (none : Option Value)) past = none := by
  simp [latest]

theorem latest_map (observe : Event → Option Value) (convert : Value → Other)
    (past : List Event) :
    latest (fun event => (observe event).map convert) past =
      (latest observe past).map convert := by
  rw [latest, latest, ← List.map_filterMap, List.getLast?_map]

/-- The observation of a later part of the history is the latest one, if there is one. -/
theorem latest_of_append (observe : Event → Option Value) (past later : List Event) :
    latest observe (past ++ later) = (latest observe later).or (latest observe past) := by
  rw [latest, latest, latest, List.filterMap_append, List.getLast?_append]

theorem latest_eq_none {observe : Event → Option Value} {past : List Event}
    (silent : ∀ event ∈ past, observe event = none) : latest observe past = none := by
  rw [latest, List.filterMap_eq_nil_iff.mpr silent, List.getLast?_nil]

/-- Where only one value is ever observed. -/
theorem latest_eq_of_only {observe : Event → Option Value} {past : List Event} {value : Value}
    (only : ∀ event ∈ past, ∀ other, observe event = some other → other = value)
    (observed : ∃ event ∈ past, observe event = some value) :
    latest observe past = some value := by
  rcases observed with ⟨event, member, found⟩
  have nonempty : past.filterMap observe ≠ [] :=
    List.ne_nil_of_mem (List.mem_filterMap.mpr ⟨event, member, found⟩)
  rw [latest, List.getLast?_eq_getLast_of_ne_nil nonempty]
  rcases List.mem_filterMap.mp (List.getLast_mem nonempty) with ⟨last, lastMem, lastFound⟩
  rw [only last lastMem _ lastFound]

/-- Each event of a history stands for a list of others, with the same latest observation. -/
theorem latest_flatMap {Part : Type z} {observe : Event → Option Value}
    {observePart : Part → Option Value} {parts : Event → List Part}
    (agree : ∀ event, latest observePart (parts event) = observe event) (past : List Event) :
    latest observePart (past.flatMap parts) = latest observe past := by
  induction past using List.reverseRecOn with
  | nil => rfl
  | append_singleton past event induction =>
      rw [List.flatMap_append, latest_of_append, List.flatMap_singleton, latest_append, agree,
        induction]

end Latest

namespace Machine

variable {State : Type u} {Input : Type v} {Output : Type w}

/-- What stands in a history is what the machine answered in some state. -/
theorem reply_of_mem_trace {machine : Machine State Input Output} {inputs : List Input}
    {state : State} {answered : Input × Output} (member : answered ∈ machine.trace state inputs) :
    ∃ now, answered.2 = machine.reply now answered.1 := by
  induction inputs generalizing state with
  | nil => cases member
  | cons input inputs induction =>
      rw [trace_cons] at member
      rcases List.mem_cons.mp member with rfl | later
      · exact ⟨state, rfl⟩
      · exact induction later

/-- While the invariant holds, each step writes `value` or keeps it, and the step's input and
output tell which. -/
structure Register (machine : Machine State Input Output) (Value : Type z) where
  value : State → Value
  written : Input × Output → Option Value
  invariant : State → Prop
  preserved : ∀ state input, invariant state → invariant (machine.next state input)
  value_next : ∀ state input, invariant state →
    value (machine.next state input) =
      (written (input, machine.reply state input)).getD (value state)

namespace Register

variable {machine : Machine State Input Output} {Value : Type z}
  (register : machine.Register Value)

theorem value_run (inputs : List Input) (state : State) (holds : register.invariant state) :
    register.value (machine.run state inputs) =
      (latest register.written (machine.trace state inputs)).getD (register.value state) := by
  have kept := machine.history
    (fun past now => register.invariant now ∧
      register.value now = (latest register.written past).getD (register.value state))
    (fun past now input kept => by
      refine ⟨register.preserved now input kept.1, ?_⟩
      rw [register.value_next now input kept.1, kept.2, latest_append]
      cases register.written (input, machine.reply now input) <;> rfl)
    inputs state ⟨holds, rfl⟩
  exact kept.2

end Register

end Machine

end Lorawan

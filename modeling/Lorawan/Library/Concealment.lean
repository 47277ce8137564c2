import Lorawan.Library.Execution

/-! # Inputs that leave no trace

Some inputs may write only to a part of the state that the other inputs never read. Taking
them out of a run then changes no answer to the others. -/

namespace Lorawan.Machine

variable {State : Type u} {Input : Type v} {Output : Type w}

/-- The hidden inputs write only what `forget` clears, and the other inputs do the same with
the rest of the state whether it has been cleared or not. -/
structure Concealment (machine : Machine State Input Output) where
  hidden : Input → Bool
  forget : State → State
  invariant : State → Prop
  preserved : ∀ state input, invariant state → invariant (machine.next state input)
  forget_hidden : ∀ state input, invariant state → hidden input = true →
    forget (machine.next state input) = forget state
  forget_visible : ∀ state input, invariant state → hidden input = false →
    forget (machine.next state input) = machine.next (forget state) input
  reply_forget : ∀ state input, invariant state → hidden input = false →
    machine.reply state input = machine.reply (forget state) input

namespace Concealment

variable {machine : Machine State Input Output} (concealment : machine.Concealment)

def visible (input : Input) : Bool := !concealment.hidden input

/-- What the visible inputs are answered is what they are answered alone. -/
theorem trace_filter (inputs : List Input) (state : State)
    (holds : concealment.invariant state) :
    (machine.trace state inputs).filter (fun event => concealment.visible event.1) =
      machine.trace (concealment.forget state) (inputs.filter concealment.visible) := by
  induction inputs generalizing state with
  | nil => rfl
  | cons input inputs induction =>
      have later := induction _ (concealment.preserved state input holds)
      rw [trace_cons]
      cases isHidden : concealment.hidden input with
      | true =>
          rw [concealment.forget_hidden state input holds isHidden] at later
          rw [List.filter_cons_of_neg (by simp [visible, isHidden]),
            List.filter_cons_of_neg (by simp [visible, isHidden]), later]
      | false =>
          rw [concealment.forget_visible state input holds isHidden] at later
          rw [List.filter_cons_of_pos (by simp [visible, isHidden]),
            List.filter_cons_of_pos (by simp [visible, isHidden]), later, trace_cons,
            concealment.reply_forget state input holds isHidden]

end Concealment

end Lorawan.Machine

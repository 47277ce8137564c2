import Lorawan.Library.Execution
import Mathlib.Logic.Function.Basic
import Mathlib.Logic.Relation
import Mathlib.Data.List.FinRange
import Mathlib.Data.List.Perm.Basic

/-! # Tasks that share memory

Each task has a state of its own, and makes one access to the shared memory when it is its
turn. The turns come in any order. -/

namespace Lorawan

structure Tasks (TaskId : Type u) (Shared : Type v) (Own : Type w) where
  shared : Shared
  own : TaskId → Own

namespace Tasks

variable {TaskId : Type u} {Shared : Type v} {Own : Type w} [DecidableEq TaskId]

/-- The input is the task whose turn it is. -/
def interleaving (access : Shared → Own → Shared × Own) :
    Machine (Tasks TaskId Shared Own) TaskId Unit where
  step state task :=
    ({ shared := (access state.shared (state.own task)).1
       own := Function.update state.own task (access state.shared (state.own task)).2 }, ())

variable (access : Shared → Own → Shared × Own)

theorem next_eq (state : Tasks TaskId Shared Own) (task : TaskId) :
    (interleaving access).next state task =
      { shared := (access state.shared (state.own task)).1
        own := Function.update state.own task (access state.shared (state.own task)).2 } := rfl

/-- A task whose every turn leaves it less to do is done when it has had enough of them,
whatever the other tasks do in between. -/
theorem done_of_turns (invariant : Tasks TaskId Shared Own → Prop) (left : Own → Nat)
    (preserved : ∀ state task, invariant state →
      invariant ((interleaving access).next state task))
    (drops : ∀ state task, invariant state →
      left (access state.shared (state.own task)).2 ≤ left (state.own task) - 1)
    (turns : List TaskId) (state : Tasks TaskId Shared Own) (holds : invariant state)
    (task : TaskId) (enough : left (state.own task) ≤ turns.count task) :
    left (((interleaving access).run state turns).own task) = 0 := by
  induction turns generalizing state with
  | nil => exact Nat.le_zero.mp enough
  | cons turn turns induction =>
      rw [Machine.run_cons]
      apply induction _ (preserved state turn holds)
      rw [next_eq]
      dsimp only
      by_cases own : turn = task
      · subst own
        have less := drops state turn holds
        rw [Function.update_self]
        rw [List.count_cons_self] at enough
        omega
      · rw [Function.update_of_ne (Ne.symm own)]
        rwa [List.count_cons_of_ne own] at enough

/-! ## A task that is not disturbed -/

/-- One access of a task that has the memory to itself. -/
def Alone (access : Shared → Own → Shared × Own) (before after : Shared × Own) : Prop :=
  after = access before.1 before.2

/-- A task gets by turns without interruption where it gets alone. -/
theorem run_alone (state : Tasks TaskId Shared Own) (task : TaskId) {after : Shared × Own}
    (steps : Relation.ReflTransGen (Alone access) (state.shared, state.own task) after) :
    ∃ turns, (interleaving access).run state (List.replicate turns task) =
      { shared := after.1, own := Function.update state.own task after.2 } := by
  induction steps with
  | refl => exact ⟨0, by simp⟩
  | @tail before after _ step induction =>
      rcases induction with ⟨turns, ran⟩
      refine ⟨turns + 1, ?_⟩
      rw [List.replicate_succ', Machine.run_append, ran, Machine.run_cons, Machine.run_nil,
        next_eq, step]
      simp

end Tasks

/-! ## What the tasks have together -/

section Gathered

open scoped List

variable {count : Nat} {Item : Type x}

theorem mem_gathered {items : Fin count → List Item} {task : Fin count} {item : Item}
    (member : item ∈ items task) : item ∈ (List.finRange count).flatMap items :=
  List.mem_flatMap.mpr ⟨task, List.mem_finRange task, member⟩

/-- What one task has, before what the others have. -/
theorem gathered_perm (items : Fin count → List Item) (task : Fin count) :
    (List.finRange count).flatMap items ~
      items task ++ ((List.finRange count).erase task).flatMap items :=
  (List.perm_cons_erase (List.mem_finRange task)).flatMap_right items

/-- A task that keeps what it has. -/
theorem gathered_update {Own : Type w} (items : Own → List Item) (own : Fin count → Own)
    (task : Fin count) (next : Own) (same : items next = items (own task)) :
    ((List.finRange count).flatMap fun other => items (Function.update own task next other)) =
      (List.finRange count).flatMap fun other => items (own other) := by
  apply List.flatMap_congr
  intro other _
  by_cases isTask : other = task
  · subst isTask
    rw [Function.update_self, same]
  · rw [Function.update_of_ne isTask]

/-- What one task gains is gained. -/
theorem gathered_update_perm {Own : Type w} (items : Own → List Item) (own : Fin count → Own)
    (task : Fin count) (next : Own) {gained : List Item}
    (gains : items next ~ gained ++ items (own task)) :
    ((List.finRange count).flatMap fun other => items (Function.update own task next other)) ~
      gained ++ (List.finRange count).flatMap fun other => items (own other) := by
  have others : ((List.finRange count).erase task).flatMap
      (fun other => items (Function.update own task next other)) =
      ((List.finRange count).erase task).flatMap fun other => items (own other) := by
    apply List.flatMap_congr
    intro other member
    have different : other ≠ task := by
      rintro rfl
      exact (List.nodup_finRange count).not_mem_erase member
    rw [Function.update_of_ne different]
  calc
    _ ~ items (Function.update own task next task) ++ _ := gathered_perm _ task
    _ = items next ++ ((List.finRange count).erase task).flatMap
          (fun other => items (own other)) := by rw [others, Function.update_self]
    _ ~ (gained ++ items (own task)) ++ _ := gains.append_right _
    _ = gained ++ (items (own task) ++ _) := List.append_assoc ..
    _ ~ gained ++ _ :=
        ((gathered_perm (fun other => items (own other)) task).symm).append_left gained

end Gathered

end Lorawan

import Lorawan.Sockets.Creation
import Lorawan.Sockets.Table
import Mathlib.Data.List.Perm.Subperm

/-! # Which sockets are linked

Tasks that create sockets at once keep the list sound, but an insertion that is interrupted by
another one takes sockets out of it. -/

namespace Lorawan.Sockets

open LinkedList
open scoped List

def SocketPoint.block : SocketPoint → Option Nat
  | .malloc => none
  | .readSock block => some block
  | .readCpt el => some el.block
  | .writeCpt el _ => some el.block
  | .readFirst el => some el.block
  | .writeFirst el _ => some el.block

variable {count : Nat}

/-- The blocks of the sockets that were there at the start or have been created since. -/
def published (opened : List Nat) (own : Fin count → SocketTask) : List Nat :=
  ((List.finRange count).flatMap fun task => (own task).created.map SockEl.block) ++ opened

/-- The list from `SLIST_FIRST` on. -/
abbrev SocketMemory.Lists (memory : SocketMemory) (first : Option Nat) (blocks : List Nat) :
    Prop :=
  Chain memory.records LinkedEl.scNext first blocks

/-- No published record is linked or about to be linked a second time, and what a task has read
as the rest of its list is a list of published records: all that are linked now, or not all
there are. -/
structure Linked (opened : List Nat)
    (state : Tasks (Fin count) SocketMemory SocketTask) : Prop where
  nodup : (published opened state.own).Nodup
  allocated : ∀ block ∈ published opened state.own, block < state.shared.blocks
  pending : ∀ task block, (state.own task).point.block = some block →
    block < state.shared.blocks ∧ block ∉ published opened state.own
  apart : ∀ first second block, (state.own first).point.block = some block →
    (state.own second).point.block = some block → first = second
  sound : ∃ blocks, state.shared.Lists state.shared.first blocks ∧
    blocks ⊆ published opened state.own
  read : ∀ task el scNext, (state.own task).point = .writeFirst el scNext →
    ∃ blocks, state.shared.Lists scNext blocks ∧ blocks ⊆ published opened state.own ∧
      (scNext = state.shared.first ∨ blocks.length < (published opened state.own).length)

/-- Every published socket is in the list. -/
def Complete (opened : List Nat) (state : Tasks (Fin count) SocketMemory SocketTask) : Prop :=
  ∃ blocks, state.shared.Lists state.shared.first blocks ∧ published opened state.own ⊆ blocks

/-- A task that is about to link its record finds the first record that it has read. -/
def FindsFirst (state : Tasks (Fin count) SocketMemory SocketTask) (task : Fin count) : Prop :=
  ∀ el scNext, (state.own task).point = .writeFirst el scNext → state.shared.first = scNext

/-! ## One turn -/

section Update

variable (opened : List Nat) (own : Fin count → SocketTask) {task : Fin count} {next : SocketTask}

theorem published_update (same : next.created = (own task).created) :
    published opened (Function.update own task next) = published opened own := by
  have sameBlocks : next.created.map SockEl.block = (own task).created.map SockEl.block := by
    rw [same]
  exact congrArg (· ++ opened)
    (gathered_update (fun task => task.created.map SockEl.block) own task next sameBlocks)

theorem published_update_perm {el : SockEl} (creates : next.created = (own task).created ++ [el]) :
    published opened (Function.update own task next) ~ el.block :: published opened own := by
  have gains : next.created.map SockEl.block ~
      [el.block] ++ (own task).created.map SockEl.block := by
    rw [creates, List.map_append]
    exact List.perm_append_comm
  exact (gathered_update_perm (fun task => task.created.map SockEl.block) own task next
    gains).append_right opened

end Update

theorem published_initial (opened : List Nat) (start : State) (programs : Fin count → List Bool) :
    published opened (creatingFrom start programs).own = opened := by
  simp [published, creatingFrom]

namespace Linked

variable {opened : List Nat} {state : Tasks (Fin count) SocketMemory SocketTask}

/-- A list of published records has all of them if it has as many. -/
theorem subset_iff (linked : Linked opened state) {first : Option Nat} {blocks : List Nat}
    (lists : state.shared.Lists first blocks) (sub : blocks ⊆ published opened state.own) :
    published opened state.own ⊆ blocks ↔
      blocks.length = (published opened state.own).length := by
  have within : blocks <+~ published opened state.own := (Chain.nodup lists).subperm sub
  constructor
  · intro all
    exact Nat.le_antisymm within.length_le (linked.nodup.subperm all).length_le
  · intro same
    exact (within.perm_of_length_le (Nat.le_of_eq same.symm)).symm.subset

theorem complete_iff (linked : Linked opened state) {blocks : List Nat}
    (lists : state.shared.Lists state.shared.first blocks)
    (sub : blocks ⊆ published opened state.own) :
    Complete opened state ↔ blocks.length = (published opened state.own).length := by
  rw [← linked.subset_iff lists sub]
  constructor
  · rintro ⟨others, otherLists, all⟩
    rwa [Chain.unique lists otherLists]
  · intro all
    exact ⟨blocks, lists, all⟩

/-- A turn that links nothing. -/
theorem quiet (linked : Linked opened state) {task : Fin count} {sockCpt : LorawanSock}
    {blocks : Nat} {next : SocketTask} (more : state.shared.blocks ≤ blocks)
    (same : next.created = (state.own task).created)
    (block : ∀ block, next.point.block = some block →
      (state.own task).point.block = some block ∨
        block = state.shared.blocks ∧ block < blocks)
    (read : ∀ el scNext, next.point = .writeFirst el scNext → scNext = state.shared.first) :
    Linked opened
      { shared := { state.shared with sockCpt, blocks }
        own := Function.update state.own task next } := by
  have kept := published_update opened state.own same
  have owns : ∀ other block, (Function.update state.own task next other).point.block = some block →
      (state.own other).point.block = some block ∨
        other = task ∧ block = state.shared.blocks ∧ block < blocks := by
    intro other held holds
    by_cases isTask : other = task
    · subst isTask
      rw [Function.update_self] at holds
      exact (block held holds).imp_right fun fresh => ⟨rfl, fresh⟩
    · rw [Function.update_of_ne isTask] at holds
      exact .inl holds
  constructor
  case nodup => rw [kept]; exact linked.nodup
  case allocated =>
    rw [kept]
    exact fun block member => Nat.lt_of_lt_of_le (linked.allocated block member) more
  case pending =>
    intro other held holds
    rw [kept]
    rcases owns other held holds with before | ⟨_, fresh, inside⟩
    · rcases linked.pending other held before with ⟨inside, unpublished⟩
      exact ⟨Nat.lt_of_lt_of_le inside more, unpublished⟩
    · refine ⟨inside, fun member => ?_⟩
      exact Nat.lt_irrefl _ (fresh ▸ linked.allocated held member)
  case apart =>
    intro first second held holdsFirst holdsSecond
    rcases owns first held holdsFirst with before | ⟨isFirst, fresh, _⟩
    · rcases owns second held holdsSecond with beforeSecond | ⟨_, fresh, _⟩
      · exact linked.apart first second held before beforeSecond
      · exact absurd (fresh ▸ (linked.pending first held before).1) (Nat.lt_irrefl _)
    · rcases owns second held holdsSecond with beforeSecond | ⟨isSecond, _, _⟩
      · exact absurd (fresh ▸ (linked.pending second held beforeSecond).1) (Nat.lt_irrefl _)
      · exact isFirst.trans isSecond.symm
  case sound =>
    rw [kept]
    exact linked.sound
  case read =>
    intro other el scNext reading
    dsimp only at reading ⊢
    rw [kept]
    by_cases isTask : other = task
    · subst isTask
      rw [Function.update_self] at reading
      rcases linked.sound with ⟨blocks, lists, sub⟩
      rw [read el scNext reading]
      exact ⟨blocks, lists, sub, .inl rfl⟩
    · rw [Function.update_of_ne isTask] at reading
      exact linked.read other el scNext reading

theorem complete_quiet {task : Fin count} {sockCpt : LorawanSock} {blocks : Nat}
    {next : SocketTask} (unlinking : ∀ el scNext, (state.own task).point ≠ .writeFirst el scNext)
    (same : next.created = (state.own task).created) :
    Complete opened
        { shared := { state.shared with sockCpt, blocks }
          own := Function.update state.own task next } ↔
      Complete opened state ∧ FindsFirst state task := by
  have finds : FindsFirst state task := fun el scNext point => absurd point (unlinking el scNext)
  unfold Complete
  rw [published_update opened state.own same]
  exact (and_iff_left finds).symm

/-- The new record in front of the list that its task has read. -/
theorem push (linked : Linked opened state) {task : Fin count} {el : SockEl}
    {scNext : Option Nat} (point : (state.own task).point = .writeFirst el scNext)
    {next : SocketTask} (creates : next.created = (state.own task).created ++ [el])
    {blocks : List Nat} (lists : state.shared.Lists scNext blocks)
    (sub : blocks ⊆ published opened state.own) :
    Chain (Function.update state.shared.records el.block (some { el, scNext })) LinkedEl.scNext
        (some el.block) (el.block :: blocks) ∧
      el.block :: blocks ⊆ published opened (Function.update state.own task next) := by
  have holds : (state.own task).point.block = some el.block := by rw [point]; rfl
  have unpublished := (linked.pending task el.block holds).2
  constructor
  · exact Chain.push lists fun member => unpublished (sub member)
  · intro block member
    apply (published_update_perm opened state.own creates).mem_iff.mpr
    exact List.mem_cons.mpr ((List.mem_cons.mp member).imp_right fun rest => sub rest)

/-- A turn that links a record. -/
theorem publish (linked : Linked opened state) {task : Fin count} {el : SockEl}
    {scNext : Option Nat} (point : (state.own task).point = .writeFirst el scNext)
    {next : SocketTask} (idle : next.point = .malloc)
    (creates : next.created = (state.own task).created ++ [el]) :
    Linked opened
      { shared :=
          { state.shared with
            first := some el.block
            records := Function.update state.shared.records el.block (some { el, scNext }) }
        own := Function.update state.own task next } := by
  have grown := published_update_perm opened state.own creates
  have holds : (state.own task).point.block = some el.block := by rw [point]; rfl
  rcases linked.pending task el.block holds with ⟨inside, unpublished⟩
  have owns : ∀ other block,
      (Function.update state.own task next other).point.block = some block →
        other ≠ task ∧ (state.own other).point.block = some block := by
    intro other block held
    by_cases isTask : other = task
    · subst isTask
      rw [Function.update_self, idle] at held
      cases held
    · rw [Function.update_of_ne isTask] at held
      exact ⟨isTask, held⟩
  constructor
  case nodup => exact grown.nodup_iff.mpr (List.nodup_cons.mpr ⟨unpublished, linked.nodup⟩)
  case allocated =>
    intro block member
    rcases List.mem_cons.mp (grown.mem_iff.mp member) with rfl | before
    · exact inside
    · exact linked.allocated block before
  case pending =>
    intro other block held
    rcases owns other block held with ⟨different, before⟩
    rcases linked.pending other block before with ⟨otherInside, otherUnpublished⟩
    refine ⟨otherInside, fun member => ?_⟩
    rcases List.mem_cons.mp (grown.mem_iff.mp member) with rfl | published
    · exact different (linked.apart other task _ before holds)
    · exact otherUnpublished published
  case apart =>
    intro first second block heldFirst heldSecond
    exact linked.apart first second block (owns first block heldFirst).2
      (owns second block heldSecond).2
  case sound =>
    rcases linked.read task el scNext point with ⟨blocks, lists, sub, _⟩
    exact ⟨el.block :: blocks, linked.push point creates lists sub⟩
  case read =>
    intro other otherEl otherNext reading
    dsimp only at reading ⊢
    have different : other ≠ task := by
      rintro rfl
      rw [Function.update_self, idle] at reading
      cases reading
    rw [Function.update_of_ne different] at reading
    rcases linked.read other otherEl otherNext reading with ⟨blocks, lists, sub, few⟩
    -- The lists that others have read do not have the new record.
    have framed := Chain.update_of_notMem lists (fun member => unpublished (sub member))
      { el, scNext }
    refine ⟨blocks, framed, ?_, .inr ?_⟩
    · exact fun block member => grown.mem_iff.mpr (List.mem_cons_of_mem _ (sub member))
    · rw [grown.length_eq, List.length_cons]
      exact Nat.lt_succ_of_le ((Chain.nodup lists).subperm sub).length_le

/-- Linking a record keeps the list complete exactly when the first record is the one that was
read. -/
theorem complete_publish (linked : Linked opened state) {task : Fin count} {el : SockEl}
    {scNext : Option Nat} (point : (state.own task).point = .writeFirst el scNext)
    {next : SocketTask} (idle : next.point = .malloc)
    (creates : next.created = (state.own task).created ++ [el]) :
    Complete opened
        { shared :=
            { state.shared with
              first := some el.block
              records := Function.update state.shared.records el.block (some { el, scNext }) }
          own := Function.update state.own task next } ↔
      Complete opened state ∧ state.shared.first = scNext := by
  have grown := published_update_perm opened state.own creates
  rcases linked.read task el scNext point with ⟨blocks, lists, sub, few⟩
  rcases linked.sound with ⟨all, allLists, allSub⟩
  rcases linked.push point creates lists sub with ⟨pushed, pushedSub⟩
  rw [(linked.publish point idle creates).complete_iff pushed pushedSub,
    linked.complete_iff allLists allSub, grown.length_eq, List.length_cons, List.length_cons,
    Nat.add_right_cancel_iff]
  constructor
  · intro full
    rcases few with same | short
    · subst same
      rw [Chain.unique allLists lists]
      exact ⟨full, rfl⟩
    · exact absurd full (Nat.ne_of_lt short)
  · rintro ⟨full, rfl⟩
    rw [Chain.unique lists allLists]
    exact full

/-- Whichever task has its turn. -/
theorem next (linked : Linked opened state) (task : Fin count) :
    Linked opened ((preemptedSockets (Fin count)).next state task) ∧
      (Complete opened ((preemptedSockets (Fin count)).next state task) ↔
        Complete opened state ∧ FindsFirst state task) := by
  rw [preemptedSockets, Tasks.next_eq]
  cases point : (state.own task).point with
  | malloc =>
      have unlinking : ∀ el scNext, (state.own task).point ≠ .writeFirst el scNext := by
        simp [point]
      cases requests : (state.own task).requests with
      | nil =>
          simp only [socketAccess, point, requests]
          constructor
          · exact linked.quiet (Nat.le_refl _) rfl (by simp [point, SocketPoint.block])
              (by simp [point])
          · exact complete_quiet unlinking rfl
      | cons allocated rest =>
          cases allocated with
          | false =>
              simp only [socketAccess, point, requests]
              constructor
              · exact linked.quiet (Nat.le_refl _) rfl (by simp [SocketPoint.block]) (by simp)
              · exact complete_quiet unlinking rfl
          | true =>
              simp only [socketAccess, point, requests]
              constructor
              · exact linked.quiet (Nat.le_succ _) rfl (by simp [SocketPoint.block]) (by simp)
              · exact complete_quiet unlinking rfl
  | readSock block =>
      simp only [socketAccess, point]
      constructor
      · exact linked.quiet (Nat.le_refl _) rfl (by simp [point, SocketPoint.block, newSock])
          (by simp)
      · exact complete_quiet (by simp [point]) rfl
  | readCpt el =>
      simp only [socketAccess, point]
      constructor
      · exact linked.quiet (Nat.le_refl _) rfl (by simp [point, SocketPoint.block]) (by simp)
      · exact complete_quiet (by simp [point]) rfl
  | writeCpt el sockCpt =>
      simp only [socketAccess, point]
      constructor
      · exact linked.quiet (Nat.le_refl _) rfl (by simp [point, SocketPoint.block]) (by simp)
      · exact complete_quiet (by simp [point]) rfl
  | readFirst el =>
      simp only [socketAccess, point]
      constructor
      · exact linked.quiet (Nat.le_refl _) rfl (by simp [point, SocketPoint.block]) (by simp)
      · exact complete_quiet (by simp [point]) rfl
  | writeFirst el scNext =>
      have finds : FindsFirst state task ↔ state.shared.first = scNext := by
        constructor
        · intro finds
          exact finds el scNext point
        · rintro same other otherNext otherPoint
          cases point.symm.trans otherPoint
          exact same
      simp only [socketAccess, point, finds]
      constructor
      · exact linked.publish point rfl rfl
      · exact linked.complete_publish point rfl rfl

theorem initial {start : State} (wellFormed : start.WellFormed) (programs : Fin count → List Bool) :
    Linked (start.lSockList.map SockEl.block) (creatingFrom start programs) := by
  have nothing := published_initial (start.lSockList.map SockEl.block) start programs
  constructor
  case nodup => rw [nothing]; exact wellFormed.blocks_nodup
  case allocated =>
    rw [nothing]
    intro block member
    rcases List.mem_map.mp member with ⟨el, elMem, rfl⟩
    exact wellFormed.block_lt el elMem
  case pending =>
    intro task block holds
    cases holds
  case apart =>
    intro first second block holds
    cases holds
  case sound =>
    rw [nothing]
    exact ⟨_, linked_chain wellFormed.blocks_nodup, List.Subset.refl _⟩
  case read =>
    intro task el scNext reading
    cases reading

theorem complete_initial {start : State} (wellFormed : start.WellFormed)
    (programs : Fin count → List Bool) :
    Complete (start.lSockList.map SockEl.block) (creatingFrom start programs) := by
  refine ⟨_, linked_chain wellFormed.blocks_nodup, ?_⟩
  rw [published_initial]
  exact List.Subset.refl _

end Linked

/-- Several tasks create sockets, in any order of their turns. From the first record on there
is always a list of sockets that have been created; it has all of them exactly when no task has
linked its record where another had linked one since it read the first record. -/
theorem preempted_sockets_linked_iff (osTicksPerSec : OsTime) (calls : List Call)
    (programs : Fin count → List Bool) (schedule : List (Fin count)) :
    let start := (sockets osTicksPerSec).run State.initial calls
    let final := (preemptedSockets (Fin count)).run (creatingFrom start programs) schedule
    let created := published (start.lSockList.map SockEl.block) final.own
    ∃ blocks, Chain final.shared.records LinkedEl.scNext final.shared.first blocks ∧
      blocks ⊆ created ∧
      (created ⊆ blocks ↔ (preemptedSockets (Fin count)).Along FindsFirst
        (creatingFrom start programs) schedule) := by
  intro start final created
  have wellFormed : start.WellFormed := State.WellFormed.run osTicksPerSec calls
  have initial := Linked.initial wellFormed programs
  have linked : Linked (start.lSockList.map SockEl.block) final :=
    (preemptedSockets (Fin count)).run_invariant _ (fun _ task linked => (linked.next task).1)
      schedule _ initial
  have complete := (preemptedSockets (Fin count)).run_iff_along
    (Linked (start.lSockList.map SockEl.block)) (fun _ task linked => (linked.next task).1)
    (fun _ task linked => (linked.next task).2) schedule _ initial
  rcases linked.sound with ⟨blocks, lists, sub⟩
  refine ⟨blocks, lists, sub, ?_⟩
  rw [linked.subset_iff lists sub, ← linked.complete_iff lists sub, complete]
  exact and_iff_right (Linked.complete_initial wellFormed programs)

-- Both read an empty list: the first record to be linked is lost.
example :
    let final := (preemptedSockets (Fin 2)).run
      (creatingFrom State.initial fun _ => [true]) [0, 0, 0, 0, 1, 1, 1, 1, 0, 1, 1, 0]
    LinkedList.walk final.shared.records LinkedEl.scNext 2 final.shared.first = some [0] := by
  decide

end Lorawan.Sockets

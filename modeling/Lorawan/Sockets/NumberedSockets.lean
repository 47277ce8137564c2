import Lorawan.Sockets.Creation
import Lorawan.Sockets.Owned
import Mathlib.Algebra.Order.BigOperators.Group.List
import Mathlib.Algebra.Order.Ring.Nat

/-! # Which identifiers are distinct

`lorawan_socket` means to "create a unique sock id". Between tasks that create sockets at once,
the identifiers are distinct exactly when the tasks are never at the counter together. -/

namespace Lorawan.Sockets

open scoped List

/-- The record that is being filled in, once it has its identifier. -/
def SocketPoint.el : SocketPoint → Option SockEl
  | .malloc => none
  | .readSock _ => none
  | .readCpt el => some el
  | .writeCpt el _ => some el
  | .readFirst el => some el
  | .writeFirst el _ => some el

/-- Between the read of the identifier and the write of the counter. -/
def SocketPoint.counting : SocketPoint → Bool
  | .malloc => false
  | .readSock _ => false
  | .readCpt _ => true
  | .writeCpt _ _ => true
  | .readFirst _ => false
  | .writeFirst _ _ => false

/-- The identifiers that the task has taken so far. -/
def SocketTask.socks (task : SocketTask) : List LorawanSock :=
  (task.created ++ task.point.el.toList).map SockEl.sock

/-- The sockets that the task can still create, with those that it has begun. -/
def SocketTask.ahead (task : SocketTask) : Nat :=
  match task.point with
  | .readSock _ => task.requests.count true + 1
  | _ => task.requests.count true

variable {count : Nat}

/-- The identifiers taken by all tasks. -/
def taken (own : Fin count → SocketTask) : List LorawanSock :=
  (List.finRange count).flatMap fun task => (own task).socks

/-- No task takes its identifier while another is at the counter. -/
def AloneAtCounter (state : Tasks (Fin count) SocketMemory SocketTask) (task : Fin count) : Prop :=
  ∀ block, (state.own task).point = .readSock block →
    ∀ other, (state.own other).point.counting = false

/-- The identifier of the socket with this number. -/
def sockOf (number : Nat) : LorawanSock := BitVec.ofNat 32 (number + 1)

theorem sockOf_injective {first second : Nat} (firstFew : first < 2 ^ 32 - 1)
    (secondFew : second < 2 ^ 32 - 1) (same : sockOf first = sockOf second) : first = second := by
  have values := congrArg BitVec.toNat same
  simp only [sockOf, BitVec.toNat_ofNat] at values
  omega

theorem sockOf_succ (number : Nat) : sockOf number + 1#32 = sockOf (number + 1) := by
  simp [sockOf, BitVec.ofNat_add (number + 1) 1]

/-- Each task has taken the next number and moved the counter on before the next one did. -/
structure Serial (base : Nat) (state : Tasks (Fin count) SocketMemory SocketTask) : Prop where
  numbers : taken state.own ~ (List.range (taken state.own).length).map fun i => sockOf (base + i)
  single : ∀ first second, (state.own first).point.counting = true →
    (state.own second).point.counting = true → first = second
  idle : (∀ task, (state.own task).point.counting = false) →
    state.shared.sockCpt = sockOf (base + (taken state.own).length)
  counting : ∀ task, (state.own task).point.counting = true →
    0 < (taken state.own).length ∧
      state.shared.sockCpt = sockOf (base + (taken state.own).length - 1)
  read : ∀ task el sockCpt, (state.own task).point = .writeCpt el sockCpt →
    sockCpt = state.shared.sockCpt

/-- All identifiers so far are distinct, also from those of the sockets `opened` before. -/
def Distinct (opened : List LorawanSock) (state : Tasks (Fin count) SocketMemory SocketTask) :
    Prop :=
  (taken state.own ++ opened).Nodup

/-- As long as the identifiers are distinct they are serial; no more are taken than asked for. -/
structure Numbered (base : Nat) (opened : List LorawanSock) (programs : Fin count → List Bool)
    (state : Tasks (Fin count) SocketMemory SocketTask) : Prop where
  few : ∀ task, (state.own task).socks.length + (state.own task).ahead ≤
    (programs task).count true
  serial : Distinct opened state → Serial base state

/-! ## One turn -/

section Update

variable (own : Fin count → SocketTask) {task : Fin count} {next : SocketTask}

theorem taken_update (same : next.socks = (own task).socks) :
    taken (Function.update own task next) = taken own :=
  gathered_update SocketTask.socks own task next same

theorem taken_update_perm {sock : LorawanSock} (takes : next.socks = (own task).socks ++ [sock]) :
    taken (Function.update own task next) ~ sock :: taken own := by
  have gains : next.socks ~ [sock] ++ (own task).socks := by
    rw [takes]
    exact List.perm_append_comm
  exact gathered_update_perm SocketTask.socks own task next gains

end Update

theorem length_taken_le {own : Fin count → SocketTask} {programs : Fin count → List Bool}
    (few : ∀ task, (own task).socks.length ≤ (programs task).count true) :
    (taken own).length ≤ ((List.finRange count).flatMap programs).count true := by
  rw [taken, List.length_flatMap, List.count_flatMap]
  exact List.sum_le_sum fun task _ => few task

namespace Numbered

variable {base : Nat} {opened : List LorawanSock} {programs : Fin count → List Bool}
  {state : Tasks (Fin count) SocketMemory SocketTask}

theorem few_update (numbered : Numbered base opened programs state) {task : Fin count}
    {next : SocketTask}
    (fewer : next.socks.length + next.ahead ≤
      (state.own task).socks.length + (state.own task).ahead)
    (other : Fin count) :
    (Function.update state.own task next other).socks.length +
        (Function.update state.own task next other).ahead ≤ (programs other).count true := by
  by_cases isTask : other = task
  · subst isTask
    rw [Function.update_self]
    exact Nat.le_trans fewer (numbered.few other)
  · rw [Function.update_of_ne isTask]
    exact numbered.few other

/-- A turn away from the counter, or between its read and its write. -/
theorem quiet (numbered : Numbered base opened programs state) {task : Fin count}
    {memory : SocketMemory} {next : SocketTask}
    (sameCpt : memory.sockCpt = state.shared.sockCpt)
    (same : next.socks = (state.own task).socks)
    (sameCounting : next.point.counting = (state.own task).point.counting)
    (fewer : next.ahead ≤ (state.own task).ahead)
    (read : ∀ el sockCpt, next.point = .writeCpt el sockCpt → sockCpt = state.shared.sockCpt) :
    Numbered base opened programs
      { shared := memory, own := Function.update state.own task next } := by
  have kept := taken_update state.own same
  have counts : ∀ other, (Function.update state.own task next other).point.counting =
      (state.own other).point.counting := by
    intro other
    by_cases isTask : other = task
    · subst isTask
      rw [Function.update_self, sameCounting]
    · rw [Function.update_of_ne isTask]
  constructor
  case few =>
    apply numbered.few_update
    rw [same]
    exact Nat.add_le_add_left fewer _
  case serial =>
    intro distinct
    rw [Distinct, kept] at distinct
    have serial := numbered.serial distinct
    constructor
    case numbers =>
      rw [kept]
      exact serial.numbers
    case single =>
      intro first second
      rw [counts, counts]
      exact serial.single first second
    case idle =>
      simp only [counts, kept, sameCpt]
      exact serial.idle
    case counting =>
      simp only [counts, kept, sameCpt]
      exact serial.counting
    case read =>
      intro other el sockCpt reading
      dsimp only at reading ⊢
      rw [sameCpt]
      by_cases isTask : other = task
      · subst isTask
        rw [Function.update_self] at reading
        exact read el sockCpt reading
      · rw [Function.update_of_ne isTask] at reading
        exact serial.read other el sockCpt reading

theorem distinct_quiet {task : Fin count} {memory : SocketMemory} {next : SocketTask}
    (away : ∀ block, (state.own task).point ≠ .readSock block)
    (same : next.socks = (state.own task).socks) :
    Distinct opened { shared := memory, own := Function.update state.own task next } ↔
      Distinct opened state ∧ AloneAtCounter state task := by
  have alone : AloneAtCounter state task := fun block point => absurd point (away block)
  rw [Distinct, taken_update state.own same]
  exact (and_iff_left alone).symm

/-- The turn in which a task moves the counter on. -/
theorem moveOn (numbered : Numbered base opened programs state) {task : Fin count} {el : SockEl}
    {sockCpt : LorawanSock} (point : (state.own task).point = .writeCpt el sockCpt)
    {memory : SocketMemory} (moved : memory.sockCpt = sockCpt + 1#32) {next : SocketTask}
    (same : next.socks = (state.own task).socks) (away : next.point.counting = false)
    (fewer : next.ahead ≤ (state.own task).ahead) :
    Numbered base opened programs
      { shared := memory, own := Function.update state.own task next } := by
  have kept := taken_update state.own same
  have counted : (state.own task).point.counting = true := by rw [point]; rfl
  constructor
  case few =>
    apply numbered.few_update
    rw [same]
    exact Nat.add_le_add_left fewer _
  case serial =>
    intro distinct
    rw [Distinct, kept] at distinct
    have serial := numbered.serial distinct
    -- The task was the only one at the counter.
    have nobody : ∀ other, (Function.update state.own task next other).point.counting = false := by
      intro other
      by_cases isTask : other = task
      · subst isTask
        rw [Function.update_self, away]
      · rw [Function.update_of_ne isTask]
        by_contra counting
        exact isTask (serial.single other task (by simpa using counting) counted)
    constructor
    case numbers =>
      rw [kept]
      exact serial.numbers
    case single =>
      intro first second counting
      rw [nobody first] at counting
      cases counting
    case idle =>
      intro _
      dsimp only
      rcases serial.counting task counted with ⟨some, current⟩
      rw [kept, moved, serial.read task el sockCpt point, current, sockOf_succ]
      congr 1
      omega
    case counting =>
      intro other counting
      rw [nobody other] at counting
      cases counting
    case read =>
      intro other otherEl otherCpt reading
      have counting := nobody other
      rw [reading] at counting
      cases counting

/-- The turn in which a task takes its identifier. -/
theorem distinct_take (numbered : Numbered base opened programs state)
    (old : ∀ sock ∈ opened, ∃ number < base, sock = sockOf number) {task : Fin count}
    (room : base + (taken state.own).length < 2 ^ 32 - 1) {block : Nat}
    (point : (state.own task).point = .readSock block) {memory : SocketMemory}
    {next : SocketTask} (takes : next.socks = (state.own task).socks ++ [state.shared.sockCpt]) :
    Distinct opened { shared := memory, own := Function.update state.own task next } ↔
      Distinct opened state ∧ AloneAtCounter state task := by
  have grown := (taken_update_perm state.own takes).append_right opened
  rw [Distinct, grown.nodup_iff, List.cons_append, List.nodup_cons]
  constructor
  · rintro ⟨fresh, distinct⟩
    refine ⟨distinct, ?_⟩
    intro _ _ other
    by_contra counting
    have serial := numbered.serial distinct
    rcases serial.counting other (by simpa using counting) with ⟨some, current⟩
    -- The counter still has the identifier that the other task has taken.
    apply fresh
    apply List.mem_append_left
    rw [serial.numbers.mem_iff, current]
    refine List.mem_map.mpr ⟨(taken state.own).length - 1, List.mem_range.mpr (by omega), ?_⟩
    congr 1
    omega
  · rintro ⟨distinct, alone⟩
    refine ⟨?_, distinct⟩
    have serial := numbered.serial distinct
    rw [serial.idle (alone block point)]
    intro again
    rcases List.mem_append.mp again with again | again
    · rw [serial.numbers.mem_iff] at again
      rcases List.mem_map.mp again with ⟨i, below, same⟩
      have inside := List.mem_range.mp below
      have equal := sockOf_injective (by omega) room same
      omega
    · rcases old _ again with ⟨number, below, same⟩
      have equal := sockOf_injective room (by omega) same
      omega

theorem take (numbered : Numbered base opened programs state)
    (old : ∀ sock ∈ opened, ∃ number < base, sock = sockOf number) {task : Fin count}
    (room : base + (taken state.own).length < 2 ^ 32 - 1) {block : Nat}
    (point : (state.own task).point = .readSock block) {memory : SocketMemory}
    (sameCpt : memory.sockCpt = state.shared.sockCpt) {next : SocketTask} {el : SockEl}
    (reads : next.point = .readCpt el)
    (takes : next.socks = (state.own task).socks ++ [state.shared.sockCpt])
    (fewer : next.ahead < (state.own task).ahead) :
    Numbered base opened programs
      { shared := memory, own := Function.update state.own task next } := by
  have grown := taken_update_perm state.own takes
  constructor
  case few =>
    apply numbered.few_update
    rw [takes, List.length_append, List.length_singleton]
    omega
  case serial =>
    intro distinct
    rcases (numbered.distinct_take old room point takes).mp distinct with ⟨before, alone⟩
    have serial := numbered.serial before
    have nobody := alone block point
    have current := serial.idle nobody
    have counts : ∀ other, (Function.update state.own task next other).point.counting = true →
        other = task := by
      intro other counting
      by_contra isOther
      rw [Function.update_of_ne isOther, nobody other] at counting
      cases counting
    constructor
    case numbers =>
      dsimp only
      rw [grown.length_eq, List.length_cons, List.range_succ, List.map_append]
      refine grown.trans ?_
      rw [current]
      exact (serial.numbers.cons _).trans (List.perm_append_singleton _ _).symm
    case single =>
      intro first second countsFirst countsSecond
      exact (counts first countsFirst).trans (counts second countsSecond).symm
    case idle =>
      intro idle
      have counting := idle task
      dsimp only at counting
      rw [Function.update_self, reads] at counting
      cases counting
    case counting =>
      intro other _
      dsimp only
      rw [grown.length_eq, List.length_cons, sameCpt, current]
      exact ⟨Nat.succ_pos _, rfl⟩
    case read =>
      intro other otherEl otherCpt reading
      dsimp only at reading
      have counting : (Function.update state.own task next other).point.counting = true := by
        rw [reading]
        rfl
      have isTask := counts other counting
      subst isTask
      rw [Function.update_self, reads] at reading
      cases reading

/-- Whichever task has its turn. -/
theorem next (numbered : Numbered base opened programs state)
    (old : ∀ sock ∈ opened, ∃ number < base, sock = sockOf number)
    (few : base + ((List.finRange count).flatMap programs).count true < 2 ^ 32 - 1)
    (task : Fin count) :
    Numbered base opened programs ((preemptedSockets (Fin count)).next state task) ∧
      (Distinct opened ((preemptedSockets (Fin count)).next state task) ↔
        Distinct opened state ∧ AloneAtCounter state task) := by
  rw [preemptedSockets, Tasks.next_eq]
  cases point : (state.own task).point with
  | malloc =>
      have away : ∀ block, (state.own task).point ≠ .readSock block := by simp [point]
      cases requests : (state.own task).requests with
      | nil =>
          simp only [socketAccess, point, requests]
          constructor
          · exact numbered.quiet (by rfl) (by rfl) (by rfl) (by exact Nat.le_refl _)
              (by simp [point])
          · exact distinct_quiet away (by rfl)
      | cons allocated rest =>
          cases allocated with
          | false =>
              simp only [socketAccess, point, requests]
              constructor
              · exact numbered.quiet (by rfl) (by simp [SocketTask.socks, point])
                  (by simp [point]) (by simp [SocketTask.ahead, point, requests]) (by simp)
              · exact distinct_quiet away (by simp [SocketTask.socks, point])
          | true =>
              have same : (state.own task).socks =
                  SocketTask.socks { state.own task with
                    requests := rest, point := .readSock state.shared.blocks } := by
                simp [SocketTask.socks, SocketPoint.el, point]
              simp only [socketAccess, point, requests]
              constructor
              · exact numbered.quiet (by rfl) same.symm
                  (by simp [SocketPoint.counting, point])
                  (by simp [SocketTask.ahead, point, requests]) (by simp)
              · exact distinct_quiet away same.symm
  | readSock block =>
      have takes : SocketTask.socks { state.own task with
          point := .readCpt (newSock block state.shared.sockCpt) } =
            (state.own task).socks ++ [state.shared.sockCpt] := by
        simp [SocketTask.socks, SocketPoint.el, point, newSock]
      have begun : (state.own task).ahead = (state.own task).requests.count true + 1 := by
        simp [SocketTask.ahead, point]
      have room : base + (taken state.own).length < 2 ^ 32 - 1 := by
        have within := length_taken_le fun other =>
          Nat.le_trans (Nat.le_add_right _ _) (numbered.few other)
        omega
      simp only [socketAccess, point]
      constructor
      · apply numbered.take old room point (by rfl) (by rfl) takes
        rw [begun]
        exact Nat.lt_succ_self _
      · exact numbered.distinct_take old room point takes
  | readCpt el =>
      have same : SocketTask.socks { state.own task with
          point := .writeCpt el state.shared.sockCpt } = (state.own task).socks := by
        simp [SocketTask.socks, SocketPoint.el, point]
      simp only [socketAccess, point]
      constructor
      · exact numbered.quiet (by rfl) same (by simp [SocketPoint.counting, point])
          (by simp [SocketTask.ahead, point]) (by simp)
      · exact distinct_quiet (by simp [point]) same
  | writeCpt el sockCpt =>
      have same : SocketTask.socks { state.own task with point := .readFirst el } =
          (state.own task).socks := by
        simp [SocketTask.socks, SocketPoint.el, point]
      simp only [socketAccess, point]
      constructor
      · exact numbered.moveOn point (by rfl) same (by rfl) (by simp [SocketTask.ahead, point])
      · exact distinct_quiet (by simp [point]) same
  | readFirst el =>
      have same : SocketTask.socks { state.own task with
          point := .writeFirst el state.shared.first } = (state.own task).socks := by
        simp [SocketTask.socks, SocketPoint.el, point]
      simp only [socketAccess, point]
      constructor
      · exact numbered.quiet (by rfl) same (by simp [SocketPoint.counting, point])
          (by simp [SocketTask.ahead, point]) (by simp)
      · exact distinct_quiet (by simp [point]) same
  | writeFirst el scNext =>
      have same : SocketTask.socks { state.own task with
          point := .malloc, created := (state.own task).created ++ [el] } =
            (state.own task).socks := by
        simp [SocketTask.socks, SocketPoint.el, point]
      simp only [socketAccess, point]
      constructor
      · exact numbered.quiet (by rfl) same (by simp [SocketPoint.counting, point])
          (by simp [SocketTask.ahead, point]) (by simp)
      · exact distinct_quiet (by simp [point]) same

end Numbered

/-! ## Whole runs -/

theorem sockBlocks_run (osTicksPerSec : OsTime) (state : State) (calls : List Call) :
    ((sockets osTicksPerSec).run state calls).sockBlocks = state.sockBlocks + creations calls := by
  induction calls generalizing state with
  | nil => rfl
  | cons call calls induction =>
      rw [Machine.run_cons, induction, sockBlocks_next, Nat.add_assoc, creations, creations,
        ← List.count_append]
      rfl

section Start

variable {start : State} (wellFormed : start.WellFormed)

include wellFormed

theorem socks_eq_numbers :
    start.lSockList.map SockEl.sock = (start.lSockList.map SockEl.block).map sockOf := by
  rw [List.map_map]
  exact List.map_congr_left wellFormed.sock_eq

theorem opened_numbers (sock : LorawanSock) (opened : sock ∈ start.lSockList.map SockEl.sock) :
    ∃ number < start.sockBlocks, sock = sockOf number := by
  rcases List.mem_map.mp opened with ⟨el, member, rfl⟩
  exact ⟨el.block, wellFormed.block_lt el member, wellFormed.sock_eq el member⟩

theorem distinct_initial (few : start.sockBlocks < 2 ^ 32 - 1) (programs : Fin count → List Bool) :
    Distinct (start.lSockList.map SockEl.sock) (creatingFrom start programs) := by
  have nothing : taken (creatingFrom start programs).own = [] := by
    simp [taken, creatingFrom, SocketTask.socks, SocketPoint.el]
  rw [Distinct, nothing, List.nil_append, socks_eq_numbers wellFormed]
  apply wellFormed.blocks_nodup.map_on
  intro first firstMem second secondMem same
  rcases List.mem_map.mp firstMem with ⟨left, leftMem, rfl⟩
  rcases List.mem_map.mp secondMem with ⟨right, rightMem, rfl⟩
  have leftLt := wellFormed.block_lt left leftMem
  have rightLt := wellFormed.block_lt right rightMem
  exact sockOf_injective (by omega) (by omega) same

theorem Numbered.initial (programs : Fin count → List Bool) :
    Numbered start.sockBlocks (start.lSockList.map SockEl.sock) programs
      (creatingFrom start programs) := by
  have nothing : taken (creatingFrom start programs).own = [] := by
    simp [taken, creatingFrom, SocketTask.socks, SocketPoint.el]
  constructor
  case few =>
    intro task
    simp [creatingFrom, SocketTask.socks, SocketTask.ahead, SocketPoint.el]
  case serial =>
    intro _
    constructor
    case numbers =>
      rw [nothing]
      exact .nil
    case single =>
      intro first second counting
      cases counting
    case idle =>
      intro _
      rw [nothing]
      exact wellFormed.sockCpt_eq
    case counting =>
      intro task counting
      cases counting
    case read =>
      intro task el sockCpt reading
      cases reading

end Start

/-- Several tasks create sockets, in any order of their turns. All identifiers taken are
distinct exactly when no task has taken one while another was between the read of the counter
and its write. -/
theorem preempted_sockets_distinct_iff (osTicksPerSec : OsTime) (calls : List Call)
    (programs : Fin count → List Bool)
    (few : creations calls + ((List.finRange count).flatMap programs).count true < 2 ^ 32 - 1)
    (schedule : List (Fin count)) :
    let start := (sockets osTicksPerSec).run State.initial calls
    Distinct (start.lSockList.map SockEl.sock)
        ((preemptedSockets (Fin count)).run (creatingFrom start programs) schedule) ↔
      (preemptedSockets (Fin count)).Along AloneAtCounter (creatingFrom start programs)
        schedule := by
  intro start
  have wellFormed : start.WellFormed := State.WellFormed.run osTicksPerSec calls
  have blocks : start.sockBlocks = creations calls :=
    (sockBlocks_run osTicksPerSec State.initial calls).trans (Nat.zero_add _)
  rw [← blocks] at few
  have old := opened_numbers wellFormed
  have distinct := (preemptedSockets (Fin count)).run_iff_along
    (Numbered start.sockBlocks (start.lSockList.map SockEl.sock) programs)
    (fun _ task numbered => (numbered.next old few task).1)
    (fun _ task numbered => (numbered.next old few task).2) schedule _
    (Numbered.initial wellFormed programs)
  rw [distinct]
  exact and_iff_right (distinct_initial wellFormed (by omega) programs)

/-- The tasks are at the counter one after the other, and then link their records in turns. -/
theorem preempted_sockets_distinct_one_by_one :
    (preemptedSockets (Fin 2)).Along AloneAtCounter
      (creatingFrom ((sockets 1000#32).run State.initial [.socket true]) fun _ => [true])
      [0, 1, 0, 0, 0, 1, 1, 1, 0, 1, 1, 0] :=
  (preempted_sockets_distinct_iff 1000#32 [.socket true] (fun _ : Fin 2 => [true]) (by decide)
    [0, 1, 0, 0, 0, 1, 1, 1, 0, 1, 1, 0]).mp (by unfold Distinct; decide)

-- Both take the identifier before either moves the counter on.
example :
    let final := (preemptedSockets (Fin 2)).run (creatingFrom State.initial fun _ => [true])
      [0, 0, 1, 1, 0, 0, 0, 0, 1, 1, 1, 1]
    taken final.own = [1#32, 1#32] := by
  decide

end Lorawan.Sockets

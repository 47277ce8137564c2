import Mathlib.Data.List.Basic
import Mathlib.Data.List.Perm.Subperm
import Mathlib.Data.List.Find
import Mathlib.Data.List.Nodup
import Mathlib.Logic.Function.Basic
import Mathlib.Tactic.Common

/-! # Singly linked lists in memory

Memory is a sequence of cells, one for each allocation made so far. A list is a
path through the `next` pointers of its nodes that ends at the null pointer. -/

namespace Lorawan.LinkedList

/-- The cells in the order of allocation; a cell is `none` once it is freed. -/
abbrev Heap (Node : Type u) := List (Option Node)

namespace Heap

variable {Node : Type u}

def read (heap : Heap Node) (block : Nat) : Option Node :=
  heap[block]?.join

/-- `malloc`; the new block is number `heap.length`. -/
def alloc (heap : Heap Node) (node : Node) : Heap Node :=
  heap ++ [some node]

def free (heap : Heap Node) (block : Nat) : Heap Node :=
  heap.set block none

/-- A write through a pointer to an allocated block. -/
def write (heap : Heap Node) (block : Nat) (node : Node) : Heap Node :=
  heap.set block (some node)

variable (heap : Heap Node) (block other : Nat) (node : Node)

theorem read_alloc : read (alloc heap node) block =
    if block = heap.length then some node else read heap block := by
  simp only [read, alloc, List.getElem?_append]
  by_cases older : block < heap.length
  · have apart : block ≠ heap.length := Nat.ne_of_lt older
    simp [older, apart]
  · by_cases fresh : block = heap.length
    · simp [fresh]
    · have beyond : 1 ≤ block - heap.length := by omega
      simp [older, fresh, List.getElem?_eq_none, beyond]

theorem lt_length_of_read {node : Node} (present : read heap block = some node) :
    block < heap.length := by
  by_contra beyond
  simp [read, List.getElem?_eq_none (Nat.le_of_not_lt beyond)] at present

@[simp] theorem read_fresh : read heap heap.length = none := by
  simp [read]

theorem read_free : read (free heap block) other =
    if other = block then none else read heap other := by
  simp only [read, free, List.getElem?_set]
  by_cases same : block = other
  · by_cases inside : other < heap.length <;> simp [same, inside]
  · have apart : ¬other = block := fun equal => same equal.symm
    simp [same, apart]

theorem read_write (allocated : (read heap block).isSome) : read (write heap block node) other =
    if other = block then some node else read heap other := by
  rcases Option.isSome_iff_exists.mp allocated with ⟨old, present⟩
  have inside := lt_length_of_read heap block present
  simp only [read, write, List.getElem?_set]
  by_cases same : block = other
  · subst same
    simp [inside]
  · have apart : ¬other = block := fun equal => same equal.symm
    simp [same, apart]

end Heap

variable {Address : Type u} {Node : Type v}

/-- The nodes met from `start` on, up to but without `stop`. -/
inductive Segment (read : Address → Option Node) (next : Node → Option Address) :
    Option Address → List Address → Option Address → Prop
  | nil (stop : Option Address) : Segment read next stop [] stop
  | cons {address : Address} {node : Node} {rest : List Address} {stop : Option Address}
      (present : read address = some node) (tail : Segment read next (next node) rest stop) :
      Segment read next (some address) (address :: rest) stop

/-- A list that ends at the null pointer. -/
abbrev Chain (read : Address → Option Node) (next : Node → Option Address)
    (head : Option Address) (addresses : List Address) : Prop :=
  Segment read next head addresses none

namespace Segment

variable {read : Address → Option Node} {next : Node → Option Address}
  {start middle stop : Option Address} {addresses front back : List Address}

theorem append (first : Segment read next start front middle)
    (second : Segment read next middle back stop) :
    Segment read next start (front ++ back) stop := by
  induction first with
  | nil => exact second
  | cons present _ induction => exact .cons present (induction second)

theorem split (whole : Segment read next start (front ++ back) stop) :
    ∃ middle, Segment read next start front middle ∧ Segment read next middle back stop := by
  induction front generalizing start with
  | nil => exact ⟨start, .nil start, whole⟩
  | cons address front induction =>
      cases whole with
      | cons present tail =>
          rcases induction tail with ⟨middle, first, second⟩
          exact ⟨middle, .cons present first, second⟩

theorem start_of_cons {address : Address}
    (segment : Segment read next start (address :: addresses) stop) :
    ∃ node, start = some address ∧ read address = some node ∧
      Segment read next (next node) addresses stop := by
  cases segment with
  | cons present tail => exact ⟨_, rfl, present, tail⟩

theorem read_of_mem (segment : Segment read next start addresses stop) {address : Address}
    (member : address ∈ addresses) : ∃ node, read address = some node := by
  induction segment with
  | nil => simp at member
  | cons present _ induction =>
      rcases List.mem_cons.mp member with rfl | member
      · exact ⟨_, present⟩
      · exact induction member

/-- Writes elsewhere leave a segment alone. -/
theorem frame {written : Address → Option Node} (segment : Segment read next start addresses stop)
    (untouched : ∀ address ∈ addresses, written address = read address) :
    Segment written next start addresses stop := by
  induction segment with
  | nil => exact .nil _
  | @cons address node rest stop present _ induction =>
      have kept : written address = some node :=
        (untouched address (by simp)).trans present
      exact .cons kept (induction fun other member => untouched other (by simp [member]))

end Segment

namespace Chain

variable {read : Address → Option Node} {next : Node → Option Address}
  {head : Option Address} {addresses : List Address}

/-- A head pointer has at most one list. -/
theorem unique {others : List Address} (chain : Chain read next head addresses)
    (other : Chain read next head others) : addresses = others := by
  induction addresses generalizing head others with
  | nil =>
      cases chain
      cases other
      rfl
  | cons address addresses induction =>
      rcases Segment.start_of_cons chain with ⟨node, rfl, present, tail⟩
      cases other with
      | cons otherPresent otherTail =>
          rw [present] at otherPresent
          rcases Option.some.inj otherPresent with rfl
          rw [induction tail otherTail]

/-- A list that ends visits no node twice: it is acyclic. -/
theorem nodup (chain : Chain read next head addresses) : addresses.Nodup := by
  induction addresses generalizing head with
  | nil => exact List.nodup_nil
  | cons address addresses induction =>
      rcases Segment.start_of_cons chain with ⟨node, rfl, present, tail⟩
      refine List.nodup_cons.mpr ⟨fun again => ?_, induction tail⟩
      -- From the second visit the list would be both the whole and a proper part.
      rcases List.append_of_mem again with ⟨front, back, rfl⟩
      rcases Segment.split tail with ⟨middle, _, later⟩
      rcases Segment.start_of_cons later with ⟨_, rfl, _, _⟩
      have same := congrArg List.length (unique chain later)
      simp at same
      omega

/-- A write to a node that is not in the list. -/
theorem update_of_notMem [DecidableEq Address] (chain : Chain read next head addresses)
    {address : Address} (fresh : address ∉ addresses) (node : Node) :
    Chain (Function.update read address (some node)) next head addresses := by
  apply Segment.frame chain
  intro other member
  have different : other ≠ address := by
    rintro rfl
    exact fresh member
  exact Function.update_of_ne different ..

/-- A new node in front. -/
theorem push [DecidableEq Address] {address : Address} {node : Node}
    (chain : Chain read next (next node) addresses) (fresh : address ∉ addresses) :
    Chain (Function.update read address (some node)) next (some address)
      (address :: addresses) :=
  .cons (Function.update_self ..) (chain.update_of_notMem fresh node)

end Chain

/-! ## Walking a list -/

/-- The nodes met in at most `fuel` steps, or `none` if the walk has not ended by
then or meets a freed node. -/
def walk (read : Address → Option Node) (next : Node → Option Address) :
    Nat → Option Address → Option (List Address)
  | _, none => some []
  | 0, some _ => none
  | fuel + 1, some address =>
      match read address with
      | none => none
      | some node => (walk read next fuel (next node)).map (address :: ·)

/-- The first node that passes the test; the inner `none` is the null pointer at
the end of the list. -/
def search (read : Address → Option Node) (next : Node → Option Address) (test : Node → Bool) :
    Nat → Option Address → Option (Option Address)
  | _, none => some none
  | 0, some _ => none
  | fuel + 1, some address =>
      match read address with
      | none => none
      | some node =>
          if test node then some (some address) else search read next test fuel (next node)

namespace Chain

variable {read : Address → Option Node} {next : Node → Option Address}
  {head : Option Address} {addresses : List Address}

theorem walk_eq (chain : Chain read next head addresses) {fuel : Nat}
    (enough : addresses.length ≤ fuel) : walk read next fuel head = some addresses := by
  induction addresses generalizing head fuel with
  | nil =>
      cases chain
      cases fuel <;> rfl
  | cons address addresses induction =>
      rcases Segment.start_of_cons chain with ⟨node, rfl, present, tail⟩
      cases fuel with
      | zero => simp at enough
      | succ fuel =>
          have rest := induction tail (Nat.le_of_succ_le_succ enough)
          simp [walk, present, rest]

/-- With a step for each node the search ends, at the first node that passes. -/
theorem search_eq (chain : Chain read next head addresses) (test : Node → Bool) {fuel : Nat}
    (enough : addresses.length ≤ fuel) :
    search read next test fuel head =
      some (addresses.find? fun address => (read address).any test) := by
  induction addresses generalizing head fuel with
  | nil =>
      cases chain
      cases fuel <;> rfl
  | cons address addresses induction =>
      rcases Segment.start_of_cons chain with ⟨node, rfl, present, tail⟩
      cases fuel with
      | zero => simp at enough
      | succ fuel =>
          have rest := induction tail (Nat.le_of_succ_le_succ enough)
          by_cases passes : test node = true
          · simp [search, present, passes]
          · simp [search, present, passes, rest]

end Chain

/-- A list in a heap has no more nodes than the heap has cells. -/
theorem Chain.length_le {heap : Heap Node} {next : Node → Option Nat} {head : Option Nat}
    {addresses : List Nat} (chain : Chain heap.read next head addresses) :
    addresses.length ≤ heap.length := by
  have inside : addresses ⊆ List.range heap.length := by
    intro address member
    rcases Segment.read_of_mem chain member with ⟨node, present⟩
    exact List.mem_range.mpr (heap.lt_length_of_read address present)
  have bounded := ((nodup chain).subperm inside).length_le
  simpa using bounded

end Lorawan.LinkedList

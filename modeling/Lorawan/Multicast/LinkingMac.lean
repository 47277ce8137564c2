import Lorawan.Multicast.Keyed

/-! # A MAC with a linked list

A MAC that keeps its entries the way the two functions expect: it links a new entry
behind the last one, and bypasses the entry that it unlinks. It shows that the laws
asked of a MAC can be met, and runs the functions on inputs. -/

namespace Lorawan.Multicast

open LinkedList

namespace Pool

/-- `prev->Next = next`. -/
def setNext (pool : Pool) (prev : Nat) (next : Option Nat) : Pool :=
  match pool.cells.read prev with
  | none => pool
  | some params => { pool with cells := pool.cells.write prev { params with next } }

def linkLast (pool : Pool) (block : Nat) : Pool :=
  match pool.pointers.getLast? with
  | none => { pool with head := some block }
  | some last => pool.setNext last (some block)

def bypass (pool : Pool) (block : Nat) : Pool :=
  match pool.cells.read block with
  | none => pool
  | some params =>
      match (pool.pointers.takeWhile (· ≠ block)).getLast? with
      | none => { pool with head := params.next }
      | some prev => pool.setNext prev params.next

variable {pool : Pool}

theorem setNext_read {prev : Nat} {params : MulticastParams}
    (present : pool.cells.read prev = some params) (next : Option Nat) (other : Nat) :
    (pool.setNext prev next).cells.read other =
      if other = prev then some { params with next } else pool.cells.read other := by
  simp only [setNext, present]
  exact pool.cells.read_write prev other _ (by simp [present])

theorem setNext_head (prev : Nat) (next : Option Nat) :
    (pool.setNext prev next).head = pool.head := by
  unfold setNext
  split <;> rfl

theorem setNext_entryAt (prev : Nat) (next : Option Nat) (other : Nat) :
    (pool.setNext prev next).entryAt other = pool.entryAt other := by
  cases present : pool.cells.read prev with
  | none => simp [setNext, present]
  | some params =>
      unfold entryAt
      rw [setNext_read present]
      by_cases same : other = prev
      · subst same
        simp [present, MulticastParams.entry]
      · simp [same]

/-- Redirecting the last pointer of a segment. -/
theorem segment_setNext {front : List Nat} {prev : Nat} {start : Option Nat}
    {stop : Option Nat} (nodup : (front ++ [prev]).Nodup)
    (segment : Segment pool.cells.read MulticastParams.next start (front ++ [prev]) stop)
    (next : Option Nat) :
    Segment (pool.setNext prev next).cells.read MulticastParams.next start (front ++ [prev])
      next := by
  rcases Segment.split segment with ⟨middle, before, last⟩
  rcases Segment.start_of_cons last with ⟨params, rfl, present, _⟩
  have notInFront : prev ∉ front := fun member =>
    (List.nodup_append.mp nodup).2.2 prev member prev (by simp) rfl
  have kept : Segment (pool.setNext prev next).cells.read MulticastParams.next start front
      (some prev) := by
    apply Segment.frame before
    intro other member
    have apart : other ≠ prev := fun equal => notInFront (equal ▸ member)
    rw [setNext_read present, if_neg apart]
  have redirected : (pool.setNext prev next).cells.read prev = some { params with next } := by
    rw [setNext_read present, if_pos rfl]
  exact Segment.append kept (.cons redirected (.nil next))

/-- What lies outside is not affected. -/
theorem segment_of_setNext {addresses : List Nat} {prev : Nat} {start stop next : Option Nat}
    (segment : Segment pool.cells.read MulticastParams.next start addresses stop)
    (outside : prev ∉ addresses) :
    Segment (pool.setNext prev next).cells.read MulticastParams.next start addresses stop := by
  apply Segment.frame segment
  intro other member
  have apart : other ≠ prev := fun equal => outside (equal ▸ member)
  cases present : pool.cells.read prev with
  | none => simp [setNext, present]
  | some params => rw [setNext_read present, if_neg apart]

theorem linkLast_holds {pointers : List Nat} {block : Nat} {params : MulticastParams}
    (holds : pool.Holds pointers) (present : pool.cells.read block = some params)
    (ends : params.next = none) (unlisted : block ∉ pointers) :
    (pool.linkLast block).Holds (pointers ++ [block]) := by
  have alone : Segment pool.cells.read MulticastParams.next (some block) [block] none := by
    apply Segment.cons present
    rw [ends]
    exact .nil none
  rcases List.eq_nil_or_concat' pointers with rfl | ⟨front, last, rfl⟩
  · have linked : pool.linkLast block = { pool with head := some block } := by
      simp [linkLast, holds.pointers_eq]
    rw [linked]
    exact alone
  · have linked : pool.linkLast block = pool.setNext last (some block) := by
      simp [linkLast, holds.pointers_eq]
    have apart : last ∉ [block] := by
      intro member
      rcases List.mem_singleton.mp member with rfl
      exact unlisted (by simp)
    have redirected := segment_setNext (Chain.nodup holds) holds (some block)
    unfold Holds
    rw [linked, setNext_head]
    exact Segment.append redirected (segment_of_setNext alone apart)

theorem linkLast_entryAt (pool : Pool) (block other : Nat) :
    (pool.linkLast block).entryAt other = pool.entryAt other := by
  unfold linkLast
  split
  · rfl
  · exact setNext_entryAt _ _ other

theorem bypass_spec {pointers : List Nat} {block : Nat} (holds : pool.Holds pointers)
    (member : block ∈ pointers) :
    (pool.bypass block).Holds (pointers.erase block) ∧
      (∀ other, (pool.bypass block).entryAt other = pool.entryAt other) ∧
      ∀ other, other ∉ pointers → (pool.bypass block).cells.read other = pool.cells.read other := by
  rcases List.append_of_mem member with ⟨front, back, rfl⟩
  have nodup := Chain.nodup holds
  have notInFront : block ∉ front := fun again =>
    (List.nodup_append.mp nodup).2.2 block again block (by simp) rfl
  have erased : (front ++ block :: back).erase block = front ++ back := by
    rw [List.erase_append_right _ notInFront, List.erase_cons_head]
  have before : (front ++ block :: back).takeWhile (· ≠ block) = front := by
    rw [List.takeWhile_append_of_pos, List.takeWhile_cons_of_neg (by simp), List.append_nil]
    intro other otherMem
    have apart : other ≠ block := fun equal => notInFront (equal ▸ otherMem)
    simpa using apart
  rcases Segment.split holds with ⟨middle, first, second⟩
  rcases Segment.start_of_cons second with ⟨params, rfl, present, tail⟩
  rw [erased]
  rcases List.eq_nil_or_concat' front with rfl | ⟨earlier, prev, rfl⟩
  · have bypassed : pool.bypass block = { pool with head := params.next } := by
      simp [bypass, present, holds.pointers_eq]
    rw [bypassed]
    exact ⟨tail, fun _ => rfl, fun _ _ => rfl⟩
  · have bypassed : pool.bypass block = pool.setNext prev params.next := by
      simp only [bypass, present, holds.pointers_eq, before]
      simp
    have prevNotBack : prev ∉ back := by
      intro again
      have disjoint := (List.nodup_append.mp nodup).2.2 prev (by simp) prev
      exact disjoint (List.mem_cons_of_mem _ again) rfl
    have frontNodup := (List.nodup_append.mp nodup).1
    rw [bypassed]
    refine ⟨?_, fun other => setNext_entryAt prev params.next other, ?_⟩
    · unfold Holds
      rw [setNext_head]
      exact Segment.append (segment_setNext frontNodup first params.next)
        (segment_of_setNext tail prevNotBack)
    · intro other outside
      have apart : other ≠ prev := fun equal => outside (by simp [equal])
      rcases Segment.read_of_mem first (by simp : prev ∈ earlier ++ [prev]) with
        ⟨prevParams, prevPresent⟩
      rw [setNext_read prevPresent, if_neg apart]

end Pool

def linkingMac : MulticastMac where
  link := Pool.linkLast
  unlink := Pool.bypass
  linkedCounter := id
  link_appends pool pointers block params holds present ends unlisted := by
    refine ⟨pool.linkLast_holds holds present ends unlisted, fun other => ?_⟩
    rw [Pool.linkLast_entryAt]
    by_cases same : other = block
    · subst same
      rw [if_pos rfl, Pool.entryAt, present]
      rfl
    · simp [same]
  unlink_removes pool pointers block holds member := Pool.bypass_spec holds member

/-- The MAC is busy when asked for its list, and idle again when asked to link. -/
def staleRun : List Call :=
  let entry (key : Byte) : Entry :=
    { address := 7
      nwkSKey := Vector.replicate 16 key
      appSKey := Vector.replicate 16 key
      downLinkCounter := 0 }
  [.add (entry 1) true 0#32 0#32 0#32, .add (entry 2) true 1#32 0#32 0#32]

/-- The second add returns OK, with the entry of the first one still in front. -/
theorem staleRun_not_distinct :
    ¬(pools linkingMac).Throughout State.Distinct State.initial staleRun := by
  rw [distinct_throughout_iff]
  intro along
  rcases along with ⟨_, clear, _⟩
  have answered := clear rfl rfl (by decide)
  exact absurd answered.1 (by decide)

end Lorawan.Multicast

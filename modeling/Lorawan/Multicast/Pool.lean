import Lorawan.Multicast.Api

/-! # The pool of multicast entries

Seen through the list that the MAC holds, the two functions work on a sequence of
entries: one drops the first entry of an address, the other does the same and then
appends an entry. The search loop always ends. -/

namespace Lorawan.Multicast

open LinkedList

/-! ## The pool as a sequence of entries -/

/-- Whether `lorawan_multicast_remove` is carried out. -/
def Removes (entries : List Entry) (devAddr : DevAddr)
    (headAnswer unlinkAnswer : LoRaMacStatus) : Prop :=
  headAnswer = LoRaMacStatus.ok ∧ unlinkAnswer = LoRaMacStatus.ok ∧
    ∃ entry ∈ entries, entry.address = devAddr

instance (entries : List Entry) (devAddr : DevAddr) (headAnswer unlinkAnswer : LoRaMacStatus) :
    Decidable (Removes entries devAddr headAnswer unlinkAnswer) :=
  inferInstanceAs (Decidable (_ ∧ _ ∧ _))

def removeEntry (entries : List Entry) (devAddr : DevAddr)
    (headAnswer unlinkAnswer : LoRaMacStatus) : List Entry × LorawanStatus :=
  if Removes entries devAddr headAnswer unlinkAnswer then
    (entries.eraseP fun entry => entry.address == devAddr, .ok)
  else (entries, .error)

def addEntry (linkedCounter : BitVec 32 → BitVec 32) (entries : List Entry) (entry : Entry)
    (allocated : Bool) (headAnswer unlinkAnswer linkAnswer : LoRaMacStatus) :
    List Entry × LorawanStatus :=
  if allocated then
    let kept := (removeEntry entries entry.address headAnswer unlinkAnswer).1
    if linkAnswer = LoRaMacStatus.ok then (kept ++ [entry.withCounter linkedCounter], .ok)
    else (kept, .error)
  else (entries, .error)

/-- The machine of pools, reduced to what a reader of the list finds. Its calls
always return. -/
def entryPools (linkedCounter : BitVec 32 → BitVec 32) :
    Machine (List Entry) Call (Option LorawanStatus) where
  step entries
    | .add entry allocated headAnswer unlinkAnswer linkAnswer =>
        (addEntry linkedCounter entries entry allocated headAnswer unlinkAnswer
          linkAnswer).map id some
    | .remove devAddr headAnswer unlinkAnswer =>
        (removeEntry entries devAddr headAnswer unlinkAnswer).map id some

/-! ## Reading a pool -/

@[simp] theorem address_entry (params : MulticastParams) :
    params.entry.address = params.address := rfl

namespace Pool

variable {pool : Pool} {pointers : List Nat}

namespace Holds

theorem pointers_eq (holds : pool.Holds pointers) : pool.pointers = pointers := by
  have ends := Chain.walk_eq holds (Chain.length_le holds)
  simp [Pool.pointers, ends]

theorem entries_eq (holds : pool.Holds pointers) :
    pool.entries = pointers.filterMap pool.entryAt := by
  rw [Pool.entries, holds.pointers_eq]

theorem fresh_notMem (holds : pool.Holds pointers) : pool.cells.length ∉ pointers := by
  intro member
  rcases Segment.read_of_mem holds member with ⟨params, present⟩
  simp at present

/-- A change of memory away from the list. -/
theorem frame (holds : pool.Holds pointers) (other : Pool) (sameHead : other.head = pool.head)
    (untouched : ∀ block ∈ pointers, other.cells.read block = pool.cells.read block) :
    other.Holds pointers ∧ other.entries = pool.entries := by
  have kept : other.Holds pointers := by
    unfold Holds
    rw [sameHead]
    exact Segment.frame holds untouched
  refine ⟨kept, ?_⟩
  rw [kept.entries_eq, holds.entries_eq]
  apply List.filterMap_congr
  intro block member
  simp [entryAt, untouched block member]

theorem alloc (holds : pool.Holds pointers) (params : MulticastParams) :
    ({ pool with cells := pool.cells.alloc params } : Pool).Holds pointers ∧
      ({ pool with cells := pool.cells.alloc params } : Pool).entries = pool.entries := by
  apply holds.frame { pool with cells := pool.cells.alloc params } rfl
  intro block member
  have apart : block ≠ pool.cells.length := fun equal => holds.fresh_notMem (equal ▸ member)
  simp [Heap.read_alloc, apart]

theorem free (holds : pool.Holds pointers) {block : Nat} (unlinked : block ∉ pointers) :
    ({ pool with cells := pool.cells.free block } : Pool).Holds pointers ∧
      ({ pool with cells := pool.cells.free block } : Pool).entries = pool.entries := by
  apply holds.frame { pool with cells := pool.cells.free block } rfl
  intro other member
  have apart : other ≠ block := fun equal => unlinked (equal ▸ member)
  simp [Heap.read_free, apart]

end Holds

end Pool

/-! ## `lorawan_multicast_remove` -/

/-- The search passes over the entries of other addresses only. -/
theorem address_ne_of_skipped {pool : Pool} {devAddr : DevAddr} {pointers : List Nat}
    (skipped : ∀ block ∈ pointers,
      (pool.cells.read block).any (fun params => params.address == devAddr) = false) :
    ∀ entry ∈ pointers.filterMap pool.entryAt, entry.address ≠ devAddr := by
  intro entry member sameAddr
  rcases List.mem_filterMap.mp member with ⟨block, blockMem, entryAt⟩
  rcases Option.map_eq_some_iff.mp entryAt with ⟨params, present, rfl⟩
  have passedOver := skipped block blockMem
  rw [address_entry] at sameAddr
  simp [present, sameAddr] at passedOver

/-- Either nothing changes, or the first entry of the address is taken out of the
list and freed. -/
theorem lorawanMulticastRemove_cases (mac : MulticastMac) {state : State} {pointers : List Nat}
    (holds : state.pool.Holds pointers) (devAddr : DevAddr)
    (headAnswer unlinkAnswer : LoRaMacStatus) :
    (¬Removes state.pool.entries devAddr headAnswer unlinkAnswer ∧
      lorawanMulticastRemove mac state devAddr headAnswer unlinkAnswer = some (state, .error)) ∨
    ∃ front block back entry, pointers = front ++ block :: back ∧
      (∀ earlier ∈ front.filterMap state.pool.entryAt, earlier.address ≠ devAddr) ∧
      state.pool.entryAt block = some entry ∧ entry.address = devAddr ∧
      Removes state.pool.entries devAddr headAnswer unlinkAnswer ∧
      lorawanMulticastRemove mac state devAddr headAnswer unlinkAnswer =
        some (({ state with pool := mac.unlink state.pool block } : State).free block, .ok) := by
  by_cases headOk : headAnswer = LoRaMacStatus.ok
  case neg =>
    exact .inl ⟨fun removes => headOk removes.1, by simp [lorawanMulticastRemove, headOk]⟩
  have ended := Chain.search_eq holds (fun params => params.address == devAddr)
    (Chain.length_le holds)
  cases found : pointers.find? fun block =>
      (state.pool.cells.read block).any fun params => params.address == devAddr with
  | none =>
      rw [found] at ended
      refine .inl ⟨fun removes => ?_, by simp [lorawanMulticastRemove, headOk, ended]⟩
      rcases removes.2.2 with ⟨entry, member, sameAddr⟩
      rw [holds.entries_eq] at member
      have passedOver := address_ne_of_skipped fun block blockMem => by
        simpa using List.find?_eq_none.mp found block blockMem
      exact passedOver entry member sameAddr
  | some block =>
      rw [found] at ended
      rcases List.find?_eq_some_iff_append.mp found with ⟨matched, front, back, split, passedOver⟩
      rcases Option.any_eq_true _ _ |>.mp matched with ⟨params, present, sameAddr⟩
      have sameAddr : params.entry.address = devAddr := by simpa using sameAddr
      have entryAt : state.pool.entryAt block = some params.entry := by
        simp [Pool.entryAt, present]
      have listed : ∃ entry ∈ state.pool.entries, entry.address = devAddr := by
        refine ⟨params.entry, ?_, sameAddr⟩
        rw [holds.entries_eq, split]
        exact List.mem_filterMap.mpr ⟨block, by simp, entryAt⟩
      by_cases unlinkOk : unlinkAnswer = LoRaMacStatus.ok
      case neg =>
        exact .inl ⟨fun removes => unlinkOk removes.2.1, by
          simp [lorawanMulticastRemove, headOk, ended, unlinkOk]⟩
      refine .inr ⟨front, block, back, params.entry, split, ?_, entryAt, sameAddr,
        ⟨headOk, unlinkOk, listed⟩, by simp [lorawanMulticastRemove, headOk, ended, unlinkOk]⟩
      exact address_ne_of_skipped fun other otherMem => by simpa using passedOver other otherMem

/-- The entry is gone from the list before its memory is freed. -/
theorem unlink_free_spec (mac : MulticastMac) {pool : Pool} {front back : List Nat} {block : Nat}
    (holds : pool.Holds (front ++ block :: back)) :
    let freed : Pool :=
      { mac.unlink pool block with cells := (mac.unlink pool block).cells.free block }
    freed.Holds (front ++ back) ∧
      freed.entries = front.filterMap pool.entryAt ++ back.filterMap pool.entryAt := by
  have nodup := Chain.nodup holds
  have erased : (front ++ block :: back).erase block = front ++ back := by
    have notInFront : block ∉ front := fun member =>
      (List.nodup_append.mp nodup).2.2 block member block (by simp) rfl
    rw [List.erase_append_right _ notInFront, List.erase_cons_head]
  rcases mac.unlink_removes pool _ block holds (by simp) with ⟨unlinked, sameEntries, _⟩
  rw [erased] at unlinked
  have gone : block ∉ front ++ back := (List.nodup_cons.mp (List.nodup_middle.mp nodup)).1
  rcases unlinked.free gone with ⟨freedHolds, freedEntries⟩
  refine ⟨freedHolds, ?_⟩
  rw [freedEntries, unlinked.entries_eq, List.filterMap_append]
  congr 1 <;> exact List.filterMap_congr fun other _ => sameEntries other

/-- A removal works on the entries as `removeEntry` does, and touches no memory
outside the list. -/
theorem lorawanMulticastRemove_spec (mac : MulticastMac) {state : State} {pointers : List Nat}
    (holds : state.pool.Holds pointers) (devAddr : DevAddr)
    (headAnswer unlinkAnswer : LoRaMacStatus) :
    ∃ next kept, lorawanMulticastRemove mac state devAddr headAnswer unlinkAnswer =
        some (next, (removeEntry state.pool.entries devAddr headAnswer unlinkAnswer).2) ∧
      kept ⊆ pointers ∧ next.pool.Holds kept ∧
      next.pool.entries = (removeEntry state.pool.entries devAddr headAnswer unlinkAnswer).1 ∧
      ∀ other, other ∉ pointers → next.pool.cells.read other = state.pool.cells.read other := by
  rcases lorawanMulticastRemove_cases mac holds devAddr headAnswer unlinkAnswer with
    ⟨refused, result⟩ |
    ⟨front, block, back, entry, rfl, earlier, entryAt, sameAddr, removes, result⟩
  · refine ⟨state, pointers, ?_, List.Subset.refl _, holds, ?_, fun _ _ => rfl⟩
    · simp [result, removeEntry, refused]
    · simp [removeEntry, refused]
  · rcases unlink_free_spec mac holds with ⟨freedHolds, freedEntries⟩
    refine ⟨({ state with pool := mac.unlink state.pool block } : State).free block,
      front ++ back, ?_, ?_, freedHolds, ?_, ?_⟩
    · simp [result, removeEntry, removes]
    · exact List.append_subset.mpr
        ⟨fun _ member => by simp [member], fun _ member => by simp [member]⟩
    · have whole : state.pool.entries =
          front.filterMap state.pool.entryAt ++ entry :: back.filterMap state.pool.entryAt := by
        rw [holds.entries_eq, List.filterMap_append, List.filterMap_cons_some entryAt]
      rw [removeEntry, if_pos removes, whole]
      rw [List.eraseP_append_right _ (by simpa using earlier)]
      rw [List.eraseP_cons_of_pos (by simpa using sameAddr)]
      exact freedEntries
    · intro other outside
      have apart : other ≠ block := fun equal => outside (by simp [equal])
      have untouched := (mac.unlink_removes state.pool _ block holds (by simp)).2.2 other outside
      simp [State.free, Heap.read_free, apart, untouched]

/-! ## `lorawan_multicast_add` -/

theorem lorawanMulticastAdd_spec (mac : MulticastMac) {state : State} {pointers : List Nat}
    (holds : state.pool.Holds pointers) (entry : Entry) (allocated : Bool)
    (headAnswer unlinkAnswer linkAnswer : LoRaMacStatus) :
    ∃ next kept, perform mac state (.add entry allocated headAnswer unlinkAnswer linkAnswer) =
        some (next, (addEntry mac.linkedCounter state.pool.entries entry allocated headAnswer
          unlinkAnswer linkAnswer).2) ∧
      next.pool.Holds kept ∧
      next.pool.entries = (addEntry mac.linkedCounter state.pool.entries entry allocated
        headAnswer unlinkAnswer linkAnswer).1 := by
  cases allocated with
  | false => exact ⟨state, pointers, rfl, holds, rfl⟩
  | true =>
      let params : MulticastParams :=
        { address := entry.address
          nwkSKey := entry.nwkSKey
          appSKey := entry.appSKey
          downLinkCounter := entry.downLinkCounter
          next := none }
      let block := state.pool.cells.length
      rcases holds.alloc params with ⟨allocHolds, allocEntries⟩
      have fresh : block ∉ pointers := holds.fresh_notMem
      have allocHolds : (state.alloc params).pool.Holds pointers := allocHolds
      have allocEntries : (state.alloc params).pool.entries = state.pool.entries := allocEntries
      rcases lorawanMulticastRemove_spec mac allocHolds entry.address headAnswer unlinkAnswer with
        ⟨removed, kept, result, subset, keptHolds, keptEntries, untouched⟩
      rw [allocEntries] at result keptEntries
      have notKept : block ∉ kept := fun member => fresh (subset member)
      have stored : removed.pool.cells.read block = some params := by
        rw [untouched block fresh]
        simp [State.alloc, Heap.read_alloc, block]
      by_cases linkOk : linkAnswer = LoRaMacStatus.ok
      · rcases mac.link_appends removed.pool kept block params keptHolds stored rfl notKept with
          ⟨linkHolds, linkEntries⟩
        refine ⟨{ removed with pool := mac.link removed.pool block }, kept ++ [block], ?_,
          linkHolds, ?_⟩
        · simp [perform, lorawanMulticastAdd, addEntry, linkOk, result, params, block]
        · have others : kept.filterMap (mac.link removed.pool block).entryAt =
              kept.filterMap removed.pool.entryAt := by
            apply List.filterMap_congr
            intro other member
            have apart : other ≠ block := fun equal => notKept (equal ▸ member)
            rw [linkEntries other, if_neg apart]
          have last : (mac.link removed.pool block).entryAt block =
              some (entry.withCounter mac.linkedCounter) := by
            rw [linkEntries block, if_pos rfl]
            rfl
          simp only [addEntry, if_pos linkOk, if_true]
          rw [← keptEntries, keptHolds.entries_eq, linkHolds.entries_eq, List.filterMap_append,
            others, List.filterMap_cons_some last, List.filterMap_nil]
      · rcases keptHolds.free notKept with ⟨freeHolds, freeEntries⟩
        refine ⟨removed.free block, kept, ?_, freeHolds, ?_⟩
        · simp [perform, lorawanMulticastAdd, addEntry, linkOk, result, params, block]
        · simp only [addEntry, if_neg linkOk, if_true, ← keptEntries]
          exact freeEntries

/-! ## The refinement -/

theorem perform_spec (mac : MulticastMac) {state : State} {pointers : List Nat}
    (holds : state.pool.Holds pointers) (call : Call) :
    ∃ next status kept, perform mac state call = some (next, status) ∧
      next.pool.Holds kept ∧
      (entryPools mac.linkedCounter).step state.pool.entries call =
        (next.pool.entries, some status) := by
  cases call with
  | add entry allocated headAnswer unlinkAnswer linkAnswer =>
      rcases lorawanMulticastAdd_spec mac holds entry allocated headAnswer unlinkAnswer
        linkAnswer with ⟨next, kept, result, keptHolds, keptEntries⟩
      exact ⟨next, _, kept, result, keptHolds, by rw [keptEntries]; rfl⟩
  | remove devAddr headAnswer unlinkAnswer =>
      rcases lorawanMulticastRemove_spec mac holds devAddr headAnswer unlinkAnswer with
        ⟨next, kept, result, _, keptHolds, keptEntries, _⟩
      exact ⟨next, _, kept, result, keptHolds, by rw [keptEntries]; rfl⟩

/-- The functions on memory are the functions on entries, seen through the list. -/
def entryRefinement (mac : MulticastMac) :
    (pools mac).Refinement (entryPools mac.linkedCounter) where
  view state := state.pool.entries
  invariant state := ∃ pointers, state.pool.Holds pointers
  preserved state call holds := by
    rcases holds with ⟨pointers, holds⟩
    rcases perform_spec mac holds call with ⟨next, status, kept, result, keptHolds, _⟩
    exact ⟨kept, by simpa [Machine.next, pools, result] using keptHolds⟩
  view_next state call holds := by
    rcases holds with ⟨pointers, holds⟩
    rcases perform_spec mac holds call with ⟨next, status, kept, result, _, viewed⟩
    simp [Machine.next, pools, result, viewed]
  reply_eq state call holds := by
    rcases holds with ⟨pointers, holds⟩
    rcases perform_spec mac holds call with ⟨next, status, kept, result, _, viewed⟩
    simp [Machine.reply, pools, result, viewed]

theorem initial_holds : State.initial.pool.Holds [] :=
  .nil none

@[simp] theorem initial_entries : State.initial.pool.entries = [] :=
  initial_holds.entries_eq

end Lorawan.Multicast

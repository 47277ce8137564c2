import Lorawan.Multicast.LinkingMac

/-! # Who owns the multicast entries

Every entry that `malloc` returned belongs to exactly one of three parties: the
MAC's list, the call that is running, or nobody any more once it is freed. The
running call gives up its own entry before it returns, so that between calls the
allocated entries are the linked ones. -/

namespace Lorawan.Multicast

open LinkedList
open scoped List

/-- The block that `malloc` returns to a call. -/
def Call.allocation (state : State) : Call → List Nat
  | .add _ allocated _ _ _ => if allocated then [state.pool.cells.length] else []
  | .remove .. => []

/-- The blocks that `malloc` returns along a run, oldest first. -/
def allocations (mac : MulticastMac) : State → List Call → List Nat
  | _, [] => []
  | state, call :: calls =>
      call.allocation state ++ allocations mac ((pools mac).next state call) calls

/-- Of the blocks allocated so far, `held` belong to the running call and `pointers`
to the list; the others are freed. -/
structure Owned (allocated held pointers : List Nat) (state : State) : Prop where
  holds : state.pool.Holds pointers
  accounted : allocated ~ held ++ pointers ++ state.freed
  live : ∀ block, (state.pool.cells.read block).isSome ↔ block ∈ held ++ pointers

namespace Owned

variable {allocated held pointers : List Nat} {state : State}

theorem initial : Owned [] [] [] State.initial where
  holds := initial_holds
  accounted := List.Perm.refl []
  live block := by simp [State.initial, Heap.read]

theorem fresh (owned : Owned allocated held pointers state) :
    state.pool.cells.length ∉ held ++ pointers := by
  intro member
  have present := (owned.live _).mpr member
  simp at present

/-- `malloc` gives the new block to the call. -/
theorem alloc (owned : Owned allocated [] pointers state) (params : MulticastParams) :
    Owned (allocated ++ [state.pool.cells.length]) [state.pool.cells.length] pointers
      (state.alloc params) where
  holds := (owned.holds.alloc params).1
  accounted := by
    apply (owned.accounted.append_right [state.pool.cells.length]).trans
    exact List.perm_append_singleton _ _
  live block := by
    have before := owned.live block
    simp only [State.alloc, Heap.read_alloc, List.singleton_append, List.mem_cons]
    by_cases same : block = state.pool.cells.length
    · simp [same]
    · simpa [same] using before

/-- The entry that is unlinked passes from the list to the call, which frees it. -/
theorem unlinkFree (mac : MulticastMac) {front back : List Nat} {block : Nat}
    (owned : Owned allocated held (front ++ block :: back) state) (unheld : block ∉ held) :
    Owned allocated held (front ++ back)
      (({ state with pool := mac.unlink state.pool block } : State).free block) where
  holds := (unlink_free_spec mac owned.holds).1
  accounted := by
    have moved : held ++ (front ++ block :: back) ++ state.freed ~
        held ++ (front ++ back) ++ (state.freed ++ [block]) := by
      have middle : front ++ block :: back ~ (front ++ back) ++ [block] :=
        List.perm_middle.trans (List.perm_append_singleton block (front ++ back)).symm
      have last : [block] ++ state.freed ~ state.freed ++ [block] := List.perm_append_comm
      calc held ++ (front ++ block :: back) ++ state.freed
        _ ~ held ++ ((front ++ back) ++ [block]) ++ state.freed :=
            (middle.append_left held).append_right state.freed
        _ = held ++ (front ++ back) ++ ([block] ++ state.freed) := by simp
        _ ~ held ++ (front ++ back) ++ (state.freed ++ [block]) := last.append_left _
    exact owned.accounted.trans moved
  live other := by
    have nodup := Chain.nodup owned.holds
    have gone : block ∉ front ++ back := (List.nodup_cons.mp (List.nodup_middle.mp nodup)).1
    have sameEntry :=
      (mac.unlink_removes state.pool _ block owned.holds (by simp)).2.1 other
    have unlinked : ((mac.unlink state.pool block).cells.read other).isSome =
        (state.pool.cells.read other).isSome := by
      simpa [Pool.entryAt] using congrArg Option.isSome sameEntry
    have before := owned.live other
    simp only [State.free, Heap.read_free]
    by_cases same : other = block
    · subst same
      simp only [List.mem_append] at gone ⊢
      simp [unheld, gone]
    · rw [if_neg same, unlinked, before]
      simp [same]

theorem lorawanMulticastRemove (mac : MulticastMac)
    (owned : Owned allocated held pointers state) (apart : ∀ block ∈ held, block ∉ pointers)
    (devAddr : DevAddr) (headAnswer unlinkAnswer : LoRaMacStatus) :
    ∃ next status kept, Multicast.lorawanMulticastRemove mac state devAddr headAnswer
        unlinkAnswer = some (next, status) ∧
      kept ⊆ pointers ∧ Owned allocated held kept next ∧
      ∀ other, other ∉ pointers → next.pool.cells.read other = state.pool.cells.read other := by
  rcases lorawanMulticastRemove_spec mac owned.holds devAddr headAnswer unlinkAnswer with
    ⟨next, kept, result, subset, keptHolds, _, untouched⟩
  refine ⟨next, _, kept, result, subset, ?_, untouched⟩
  rcases lorawanMulticastRemove_cases mac owned.holds devAddr headAnswer unlinkAnswer with
    ⟨_, same⟩ | ⟨front, block, back, _, rfl, _, _, _, _, same⟩
  · have sameState : state = next := congrArg Prod.fst (Option.some.inj (same.symm.trans result))
    subst sameState
    rw [Chain.unique keptHolds owned.holds]
    exact owned
  · have sameState := congrArg Prod.fst (Option.some.inj (same.symm.trans result))
    subst sameState
    have unheld : block ∉ held := fun member => apart block member (by simp)
    have after := owned.unlinkFree mac unheld
    rw [Chain.unique keptHolds after.holds]
    exact after

/-- A call that could not link its entry frees it. -/
theorem freeHeld {block : Nat} (owned : Owned allocated [block] pointers state)
    (unlinked : block ∉ pointers) : Owned allocated [] pointers (state.free block) where
  holds := (owned.holds.free unlinked).1
  accounted := by
    apply owned.accounted.trans
    have last : [block] ++ (pointers ++ state.freed) ~ (pointers ++ state.freed) ++ [block] :=
      List.perm_append_comm
    simpa [State.free] using last
  live other := by
    have before := owned.live other
    simp only [State.free, Heap.read_free, List.nil_append]
    by_cases same : other = block
    · subst same
      simp [unlinked]
    · rw [if_neg same, before]
      simp [same]

/-- Linking passes the entry from the call to the list. -/
theorem link (mac : MulticastMac) {block : Nat} {params : MulticastParams}
    (owned : Owned allocated [block] pointers state)
    (present : state.pool.cells.read block = some params) (ends : params.next = none)
    (unlinked : block ∉ pointers) :
    Owned allocated [] (pointers ++ [block])
      { state with pool := mac.link state.pool block } where
  holds := (mac.link_appends state.pool pointers block params owned.holds present ends
    unlinked).1
  accounted := by
    apply owned.accounted.trans
    have last : [block] ++ pointers ~ pointers ++ [block] := List.perm_append_comm
    exact last.append_right state.freed
  live other := by
    have before := owned.live other
    have entries := (mac.link_appends state.pool pointers block params owned.holds present ends
      unlinked).2 other
    have linked : ((mac.link state.pool block).cells.read other).isSome ↔
        other = block ∨ (state.pool.cells.read other).isSome := by
      have isSome := congrArg Option.isSome entries
      by_cases same : other = block
      · simpa [same, Pool.entryAt] using isSome
      · simpa [same, Pool.entryAt] using isSome
    rw [linked, before]
    simp [or_comm]

/-! ## Calls and runs -/

theorem add (mac : MulticastMac) (owned : Owned allocated [] pointers state) (entry : Entry)
    (headAnswer unlinkAnswer linkAnswer : LoRaMacStatus) :
    ∃ next status kept, perform mac state
        (.add entry true headAnswer unlinkAnswer linkAnswer) = some (next, status) ∧
      Owned (allocated ++ [state.pool.cells.length]) [] kept next := by
  let block := state.pool.cells.length
  let params : MulticastParams :=
    { address := entry.address
      nwkSKey := entry.nwkSKey
      appSKey := entry.appSKey
      downLinkCounter := entry.downLinkCounter
      next := none }
  have fresh : block ∉ pointers := owned.fresh
  have apart : ∀ other ∈ [block], other ∉ pointers := by
    intro other member
    rcases List.mem_singleton.mp member with rfl
    exact fresh
  rcases (owned.alloc params).lorawanMulticastRemove mac apart entry.address headAnswer
    unlinkAnswer with ⟨removed, status, kept, result, subset, keptOwned, untouched⟩
  have unlinked : block ∉ kept := fun member => fresh (subset member)
  have stored : removed.pool.cells.read block = some params := by
    rw [untouched block fresh]
    simp [State.alloc, Heap.read_alloc, block]
  by_cases linkOk : linkAnswer = LoRaMacStatus.ok
  · refine ⟨_, .ok, kept ++ [block], ?_, keptOwned.link mac stored rfl unlinked⟩
    simp [perform, lorawanMulticastAdd, linkOk, result, params]
  · refine ⟨_, .error, kept, ?_, keptOwned.freeHeld unlinked⟩
    simp [perform, lorawanMulticastAdd, linkOk, result, params]

/-- Every call returns, and leaves nothing in its own hands. -/
theorem perform (mac : MulticastMac) (owned : Owned allocated [] pointers state) (call : Call) :
    ∃ next status kept, Multicast.perform mac state call = some (next, status) ∧
      Owned (allocated ++ call.allocation state) [] kept next := by
  cases call with
  | add entry success headAnswer unlinkAnswer linkAnswer =>
      cases success with
      | false =>
          refine ⟨state, .error, pointers, rfl, ?_⟩
          simpa [Call.allocation] using owned
      | true => exact owned.add mac entry headAnswer unlinkAnswer linkAnswer
  | remove devAddr headAnswer unlinkAnswer =>
      rcases owned.lorawanMulticastRemove mac (by simp) devAddr headAnswer unlinkAnswer with
        ⟨next, status, kept, result, _, keptOwned, _⟩
      refine ⟨next, status, kept, result, ?_⟩
      simpa [Call.allocation] using keptOwned

theorem run (mac : MulticastMac) (calls : List Call)
    (owned : Owned allocated [] pointers state) :
    (∃ kept, Owned (allocated ++ allocations mac state calls) [] kept
      ((pools mac).run state calls)) ∧
    (pools mac).Along (fun state call => (pools mac).reply state call ≠ none) state calls := by
  induction calls generalizing allocated pointers state with
  | nil => exact ⟨⟨pointers, by simpa [allocations] using owned⟩, trivial⟩
  | cons call calls induction =>
      rcases owned.perform mac call with ⟨next, status, kept, result, keptOwned⟩
      have stepped : (pools mac).next state call = next := by
        simp [Machine.next, pools, result]
      have replied : (pools mac).reply state call = some status := by
        simp [Machine.reply, pools, result]
      rcases induction keptOwned with ⟨⟨final, finalOwned⟩, returns⟩
      constructor
      · refine ⟨final, ?_⟩
        rw [Machine.run_cons, allocations, stepped, ← List.append_assoc]
        exact finalOwned
      · refine ⟨?_, ?_⟩
        · change (pools mac).reply state call ≠ none
          rw [replied]
          exact Option.some_ne_none status
        · rw [stepped]
          exact returns

end Owned

/-- After any run from the empty pool the list ends and has each of its entries once,
the entries that are allocated are the linked ones, each block from `malloc` is either
linked or was freed, once, and every call has returned. -/
theorem multicast_entries_owned (mac : MulticastMac) (calls : List Call) :
    (∃ pointers, ((pools mac).run State.initial calls).pool.Holds pointers ∧ pointers.Nodup ∧
      (∀ block, (((pools mac).run State.initial calls).pool.cells.read block).isSome ↔
        block ∈ pointers) ∧
      allocations mac State.initial calls ~
        pointers ++ ((pools mac).run State.initial calls).freed) ∧
    (pools mac).Along (fun state call => (pools mac).reply state call ≠ none)
      State.initial calls := by
  rcases Owned.initial.run mac calls with ⟨⟨pointers, owned⟩, returns⟩
  refine ⟨⟨pointers, owned.holds, Chain.nodup owned.holds, owned.live, ?_⟩, returns⟩
  simpa using owned.accounted

/-- Two entries are added, and the first is removed again. -/
theorem multicast_entries_owned_removed_entry :
    let entry (address : DevAddr) : Entry :=
      { address
        nwkSKey := Vector.replicate 16 1#8
        appSKey := Vector.replicate 16 2#8
        downLinkCounter := 0 }
    let calls : List Call :=
      [.add (entry 7) true 0#32 0#32 0#32, .add (entry 8) true 0#32 0#32 0#32,
        .remove 7 0#32 0#32]
    ∃ pointers, ((pools linkingMac).run State.initial calls).pool.Holds pointers ∧
      [0, 1] ~ pointers ++ [0] := by
  intro entry calls
  have allocated : allocations linkingMac State.initial calls = [0, 1] := by decide
  have freed : ((pools linkingMac).run State.initial calls).freed = [0] := by decide
  rcases (multicast_entries_owned linkingMac calls).1 with ⟨pointers, holds, _, _, accounted⟩
  rw [allocated, freed] at accounted
  exact ⟨pointers, holds, accounted⟩

end Lorawan.Multicast

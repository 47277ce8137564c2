import Lorawan.Multicast.Pool

/-! # The pool is keyed by address

`lorawan_multicast_add` removes the address "from the list, if it is present", and
ignores whether that succeeded. The pool stays a map from addresses to keys exactly
as long as no entry is linked after a failed removal of its address. -/

namespace Lorawan.Multicast

/-- No two entries have the same address. -/
def Distinct (entries : List Entry) : Prop :=
  (entries.map Entry.address).Nodup

def State.Distinct (state : State) : Prop :=
  Multicast.Distinct state.pool.entries

/-- From `before` to `after`, the entry found at the address of `entry` came to have
its keys, and the entries of other addresses stayed. -/
def Updated (before after : List Entry) (entry : Entry) : Prop :=
  (∃ found, after.find? (fun other => other.address == entry.address) = some found ∧
      found.nwkSKey = entry.nwkSKey ∧ found.appSKey = entry.appSKey) ∧
    after.filter (fun other => other.address ≠ entry.address) =
      before.filter fun other => other.address ≠ entry.address

/-- An add that returns OK updates the pool. -/
def State.AddUpdates (mac : MulticastMac) (state : State) : Call → Prop
  | .add entry allocated headAnswer unlinkAnswer linkAnswer =>
      let call := Call.add entry allocated headAnswer unlinkAnswer linkAnswer
      (pools mac).reply state call = some .ok →
        Updated state.pool.entries ((pools mac).next state call).pool.entries entry
  | .remove .. => True

/-- When an entry is linked and the list already has one of its address, the MAC
hands out the list and unlinks the old entry. -/
def AddClear (entries : List Entry) : Call → Prop
  | .add entry allocated headAnswer unlinkAnswer linkAnswer =>
      allocated = true → linkAnswer = LoRaMacStatus.ok →
        (∃ present ∈ entries, present.address = entry.address) →
          headAnswer = LoRaMacStatus.ok ∧ unlinkAnswer = LoRaMacStatus.ok
  | .remove .. => True

def State.AddClear (state : State) (call : Call) : Prop :=
  Multicast.AddClear state.pool.entries call

/-! ## One step on entries -/

variable {entries : List Entry}

namespace Distinct

/-- Dropping the first entry of an address drops all of them. -/
theorem eraseP_eq (distinct : Distinct entries) (devAddr : DevAddr) :
    (entries.eraseP fun entry => entry.address == devAddr) =
      entries.filter fun entry => entry.address ≠ devAddr := by
  induction entries with
  | nil => rfl
  | cons head tail induction =>
      rcases List.nodup_cons.mp distinct with ⟨headNew, tailDistinct⟩
      by_cases same : head.address = devAddr
      · have others : ∀ entry ∈ tail, entry.address ≠ devAddr := fun entry member equal =>
          headNew (List.mem_map.mpr ⟨entry, member, equal.trans same.symm⟩)
        rw [List.eraseP_cons_of_pos (by simpa using same),
          List.filter_cons_of_neg (by simpa using same)]
        exact (List.filter_eq_self.mpr fun entry member => by simpa using others entry member).symm
      · rw [List.eraseP_cons_of_neg (by simpa using same),
          List.filter_cons_of_pos (by simpa using same), induction tailDistinct]

theorem removeEntry (distinct : Distinct entries) (devAddr : DevAddr)
    (headAnswer unlinkAnswer : LoRaMacStatus) :
    Distinct (removeEntry entries devAddr headAnswer unlinkAnswer).1 := by
  unfold Multicast.removeEntry
  split
  · exact List.Nodup.sublist (List.eraseP_sublist.map Entry.address) distinct
  · exact distinct

end Distinct

/-- A clear add first leaves the entries of the other addresses. -/
theorem removeEntry_of_clear (distinct : Distinct entries) (devAddr : DevAddr)
    (headAnswer unlinkAnswer : LoRaMacStatus)
    (clear : (∃ present ∈ entries, present.address = devAddr) →
      headAnswer = LoRaMacStatus.ok ∧ unlinkAnswer = LoRaMacStatus.ok) :
    (removeEntry entries devAddr headAnswer unlinkAnswer).1 =
      entries.filter fun entry => entry.address ≠ devAddr := by
  by_cases listed : ∃ present ∈ entries, present.address = devAddr
  · have removes : Removes entries devAddr headAnswer unlinkAnswer :=
      ⟨(clear listed).1, (clear listed).2, listed⟩
    rw [removeEntry, if_pos removes]
    exact distinct.eraseP_eq devAddr
  · have refused : ¬Removes entries devAddr headAnswer unlinkAnswer := fun removes =>
      listed removes.2.2
    rw [removeEntry, if_neg refused]
    refine (List.filter_eq_self.mpr fun entry member => ?_).symm
    have other : entry.address ≠ devAddr := fun same => listed ⟨entry, member, same⟩
    simpa using other

theorem distinct_append_iff {entry : Entry} :
    Distinct (entries ++ [entry]) ↔
      Distinct entries ∧ ∀ other ∈ entries, other.address ≠ entry.address := by
  unfold Distinct
  rw [List.map_append, List.nodup_append]
  constructor
  · intro whole
    refine ⟨whole.1, fun other member => ?_⟩
    exact whole.2.2 other.address (List.mem_map_of_mem member) entry.address (by simp)
  · intro parts
    refine ⟨parts.1, by simp, ?_⟩
    intro address member new newMem
    rcases List.mem_map.mp member with ⟨other, otherMem, rfl⟩
    rcases List.mem_singleton.mp newMem with rfl
    exact parts.2 other otherMem

/-- A removal that is not carried out leaves the old entry in front of the new one. -/
theorem distinct_linked_iff (distinct : Distinct entries) (linked : Entry)
    (headAnswer unlinkAnswer : LoRaMacStatus) :
    Distinct ((removeEntry entries linked.address headAnswer unlinkAnswer).1 ++ [linked]) ↔
      ((∃ present ∈ entries, present.address = linked.address) →
        headAnswer = LoRaMacStatus.ok ∧ unlinkAnswer = LoRaMacStatus.ok) := by
  rw [distinct_append_iff]
  constructor
  · intro parts stale
    rcases stale with ⟨present, member, sameAddr⟩
    by_contra refused
    have kept : (removeEntry entries linked.address headAnswer unlinkAnswer).1 = entries := by
      rw [removeEntry, if_neg fun removes => refused ⟨removes.1, removes.2.1⟩]
    exact parts.2 present (by rwa [kept]) sameAddr
  · intro clear
    rw [removeEntry_of_clear distinct _ _ _ clear]
    refine ⟨List.Nodup.sublist (List.filter_sublist.map Entry.address) distinct, ?_⟩
    intro other member
    simpa using (List.mem_filter.mp member).2

/-- What a clear add that links its entry makes of the pool. -/
theorem updated_of_clear (linked entry : Entry) (sameAddr : linked.address = entry.address)
    (sameNwkSKey : linked.nwkSKey = entry.nwkSKey)
    (sameAppSKey : linked.appSKey = entry.appSKey) :
    Updated entries
      ((entries.filter fun other => other.address ≠ entry.address) ++ [linked]) entry := by
  refine ⟨⟨linked, ?_, sameNwkSKey, sameAppSKey⟩, ?_⟩
  · rw [List.find?_append]
    have none : (entries.filter fun other => other.address ≠ entry.address).find?
        (fun other => other.address == entry.address) = none := by
      apply List.find?_eq_none.mpr
      intro other member
      simpa using (List.mem_filter.mp member).2
    rw [none, List.find?_cons_of_pos (by simpa using sameAddr)]
    rfl
  · rw [List.filter_append, List.filter_filter]
    simp [sameAddr]

theorem addEntry_spec (linkedCounter : BitVec 32 → BitVec 32) (distinct : Distinct entries)
    (entry : Entry) (allocated : Bool) (headAnswer unlinkAnswer linkAnswer : LoRaMacStatus) :
    let call := Call.add entry allocated headAnswer unlinkAnswer linkAnswer
    let result := addEntry linkedCounter entries entry allocated headAnswer unlinkAnswer linkAnswer
    (Distinct result.1 ↔ AddClear entries call) ∧
      (AddClear entries call → result.2 = .ok → Updated entries result.1 entry) := by
  intro call result
  cases allocated with
  | false =>
      constructor
      · exact ⟨fun _ impossible => by simp at impossible, fun _ => distinct⟩
      · intro _ ok
        simp [result, addEntry] at ok
  | true =>
      by_cases linkOk : linkAnswer = LoRaMacStatus.ok
      · have linked : result = ((removeEntry entries entry.address headAnswer unlinkAnswer).1 ++
            [entry.withCounter linkedCounter], .ok) := by
          simp [result, addEntry, linkOk]
        have clear_iff : AddClear entries call ↔
            ((∃ present ∈ entries, present.address = entry.address) →
              headAnswer = LoRaMacStatus.ok ∧ unlinkAnswer = LoRaMacStatus.ok) :=
          ⟨fun clear => clear rfl linkOk, fun clear _ _ => clear⟩
        constructor
        · rw [clear_iff, linked]
          exact distinct_linked_iff distinct (entry.withCounter linkedCounter) headAnswer
            unlinkAnswer
        · intro clear _
          rw [linked, removeEntry_of_clear distinct _ _ _ (clear_iff.mp clear)]
          exact updated_of_clear (entry.withCounter linkedCounter) entry rfl rfl rfl
      · have refused : result =
            ((removeEntry entries entry.address headAnswer unlinkAnswer).1, .error) := by
          simp [result, addEntry, linkOk]
        constructor
        · rw [refused]
          exact ⟨fun _ _ ok => absurd ok linkOk, fun _ => distinct.removeEntry _ _ _⟩
        · intro _ ok
          simp [refused] at ok

theorem distinct_next_iff (linkedCounter : BitVec 32 → BitVec 32) (distinct : Distinct entries)
    (call : Call) :
    Distinct ((entryPools linkedCounter).next entries call) ↔ AddClear entries call := by
  cases call with
  | add entry allocated headAnswer unlinkAnswer linkAnswer =>
      exact (addEntry_spec linkedCounter distinct entry allocated headAnswer unlinkAnswer
        linkAnswer).1
  | remove devAddr headAnswer unlinkAnswer =>
      exact ⟨fun _ => trivial, fun _ => distinct.removeEntry devAddr headAnswer unlinkAnswer⟩

/-! ## Whole runs -/

theorem distinct_throughout_iff (mac : MulticastMac) (calls : List Call) :
    (pools mac).Throughout State.Distinct State.initial calls ↔
      (pools mac).Along State.AddClear State.initial calls := by
  let refinement := entryRefinement mac
  have holds : refinement.invariant State.initial := ⟨[], initial_holds⟩
  have distinctViewed : (pools mac).Throughout State.Distinct State.initial calls ↔
      (entryPools mac.linkedCounter).Throughout Distinct State.initial.pool.entries calls :=
    refinement.throughout_iff (fun _ _ => Iff.rfl) calls State.initial holds
  have agree : ∀ state call, refinement.invariant state →
      (state.AddClear call ↔ AddClear (refinement.view state) call) := fun _ _ _ => Iff.rfl
  have clearViewed : (pools mac).Along State.AddClear State.initial calls ↔
      (entryPools mac.linkedCounter).Along AddClear State.initial.pool.entries calls :=
    refinement.along_iff agree calls State.initial holds
  rw [distinctViewed, clearViewed, initial_entries]
  exact (entryPools mac.linkedCounter).throughout_iff_along (fun _ => True)
    (fun _ _ _ => trivial)
    (fun _ call _ distinct => distinct_next_iff mac.linkedCounter distinct call)
    calls [] trivial List.nodup_nil

theorem addUpdates_of_clear (mac : MulticastMac) {state : State} {pointers : List Nat}
    (holds : state.pool.Holds pointers) (distinct : state.Distinct) (call : Call)
    (clear : state.AddClear call) : state.AddUpdates mac call := by
  cases call with
  | remove devAddr headAnswer unlinkAnswer => trivial
  | add entry allocated headAnswer unlinkAnswer linkAnswer =>
      intro ok
      let call := Call.add entry allocated headAnswer unlinkAnswer linkAnswer
      have viewed := (entryRefinement mac).view_next state call ⟨pointers, holds⟩
      have replied := (entryRefinement mac).reply_eq state call ⟨pointers, holds⟩
      rw [ok] at replied
      have updated := (addEntry_spec mac.linkedCounter distinct entry allocated headAnswer
        unlinkAnswer linkAnswer).2 clear (Option.some.inj replied.symm)
      change ((pools mac).next state call).pool.entries = _ at viewed
      rw [viewed]
      exact updated

/-- In every run the pool is keyed by address, and adds that return OK update it,
exactly when every add is clear; and every call returns. -/
theorem multicast_pool_keyed_iff (mac : MulticastMac) (calls : List Call) :
    ((pools mac).Throughout State.Distinct State.initial calls ∧
        (pools mac).Along (State.AddUpdates mac) State.initial calls ↔
      (pools mac).Along State.AddClear State.initial calls) ∧
    (pools mac).Along (fun state call => (pools mac).reply state call ≠ none)
      State.initial calls := by
  let refinement := entryRefinement mac
  have holds : refinement.invariant State.initial := ⟨[], initial_holds⟩
  constructor
  · constructor
    · exact fun both => (distinct_throughout_iff mac calls).mp both.1
    · intro clear
      have distinct := (distinct_throughout_iff mac calls).mpr clear
      refine ⟨distinct, ?_⟩
      apply (pools mac).along_of_invariant
        (fun state => refinement.invariant state ∧ state.Distinct) _ _ calls State.initial clear
        ⟨holds, by simp [State.Distinct, Distinct]⟩
      · intro state call invariant clear
        rcases invariant with ⟨⟨pointers, holds⟩, distinct⟩
        refine ⟨refinement.preserved state call ⟨pointers, holds⟩, ?_⟩
        have viewed := refinement.view_next state call ⟨pointers, holds⟩
        change ((pools mac).next state call).pool.entries = _ at viewed
        rw [State.Distinct, viewed]
        exact (distinct_next_iff mac.linkedCounter distinct call).mpr clear
      · intro state call invariant clear
        rcases invariant with ⟨⟨pointers, holds⟩, distinct⟩
        exact addUpdates_of_clear mac holds distinct call clear
  · apply (pools mac).along_of_invariant refinement.invariant _ _ calls State.initial
      ((pools mac).along_of_forall (fun _ _ => trivial) calls State.initial) holds
    · exact fun state call holds _ => refinement.preserved state call holds
    · intro state call invariant _
      rcases invariant with ⟨pointers, holds⟩
      rcases perform_spec mac holds call with ⟨next, status, kept, result, _⟩
      simp [Machine.reply, pools, result]

end Lorawan.Multicast

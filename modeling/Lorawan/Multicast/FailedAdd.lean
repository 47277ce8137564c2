import Lorawan.Multicast.LinkingMac

/-! # Adds that fail

`lorawan_multicast_add` frees its own entry when the MAC does not link it. The entry
that it replaced is gone by then. -/

namespace Lorawan.Multicast

/-- A call that returns anything but OK leaves the entries as they were. -/
def State.FailsCleanly (mac : MulticastMac) (state : State) (call : Call) : Prop :=
  ∀ status, (pools mac).reply state call = some status → status ≠ .ok →
    ((pools mac).next state call).pool.entries = state.pool.entries

/-- The old entry of the address is taken out, and the new one is then refused. -/
def Loses (entries : List Entry) (entry : Entry) (allocated : Bool)
    (headAnswer unlinkAnswer linkAnswer : LoRaMacStatus) : Prop :=
  allocated = true ∧ Removes entries entry.address headAnswer unlinkAnswer ∧
    linkAnswer ≠ LoRaMacStatus.ok

theorem removeEntry_eq_iff (entries : List Entry) (devAddr : DevAddr)
    (headAnswer unlinkAnswer : LoRaMacStatus) :
    (removeEntry entries devAddr headAnswer unlinkAnswer).1 = entries ↔
      ¬Removes entries devAddr headAnswer unlinkAnswer := by
  constructor
  · intro same removes
    rcases removes.2.2 with ⟨entry, member, sameAddr⟩
    rw [removeEntry, if_pos removes] at same
    have shorter := List.length_eraseP_of_mem (p := fun entry => entry.address == devAddr)
      member (by simpa using sameAddr)
    have nonempty := List.length_pos_of_mem member
    have unchanged : (entries.eraseP fun entry => entry.address == devAddr) = entries := same
    rw [unchanged] at shorter
    omega
  · intro refused
    rw [removeEntry, if_neg refused]

theorem addEntry_failsCleanly_iff (linkedCounter : BitVec 32 → BitVec 32)
    (entries : List Entry) (entry : Entry) (allocated : Bool)
    (headAnswer unlinkAnswer linkAnswer : LoRaMacStatus) :
    ((addEntry linkedCounter entries entry allocated headAnswer unlinkAnswer linkAnswer).2 ≠ .ok →
      (addEntry linkedCounter entries entry allocated headAnswer unlinkAnswer linkAnswer).1 =
        entries) ↔
      ¬Loses entries entry allocated headAnswer unlinkAnswer linkAnswer := by
  cases allocated with
  | false => simp [addEntry, Loses]
  | true =>
      by_cases linkOk : linkAnswer = LoRaMacStatus.ok
      · simp [addEntry, Loses, linkOk]
      · have kept := removeEntry_eq_iff entries entry.address headAnswer unlinkAnswer
        simp [addEntry, Loses, linkOk, kept]

/-- Whatever the pool holds, a failed add leaves it alone except when the old entry
was taken out and the new one refused. -/
theorem failed_add_clean_iff (mac : MulticastMac) (state : State) (pointers : List Nat)
    (holds : state.pool.Holds pointers) (entry : Entry) (allocated : Bool)
    (headAnswer unlinkAnswer linkAnswer : LoRaMacStatus) :
    state.FailsCleanly mac (.add entry allocated headAnswer unlinkAnswer linkAnswer) ↔
      ¬Loses state.pool.entries entry allocated headAnswer unlinkAnswer linkAnswer := by
  let call := Call.add entry allocated headAnswer unlinkAnswer linkAnswer
  have viewed := (entryRefinement mac).view_next state call ⟨pointers, holds⟩
  have replied := (entryRefinement mac).reply_eq state call ⟨pointers, holds⟩
  change ((pools mac).next state call).pool.entries = _ at viewed
  have entryLevel := addEntry_failsCleanly_iff mac.linkedCounter state.pool.entries entry
    allocated headAnswer unlinkAnswer linkAnswer
  rw [← entryLevel]
  unfold State.FailsCleanly
  change (∀ status, (pools mac).reply state call = some status → status ≠ .ok → _) ↔ _
  rw [replied, viewed]
  constructor
  · intro clean failed
    exact clean _ rfl failed
  · intro clean status returned failed
    rcases Option.some.inj returned with rfl
    exact clean failed

/-! ## A refused update -/

def updateOf (key : Byte) : Entry where
  address := 7#32
  nwkSKey := Vector.replicate 16 key
  appSKey := Vector.replicate 16 key
  downLinkCounter := 0#32

/-- One address, with its first keys. -/
def updatable : State :=
  (pools linkingMac).next State.initial (.add (updateOf 1#8) true 0#32 0#32 0#32)

theorem updatable_holds : updatable.pool.Holds [0] := by
  have read : updatable.pool.cells.read 0 =
      some ⟨7#32, Vector.replicate 16 1#8, Vector.replicate 16 1#8, 0#32, none⟩ := rfl
  exact .cons read (.nil none)

/-- A busy MAC that refuses everything does no harm. -/
theorem failed_add_clean_busy :
    updatable.FailsCleanly linkingMac (.add (updateOf 2#8) true 1#32 1#32 1#32) :=
  (failed_add_clean_iff linkingMac updatable [0] updatable_holds (updateOf 2#8) true 1#32 1#32
    1#32).mpr (fun lost => absurd lost.2.1.1 (by decide))

/-- The MAC hands out the list and unlinks the old entry, and is busy when asked to
link: the add reports an error, and the address is gone. -/
theorem failed_add_loses_address :
    ¬updatable.FailsCleanly linkingMac (.add (updateOf 2#8) true 0#32 0#32 1#32) ∧
      (pools linkingMac).reply updatable (.add (updateOf 2#8) true 0#32 0#32 1#32) =
        some .error ∧
      updatable.pool.entries = [updateOf 1#8] ∧
      ((pools linkingMac).next updatable
        (.add (updateOf 2#8) true 0#32 0#32 1#32)).pool.entries = [] := by
  have before : updatable.pool.entries = [updateOf 1#8] := by decide
  have after : ((pools linkingMac).next updatable
      (.add (updateOf 2#8) true 0#32 0#32 1#32)).pool.entries = [] := by decide
  have failed : (pools linkingMac).reply updatable
      (.add (updateOf 2#8) true 0#32 0#32 1#32) = some .error := by decide
  refine ⟨?_, failed, before, after⟩
  intro clean
  have same := clean .error failed (by decide)
  rw [before, after] at same
  exact absurd same (by decide)

end Lorawan.Multicast

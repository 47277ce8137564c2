import Mathlib.Logic.Function.Basic
import Mathlib.Tactic.Common

/-! # Ownership registries

A registry records which holders are open, the address each open holder is
pinned to, and who owns each address/slot couple. Holders come and go; a bind
pins its holder and, when the couple is free, gives it the couple. -/

namespace Lorawan

structure Registry (Holder : Type u) (Address : Type v) (Slot : Type w) where
  /-- `none` when closed, `some none` when open and not pinned yet. -/
  pin : Holder → Option (Option Address)
  owner : Address → Slot → Option Holder

namespace Registry

variable {Holder : Type u} {Address : Type v} {Slot : Type w}

@[ext] theorem ext {left right : Registry Holder Address Slot}
    (samePin : ∀ holder, left.pin holder = right.pin holder)
    (sameOwner : ∀ address slot, left.owner address slot = right.owner address slot) :
    left = right := by
  cases left
  cases right
  congr
  · exact funext samePin
  · exact funext fun address => funext (sameOwner address)

/-- Nobody is open and nothing is owned. -/
def empty : Registry Holder Address Slot where
  pin _ := none
  owner _ _ := none

variable [DecidableEq Holder] [DecidableEq Address] [DecidableEq Slot]

def opens (registry : Registry Holder Address Slot) (holder : Holder) :
    Registry Holder Address Slot :=
  { registry with pin := Function.update registry.pin holder (some none) }

def close (registry : Registry Holder Address Slot) (holder : Holder) :
    Registry Holder Address Slot where
  pin := Function.update registry.pin holder none
  owner address slot :=
    if registry.owner address slot = some holder then none else registry.owner address slot

/-- The holder is open, and not pinned to another address. -/
def Admits (registry : Registry Holder Address Slot) (holder : Holder)
    (address : Address) : Prop :=
  registry.pin holder = some none ∨ registry.pin holder = some (some address)

instance (registry : Registry Holder Address Slot) (holder : Holder) (address : Address) :
    Decidable (registry.Admits holder address) :=
  inferInstanceAs (Decidable (_ ∨ _))

/-- A bind succeeds: the holder is admitted, the slot can be owned and the couple
is free. -/
def Grants (registry : Registry Holder Address Slot) (usable : Slot → Prop)
    (holder : Holder) (address : Address) (slot : Slot) : Prop :=
  registry.Admits holder address ∧ usable slot ∧ registry.owner address slot = none

instance (registry : Registry Holder Address Slot) (usable : Slot → Prop)
    [DecidablePred usable] (holder : Holder) (address : Address) (slot : Slot) :
    Decidable (registry.Grants usable holder address slot) :=
  inferInstanceAs (Decidable (_ ∧ _ ∧ _))

/-- An admitted holder is pinned even when the couple is refused. -/
def bind (registry : Registry Holder Address Slot) (usable : Slot → Prop)
    [DecidablePred usable] (holder : Holder) (address : Address) (slot : Slot) :
    Registry Holder Address Slot where
  pin :=
    if registry.Admits holder address then
      Function.update registry.pin holder (some (some address))
    else registry.pin
  owner otherAddress otherSlot :=
    if registry.Grants usable holder address slot ∧
        otherAddress = address ∧ otherSlot = slot then some holder
    else registry.owner otherAddress otherSlot

section Bind

variable (registry : Registry Holder Address Slot) (usable : Slot → Prop)
  [DecidablePred usable] (holder : Holder) (address : Address) (slot : Slot)

theorem pin_bind_of_admits (admitted : registry.Admits holder address) :
    (registry.bind usable holder address slot).pin =
      Function.update registry.pin holder (some (some address)) := by
  simp [bind, admitted]

theorem pin_bind_of_not_admits (refused : ¬registry.Admits holder address) :
    (registry.bind usable holder address slot).pin = registry.pin := by
  simp [bind, refused]

theorem owner_bind_of_grants (granted : registry.Grants usable holder address slot)
    (otherAddress : Address) (otherSlot : Slot) :
    (registry.bind usable holder address slot).owner otherAddress otherSlot =
      if otherAddress = address ∧ otherSlot = slot then some holder
      else registry.owner otherAddress otherSlot := by
  simp [bind, granted]

theorem owner_bind_of_not_grants (refused : ¬registry.Grants usable holder address slot) :
    (registry.bind usable holder address slot).owner = registry.owner := by
  funext otherAddress otherSlot
  simp [bind, refused]

/-- A bind opens and closes nobody. -/
theorem pin_bind_eq_none (other : Holder) :
    (registry.bind usable holder address slot).pin other = none ↔ registry.pin other = none := by
  by_cases admitted : registry.Admits holder address
  · rw [pin_bind_of_admits _ _ _ _ _ admitted]
    by_cases same : other = holder
    · subst same
      rcases admitted with unpinned | pinned
      · simp [unpinned]
      · simp [pinned]
    · rw [Function.update_of_ne same]
  · rw [pin_bind_of_not_admits _ _ _ _ _ admitted]

/-- A bind keeps what its holder is admitted to at the address that it names. -/
theorem admits_bind {other : Holder} {otherAddress : Address}
    (agree : other = holder → otherAddress = address) :
    (registry.bind usable holder address slot).Admits other otherAddress ↔
      registry.Admits other otherAddress := by
  by_cases admitted : registry.Admits holder address
  · unfold Admits
    rw [pin_bind_of_admits _ _ _ _ _ admitted]
    by_cases same : other = holder
    · have sameAddress := agree same
      subst same sameAddress
      have before : registry.pin other = some none ∨
          registry.pin other = some (some otherAddress) := admitted
      simpa using before
    · rw [Function.update_of_ne same]
  · unfold Admits
    rw [pin_bind_of_not_admits _ _ _ _ _ admitted]

/-- Binds of different couples do not take anything from each other. -/
theorem grants_bind {other : Holder} {otherAddress : Address} {otherSlot : Slot}
    (agree : other = holder → otherAddress = address)
    (apart : ¬(otherAddress = address ∧ otherSlot = slot)) :
    (registry.bind usable holder address slot).Grants usable other otherAddress otherSlot ↔
      registry.Grants usable other otherAddress otherSlot := by
  have sameOwner : (registry.bind usable holder address slot).owner otherAddress otherSlot =
      registry.owner otherAddress otherSlot := by
    simp [bind, apart]
  rw [Grants, Grants, admits_bind registry usable holder address slot agree, sameOwner]

end Bind

omit [DecidableEq Address] [DecidableEq Slot] in
theorem owner_close_eq_some (registry : Registry Holder Address Slot)
    (closed : Holder) (address : Address) (slot : Slot) (holder : Holder) :
    (registry.close closed).owner address slot = some holder ↔
      registry.owner address slot = some holder ∧ holder ≠ closed := by
  by_cases owned : registry.owner address slot = some closed
  · simp only [close, owned, if_true]
    constructor
    · intro impossible
      cases impossible
    · intro ⟨same, different⟩
      exact absurd (Option.some.inj same).symm different
  · simp only [close, owned, if_false]
    constructor
    · intro same
      refine ⟨same, fun equal => owned (equal ▸ same)⟩
    · exact fun both => both.1

end Registry

end Lorawan

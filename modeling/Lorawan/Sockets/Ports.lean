import Lorawan.Mac
import Mathlib.Tactic.Common

/-! # The port bitmap

`uint32_t ports[8]` holds one bit for each of the 256 values of a port. -/

namespace Lorawan.Sockets

abbrev Ports := Vector (BitVec 32) 8

namespace Ports

/-- The bitmap that `memset` leaves. -/
def empty : Ports := Vector.replicate 8 0#32

/-- `port/32`. -/
def slot (port : Port) : Fin 8 := ⟨port.toNat / 32, by omega⟩

/-- `port%32`. -/
def position (port : Port) : Nat := port.toNat % 32

/-- `1<<position`. The shift by 31 sets the top bit, as compilers for the
targets have it. -/
def mask (port : Port) : BitVec 32 := 1#32 <<< position port

/-- `( ports[slot] & (1<<position) ) != 0`. -/
def contains (ports : Ports) (port : Port) : Bool :=
  ports[slot port] &&& mask port ≠ 0#32

/-- `ports[slot] |= (1<<position)`. -/
def add (ports : Ports) (port : Port) : Ports :=
  ports.set (slot port) (ports[slot port] ||| mask port)

/-- What `ports[slot] |= (1<<position)` reads. -/
def word (ports : Ports) (port : Port) : BitVec 32 := ports[slot port]

/-- What it then writes. -/
def writeBack (ports : Ports) (port : Port) (word : BitVec 32) : Ports :=
  ports.set (slot port) (word ||| mask port)

theorem writeBack_word (ports : Ports) (port : Port) :
    ports.writeBack port (ports.word port) = ports.add port := rfl

/-- The index at which the loop of `lorawan_recv` over the slots stops: the
first slot with a bit set, or 8. -/
def firstUsed (ports : Ports) : Nat :=
  ports.toList.findIdx fun word => word ≠ 0#32

theorem getLsbD_mask (port : Port) (bit : Nat) :
    (mask port).getLsbD bit = decide (bit = position port) := by
  have within : position port < 32 := by unfold position; omega
  simp only [mask, BitVec.getLsbD_shiftLeft, BitVec.getLsbD_one]
  by_cases same : bit = position port
  · subst same; simp [within]
  · simp [same]
    omega

theorem contains_eq_getLsbD (ports : Ports) (port : Port) :
    contains ports port = ports[slot port].getLsbD (position port) := by
  unfold contains
  generalize ports[slot port] = word
  cases bit : word.getLsbD (position port) with
  | false =>
      have cleared : word &&& mask port = 0#32 := by
        apply BitVec.eq_of_getLsbD_eq
        intro index _
        rw [BitVec.getLsbD_and, getLsbD_mask]
        by_cases same : index = position port <;> simp [same, bit]
      simp [cleared]
  | true =>
      have kept : word &&& mask port ≠ 0#32 := by
        intro cleared
        have read := congrArg (fun word : BitVec 32 => word.getLsbD (position port)) cleared
        simp [BitVec.getLsbD_and, getLsbD_mask, bit] at read
      exact decide_eq_true kept

/-- A port is known by its slot and its position. -/
theorem eq_of_slot_position {left right : Port} (sameSlot : slot left = slot right)
    (samePosition : position left = position right) : left = right := by
  apply BitVec.eq_of_toNat_eq
  have quotient : left.toNat / 32 = right.toNat / 32 := congrArg Fin.val sameSlot
  have remainder : left.toNat % 32 = right.toNat % 32 := samePosition
  omega

@[simp] theorem contains_empty (port : Port) : contains empty port = false := by
  simp [contains, empty]

@[simp] theorem contains_add (ports : Ports) (added port : Port) :
    contains (add ports added) port = (contains ports port || decide (port = added)) := by
  rw [contains_eq_getLsbD, contains_eq_getLsbD]
  by_cases sameSlot : slot port = slot added
  · have word : (add ports added)[slot port] = ports[slot port] ||| mask added := by
      simp [add, sameSlot]
    rw [word, BitVec.getLsbD_or, getLsbD_mask]
    by_cases same : port = added
    · simp [same]
    · have apart : position port ≠ position added := fun equal =>
        same (eq_of_slot_position sameSlot equal)
      simp [same, apart]
  · have word : (add ports added)[slot port] = ports[slot port] := by
      have apart : (slot added).val ≠ (slot port).val := fun equal =>
        sameSlot (Fin.ext equal.symm)
      simp [add, apart]
    have different : port ≠ added := fun equal => sameSlot (by rw [equal])
    simp [word, different]

theorem add_right_comm (ports : Ports) (first second : Port) :
    add (add ports first) second = add (add ports second) first := by
  by_cases sameSlot : slot first = slot second
  · simp only [add, sameSlot]
    simp [BitVec.or_assoc, BitVec.or_comm (mask first)]
  · have apart : (slot first).val ≠ (slot second).val := fun equal => sameSlot (Fin.ext equal)
    unfold add
    simp only [Fin.getElem_fin, Vector.getElem_set_ne _ _ apart,
      Vector.getElem_set_ne _ _ apart.symm]
    exact Vector.set_comm _ _ apart

/-- The loop of `lorawan_recv` runs off the end exactly when no port is set. -/
theorem firstUsed_eq_eight (ports : Ports) :
    firstUsed ports = 8 ↔ ∀ port, contains ports port = false := by
  have length : ports.toList.length = 8 := by simp
  have runsOff : firstUsed ports = 8 ↔ ∀ word ∈ ports.toList, word = 0#32 := by
    have stops : ports.toList.findIdx (fun word => decide (word ≠ 0#32)) =
        ports.toList.length ↔ _ := List.findIdx_eq_length
    rw [length] at stops
    simpa [firstUsed] using stops
  rw [runsOff]
  constructor
  · intro zeros port
    have zero : ports[slot port] = 0#32 := zeros _ (by simp)
    simp [contains, zero]
  · intro none word member
    rcases List.mem_iff_getElem.mp member with ⟨index, bound, rfl⟩
    apply BitVec.eq_of_getLsbD_eq
    intro bit bitBound
    rw [length] at bound
    let port : Port := BitVec.ofNat 8 (index * 32 + bit)
    have value : port.toNat = index * 32 + bit := by
      simp [port]
      omega
    have sameSlot : (slot port).val = index := by
      simp only [slot, value]
      omega
    have samePosition : position port = bit := by
      simp only [position, value]
      omega
    have cleared := none port
    rw [contains_eq_getLsbD, samePosition] at cleared
    simpa [sameSlot] using cleared

end Ports

end Lorawan.Sockets

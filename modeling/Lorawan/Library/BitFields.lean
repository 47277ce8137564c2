import Mathlib.Tactic.Common

/-! # Bit fields of a register

A field is the set of its bits. A register is updated by keeping the bits of a mask and
setting those of a value. -/

namespace Lorawan.BitFields

variable {w : Nat}

/-- A field that the mask clears takes the bits of the value. -/
theorem and_field_of_cleared (register value : BitVec w) {mask field : BitVec w}
    (cleared : mask &&& field = 0#w) :
    ((register &&& mask) ||| value) &&& field = value &&& field := by
  rw [BitVec.and_or_distrib_right, BitVec.and_assoc, cleared, BitVec.and_zero,
    BitVec.zero_or]

/-- A field that the mask keeps and the value does not touch is as before. -/
theorem and_field_of_kept (register : BitVec w) {mask value field : BitVec w}
    (kept : mask &&& field = field) (apart : value &&& field = 0#w) :
    ((register &&& mask) ||| value) &&& field = register &&& field := by
  rw [BitVec.and_or_distrib_right, BitVec.and_assoc, kept, apart, BitVec.or_zero]

end Lorawan.BitFields

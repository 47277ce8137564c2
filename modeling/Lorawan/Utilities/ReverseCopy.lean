import Mathlib.Logic.Function.Basic
import Lorawan.Mac

/-! # The reversing copy of `utilities.c`

`memcpyr` reads each byte just before it writes one. Where the arrays overlap, it may read
what it has written. -/

namespace Lorawan.Utilities

/-- Byte addresses and what they hold. -/
abbrev Memory := Nat → Byte

/-- The first `count` iterations of `dst[i] = src[size-1-i]`. -/
def memcpyrLoop (memory : Memory) (dst src size : Nat) : Nat → Memory
  | 0 => memory
  | count + 1 =>
      let memory := memcpyrLoop memory dst src size count
      Function.update memory (dst + count) (memory (src + (size - 1 - count)))

def memcpyr (memory : Memory) (dst src : Nat) (size : BitVec 16) : Memory :=
  memcpyrLoop memory dst src size.toNat size.toNat

/-- The iteration `i` reads what an earlier one has written. -/
def ReadsWritten (dst src size i : Nat) : Prop :=
  dst ≤ src + (size - 1 - i) ∧ src + (size - 1 - i) < dst + i

instance (dst src size i : Nat) : Decidable (ReadsWritten dst src size i) :=
  inferInstanceAs (Decidable (_ ∧ _))

section Loop

variable (memory : Memory) (dst src size count : Nat)

theorem memcpyrLoop_outside (address : Nat)
    (outside : address < dst ∨ dst + count ≤ address) :
    memcpyrLoop memory dst src size count address = memory address := by
  induction count with
  | zero => rfl
  | succ count induction =>
      rw [memcpyrLoop, Function.update_of_ne (by omega)]
      exact induction (by omega)

/-- The iterations are mirrored at the middle of the overlap: one that reads what an earlier
one has written gets back the byte that its own place had before. -/
theorem memcpyrLoop_inside (fits : count ≤ size) (i : Nat) (inside : i < count) :
    memcpyrLoop memory dst src size count (dst + i) =
      if ReadsWritten dst src size i then memory (dst + i)
      else memory (src + (size - 1 - i)) := by
  induction count generalizing i with
  | zero => omega
  | succ count induction =>
      rw [memcpyrLoop]
      by_cases last : i = count
      · subst last
        rw [Function.update_self]
        by_cases reads : ReadsWritten dst src size i
        · rw [if_pos reads]
          rcases reads with ⟨above, below⟩
          let earlier := src + (size - 1 - i) - dst
          have place : src + (size - 1 - i) = dst + earlier := by omega
          have mirrored : src + (size - 1 - earlier) = dst + i := by omega
          have fresh : ¬ReadsWritten dst src size earlier := by
            intro reads
            have below := reads.2
            omega
          rw [place, induction (by omega) earlier (by omega), if_neg fresh, mirrored]
        · rw [if_neg reads]
          apply memcpyrLoop_outside
          by_cases above : dst ≤ src + (size - 1 - i)
          · exact .inr (Nat.le_of_not_lt fun below => reads ⟨above, below⟩)
          · exact .inl (Nat.lt_of_not_le above)
      · rw [Function.update_of_ne (by omega)]
        exact induction (by omega) i (by omega)

end Loop

/-! ## Where the copy is the reversal -/

/-- Some iteration reads what was written exactly when the arrays overlap by two bytes or
more. -/
theorem exists_readsWritten_iff (dst src size : Nat) :
    (∃ i < size, ReadsWritten dst src size i) ↔
      ¬(src + size ≤ dst + 1 ∨ dst + size ≤ src + 1) := by
  constructor
  · rintro ⟨i, bound, above, below⟩
    omega
  · intro overlap
    refine ⟨(src + size - 1 - dst) / 2 + 1, ?_, ?_, ?_⟩
    · omega
    · omega
    · omega

/-- The copy is the reversal of the source, whatever the memory holds, exactly when the arrays
have at most one byte in common; the rest of the memory is always left alone. Where it is the
reversal both ways, copying back restores the source. -/
theorem memcpyr_reverses_iff (dst src : Nat) (size : BitVec 16) :
    ((∀ memory : Memory, ∀ i < size.toNat,
        memcpyr memory dst src size (dst + i) = memory (src + (size.toNat - 1 - i))) ↔
      src + size.toNat ≤ dst + 1 ∨ dst + size.toNat ≤ src + 1) ∧
    (∀ memory : Memory, ∀ address, address < dst ∨ dst + size.toNat ≤ address →
      memcpyr memory dst src size address = memory address) ∧
    ∀ back, (src + size.toNat ≤ dst + 1 ∨ dst + size.toNat ≤ src + 1) →
      (dst + size.toNat ≤ back + 1 ∨ back + size.toNat ≤ dst + 1) →
      ∀ memory : Memory, ∀ i < size.toNat,
        memcpyr (memcpyr memory dst src size) back dst size (back + i) = memory (src + i) := by
  have reverses : ∀ dst src, (src + size.toNat ≤ dst + 1 ∨ dst + size.toNat ≤ src + 1) →
      ∀ memory : Memory, ∀ i < size.toNat,
        memcpyr memory dst src size (dst + i) = memory (src + (size.toNat - 1 - i)) := by
    intro dst src apart memory i bound
    have fresh : ¬ReadsWritten dst src size.toNat i := by
      intro reads
      exact (exists_readsWritten_iff dst src size.toNat).mp ⟨i, bound, reads⟩ apart
    rw [memcpyr, memcpyrLoop_inside _ _ _ _ _ (Nat.le_refl _) i bound, if_neg fresh]
  refine ⟨⟨?_, reverses dst src⟩, ?_, ?_⟩
  · intro reversed
    by_contra overlap
    rcases (exists_readsWritten_iff dst src size.toNat).mpr overlap with ⟨i, bound, reads⟩
    let marked : Memory := fun address => if address = dst + i then 1 else 0
    have value := reversed marked i bound
    rw [memcpyr, memcpyrLoop_inside _ _ _ _ _ (Nat.le_refl _) i bound, if_pos reads] at value
    have elsewhere : src + (size.toNat - 1 - i) ≠ dst + i := Nat.ne_of_lt reads.2
    simp [marked, elsewhere] at value
  · intro memory address outside
    exact memcpyrLoop_outside memory dst src size.toNat size.toNat address outside
  · intro back apart backApart memory i bound
    rw [reverses back dst backApart _ i bound,
      reverses dst src apart _ (size.toNat - 1 - i) (by omega)]
    congr 1
    omega

/-- In place the second half is kept and mirrored into the first. -/
example :
    let memory := memcpyr (fun address => BitVec.ofNat 8 address) 0 0 4#16
    (List.range 4).map memory = [3, 2, 2, 3] := by
  decide

end Lorawan.Utilities

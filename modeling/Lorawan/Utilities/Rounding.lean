import Lorawan.Library.Truncation
import Mathlib.Data.Rat.Floor
import Mathlib.Tactic.Linarith
import Mathlib.Tactic.NormNum

/-! # The rounding functions of `utilities.c`

A `double` stands for the exact number it denotes. Every function passes through
`int64_t`, which holds the numbers of magnitude up to `2 ^ 62` that the laws below
are about. -/

namespace Lorawan.Utilities

abbrev Double := ℚ

/-- The cast drops the fraction. -/
def toInt64 (d : Double) : BitVec 64 := BitVec.ofInt 64 (truncate d)

def ofInt64 (i : BitVec 64) : Double := i.toInt

def ceil (d : Double) : Double :=
  let i := toInt64 d
  if d = ofInt64 i then
    ofInt64 i
  else
    ofInt64 (i + 1#64)

def floor (d : Double) : Double := ofInt64 (toInt64 d)

def round (d : Double) : Double := ofInt64 (toInt64 (d + 1 / 2))

def rint (d : Double) : Double := round d

/-! ## What the functions compute within the range -/

theorem truncate_bounds {d : Double} (bounded : |d| ≤ 2 ^ 62 + 1) :
    -(2 ^ 62 + 1) ≤ truncate d ∧ truncate d ≤ 2 ^ 62 + 1 := by
  have cast : |d| ≤ ((2 ^ 62 + 1 : Int) : Double) := by
    norm_num at bounded ⊢
    exact bounded
  exact abs_le.mp (abs_truncate_le cast)

theorem ofInt64_toInt64 {d : Double} (bounded : |d| ≤ 2 ^ 62 + 1) :
    ofInt64 (toInt64 d) = truncate d := by
  have inside := truncate_bounds bounded
  rw [ofInt64, toInt64, BitVec.toInt_ofInt_eq_self (by omega) (by omega) (by omega)]

theorem floor_eq {d : Double} (bounded : |d| ≤ 2 ^ 62) : floor d = truncate d := by
  exact ofInt64_toInt64 (bounded.trans (by norm_num))

theorem round_eq {d : Double} (bounded : |d| ≤ 2 ^ 62) :
    round d = truncate (d + 1 / 2) := by
  apply ofInt64_toInt64
  rcases abs_le.mp bounded with ⟨lower, upper⟩
  apply abs_le.mpr
  constructor
  · linarith
  · linarith

theorem ceil_eq_of_whole {d : Double} (bounded : |d| ≤ 2 ^ 62) (whole : Whole d) :
    ceil d = truncate d := by
  have cast := ofInt64_toInt64 (bounded.trans (by norm_num))
  rw [ceil, cast, if_pos (whole_iff.mp whole)]

theorem ceil_eq_of_not_whole {d : Double} (bounded : |d| ≤ 2 ^ 62) (fraction : ¬Whole d) :
    ceil d = truncate d + 1 := by
  have cast := ofInt64_toInt64 (bounded.trans (by norm_num))
  have inside := truncate_bounds (bounded.trans (by norm_num))
  have one : (1#64).toInt = 1 := by decide
  have larger : ofInt64 (toInt64 d + 1#64) = truncate d + 1 := by
    rw [ofInt64, BitVec.toInt_add, toInt64, one,
      BitVec.toInt_ofInt_eq_self (by omega) (by omega) (by omega),
      Int.bmod_eq_of_le (by omega) (by omega)]
    push_cast
    rfl
  rw [ceil, cast, if_neg (fun equal => fraction (whole_iff.mpr equal)), larger]

/-! ## The laws -/

def IsFloor (result d : Double) : Prop :=
  ∃ whole : Int, result = whole ∧ whole ≤ d ∧ d < whole + 1

def IsCeil (result d : Double) : Prop :=
  ∃ whole : Int, result = whole ∧ whole - 1 < d ∧ d ≤ whole

def IsNearest (result d : Double) : Prop :=
  ∃ whole : Int, result = whole ∧ |whole - d| ≤ 1 / 2

structure RoundingLaws (d : Double) : Prop where
  floorLaw : IsFloor (floor d) d
  ceilLaw : IsCeil (ceil d) d
  roundLaw : IsNearest (round d) d
  rintLaw : IsNearest (rint d) d

/-- The functions keep the order of two values. -/
structure KeepOrder (d e : Double) : Prop where
  floorLe : floor d ≤ floor e
  ceilLe : ceil d ≤ ceil e
  roundLe : round d ≤ round e
  rintLe : rint d ≤ rint e

theorem floorLaw_iff {d : Double} (bounded : |d| ≤ 2 ^ 62) :
    IsFloor (floor d) d ↔ 0 ≤ d ∨ Whole d := by
  rw [floor_eq bounded]
  constructor
  · intro law
    rcases law with ⟨whole, equal, below, _⟩
    rw [← equal] at below
    rcases le_or_gt 0 d with nonnegative | negative
    · exact Or.inl nonnegative
    · exact Or.inr (whole_iff.mpr (le_antisymm (le_truncate_of_neg negative) below))
  · intro condition
    refine ⟨truncate d, rfl, ?_⟩
    rcases condition with nonnegative | whole
    · exact ⟨truncate_le_of_nonneg nonnegative, lt_truncate_add_one_of_nonneg nonnegative⟩
    · have equal := whole_iff.mp whole
      constructor
      · linarith
      · linarith

theorem ceilLaw_iff {d : Double} (bounded : |d| ≤ 2 ^ 62) :
    IsCeil (ceil d) d ↔ 0 ≤ d ∨ Whole d := by
  by_cases whole : Whole d
  · have equal := whole_iff.mp whole
    rw [ceil_eq_of_whole bounded whole]
    refine ⟨fun _ => Or.inr whole, fun _ => ⟨truncate d, rfl, ?_, ?_⟩⟩
    · linarith
    · linarith
  · rw [ceil_eq_of_not_whole bounded whole]
    constructor
    · intro law
      rcases law with ⟨result, equal, above, _⟩
      rw [← equal] at above
      rcases le_or_gt 0 d with nonnegative | negative
      · exact Or.inl nonnegative
      · have rounded := le_truncate_of_neg negative
        linarith
    · intro condition
      have nonnegative := condition.resolve_right whole
      have below := truncate_le_of_nonneg nonnegative
      have different : (truncate d : Double) ≠ d := fun equal => whole (whole_iff.mpr equal.symm)
      refine ⟨truncate d + 1, by push_cast; rfl, ?_, ?_⟩
      · push_cast
        linarith [lt_of_le_of_ne below different]
      · push_cast
        exact (lt_truncate_add_one_of_nonneg nonnegative).le

theorem roundLaw_iff {d : Double} (bounded : |d| ≤ 2 ^ 62) :
    IsNearest (round d) d ↔ -1 / 2 ≤ d ∨ Whole (d + 1 / 2) := by
  rw [round_eq bounded]
  constructor
  · intro law
    rcases law with ⟨whole, equal, near⟩
    rw [← equal] at near
    rcases le_or_gt 0 (d + 1 / 2) with nonnegative | negative
    · exact Or.inl (by linarith)
    · have upper := (abs_le.mp near).2
      have rounded := le_truncate_of_neg negative
      exact Or.inr (whole_iff.mpr (le_antisymm rounded (by linarith)))
  · intro condition
    refine ⟨truncate (d + 1 / 2), rfl, abs_le.mpr ?_⟩
    rcases condition with nonnegative | whole
    · have shifted : 0 ≤ d + 1 / 2 := by linarith
      have below := truncate_le_of_nonneg shifted
      have above := lt_truncate_add_one_of_nonneg shifted
      constructor
      · linarith
      · linarith
    · have equal := whole_iff.mp whole
      constructor
      · linarith
      · linarith

theorem roundingLaws_iff {d : Double} (bounded : |d| ≤ 2 ^ 62) :
    RoundingLaws d ↔ 0 ≤ d := by
  constructor
  · intro laws
    rcases (floorLaw_iff bounded).mp laws.floorLaw with nonnegative | whole
    · exact nonnegative
    · rcases (roundLaw_iff bounded).mp laws.roundLaw with nearly | half
      · rcases whole with ⟨whole, rfl⟩
        have positive : (-1 : Double) < whole := by linarith
        have nonnegative : 0 ≤ whole := by
          have above : -1 < whole := by exact_mod_cast positive
          omega
        exact_mod_cast nonnegative
      · exfalso
        rcases whole with ⟨whole, rfl⟩
        rcases half with ⟨other, equal⟩
        have doubled : (2 * whole + 1 : Double) = 2 * other := by linarith
        have parity : 2 * whole + 1 = 2 * other := by exact_mod_cast doubled
        omega
  · intro nonnegative
    have rounds := (roundLaw_iff bounded).mpr (Or.inl (by linarith))
    exact {
      floorLaw := (floorLaw_iff bounded).mpr (Or.inl nonnegative)
      ceilLaw := (ceilLaw_iff bounded).mpr (Or.inl nonnegative)
      roundLaw := rounds
      rintLaw := rounds
    }

/-- Without a fraction to correct for, both sides are the value itself; with one the
cast drops it on the left and on the right alike, and only `ceil` adds one. -/
theorem ceil_eq_neg_floor_neg_iff {d : Double} (bounded : |d| ≤ 2 ^ 62) :
    ceil d = -floor (-d) ↔ Whole d := by
  have mirrored : -floor (-d) = truncate d := by
    rw [floor_eq (by rwa [abs_neg]), truncate_neg]
    push_cast
    exact neg_neg _
  rw [mirrored]
  by_cases whole : Whole d
  · exact ⟨fun _ => whole, fun _ => ceil_eq_of_whole bounded whole⟩
  · rw [ceil_eq_of_not_whole bounded whole]
    constructor
    · intro equal
      linarith
    · intro contrary
      exact absurd contrary whole

theorem floor_le_floor {d e : Double} (boundedD : |d| ≤ 2 ^ 62) (boundedE : |e| ≤ 2 ^ 62)
    (ordered : d ≤ e) : floor d ≤ floor e := by
  rw [floor_eq boundedD, floor_eq boundedE]
  exact_mod_cast truncate_le_truncate ordered

theorem round_le_round {d e : Double} (boundedD : |d| ≤ 2 ^ 62) (boundedE : |e| ≤ 2 ^ 62)
    (ordered : d ≤ e) : round d ≤ round e := by
  rw [round_eq boundedD, round_eq boundedE]
  exact_mod_cast truncate_le_truncate (add_le_add_left ordered (1 / 2))

/-- A negative fraction is rounded up past the next whole number, which stays where it
is. -/
theorem ceil_le_ceil_iff {d e : Double} (boundedD : |d| ≤ 2 ^ 62) (boundedE : |e| ≤ 2 ^ 62)
    (ordered : d ≤ e) : ceil d ≤ ceil e ↔ ¬(d < 0 ∧ ¬Whole d ∧ e = ⌈d⌉) := by
  have truncated : truncate d ≤ truncate e := truncate_le_truncate ordered
  by_cases wholeD : Whole d
  · have upward : (truncate e : Double) ≤ ceil e := by
      by_cases wholeE : Whole e
      · exact (ceil_eq_of_whole boundedE wholeE).ge
      · rw [ceil_eq_of_not_whole boundedE wholeE]
        linarith
    have lower : (truncate d : Double) ≤ truncate e := by exact_mod_cast truncated
    rw [ceil_eq_of_whole boundedD wholeD]
    exact ⟨fun _ overtakes => overtakes.2.1 wholeD, fun _ => lower.trans upward⟩
  · rw [ceil_eq_of_not_whole boundedD wholeD]
    by_cases wholeE : Whole e
    · have equal := whole_iff.mp wholeE
      rw [ceil_eq_of_whole boundedE wholeE]
      constructor
      · intro larger overtakes
        rcases overtakes with ⟨negative, _, next⟩
        rw [← truncate_of_neg negative] at next
        linarith
      · intro apart
        have different : truncate d ≠ truncate e := by
          intro same
          rcases le_or_gt 0 d with nonnegative | negative
          · have below := truncate_le_of_nonneg nonnegative
            rw [same, ← equal] at below
            exact wholeD (le_antisymm ordered below ▸ wholeE)
          · rw [← same, truncate_of_neg negative] at equal
            exact apart ⟨negative, wholeD, equal⟩
        exact_mod_cast lt_of_le_of_ne truncated different
    · rw [ceil_eq_of_not_whole boundedE wholeE]
      have lower : (truncate d : Double) ≤ truncate e := by exact_mod_cast truncated
      constructor
      · intro _ overtakes
        exact wholeE ⟨⌈d⌉, overtakes.2.2⟩
      · intro _
        linarith

theorem keepOrder_iff {d e : Double} (boundedD : |d| ≤ 2 ^ 62) (boundedE : |e| ≤ 2 ^ 62)
    (ordered : d ≤ e) : KeepOrder d e ↔ ¬(d < 0 ∧ ¬Whole d ∧ e = ⌈d⌉) := by
  rw [← ceil_le_ceil_iff boundedD boundedE ordered]
  constructor
  · intro keeps
    exact keeps.ceilLe
  · intro ceilLe
    have rounds := round_le_round boundedD boundedE ordered
    exact {
      floorLe := floor_le_floor boundedD boundedE ordered
      ceilLe := ceilLe
      roundLe := rounds
      rintLe := rounds
    }

/-- Where the laws hold, one by one and together: the corrections are those of a cast
that rounds down, and the cast rounds up below zero. -/
theorem rounding_laws_exact (d : Double) (bounded : |d| ≤ 2 ^ 62) :
    (RoundingLaws d ∧ ceil d = -floor (-d) ∧
        (∀ e, |e| ≤ 2 ^ 62 → d ≤ e → KeepOrder d e) ↔ 0 ≤ d ∧ Whole d) ∧
      (RoundingLaws d ↔ 0 ≤ d) ∧
      (IsFloor (floor d) d ↔ 0 ≤ d ∨ Whole d) ∧
      (IsCeil (ceil d) d ↔ 0 ≤ d ∨ Whole d) ∧
      (IsNearest (round d) d ↔ -1 / 2 ≤ d ∨ Whole (d + 1 / 2)) ∧
      (IsNearest (rint d) d ↔ -1 / 2 ≤ d ∨ Whole (d + 1 / 2)) ∧
      (ceil d = -floor (-d) ↔ Whole d) ∧
      (∀ e, |e| ≤ 2 ^ 62 → d ≤ e → (KeepOrder d e ↔ ¬(d < 0 ∧ ¬Whole d ∧ e = ⌈d⌉))) := by
  refine ⟨?_, roundingLaws_iff bounded, floorLaw_iff bounded, ceilLaw_iff bounded,
    roundLaw_iff bounded, roundLaw_iff bounded, ceil_eq_neg_floor_neg_iff bounded, ?_⟩
  · rw [roundingLaws_iff bounded, ceil_eq_neg_floor_neg_iff bounded]
    constructor
    · intro laws
      exact ⟨laws.1, laws.2.1⟩
    · intro condition
      refine ⟨condition.1, condition.2, ?_⟩
      intro e boundedE ordered
      apply (keepOrder_iff bounded boundedE ordered).mpr
      intro overtakes
      exact overtakes.2.1 condition.2
  · intro e boundedE ordered
    exact keepOrder_iff bounded boundedE ordered

theorem rounding_laws_exact_half : RoundingLaws (1 / 2) :=
  (rounding_laws_exact (1 / 2) (by norm_num)).2.1.mpr (by norm_num)

theorem floor_neg_half_wrong :
    |(-1 / 2 : Double)| ≤ 2 ^ 62 ∧ floor (-1 / 2) = 0 ∧ ceil (-1 / 2) = 1 ∧
      ¬RoundingLaws (-1 / 2) ∧ ceil (-1 / 2) ≠ -floor (-(-1 / 2)) ∧
      ¬KeepOrder (-1 / 2) 0 := by
  have bounded : |(-1 / 2 : Double)| ≤ 2 ^ 62 := by norm_num
  have nothing : truncate (-1 / 2 : Double) = 0 := by
    rw [truncate_of_neg (by norm_num)]
    norm_num
  have fraction : ¬Whole (-1 / 2 : Double) := by
    rw [whole_iff, nothing]
    norm_num
  have floored : floor (-1 / 2) = 0 := by
    rw [floor_eq bounded, nothing]
    rfl
  have raised : ceil (-1 / 2) = 1 := by
    rw [ceil_eq_of_not_whole bounded fraction, nothing]
    norm_num
  refine ⟨bounded, floored, raised, ?_, ?_, ?_⟩
  · rw [roundingLaws_iff bounded]
    norm_num
  · rw [Ne, ceil_eq_neg_floor_neg_iff bounded]
    exact fraction
  · rw [keepOrder_iff bounded (by norm_num) (by norm_num)]
    intro kept
    apply kept
    refine ⟨by norm_num, fraction, ?_⟩
    rw [← truncate_of_neg (by norm_num), nothing]
    rfl

end Lorawan.Utilities

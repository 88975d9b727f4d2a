import Mathlib.Data.Rat.Floor

/-!
# Decimal rounding

The rounding operations of a decimal number type, on exact rationals.  A number of
decimal places is a natural number, and `div` is the quotient rounded to sixteen
places, the precision that the decimal package divides with.
-/

namespace Lib.Decimal

/-- Largest multiple of the last place that is not above the value. -/
def roundFloor (places : Nat) (value : ℚ) : ℚ :=
  ⌊value * 10 ^ places⌋ / 10 ^ places

/-- Smallest multiple of the last place that is not below the value. -/
def roundCeil (places : Nat) (value : ℚ) : ℚ :=
  ⌈value * 10 ^ places⌉ / 10 ^ places

/-- Nearest multiple of the last place, halves away from zero. -/
def round (places : Nat) (value : ℚ) : ℚ :=
  if 0 ≤ value then ⌊value * 10 ^ places + 1 / 2⌋ / 10 ^ places
  else ⌈value * 10 ^ places - 1 / 2⌉ / 10 ^ places

/-- The integer part, towards zero. -/
def intPart (value : ℚ) : Int :=
  if 0 ≤ value then ⌊value⌋ else ⌈value⌉

def div (value divisor : ℚ) : ℚ := round 16 (value / divisor)

/-! ## Integer parts -/

@[simp] theorem intPart_intCast (whole : Int) : intPart whole = whole := by
  simp [intPart]

theorem intPart_neg (value : ℚ) : intPart (-value) = -intPart value := by
  rcases lt_trichotomy value 0 with neg | rfl | pos
  · simp [intPart, neg.le, neg.not_ge, Int.floor_neg]
  · simp [intPart]
  · simp [intPart, pos.le, pos.not_ge, Int.ceil_neg]

theorem intPart_of_nonneg {value : ℚ} (nonneg : 0 ≤ value) : intPart value = (⌊value⌋₊ : ℕ) := by
  rw [intPart, if_pos nonneg, Int.natCast_floor_eq_floor nonneg]

/-! ## Numbers with few decimal places -/

/-- The value has at most this many decimal places. -/
def HasPlaces (places : Nat) (value : ℚ) : Prop :=
  ∃ units : Int, value = units / 10 ^ places

variable {places : Nat} {left right value divisor : ℚ}

theorem HasPlaces.zero : HasPlaces places 0 := ⟨0, by simp⟩

theorem HasPlaces.add (leftHas : HasPlaces places left) (rightHas : HasPlaces places right) :
    HasPlaces places (left + right) := by
  obtain ⟨leftUnits, rfl⟩ := leftHas
  obtain ⟨rightUnits, rfl⟩ := rightHas
  exact ⟨leftUnits + rightUnits, by push_cast; ring⟩

theorem HasPlaces.sum {values : List ℚ} (allHave : ∀ value ∈ values, HasPlaces places value) :
    HasPlaces places values.sum := by
  induction values with
  | nil => exact HasPlaces.zero
  | cons value values ih =>
    obtain ⟨first, rest⟩ := List.forall_mem_cons.mp allHave
    exact first.add (ih rest)

theorem HasPlaces.sub (leftHas : HasPlaces places left) (rightHas : HasPlaces places right) :
    HasPlaces places (left - right) := by
  obtain ⟨leftUnits, rfl⟩ := leftHas
  obtain ⟨rightUnits, rfl⟩ := rightHas
  exact ⟨leftUnits - rightUnits, by push_cast; ring⟩

theorem HasPlaces.mul_int (has : HasPlaces places value) (factor : Int) :
    HasPlaces places (value * factor) := by
  obtain ⟨units, rfl⟩ := has
  exact ⟨units * factor, by push_cast; ring⟩

theorem round_hasPlaces (places : Nat) (value : ℚ) : HasPlaces places (round places value) := by
  unfold round
  split
  · exact ⟨_, rfl⟩
  · exact ⟨_, rfl⟩

theorem roundFloor_hasPlaces (places : Nat) (value : ℚ) :
    HasPlaces places (roundFloor places value) := ⟨_, rfl⟩

/-- Rounding keeps a value that has no more places. -/
theorem round_of_hasPlaces (has : HasPlaces places value) : round places value = value := by
  obtain ⟨units, rfl⟩ := has
  have scaled : (units : ℚ) / 10 ^ places * 10 ^ places = units := by field_simp
  unfold round
  rw [scaled]
  split
  · have floor : ⌊(units : ℚ) + 1 / 2⌋ = units := by
      rw [Int.floor_eq_iff]
      constructor <;> linarith
    rw [floor]
  · have ceil : ⌈(units : ℚ) - 1 / 2⌉ = units := by
      rw [Int.ceil_eq_iff]
      constructor <;> linarith
    rw [ceil]

/-! ## Rounded quotients -/

theorem round_le_half (nonneg : 0 ≤ value) :
    round places value ≤ value + 1 / (2 * 10 ^ places) := by
  have scale : (0 : ℚ) < 10 ^ places := by positivity
  rw [round, if_pos nonneg, div_le_iff₀ scale]
  calc (⌊value * 10 ^ places + 1 / 2⌋ : ℚ) ≤ value * 10 ^ places + 1 / 2 := Int.floor_le _
    _ = (value + 1 / (2 * 10 ^ places)) * 10 ^ places := by field_simp

/-- Rounding down undoes the rounding of a quotient, as long as the divisor is too small
for the quotient to come within half a unit of the sixteenth place below a multiple. -/
theorem roundFloor_div_mul_le {divisor : Int} (has : HasPlaces places value)
    (nonneg : 0 ≤ value) (positive : 0 < divisor)
    (small : (divisor : ℚ) * 10 ^ places < 2 * 10 ^ 16) :
    roundFloor places (div value divisor) * divisor ≤ value := by
  obtain ⟨units, rfl⟩ := has
  have divisorPos : (0 : ℚ) < divisor := Int.cast_pos.mpr positive
  generalize floorEq : ⌊div (units / 10 ^ places) divisor * 10 ^ places⌋ = floor
  have floorLe : (floor : ℚ) ≤ div (units / 10 ^ places) divisor * 10 ^ places := by
    rw [← floorEq]
    exact Int.floor_le _
  have quotient : div (units / 10 ^ places) divisor ≤
      units / 10 ^ places / divisor + 1 / (2 * 10 ^ 16) :=
    round_le_half (div_nonneg nonneg divisorPos.le)
  have scaled : (floor : ℚ) * divisor ≤ units + divisor * 10 ^ places / (2 * 10 ^ 16) := by
    calc (floor : ℚ) * divisor
        ≤ (units / 10 ^ places / divisor + 1 / (2 * 10 ^ 16)) * 10 ^ places * divisor := by
          gcongr
          exact floorLe.trans (by gcongr)
      _ = units + divisor * 10 ^ places / (2 * 10 ^ 16) := by field_simp
  have within : floor * divisor ≤ units := by
    have below : ((floor * divisor : Int) : ℚ) < ((units + 1 : Int) : ℚ) := by
      push_cast
      linarith
    exact Int.lt_add_one_iff.mp (Int.cast_lt.mp below)
  rw [roundFloor, floorEq, div_mul_eq_mul_div]
  gcongr
  exact_mod_cast within

/-! ## Order -/

theorem round_nonneg (nonneg : 0 ≤ value) : 0 ≤ round places value := by
  rw [round, if_pos nonneg]
  have floor : (0 : Int) ≤ ⌊value * 10 ^ places + 1 / 2⌋ := Int.floor_nonneg.mpr (by positivity)
  exact div_nonneg (Int.cast_nonneg floor) (by positivity)

theorem round_nonpos (nonpos : value ≤ 0) : round places value ≤ 0 := by
  rcases nonpos.eq_or_lt with rfl | negative
  · rw [round_of_hasPlaces .zero]
  · rw [round, if_neg (not_le.mpr negative)]
    have ceil : ⌈value * 10 ^ places - 1 / 2⌉ ≤ (0 : Int) := by
      apply Int.ceil_le.mpr
      have scaled : value * 10 ^ places ≤ 0 := mul_nonpos_of_nonpos_of_nonneg nonpos (by positivity)
      linarith
    exact div_nonpos_of_nonpos_of_nonneg (Int.cast_nonpos.mpr ceil) (by positivity)

theorem round_mono (le : left ≤ right) : round places left ≤ round places right := by
  by_cases nonneg : 0 ≤ left
  · rw [round, round, if_pos nonneg, if_pos (nonneg.trans le)]
    gcongr
  · by_cases rightNonneg : 0 ≤ right
    · exact (round_nonpos (not_le.mp nonneg).le).trans (round_nonneg rightNonneg)
    · rw [round, round, if_neg nonneg, if_neg rightNonneg]
      gcongr

/-- Values that lie a whole unit of the last place apart are still apart when rounded. -/
theorem round_lt_of_unit_le (nonneg : 0 ≤ left) (apart : left + 1 / 10 ^ places ≤ right) :
    round places left < round places right := by
  have unit : (left + 1 / 10 ^ places) * 10 ^ places + 1 / 2 = left * 10 ^ places + 1 / 2 + 1 := by
    field_simp
    ring
  calc round places left < round places left + 1 / 10 ^ places := by
        have : (0 : ℚ) < 1 / 10 ^ places := by positivity
        linarith
    _ = round places (left + 1 / 10 ^ places) := by
        rw [round, round, if_pos nonneg, if_pos (by positivity), unit, Int.floor_add_one]
        push_cast
        rw [add_div]
    _ ≤ round places right := round_mono apart

theorem div_nonneg_of_nonneg (nonneg : 0 ≤ value) (positive : 0 < divisor) :
    0 ≤ div value divisor :=
  round_nonneg (div_nonneg nonneg positive.le)

theorem div_le_div_right (positive : 0 < divisor) (le : left ≤ right) :
    div left divisor ≤ div right divisor :=
  round_mono (by gcongr)

end Lib.Decimal

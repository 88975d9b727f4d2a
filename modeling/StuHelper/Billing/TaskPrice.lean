import Mathlib.Algebra.Order.BigOperators.GroupWithZero.List
import Mathlib.Data.List.Sublists
import Mathlib.Data.Rat.Floor
import StuHelper.Lib.Decimal

/-!
# The price of a task

The quota of a task is its base quota times the extra ratios, truncated after each of them.  A map
of ratios is the list of its values in the order of one iteration.

The base quotas whose product with any of the ratios is whole are never cut.  What a base quota has
above such a number is calculated on its own (`applyOtherRatios_add`), so the price is independent
of the order, and found again by the recalculation, exactly when every order cuts that rest to
nothing.
-/

namespace StuHelper.Billing

open Lib List Decimal

/-- Step 6 of `RelayTaskSubmit`. -/
def applyOtherRatios (quota : Int) (otherRatios : List ℚ) : Int :=
  otherRatios.foldl (fun quota ra => if ra ≠ 1 then intPart (quota * ra) else quota) quota

/-- The old ratios are divided out one by one. -/
def restoreBaseQuota (quota : Int) (otherRatios : List ℚ) : Int :=
  otherRatios.foldl (fun baseQuota ra =>
    if ra ≠ 1 ∧ ra > 0 then intPart (baseQuota / ra) else baseQuota) quota

/-- The new ratios are applied without a truncation in between. -/
def recalcQuotaFromRatios (quota : Int) (otherRatios ratios : List ℚ) : Int :=
  intPart (ratios.foldl (fun result ra => if ra ≠ 1 then result * ra else result)
    (restoreBaseQuota quota otherRatios : ℚ))

/-- The quota times any of the ratios is whole, so that no truncation cuts anything off. -/
def WholeProducts (quota : Int) (ratios : List ℚ) : Prop :=
  ∀ part ∈ ratios.sublists, (quota * part.prod).den = 1

/-- The least quota that ratios in this order do not cut to nothing: 1 divided by them from the
last to the first, and rounded up each time. -/
def leastKept : List ℚ → ℕ
  | [] => 1
  | ra :: ratios => ⌈(leastKept ratios : ℚ) / ra⌉₊

/-- The quota is one that is never cut, and a rest that every order cuts to nothing. -/
def PriceKept (quota : ℕ) (ratios : List ℚ) : Prop :=
  ∃ base ≤ quota, WholeProducts base ratios ∧
    ∀ order, order.Perm ratios → quota - base < leastKept order

variable {quota rest whole : ℕ} {ra : ℚ} {ratios order front back : List ℚ}

/-! ## One ratio -/

theorem applyOtherRatios_cons (quota : Int) (ra : ℚ) (ratios : List ℚ) :
    applyOtherRatios quota (ra :: ratios) =
      applyOtherRatios (intPart (quota * ra)) ratios := by
  by_cases one : ra = 1
  · simp [applyOtherRatios, one]
  · simp [applyOtherRatios, one]

theorem restoreBaseQuota_cons (quota : Int) (here : 0 < ra) (ratios : List ℚ) :
    restoreBaseQuota quota (ra :: ratios) =
      restoreBaseQuota (intPart (quota / ra)) ratios := by
  by_cases one : ra = 1
  · simp [restoreBaseQuota, one]
  · simp [restoreBaseQuota, one, here]

theorem recalcQuotaFromRatios_eq (quota : Int) (old new : List ℚ) :
    recalcQuotaFromRatios quota old new =
      intPart (restoreBaseQuota quota old * new.prod) := by
  rw [recalcQuotaFromRatios]
  generalize (restoreBaseQuota quota old : ℚ) = base
  congr 1
  induction new generalizing base with
  | nil => simp
  | cons ra ratios ih =>
    rw [foldl_cons, ih, prod_cons, ← mul_assoc]
    by_cases one : ra = 1
    · simp [one]
    · simp [one]

/-! ## Quotas that are never cut -/

section

variable (wholes : WholeProducts whole ratios)

include wholes

theorem WholeProducts.perm (same : order.Perm ratios) : WholeProducts whole order := by
  intro part member
  obtain ⟨moved, perm, sub⟩ := (mem_sublists.mp member).subperm.trans same.subperm
  rw [← perm.prod_eq]
  exact wholes moved (mem_sublists.mpr sub)

theorem WholeProducts.exact {part : List ℚ} (sub : part.Sublist ratios)
    (positive : ∀ ra ∈ ratios, 0 < ra) : ∃ product : ℕ, whole * part.prod = product := by
  have nonneg : 0 ≤ whole * part.prod :=
    mul_nonneg whole.cast_nonneg (prod_nonneg fun ra member => (positive ra (sub.subset member)).le)
  obtain ⟨product, productEq⟩ := Int.eq_ofNat_of_zero_le (Rat.num_nonneg.mpr nonneg)
  refine ⟨product, ?_⟩
  have same := (Rat.den_eq_one_iff _).mp (wholes part (mem_sublists.mpr sub))
  rw [Int.cast_natCast] at same
  rw [← same, productEq, Int.cast_natCast]

end

/-! ## Natural quotas -/

theorem exists_nat_applyOtherRatios (quota : ℕ) (positive : ∀ ra ∈ ratios, 0 < ra) :
    ∃ price : ℕ, applyOtherRatios quota ratios = price ∧ price ≤ quota * ratios.prod := by
  induction ratios generalizing quota with
  | nil => exact ⟨quota, rfl, by simp⟩
  | cons ra ratios ih =>
    obtain ⟨here, later⟩ := forall_mem_cons.mp positive
    have nonneg : 0 ≤ quota * ra := by positivity
    obtain ⟨price, priceEq, bound⟩ := ih ⌊quota * ra⌋₊ later
    refine ⟨price, ?_, bound.trans ?_⟩
    · rw [applyOtherRatios_cons, Int.cast_natCast, intPart_of_nonneg nonneg, priceEq]
    · rw [prod_cons, ← mul_assoc]
      gcongr
      · exact prod_nonneg fun ra member => (later ra member).le
      · exact Nat.floor_le nonneg

/-- The rest above a quota that is never cut is calculated on its own. -/
theorem applyOtherRatios_add (wholes : WholeProducts whole ratios)
    (positive : ∀ ra ∈ ratios, 0 < ra) :
    (applyOtherRatios (whole + rest : ℕ) ratios : ℚ) =
      whole * ratios.prod + applyOtherRatios rest ratios := by
  induction ratios generalizing whole rest with
  | nil => simp [applyOtherRatios]
  | cons ra ratios ih =>
    obtain ⟨here, later⟩ := forall_mem_cons.mp positive
    obtain ⟨product, productEq⟩ := wholes.exact (singleton_sublist.mpr mem_cons_self) positive
    rw [prod_singleton] at productEq
    have wholesLater : WholeProducts product ratios := by
      intro part member
      rw [Int.cast_natCast, ← productEq, mul_assoc, ← prod_cons]
      exact wholes _ (mem_sublists.mpr ((mem_sublists.mp member).cons_cons ra))
    have nonneg : 0 ≤ rest * ra := by positivity
    have step : intPart ((whole + rest : ℕ) * ra) = (product + ⌊rest * ra⌋₊ : ℕ) := by
      rw [Nat.cast_add, add_mul, productEq, add_comm, intPart_of_nonneg (by positivity),
        Nat.floor_add_natCast nonneg, add_comm]
    rw [applyOtherRatios_cons, applyOtherRatios_cons, Int.cast_natCast, Int.cast_natCast, step,
      ih wholesLater later, intPart_of_nonneg nonneg, prod_cons, ← mul_assoc, productEq]

theorem applyOtherRatios_eq_zero_iff (positive : ∀ ra ∈ ratios, 0 < ra) :
    applyOtherRatios quota ratios = 0 ↔ quota < leastKept ratios := by
  induction ratios generalizing quota with
  | nil => simp [applyOtherRatios, leastKept]
  | cons ra ratios ih =>
    obtain ⟨here, later⟩ := forall_mem_cons.mp positive
    have nonneg : 0 ≤ quota * ra := by positivity
    rw [applyOtherRatios_cons, Int.cast_natCast, intPart_of_nonneg nonneg, ih later, leastKept,
      Nat.lt_ceil, lt_div_iff₀ here, Nat.floor_lt nonneg]

/-! ## The recalculation -/

/-- Dividing the ratios out gives no more than the quotient. -/
theorem exists_nat_restoreBaseQuota (quota : ℕ) (positive : ∀ ra ∈ ratios, 0 < ra) :
    ∃ base : ℕ, restoreBaseQuota quota ratios = base ∧ base * ratios.prod ≤ quota := by
  induction ratios generalizing quota with
  | nil => exact ⟨quota, rfl, by simp⟩
  | cons ra ratios ih =>
    obtain ⟨here, later⟩ := forall_mem_cons.mp positive
    have nonneg : 0 ≤ quota / ra := by positivity
    obtain ⟨base, baseEq, bound⟩ := ih ⌊quota / ra⌋₊ later
    refine ⟨base, ?_, ?_⟩
    · rw [restoreBaseQuota_cons _ here, Int.cast_natCast, intPart_of_nonneg nonneg, baseEq]
    · rw [prod_cons, mul_left_comm, mul_comm, ← le_div_iff₀ here]
      exact bound.trans (Nat.floor_le nonneg)

theorem restoreBaseQuota_eq (wholes : WholeProducts whole ratios)
    (positive : ∀ ra ∈ ratios, 0 < ra) (product : (quota : ℚ) = whole * ratios.prod) :
    restoreBaseQuota quota ratios = whole := by
  induction ratios generalizing quota with
  | nil => simpa [restoreBaseQuota] using product
  | cons ra ratios ih =>
    obtain ⟨here, later⟩ := forall_mem_cons.mp positive
    obtain ⟨divided, dividedEq⟩ := wholes.exact (sublist_cons_self ra ratios) positive
    have step : intPart ((quota : Int) / ra) = divided := by
      rw [Int.cast_natCast, product, prod_cons, mul_left_comm, mul_div_cancel_left₀ _ here.ne',
        dividedEq, intPart_of_nonneg divided.cast_nonneg, Nat.floor_natCast]
    rw [restoreBaseQuota_cons _ here, step]
    exact ih (fun part member => wholes part (mem_sublists.mpr ((mem_sublists.mp member).cons ra)))
      later dividedEq.symm

/-- A quota that is found again is the product of a base that is never cut. -/
theorem exists_whole (positive : ∀ ra ∈ ratios, 0 < ra)
    (again : ∀ old, old.Perm ratios → recalcQuotaFromRatios quota old ratios = quota) :
    ∃ base : ℕ, WholeProducts base ratios ∧ quota = base * ratios.prod := by
  have exact_ : ∀ old, old.Perm ratios →
      (restoreBaseQuota quota old : ℚ) * ratios.prod = quota := by
    intro old same
    obtain ⟨base, baseEq, bound⟩ := exists_nat_restoreBaseQuota quota
      fun ra member => positive ra (same.mem_iff.mp member)
    have found := again old same
    rw [same.prod_eq] at bound
    have nonneg : 0 ≤ base * ratios.prod :=
      mul_nonneg base.cast_nonneg (prod_nonneg fun ra member => (positive ra member).le)
    rw [recalcQuotaFromRatios_eq, baseEq, Int.cast_natCast, intPart_of_nonneg nonneg,
      Nat.cast_inj] at found
    rw [baseEq, Int.cast_natCast]
    exact bound.antisymm (found ▸ Nat.floor_le nonneg)
  obtain ⟨base, baseEq, -⟩ := exists_nat_restoreBaseQuota quota positive
  have product := exact_ ratios (Perm.refl _)
  rw [baseEq, Int.cast_natCast] at product
  refine ⟨base, fun part member => ?_, product.symm⟩
  obtain ⟨others, split⟩ := (mem_sublists.mp member).exists_perm_append
  have mine := fun ra member => positive ra (split.mem_iff.mpr (mem_append_left others member))
  have theirs := fun ra member => positive ra (split.mem_iff.mpr (mem_append_right part member))
  -- The other ratios are divided out first; what is left then is the base times this part.
  obtain ⟨left, leftEq, leftBound⟩ := exists_nat_restoreBaseQuota quota theirs
  obtain ⟨last, lastEq, lastBound⟩ := exists_nat_restoreBaseQuota left mine
  have total := exact_ (others ++ part) (perm_append_comm.trans split.symm)
  rw [restoreBaseQuota, foldl_append] at total
  change (restoreBaseQuota (restoreBaseQuota quota others) part : ℚ) * _ = _ at total
  rw [leftEq, lastEq, Int.cast_natCast, ← product] at total
  have same : (last : ℚ) = base := mul_right_cancel₀ (prod_pos positive).ne' total
  rw [← product, split.prod_eq, prod_append, ← mul_assoc] at leftBound
  have middle : base * part.prod = left :=
    (same ▸ lastBound).antisymm (le_of_mul_le_mul_right leftBound (prod_pos theirs))
  rw [Int.cast_natCast, middle, Rat.den_natCast]

/-! ## The price -/

theorem applyOtherRatios_neg (quota : Int) (ratios : List ℚ) :
    applyOtherRatios (-quota) ratios = -applyOtherRatios quota ratios := by
  induction ratios generalizing quota with
  | nil => rfl
  | cons ra ratios ih =>
    rw [applyOtherRatios_cons, applyOtherRatios_cons, Int.cast_neg, neg_mul, intPart_neg, ih]

theorem recalcQuotaFromRatios_neg (quota : Int) (old new : List ℚ) :
    recalcQuotaFromRatios (-quota) old new = -recalcQuotaFromRatios quota old new := by
  have restored : restoreBaseQuota (-quota) old = -restoreBaseQuota quota old := by
    induction old generalizing quota with
    | nil => rfl
    | cons ra ratios ih =>
      rw [restoreBaseQuota, foldl_cons, restoreBaseQuota, foldl_cons, ← restoreBaseQuota,
        ← restoreBaseQuota, ← ih]
      split <;> simp [neg_div, intPart_neg]
  rw [recalcQuotaFromRatios_eq, recalcQuotaFromRatios_eq, restored, Int.cast_neg, neg_mul,
    intPart_neg]

/-- The order of the iterations does not matter, and the recalculation finds the price again. -/
def PriceStable (quota : Int) (ratios : List ℚ) : Prop :=
  ∀ order, order.Perm ratios → applyOtherRatios quota order = applyOtherRatios quota ratios ∧
    ∀ old new, old.Perm ratios → new.Perm ratios →
      recalcQuotaFromRatios (applyOtherRatios quota order) old new = applyOtherRatios quota order

theorem priceStable_natAbs (quota : Int) (ratios : List ℚ) :
    PriceStable quota ratios ↔ PriceStable quota.natAbs ratios := by
  rcases quota.natAbs_eq with same | same
  · rw [← same]
  · generalize (quota.natAbs : Int) = size at same ⊢
    subst same
    simp only [PriceStable, applyOtherRatios_neg, recalcQuotaFromRatios_neg, neg_inj]

section

variable (positive : ∀ ra ∈ ratios, 0 < ra)

include positive

/-- A base that is never cut and the rest, in any order. -/
theorem applyOtherRatios_split (below : whole ≤ quota) (wholes : WholeProducts whole ratios)
    (same : order.Perm ratios) : (applyOtherRatios quota order : ℚ) =
      whole * ratios.prod + applyOtherRatios (quota - whole : ℕ) order := by
  rw [← same.prod_eq, ← applyOtherRatios_add (wholes.perm same), Nat.add_sub_cancel' below]
  exact fun ra member => positive ra (same.mem_iff.mp member)

theorem lost_iff (same : order.Perm ratios) :
    applyOtherRatios rest order = 0 ↔ rest < leastKept order :=
  applyOtherRatios_eq_zero_iff fun ra member => positive ra (same.mem_iff.mp member)

theorem PriceStable.kept (stable : PriceStable quota ratios) : PriceKept quota ratios := by
  obtain ⟨price, priceEq, bound⟩ := exists_nat_applyOtherRatios quota positive
  have again : ∀ old, old.Perm ratios → recalcQuotaFromRatios price old ratios = price := by
    intro old same
    rw [← priceEq]
    exact (stable ratios (Perm.refl _)).2 old ratios same (Perm.refl _)
  obtain ⟨base, wholes, product⟩ := exists_whole positive again
  rw [product] at bound
  have below : base ≤ quota := by exact_mod_cast le_of_mul_le_mul_right bound (prod_pos positive)
  refine ⟨base, below, wholes, fun order same => (lost_iff positive same).mp ?_⟩
  have parts := applyOtherRatios_split positive below wholes same
  rwa [(stable order same).1, priceEq, Int.cast_natCast, product, left_eq_add,
    Int.cast_eq_zero] at parts

theorem PriceKept.stable (kept : PriceKept quota ratios) : PriceStable quota ratios := by
  obtain ⟨base, below, wholes, lost⟩ := kept
  obtain ⟨price, priceEq⟩ := wholes.exact (Sublist.refl ratios) positive
  have priced : ∀ order, order.Perm ratios → applyOtherRatios quota order = price := by
    intro order same
    have parts := applyOtherRatios_split positive below wholes same
    rw [(lost_iff positive same).mpr (lost order same), Int.cast_zero, add_zero, priceEq] at parts
    exact_mod_cast parts
  intro order same
  rw [priced order same, priced ratios (Perm.refl _)]
  refine ⟨rfl, fun old new oldSame newSame => ?_⟩
  have base := restoreBaseQuota_eq (wholes.perm oldSame)
    (fun ra member => positive ra (oldSame.mem_iff.mp member)) (oldSame.prod_eq ▸ priceEq.symm)
  rw [recalcQuotaFromRatios_eq, base, newSame.prod_eq, Int.cast_natCast, priceEq]
  exact intPart_intCast price

end

/-- The price of a task is independent of the order, and found again, exactly when the quota is one
that is never cut and a rest that every order cuts to nothing. -/
theorem task_price_stable_iff (quota : Int) (ratios : List ℚ) (positive : ∀ ra ∈ ratios, 0 < ra) :
    PriceStable quota ratios ↔ PriceKept quota.natAbs ratios := by
  rw [priceStable_natAbs]
  exact ⟨PriceStable.kept positive, PriceKept.stable positive⟩

/-- Of 7 units, 6 are halved and one is lost. -/
theorem task_price_stable_halved : PriceStable 7 [1 / 2] := by
  apply (task_price_stable_iff 7 [1 / 2] (by decide +kernel)).mpr
  refine ⟨6, by decide, show ∀ part ∈ _, _ by decide +kernel, ?_⟩
  intro order same
  rw [perm_singleton.mp same]
  decide +kernel

/-- Half a unit is cut off in one order only, and the recalculation does not find it again. -/
theorem task_price_depends_on_order :
    applyOtherRatios 3 [1 / 2, 2] = 2 ∧ applyOtherRatios 3 [2, 1 / 2] = 3 ∧
      applyOtherRatios 1 [3 / 2] = 1 ∧ recalcQuotaFromRatios 1 [3 / 2] [3 / 2] = 0 := by
  decide +kernel

end StuHelper.Billing

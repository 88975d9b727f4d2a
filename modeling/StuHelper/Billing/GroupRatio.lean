import StuHelper.Lib.Decimal
import StuHelper.Routing.Select

/-!
# The group ratio of a bill

An auto-group request may be served in another group than it was priced in. `getChannel` finds the
ratio anew after every selection; the snapshot of a `tiered_expr` model keeps that of the pricing.
-/

namespace StuHelper.Billing

open Lib Lib.Decimal

structure RatioSettings where
  groupRatio : String → ℚ
  groupGroupRatio : String → String → Option ℚ := fun _ _ => none
  quotaPerUnit : ℚ := 500000

def RatioSettings.ratioOf (settings : RatioSettings) (userGroup group : String) : ℚ :=
  (settings.groupGroupRatio userGroup group).getD (settings.groupRatio group)

/-- How a model is billed; `estimate` is the cost of the estimated tokens. -/
inductive BillingMode where
  | ratio (modelRatio : ℚ)
  | price (modelPrice : ℚ)
  | tiered (estimate : ℚ)

/-- How `PreConsumeBilling` charges the estimate. -/
inductive PreConsumed where
  /-- The model is free, or the user is trusted. -/
  | nothing
  | wallet
  | subscription
  deriving DecidableEq, Repr

def PreConsumed.finalPreConsumedQuota : PreConsumed → Int → Int
  | .nothing, _ => 0
  | .wallet, quota => quota
  | .subscription, quota => if quota ≤ 0 then 1 else quota

/-- What an answer consumes, before the group ratio. -/
structure Consumption where
  totalTokens : Int
  /-- The tokens, each with the ratio of its kind. -/
  tokens : ℚ
  audioInputQuota : ℚ := 0
  toolCallSurcharge : ℚ := 0
  otherRatios : List ℚ := []
  /-- The usage is not nil. -/
  reported : Bool := true
  /-- What the expression costs, unless it fails. -/
  exprCost : Option ℚ := none
  preConsumed : PreConsumed := .nothing

/-- `BillingSnapshot`. -/
structure BillingSnapshot where
  groupRatio : ℚ
  estimatedQuotaAfterGroup : Int

/-- What `RelayInfo` says about the price. -/
structure PriceInfo where
  context : Routing.Context
  userGroup : String
  usingGroup : String
  groupRatio : ℚ := 1
  tieredBillingSnapshot : Option BillingSnapshot := none

/-- `QuotaRound`, and `Round(0).IntPart()`. -/
def quotaRound (quota : ℚ) : Int := intPart (round 0 quota)

section Source

variable (settings : RatioSettings) (mode : BillingMode) (used : Consumption)

/-- `HandleGroupRatio`, stored in the price data. -/
def handleGroupRatio (info : PriceInfo) : PriceInfo :=
  let usingGroup := info.context.autoGroup.getD info.usingGroup
  { info with
    usingGroup := usingGroup
    groupRatio := settings.ratioOf info.userGroup usingGroup }

def selectGroup (info : PriceInfo) (group : String) : PriceInfo :=
  handleGroupRatio settings { info with context := info.context.setSelectedAutoGroup group }

/-- The snapshot that `modelPriceHelperTiered` takes. -/
def snapshotOf (groupRatio : ℚ) : Option BillingSnapshot :=
  match mode with
  | .tiered estimate =>
    some ⟨groupRatio, quotaRound (estimate / 1000000 * settings.quotaPerUnit * groupRatio)⟩
  | _ => none

/-- `ModelPriceHelper`, after `HandleGroupRatio`. -/
def modelPriceHelper (info : PriceInfo) : PriceInfo :=
  { info with tieredBillingSnapshot := snapshotOf settings mode info.groupRatio }

/-- The quota of `calculateTextQuotaSummary`. -/
def summaryQuota (groupRatio : ℚ) : Int :=
  let ratio := (match mode with | .ratio modelRatio => modelRatio | _ => 0) * groupRatio
  let surcharge := used.toolCallSurcharge * groupRatio
  let quota := match mode with
    | .price modelPrice =>
      used.otherRatios.foldl (· * ·) (modelPrice * settings.quotaPerUnit * groupRatio + surcharge)
    | _ =>
      let quota := used.otherRatios.foldl (· * ·)
        (used.tokens * ratio + surcharge + used.audioInputQuota * groupRatio)
      if ratio ≠ 0 ∧ quota ≤ 0 then 1 else quota
  if used.totalTokens = 0 then 0
  else if ratio ≠ 0 ∧ quotaRound quota = 0 then 1
  else quotaRound quota

/-- `TryTieredSettle` and `composeTieredTextQuota`. -/
def tieredQuota (groupRatio : ℚ) (snap : BillingSnapshot) : Int :=
  let surcharge := used.toolCallSurcharge * groupRatio
  match used.exprCost with
  | none =>
    let final := used.preConsumed.finalPreConsumedQuota snap.estimatedQuotaAfterGroup
    let quota := if final ≤ 0 then snap.estimatedQuotaAfterGroup else final
    if surcharge = 0 then quota else quota + quotaRound surcharge
  | some cost =>
    let afterGroup := cost / 1000000 * settings.quotaPerUnit * snap.groupRatio
    if surcharge = 0 then quotaRound afterGroup else quotaRound (afterGroup + surcharge)

/-- The quota that `PostTextConsumeQuota` settles. -/
def postTextConsumeQuota (groupRatio : ℚ) (snapshot : Option BillingSnapshot) : Int :=
  match snapshot, used.reported with
  | some snap, true => tieredQuota settings used groupRatio snap
  | _, _ => summaryQuota settings mode used groupRatio

/-- The quota of a request that is priced in the first group and served in the last one. -/
def settledQuota (info : PriceInfo) (first : String) (later : List String) : Int :=
  let last := run (selectGroup settings)
    (modelPriceHelper settings mode (selectGroup settings info first)) later
  postTextConsumeQuota settings mode used last.groupRatio last.tieredBillingSnapshot

def quotaWith (groupRatio : ℚ) : Int :=
  postTextConsumeQuota settings mode used groupRatio (snapshotOf settings mode groupRatio)

end Source

variable {settings : RatioSettings} {info : PriceInfo} {group : String} {later : List String}

theorem selectGroup_eq (info : PriceInfo) (named : group ≠ "") :
    let next := selectGroup settings info group
    next.groupRatio = settings.ratioOf info.userGroup group ∧ next.userGroup = info.userGroup ∧
      next.tieredBillingSnapshot = info.tieredBillingSnapshot := by
  simp only [selectGroup, handleGroupRatio, Routing.Context.setSelectedAutoGroup_autoGroup named,
    Option.getD_some, and_self]

theorem run_selectGroup (ratio : info.groupRatio = settings.ratioOf info.userGroup group)
    (named : ∀ group ∈ later, group ≠ "") :
    let last := run (selectGroup settings) info later
    last.groupRatio = settings.ratioOf info.userGroup (later.getLastD group) ∧
      last.tieredBillingSnapshot = info.tieredBillingSnapshot := by
  induction later generalizing info group with
  | nil => exact ⟨ratio, rfl⟩
  | cons next later ih =>
    obtain ⟨named, others⟩ := List.forall_mem_cons.mp named
    obtain ⟨here, user, kept⟩ := @selectGroup_eq settings next info named
    have rest := ih (user ▸ here) others
    rwa [List.getLastD_cons]

theorem settledQuota_eq {mode : BillingMode} {used : Consumption} {first : String}
    (named : ∀ group ∈ first :: later, group ≠ "") :
    settledQuota settings mode used info first later = postTextConsumeQuota settings mode used
      (settings.ratioOf info.userGroup (later.getLastD first))
      (snapshotOf settings mode (settings.ratioOf info.userGroup first)) := by
  obtain ⟨isNamed, others⟩ := List.forall_mem_cons.mp named
  obtain ⟨here, user, -⟩ := @selectGroup_eq settings first info isNamed
  obtain ⟨ratio, snapshot⟩ := @run_selectGroup settings
    (modelPriceHelper settings mode (selectGroup settings info first)) first later here others
  rw [settledQuota, ratio, snapshot, modelPriceHelper, here, user]

theorem quotaRound_intCast (whole : Int) : quotaRound whole = whole := by
  rw [quotaRound, round_of_hasPlaces ⟨whole, by simp⟩, intPart_intCast]

/-- Some cost tells two ratios apart: both quotas are whole numbers. -/
theorem exists_cost_apart {perUnit left right : ℚ} (charged : perUnit ≠ 0) (differ : left ≠ right) :
    ∃ cost : ℚ, quotaRound (cost / 1000000 * perUnit * left) ≠
      quotaRound (cost / 1000000 * perUnit * right) := by
  have whole (ratio other : ℚ) : 1000000 / perUnit * (ratio.den * other.den) / 1000000 * perUnit *
      ratio = (ratio.num * other.den : Int) := by
    push_cast
    rw [← Rat.mul_den_eq_num]
    field_simp
  refine ⟨1000000 / perUnit * (left.den * right.den), ?_⟩
  rw [whole left right, mul_comm (left.den : ℚ), whole right left, quotaRound_intCast,
    quotaRound_intCast]
  exact fun same => differ (Rat.eq_iff_mul_eq_mul.mpr same)

/-- The bill uses the ratio of the group that has served the request, whatever the usage; for a
`tiered_expr` model with a usage exactly when the group of the pricing has the same ratio. -/
theorem bill_uses_serving_group (settings : RatioSettings) (mode : BillingMode) (reported : Bool)
    (info : PriceInfo) {first : String} {later : List String}
    (named : ∀ group ∈ first :: later, group ≠ "") :
    (∀ used : Consumption, used.reported = reported →
      settledQuota settings mode used info first later =
        quotaWith settings mode used (settings.ratioOf info.userGroup (later.getLastD first))) ↔
    ((∃ estimate, mode = .tiered estimate) → reported = true → settings.quotaPerUnit ≠ 0 →
      settings.ratioOf info.userGroup first =
        settings.ratioOf info.userGroup (later.getLastD first)) := by
  constructor
  · intro all tiered reports charged
    obtain ⟨estimate, rfl⟩ := tiered
    by_contra differ
    obtain ⟨cost, apart⟩ := exists_cost_apart charged differ
    have settled := all { totalTokens := 1, tokens := 1, exprCost := some cost } reports.symm
    rw [settledQuota_eq named] at settled
    exact apart (by simpa [quotaWith, postTextConsumeQuota, snapshotOf, tieredQuota] using settled)
  · intro same used isReported
    rw [settledQuota_eq named, quotaWith]
    cases mode with
    | ratio | price => rfl
    | tiered estimate =>
      cases here : used.reported with
      | false => simp only [postTextConsumeQuota, snapshotOf, here]
      | true =>
        by_cases charged : settings.quotaPerUnit = 0
        · simp only [postTextConsumeQuota, snapshotOf, here, tieredQuota, charged, mul_zero,
            zero_mul]
        · rw [same ⟨estimate, rfl⟩ (isReported.symm.trans here) charged]

/-- The group `b` costs twice as much as `a`. -/
def dearGroup : RatioSettings := { groupRatio := fun group => if group = "b" then 2 else 1 }

def autoRequest : PriceInfo :=
  { context := { tokenGroup := "auto", usingGroup := "auto" }, userGroup := "u"
    usingGroup := "auto" }

theorem bill_uses_serving_group_ratio :
    settledQuota dearGroup (.ratio 1) { totalTokens := 10, tokens := 10 } autoRequest "a" ["b"] =
      20 :=
  ((bill_uses_serving_group dearGroup (.ratio 1) true autoRequest (by decide)).mpr nofun _
    rfl).trans (by decide +kernel)

/-- A `tiered_expr` model is billed with the ratio of the group `a`. -/
theorem tiered_bill_uses_first_group :
    let used : Consumption := { totalTokens := 10, tokens := 10, exprCost := some 1000 }
    settledQuota dearGroup (.tiered 1000) used autoRequest "a" ["b"] = 500 ∧
      quotaWith dearGroup (.tiered 1000) used (dearGroup.ratioOf "u" "b") = 1000 := by
  decide +kernel

end StuHelper.Billing

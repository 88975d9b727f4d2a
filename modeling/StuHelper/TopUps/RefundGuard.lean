import StuHelper.TopUps.RefundBalance

/-!
# Guarded refunds

Without a full refund the preview bounds the amount of an official refund.  The amount is rounded
down from the quota, the quota that is taken is rounded from the amount; all the money that is left
takes all the quota that is left, which earlier refunds may have rounded up.
-/

namespace StuHelper.TopUps

open Lib Subscription Decimal

variable {settings : RefundSettings} {books next : Books} {topUp : TopUp} {user : User}
  {preview : RefundPreview} {quota : Int} {value : ℚ}

/-- A preview that offers something has quota that is left and that the owner has. -/
theorem preview_of_refundable (noOrder : books.store.orders.find? topUp.tradeNo = none)
    (owner : books.store.users.find? topUp.userId = some user)
    (previewed : calculateOfficialPaymentRefundPreview settings books.store topUp = .ok preview)
    (refundable : preview.refundable = true) :
    0 < preview.maxRefundQuota ∧ preview.maxRefundQuota =
        min (max (topUpCreditedQuota settings.quotaPerUnit topUp - topUp.refundedQuota) 0)
          (max user.quota 0) ∧
      0 ≤ orderMoney topUp - refundedMoney topUp ∧ 0 < preview.maxRefundAmount ∧
      preview.maxRefundAmount = refundAmountForQuota preview.maxRefundQuota
        (topUpCreditedQuota settings.quotaPerUnit topUp) (orderMoney topUp)
        (orderMoney topUp - refundedMoney topUp) := by
  unfold calculateOfficialPaymentRefundPreview at previewed
  split at previewed
  · cases previewed
    cases refundable
  simp only at previewed
  split at previewed
  · cases previewed
    cases refundable
  split at previewed
  · cases previewed
  · cases previewed
    cases refundable
  split at previewed
  · cases previewed
    cases refundable
  rename_i left
  simp only [noOrder, calculateBalanceTopUpRefundPreview, owner] at previewed
  cases previewed
  simp only [Bool.and_eq_true, decide_eq_true_eq] at refundable
  refine ⟨refundable.1, rfl, (not_not.mp left).le, ?_, rfl⟩
  by_contra nonpos
  exact absurd (round_nonpos (not_lt.mp nonpos)) (not_le.mpr refundable.2)

theorem round_le_int {places : Nat} (le : value ≤ quota) :
    round places value ≤ quota := by
  have whole : HasPlaces places (quota : ℚ) := ⟨quota * 10 ^ places, by push_cast; field_simp⟩
  exact (round_mono le).trans (round_of_hasPlaces whole).le

/-- A value is rounded to a quota at most exactly when it is less than half a unit above. -/
theorem intPart_round_le_iff (nonneg : 0 ≤ value) :
    intPart (round 0 value) ≤ quota ↔ value < quota + 1 / 2 := by
  rw [intPart, if_pos (round_nonneg nonneg), Decimal.round, if_pos nonneg, pow_zero, div_one,
    mul_one, Int.floor_intCast, ← Int.lt_add_one_iff, Int.floor_lt, Int.cast_add, Int.cast_one]
  constructor <;> intro lt <;> linarith

/-- What a refund takes is within a quota exactly when all that is left is, or the refund leaves
money and its share of the total is. -/
theorem calculateOfficialRefundQuota_le_iff {total already : Int}
    {orderMoney amount remaining : ℚ} (paid : 0 < orderMoney) (credited : 0 < total)
    (asked : 0 < amount) (left : 0 < total - already) (positive : 0 < quota) :
    calculateOfficialRefundQuota total already orderMoney amount remaining ≤ quota ↔
      total - already ≤ quota ∨
        (amount < remaining ∧ div (total * amount) orderMoney < quota + 1 / 2) := by
  have share : 0 ≤ div (total * amount) orderMoney := by
    have totalPos : (0 : ℚ) < total := Int.cast_pos.mpr credited
    exact round_nonneg (by positivity)
  rw [← intPart_round_le_iff share]
  simp only [calculateOfficialRefundQuota, if_neg (not_le.mpr left), if_neg (not_le.mpr paid)]
  by_cases less : amount < remaining
  · simp only [less, not_true_eq_false, if_false, true_and]
    split_ifs <;> omega
  · simp only [less, not_false_eq_true, if_true, false_and, or_false]

/-- Below the bound sixteen places are enough: an amount within what a quota gives back is a share
within that quota. -/
theorem share_le_of_within {total : Int} {orderMoney refunded amount : ℚ}
    (cents : HasPlaces 2 orderMoney) (refundedCents : HasPlaces 2 refunded) (paid : 0 < orderMoney)
    (positive : 0 < quota) (credited : 0 < total) (small : total < 2 * 10 ^ 14)
    (left : 0 ≤ orderMoney - refunded) (within : amount ≤ round 2
      (refundAmountForQuota quota total orderMoney (orderMoney - refunded))) :
    div (total * amount) orderMoney ≤ quota := by
  have inCents := (@Ledger.refundAmountForQuota_bounds quota total orderMoney _ left
    (cents.sub refundedCents)).2.2
  rw [round_of_hasPlaces inCents] at within
  have creditedRat : (0 : ℚ) < total := Int.cast_pos.mpr credited
  have shared : amount * total ≤ orderMoney * quota :=
    (mul_le_mul_of_nonneg_right within creditedRat.le).trans
      (refundAmountForQuota_share cents paid positive credited small left)
  apply round_le_int
  rw [div_le_iff₀ paid]
  linarith

/-- A guarded refund takes no more quota than the preview says exactly when the owner has all the
quota that is left, or the refund leaves money (and, for a total that sixteen places are too few
for, its share of the total is what the owner has). -/
theorem guarded_refund_within_preview_iff (settings : RefundSettings) (books next : Books)
    (params : OfficialRefund) (topUp : TopUp) (user : User)
    (guarded : params.allowFullRefund = false)
    (found : books.store.topUps.find? params.tradeNo = some topUp)
    (noOrder : books.store.orders.find? topUp.tradeNo = none)
    (owner : books.store.users.find? topUp.userId = some user) (nonneg : 0 ≤ user.quota)
    (done : createOfficialPaymentRefund settings books params = .ok next) :
    let total := topUpCreditedQuota settings.quotaPerUnit topUp
    let amount := round 2 params.refundAmount
    (∃ preview, calculateOfficialPaymentRefundPreview settings books.store topUp = .ok preview ∧
      refundQuotaFor settings books.store topUp amount ≤ preview.maxRefundQuota ∧
      preview.maxRefundQuota ≤ user.quota ∧
      ∃ rest, (next.store.users.find? topUp.userId).map User.quota = some rest ∧ 0 ≤ rest) ↔
    total - topUp.refundedQuota ≤ user.quota ∨
      (amount < orderMoney topUp - refundedMoney topUp ∧
        (2 * 10 ^ 14 ≤ total → div (total * amount) (orderMoney topUp) < user.quota + 1 / 2)) := by
  intro total amount
  simp only [createOfficialPaymentRefund, found, check_ok] at done
  obtain ⟨-, -, asked, -, -, -, done⟩ := done
  cases checked : withinPreview settings books.store topUp params.allowFullRefund amount with
  | error => simp [amount, checked] at done
  | ok _ =>
    simp only [amount, checked] at done
    obtain ⟨-, done⟩ := check_ok.mp done
    simp only [withinPreview, guarded, Bool.false_eq_true, if_false] at checked
    split at checked
    · cases checked
    rename_i preview previewed
    simp only [check_ok, Bool.not_eq_true', Bool.not_eq_false] at checked
    obtain ⟨refundable, within, -⟩ := checked
    obtain ⟨positive, available, left, offered, amountEq⟩ :=
      preview_of_refundable noOrder owner previewed refundable
    obtain ⟨credited, paid⟩ : 0 < total ∧ 0 < orderMoney topUp := by
      rw [amountEq, refundAmountForQuota] at offered
      split at offered
      · exact absurd offered (lt_irrefl 0)
      next nonzero =>
        simp only [not_or, not_le] at nonzero
        exact nonzero.2
    have taken (quota : Int) (positive : 0 < quota) :
        refundQuotaFor settings books.store topUp amount ≤ quota ↔
          total - topUp.refundedQuota ≤ quota ∨ (amount < orderMoney topUp - refundedMoney topUp ∧
            div (total * amount) (orderMoney topUp) < quota + 1 / 2) := by
      rw [refundQuotaFor_noOrder noOrder]
      exact calculateOfficialRefundQuota_le_iff paid credited (not_not.mp asked) (by omega) positive
    have capped := (taken (total - topUp.refundedQuota) (by omega)).mpr (.inl le_rfl)
    have exact_ (small : total < 2 * 10 ^ 14) :
        div (total * amount) (orderMoney topUp) < user.quota + 1 / 2 := by
      rw [amountEq, gt_iff_lt, not_lt] at within
      have most : (preview.maxRefundQuota : ℚ) ≤ user.quota := by exact_mod_cast (by omega)
      exact (share_le_of_within (round_hasPlaces 2 _) (round_hasPlaces 2 _) paid positive credited
        small left within).trans_lt (by linarith)
    obtain ⟨-, booked⟩ := official_book_ok noOrder done
    have rest : (next.store.users.find? topUp.userId).map User.quota =
        some (user.quota - refundQuotaFor settings books.store topUp amount) := by
      rw [booked.users]
      simp [Books.addQuota, Store.addQuota, Table.find?_update, owner,
        show user.id = topUp.userId from Table.find?_key owner, sub_eq_add_neg, amount]
    constructor
    · rintro ⟨_, same, within, -, -⟩
      cases previewed.symm.trans same
      exact ((taken _ (by omega)).mp (by omega)).imp_right (And.imp_right fun share _ => share)
    · intro meets
      have within := (taken _ (by omega)).mpr (meets.imp_right (And.imp_right fun share =>
        (le_or_gt (2 * 10 ^ 14) total).elim share exact_))
      exact ⟨preview, previewed, by omega, by omega, _, rest, by omega⟩

def halfRefund : OfficialRefund := { tradeNo := "o", refundAmount := 1 / 2, outRequestNo := "r1" }

theorem guarded_refund_within_preview_half :
    ∃ next, createOfficialPaymentRefund walletRefunds walletBooks halfRefund = .ok next ∧
      ∃ preview, calculateOfficialPaymentRefundPreview walletRefunds walletBooks.store
          officialOrder = .ok preview ∧
        refundQuotaFor walletRefunds walletBooks.store officialOrder (round 2 (1 / 2)) ≤
          preview.maxRefundQuota := by
  have succeeds : (createOfficialPaymentRefund walletRefunds walletBooks halfRefund).toOption.isSome
      = true := by decide +kernel
  cases done : createOfficialPaymentRefund walletRefunds walletBooks halfRefund with
  | error =>
    rw [done] at succeeds
    cases succeeds
  | ok next =>
    obtain ⟨preview, previewed, taken, -⟩ := (guarded_refund_within_preview_iff walletRefunds
      walletBooks next halfRefund officialOrder walletOwner rfl rfl rfl rfl (by decide) done).mpr
      (.inr (by decide +kernel))
    exact ⟨next, rfl, preview, previewed, taken⟩

/-! ## The drift of earlier refunds -/

def driftSettings : RefundSettings := { walletRefunds with quotaPerUnit := 14 }

def driftStart : Books where
  store :=
    { users := .single { id := 7, quota := 14 }
      topUps := .single { officialOrder with money := 1 / 10 } }

/-- Three refunds of 0.01 have taken 1 quota each, and the user has used another. -/
def driftBooks : Books :=
  (run (refundStep driftSettings) driftStart (["r1", "r2", "r3"].map fun outRequestNo =>
    .official { tradeNo := "o", refundAmount := 1 / 100, outRequestNo := outRequestNo })).addQuota
      7 (-1)

/-- The money that is left takes the 11 quota that are left, of which the user has 10. -/
theorem guarded_refund_overdraws :
    ((driftBooks.store.topUps.find? "o").bind fun topUp =>
      (calculateOfficialPaymentRefundPreview driftSettings driftBooks.store
        topUp).toOption.map RefundPreview.maxRefundQuota) = some 10 ∧
    (driftBooks.store.users.find? 7).map User.quota = some 10 ∧
    ((createOfficialPaymentRefund driftSettings driftBooks
        { tradeNo := "o", refundAmount := 7 / 100, outRequestNo := "r4" }).toOption.bind fun next =>
      (next.store.users.find? 7).map User.quota) = some (-1) := by
  decide +kernel

end StuHelper.TopUps

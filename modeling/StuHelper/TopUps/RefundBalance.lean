import StuHelper.TopUps.RefundLedger
import StuHelper.Lib.Run

/-!
# Refunds in any order

The operations on one top-up keep its ledger in order, however bookings, answers of the
provider and failures follow each other; a refund may even fail after it has succeeded.

Whether the last money goes with the last quota is another matter.  It does for refunds
in money.  The refunds of an administrator's top-up are by quota: each books its share of
the money, rounded down, and only the last one books the rest.  If none of them fails, the
refunded money stays below the share of the refunded quota until then.
-/

namespace StuHelper.TopUps

open Lib Subscription List

/-! ## Runs -/

/-- The operation is on the top-up with this trade number. -/
def RefundOp.On (tradeNo : String) (books : Books) : RefundOp → Prop
  | .official params => params.tradeNo = tradeNo
  | .markSuccess outRequestNo =>
    ∀ refund ∈ books.refunds.find? outRequestNo, refund.tradeNo = tradeNo
  | .markFailed outRequestNo _ =>
    ∀ refund ∈ books.refunds.find? outRequestNo, refund.tradeNo = tradeNo
  | .selfServe call => Text.trimSpace call.tradeNo = tradeNo
  | .reject call => Text.trimSpace call.tradeNo = tradeNo
  | .admin call => Text.trimSpace call.tradeNo = tradeNo

instance (tradeNo : String) (books : Books) (op : RefundOp) : Decidable (op.On tradeNo books) :=
  match op with
  | .official params => inferInstanceAs (Decidable (params.tradeNo = tradeNo))
  | .markSuccess outRequestNo => inferInstanceAs
      (Decidable (∀ refund ∈ books.refunds.find? outRequestNo, refund.tradeNo = tradeNo))
  | .markFailed outRequestNo _ => inferInstanceAs
      (Decidable (∀ refund ∈ books.refunds.find? outRequestNo, refund.tradeNo = tradeNo))
  | .selfServe call => inferInstanceAs (Decidable (Text.trimSpace call.tradeNo = tradeNo))
  | .reject call => inferInstanceAs (Decidable (Text.trimSpace call.tradeNo = tradeNo))
  | .admin call => inferInstanceAs (Decidable (Text.trimSpace call.tradeNo = tradeNo))

/-- The books agree on the top-up that was `start` when it was credited. -/
def InOrder (settings : RefundSettings) (total balance : Int) (start : TopUp)
    (books : Books) : Prop :=
  ∃ money quota status, Ledger settings total balance books (withRefunded start money quota status)

variable {op : RefundOp}

section Runs

variable {settings : RefundSettings} {total balance : Int} {start : TopUp} {books : Books}

theorem commit_inOrder {next : Books} (inOrder : InOrder settings total balance start books)
    (on : op.On start.tradeNo books) (done : op.commit settings books = .ok next) :
    InOrder settings total balance start next := by
  obtain ⟨money, quota, status, ledger⟩ := inOrder
  have row := ledger.row
  have noOrder := ledger.noOrder
  rw [RefundOp.commit.eq_def] at done
  cases op with
  | official =>
    obtain ⟨amount, refundQuota, refund⟩ := official_ok noOrder (ledger.row_of_eq on) done
    obtain ⟨newMoney, newStatus, kept⟩ := ledger.moneyRefund refund
    exact ⟨newMoney, _, newStatus, kept⟩
  | selfServe =>
    obtain ⟨_, _, refund⟩ := selfServe_ok noOrder (ledger.row_of_eq on) done
    obtain ⟨newMoney, newStatus, kept⟩ := ledger.moneyRefund refund
    exact ⟨newMoney, _, newStatus, kept⟩
  | reject =>
    rcases reject_ok noOrder (ledger.row_of_eq on) done with rfl | ⟨audit, member, trade, booked⟩
    · exact ⟨money, quota, status, ledger⟩
    · exact ledger.reject member trade booked
  | admin =>
    obtain ⟨-, -, newStatus, kept⟩ := ledger.admin on done
    exact ⟨_, _, newStatus, kept⟩
  | markSuccess =>
    rcases markSuccess_ok done with rfl | ⟨refund, found, pending, rfl⟩
    · exact ⟨money, quota, status, ledger⟩
    · exact ⟨money, quota, status, ledger.succeed found pending⟩
  | markFailed outRequestNo =>
    dsimp only at done
    unfold markTopUpRefundFailed at done
    split at done
    · cases done
    split at done
    · cases done
    rename_i refund found
    split at done
    · cases done
      exact ⟨money, quota, status, ledger⟩
    rename_i live
    split at done
    · cases done
    rename_i topUp topUpFound
    rw [on refund found] at topUpFound
    obtain rfl := Option.some.inj (topUpFound.symm.trans row)
    simp only [noOrder, Option.isSome_none, Bool.false_eq_true, if_false] at done
    split at done
    · cases done
    · cases done
      exact ledger.fail found (on refund found) live

theorem refundStep_keeps {Inv : Books → Prop}
    (commits : ∀ next, op.commit settings books = .ok next → Inv next) (inv : Inv books) :
    Inv (refundStep settings books op) := by
  unfold refundStep
  split
  next next done => exact commits next done
  · exact inv

end Runs

/-! ## Refunds by quota -/

/-- The operations that an administrator's top-up is refunded with. -/
def RefundOp.byQuota : RefundOp → Bool
  | .admin _ => true
  | .markSuccess _ => true
  | _ => false

variable {quota : Int}

theorem refundAmountForQuota_share {total : Int} {orderMoney remaining : ℚ}
    (cents : Decimal.HasPlaces 2 orderMoney) (paid : 0 < orderMoney) (positive : 0 < quota)
    (credited : 0 < total) (small : total < 2 * 10 ^ 14) (nonneg : 0 ≤ remaining) :
    refundAmountForQuota quota total orderMoney remaining * total ≤ orderMoney * quota := by
  have quotaPos : (0 : ℚ) < quota := Int.cast_pos.mpr positive
  have smallRat : (total : ℚ) * 10 ^ 2 < 2 * 10 ^ 16 := by
    have cast : (total : ℚ) < ((2 * 10 ^ 14 : Int) : ℚ) := Int.cast_lt.mpr small
    push_cast at cast
    linarith
  have shareLe := Decimal.roundFloor_div_mul_le (cents.mul_int quota)
    (mul_pos paid quotaPos).le credited smallRat
  unfold refundAmountForQuota
  rw [if_neg (by simp only [not_or, not_le]; exact ⟨positive, credited, paid⟩)]
  dsimp only
  generalize Decimal.roundFloor 2 (Decimal.div (orderMoney * quota) total) = share at shareLe ⊢
  split
  next larger =>
    rw [if_neg (not_lt.mpr nonneg)]
    calc remaining * total ≤ share * total := by gcongr
      _ ≤ orderMoney * quota := shareLe
  · split
    · rw [zero_mul]
      exact (mul_pos paid quotaPos).le
    · exact shareLe

theorem Ledger.adminRefundAmount_share {settings : RefundSettings} {total balance : Int}
    {books : Books} {topUp : TopUp} (ledger : Ledger settings total balance books topUp)
    (small : total < 2 * 10 ^ 14) (positive : 0 < quota)
    (fits : quota ≤ total - topUp.refundedQuota)
    (share : topUp.refundedMoney * total ≤ topUp.refundedQuota * topUp.money) :
    (topUp.refundedMoney + adminRefundAmount topUp total quota) * total ≤
      (topUp.refundedQuota + quota : Int) * topUp.money := by
  have credited : 0 < total := by
    have nonneg := ledger.refundedQuota_nonneg
    omega
  have nonneg := sub_nonneg.mpr ledger.moneyLe
  unfold adminRefundAmount
  rw [ledger.remainingMoney_eq, ledger.orderMoney_eq, if_neg (not_not.mpr ledger.paid)]
  split
  next last =>
    obtain rfl : quota = total - topUp.refundedQuota := by omega
    apply le_of_eq
    push_cast
    ring
  · have bounds := @refundAmountForQuota_bounds quota total topUp.money _ nonneg
      (ledger.cents.sub ledger.refundedCents)
    have more := @refundAmountForQuota_share quota total topUp.money _ ledger.cents
      ledger.paid positive credited small nonneg
    rw [Decimal.round_of_hasPlaces bounds.2.2]
    push_cast
    linarith

/-- The books agree on the top-up, and the refunded money is within the share of the
refunded quota. -/
def InShare (settings : RefundSettings) (total balance : Int) (start : TopUp)
    (books : Books) : Prop :=
  ∃ money quota status,
    Ledger settings total balance books (withRefunded start money quota status) ∧
      money * total ≤ quota * start.money

theorem commit_inShare {settings : RefundSettings} {total balance : Int} {start : TopUp}
    {books next : Books} (small : total < 2 * 10 ^ 14)
    (inShare : InShare settings total balance start books)
    (on : op.On start.tradeNo books) (byQuota : op.byQuota = true)
    (done : op.commit settings books = .ok next) : InShare settings total balance start next := by
  obtain ⟨money, quota, status, ledger, share⟩ := inShare
  cases op with
  | admin =>
    obtain ⟨positive, fits, newStatus, kept⟩ := ledger.admin on done
    exact ⟨_, _, newStatus, kept, ledger.adminRefundAmount_share small positive fits share⟩
  | markSuccess =>
    rcases markSuccess_ok done with rfl | ⟨refund, found, pending, rfl⟩
    · exact ⟨money, quota, status, ledger, share⟩
    · exact ⟨money, quota, status, ledger.succeed found pending, share⟩
  | official | markFailed | selfServe | reject => cases byQuota

/-! ## The ledger of a credited top-up -/

/-- The top-up stands in the books as it was credited to `user`, without refunds; its audit,
if it has one, counts what was credited. -/
structure FreshlyCredited (settings : RefundSettings) (books : Books) (topUp : TopUp)
    (user : User) : Prop where
  row : books.store.topUps.find? topUp.tradeNo = some topUp
  noOrder : books.store.orders.find? topUp.tradeNo = none
  owner : books.store.users.find? topUp.userId = some user
  cents : Decimal.HasPlaces 2 topUp.money
  paid : 0 < topUp.money
  credited : 0 < topUpCreditedQuota settings.quotaPerUnit topUp
  noMoney : topUp.refundedMoney = 0
  noQuota : topUp.refundedQuota = 0
  noRefunds : ∀ refund ∈ books.refunds.rows, refund.tradeNo ≠ topUp.tradeNo
  audits : ∀ audit ∈ books.store.audits.rows, audit.tradeNo = topUp.tradeNo →
    audit.creditedQuota = topUpCreditedQuota settings.quotaPerUnit topUp

/-- What the books say about the top-up that was `start` when it was credited to `user`,
and is `row` now. -/
structure Balanced (settings : RefundSettings) (start : TopUp) (user : User) (books : Books)
    (row : TopUp) : Prop where
  found : books.store.topUps.find? start.tradeNo = some row
  paid : row.money = start.money
  credited : topUpCreditedQuota settings.quotaPerUnit row =
    topUpCreditedQuota settings.quotaPerUnit start
  moneySum : row.refundedMoney =
    ((liveRefunds books start.tradeNo).map TopUpRefund.refundAmount).sum
  quotaSum : row.refundedQuota = ((liveRefunds books start.tradeNo).map TopUpRefund.refundQuota).sum
  money : 0 ≤ row.refundedMoney ∧ row.refundedMoney ≤ row.money
  quota : 0 ≤ row.refundedQuota ∧ row.refundedQuota ≤ topUpCreditedQuota settings.quotaPerUnit row
  owner : (books.store.users.find? start.userId).map User.quota =
    some (user.quota - row.refundedQuota)

section Credited

variable {settings : RefundSettings} {books : Books} {start : TopUp} {user : User}

theorem FreshlyCredited.ledger (fresh : FreshlyCredited settings books start user) :
    Ledger settings (topUpCreditedQuota settings.quotaPerUnit start) user.quota books
      start := by
  have none : liveRefunds books start.tradeNo = [] := by
    apply filter_eq_nil_iff.mpr
    intro refund member
    simp [fresh.noRefunds refund member]
  constructor
  case row => exact fresh.row
  case noOrder => exact fresh.noOrder
  case credited => rfl
  case cents => exact fresh.cents
  case refundedCents =>
    rw [fresh.noMoney]
    exact .zero
  case paid => exact fresh.paid
  case money => rw [fresh.noMoney, liveSum, none, map_nil, sum_nil]
  case quota => rw [fresh.noQuota, liveSum, none, map_nil, sum_nil]
  case moneyLe =>
    rw [fresh.noMoney]
    exact fresh.paid.le
  case quotaLe =>
    rw [fresh.noQuota]
    exact fresh.credited.le
  case refunds => exact fun refund member trade => absurd trade (fresh.noRefunds refund member)
  case user => rw [fresh.owner, fresh.noQuota, sub_zero, Option.map_some]
  case audits => exact fresh.audits
  case full =>
    intro _ whole
    rw [fresh.noMoney] at whole
    exact absurd whole fresh.paid.ne

theorem Ledger.balanced {money : ℚ} {status : PaymentStatus}
    (ledger : Ledger settings (topUpCreditedQuota settings.quotaPerUnit start) user.quota
      books (withRefunded start money quota status)) :
    Balanced settings start user books (withRefunded start money quota status) where
  found := ledger.row
  paid := rfl
  credited := rfl
  moneySum := ledger.money
  quotaSum := ledger.quota
  money := ⟨ledger.refundedMoney_nonneg, ledger.moneyLe⟩
  quota := ⟨ledger.refundedQuota_nonneg, ledger.quotaLe⟩
  owner := ledger.user

theorem InShare.full {total balance : Int} {row : TopUp}
    (inShare : InShare settings total balance start books)
    (found : books.store.topUps.find? start.tradeNo = some row)
    (whole : row.refundedMoney = row.money) : row.refundedQuota = total := by
  obtain ⟨money, quota, _, ledger, share⟩ := inShare
  obtain rfl := Option.some.inj (ledger.row.symm.trans found)
  change money = start.money at whole
  rw [whole, mul_comm] at share
  have reached : (total : ℚ) ≤ quota := le_of_mul_le_mul_right share ledger.paid
  exact le_antisymm ledger.quotaLe (Int.cast_le.mp reached)

/-- In every run of operations on a credited top-up, its refund columns are the sums over
its refunds that have not failed and lie within what was paid and credited, and its owner
has lost the refunded quota.  All its quota is refunded with all its money if it is not an
administrator's top-up, or if it is only refunded by quota. -/
theorem refund_ledger_balances {ops : List RefundOp}
    (fresh : FreshlyCredited settings books start user)
    (on : Along (fun books op => op.On start.tradeNo books) (refundStep settings) books ops) :
    ∃ row, Balanced settings start user (run (refundStep settings) books ops) row ∧
      (isAdminTopUpRecord start = false ∨
          topUpCreditedQuota settings.quotaPerUnit start < 2 * 10 ^ 14 ∧
            (∀ op ∈ ops, op.byQuota = true) → row.refundedMoney = row.money →
        row.refundedQuota = topUpCreditedQuota settings.quotaPerUnit row) := by
  have initially : InOrder settings (topUpCreditedQuota settings.quotaPerUnit start)
      user.quota start books := ⟨_, _, _, fresh.ledger⟩
  have inOrder := run_invariant (fun _ _ inOrder on =>
    refundStep_keeps (fun _ => commit_inOrder inOrder on) inOrder) initially on
  obtain ⟨_, _, _, ledger⟩ := inOrder
  refine ⟨_, ledger.balanced, ?_⟩
  rintro (notAdmin | ⟨small, byQuota⟩) whole
  · exact ledger.full notAdmin whole
  · have share : InShare settings (topUpCreditedQuota settings.quotaPerUnit start)
        user.quota start books := by
      refine ⟨_, _, _, fresh.ledger, ?_⟩
      rw [fresh.noMoney, fresh.noQuota, Int.cast_zero, zero_mul, zero_mul]
    have shared := run_invariant (fun _ _ inShare meets => refundStep_keeps
      (fun _ => commit_inShare small inShare meets.1 meets.2) inShare) share
      (along_and_mem on byQuota)
    exact shared.full ledger.row whole

end Credited

/-- A unit is 500000 quota; subscriptions cannot be refunded. -/
def walletRefunds : RefundSettings :=
  ⟨500000, ⟨fun _ => none, fun _ _ => none⟩, fun _ _ _ _ _ => .error .storeFailure⟩

/-- An administrator's top-up. -/
def adminGrant (tradeNo : String) (amount : Int) (money : ℚ) : TopUp :=
  { tradeNo := tradeNo, userId := 7, amount := amount, money := money,
    paymentMethod := "admin_add", paymentProvider := .admin, status := .success }

def officialOrder : TopUp :=
  { tradeNo := "o", userId := 7, amount := 1, money := 1, paymentMethod := "alipay",
    paymentProvider := .alipayOfficial, status := .success }

def walletOwner : User := { id := 7, quota := 2 * 10 ^ 15 }

/-- The order, and three grants: of 100 quota for 0.03, of 10 for 1.00 and of 10 ^ 15 for
0.01. -/
def walletBooks : Books where
  store :=
    { users := .single walletOwner
      topUps := ⟨[officialOrder, adminGrant "a" 100 (3 / 100), adminGrant "b" 10 1,
        adminGrant "c" (10 ^ 15) (1 / 100)], by decide⟩ }

theorem walletBooks_fresh {topUp : TopUp} (listed : topUp ∈ walletBooks.store.topUps.rows)
    (cents : Decimal.HasPlaces 2 topUp.money) :
    FreshlyCredited walletRefunds walletBooks topUp walletOwner := by
  have each : ∀ topUp ∈ walletBooks.store.topUps.rows,
      walletBooks.store.users.find? topUp.userId = some walletOwner ∧ 0 < topUp.money ∧
        0 < topUpCreditedQuota walletRefunds.quotaPerUnit topUp ∧
        topUp.refundedMoney = 0 ∧ topUp.refundedQuota = 0 := by
    decide +kernel
  obtain ⟨owner, paid, credited, noMoney, noQuota⟩ := each topUp listed
  exact ⟨Table.find?_of_mem listed, rfl, owner, cents, paid, credited, noMoney, noQuota,
    nofun, nofun⟩

/-- The operations refund all the money of the top-up and leave some of its quota. -/
def LeavesQuota (topUp : TopUp) (ops : List RefundOp) : Prop :=
  FreshlyCredited walletRefunds walletBooks topUp walletOwner ∧
    Along (fun books op => op.On topUp.tradeNo books) (refundStep walletRefunds) walletBooks
      ops ∧
    ((run (refundStep walletRefunds) walletBooks ops).store.topUps.find?
      topUp.tradeNo).map (fun row => decide (row.refundedMoney = row.money ∧
        row.refundedQuota < topUpCreditedQuota walletRefunds.quotaPerUnit row)) = some true

/-- Two refunds by quota, of which the first books no money and fails. -/
def failingRefunds : List RefundOp :=
  [.admin ⟨"a", 33, "r1"⟩, .admin ⟨"a", 67, "r2"⟩, .markFailed "r1" false]

/-- Three refunds in money, each with less quota than its share, and one by quota. -/
def mixedRefunds : List RefundOp :=
  ["r1", "r2", "r3"].map (fun outRequestNo => .official
      { tradeNo := "b", refundAmount := 14 / 100, outRequestNo := outRequestNo,
        allowFullRefund := true }) ++ [.admin ⟨"b", 6, "r4"⟩]

/-- A refund by quota whose share of the money is rounded up by the division. -/
def roundedRefunds : List RefundOp := [.admin ⟨"c", 10 ^ 15 - 1, "r1"⟩]

/-- The money of an administrator's top-up can be refunded before its quota. -/
theorem admin_refunds_leave_quota :
    LeavesQuota (adminGrant "a" 100 (3 / 100)) failingRefunds ∧
      LeavesQuota (adminGrant "b" 10 1) mixedRefunds ∧
      LeavesQuota (adminGrant "c" (10 ^ 15) (1 / 100)) roundedRefunds := by
  refine ⟨⟨walletBooks_fresh (by decide +kernel) ⟨3, ?_⟩, by decide +kernel, by decide +kernel⟩,
    ⟨walletBooks_fresh (by decide +kernel) ⟨100, ?_⟩, by decide +kernel, by decide +kernel⟩,
    ⟨walletBooks_fresh (by decide +kernel) ⟨1, ?_⟩, by decide +kernel, by decide +kernel⟩⟩
  · norm_num [adminGrant]
  · norm_num [adminGrant]
  · norm_num [adminGrant]

def officialRefunds : List RefundOp :=
  [.official { tradeNo := "o", refundAmount := 1 / 3, outRequestNo := "r1" },
    .markFailed "r1" false, .official { tradeNo := "o", refundAmount := 1, outRequestNo := "r2" },
    .markSuccess "r2"]

theorem official_refunds_balance :
    FreshlyCredited walletRefunds walletBooks officialOrder walletOwner ∧
      Along (fun books op => op.On "o" books) (refundStep walletRefunds) walletBooks
        officialRefunds ∧ ∃ row, Balanced walletRefunds officialOrder walletOwner
          (run (refundStep walletRefunds) walletBooks officialRefunds) row ∧
        row.refundedMoney = row.money ∧ row.refundedQuota = 500000 := by
  have fresh : FreshlyCredited walletRefunds walletBooks officialOrder walletOwner :=
    walletBooks_fresh (by decide +kernel) ⟨100, by norm_num [officialOrder]⟩
  have on : Along (fun books op => op.On "o" books) (refundStep walletRefunds) walletBooks
    officialRefunds := by decide +kernel
  obtain ⟨row, balanced, full⟩ := refund_ledger_balances fresh on
  have credited : topUpCreditedQuota walletRefunds.quotaPerUnit officialOrder = 500000 := by
    decide +kernel
  have notAdmin : isAdminTopUpRecord officialOrder = false := by decide +kernel
  have whole : row.refundedMoney = row.money := by
    have reached : ((run (refundStep walletRefunds) walletBooks
        officialRefunds).store.topUps.find? "o").map (fun row =>
          decide (row.refundedMoney = row.money)) = some true := by decide +kernel
    rw [show "o" = officialOrder.tradeNo from rfl, balanced.found, Option.map_some] at reached
    exact of_decide_eq_true (Option.some.inj reached)
  refine ⟨fresh, on, row, balanced, whole, ?_⟩
  rw [full (.inl notAdmin) whole, balanced.credited, credited]

end StuHelper.TopUps

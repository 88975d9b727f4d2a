import StuHelper.TopUps.Refund

/-!
# What the refund operations can do

Four operations book a refund, each with an amount and a quota of its own, and one takes
a booked refund back.  `Booked` is what the four have in common for a top-up that is not
the order of a subscription.
-/

namespace StuHelper.TopUps

open Lib Subscription Decimal

/-- The top-up with other refund columns. -/
def withRefunded (topUp : TopUp) (money : ℚ) (quota : Int) (status : PaymentStatus) : TopUp :=
  { topUp with refundedMoney := money, refundedQuota := quota, status := status }

theorem addQuota_zero (books : Books) (userId : Int) : books.addQuota userId 0 = books := by
  simp only [Books.addQuota, Store.addQuota]
  rw [Table.update_id]
  simp

/-- One more refund of `amount` and `quota` stands in the books, and the top-up says that
`money` has been refunded. -/
structure Booked (books next : Books) (topUp : TopUp) (amount : ℚ) (quota : Int)
    (money : ℚ) : Prop where
  topUps : ∃ status, next.store.topUps = books.store.topUps.save
    (withRefunded topUp money (topUp.refundedQuota + quota) status)
  users : next.store.users = (books.addQuota topUp.userId (-quota)).store.users
  orders : next.store.orders = books.store.orders
  audits : ∀ audit ∈ next.store.audits.rows, ∃ old ∈ books.store.audits.rows,
    old.tradeNo = audit.tradeNo ∧ old.creditedQuota = audit.creditedQuota
  refunds : ∃ outRequestNo status, status ≠ .failed ∧
    books.refunds.insert? (refundRow topUp outRequestNo amount quota status) = some next.refunds

variable {refund : TopUpRefund}

theorem createRefund_ok {books next : Books} (done : books.createRefund refund = .ok next) :
    books.refunds.insert? refund = some next.refunds ∧ next.store = books.store := by
  unfold Books.createRefund at done
  split at done
  · cases done
  next inserted =>
    cases done
    exact ⟨inserted, rfl⟩

variable {quota : Int}

theorem deductQuota_ok {books next : Books} {userId : Int}
    (done : books.deductQuota userId quota = .ok next) : next = books.addQuota userId (-quota) := by
  unfold Books.deductQuota at done
  split at done
  · cases done
  split at done
  · cases done
  · cases done
    rfl

variable {amount : ℚ}

theorem booked_of_created {books created : Books} {topUp : TopUp} {outRequestNo : String}
    {money : ℚ} {rowStatus : RefundRowStatus} {status : PaymentStatus}
    (done : (books.addQuota topUp.userId (-quota)).createRefund
      (refundRow topUp outRequestNo amount quota rowStatus) = .ok created)
    (live : rowStatus ≠ .failed) :
    Booked books (created.saveTopUp (withRefunded topUp money (topUp.refundedQuota + quota) status))
      topUp amount quota money := by
  obtain ⟨row, store⟩ := createRefund_ok done
  constructor
  case topUps =>
    refine ⟨status, ?_⟩
    change created.store.topUps.save _ = _
    rw [store]
    rfl
  case users =>
    change created.store.users = _
    rw [store]
  case orders =>
    change created.store.orders = _
    rw [store]
    rfl
  case audits =>
    change ∀ audit ∈ created.store.audits.rows, _
    rw [store]
    exact fun audit member => ⟨audit, member, rfl, rfl⟩
  case refunds => exact ⟨outRequestNo, rowStatus, live, row⟩

theorem createRefund_addQuota {books created : Books}
    (done : books.createRefund refund = .ok created) (userId delta : Int) :
    (books.addQuota userId delta).createRefund refund = .ok (created.addQuota userId delta) := by
  unfold Books.createRefund at done ⊢
  split at done
  · cases done
  next refunds inserted =>
    cases done
    simp only [Books.addQuota, Store.addQuota, inserted]

/-! ## Refunds in money -/

variable {total already : Int} {remaining : ℚ} {outRequestNo : String}

theorem calculateOfficialRefundQuota_le {orderMoney : ℚ}
    (positive : 0 < calculateOfficialRefundQuota total already orderMoney amount remaining) :
    calculateOfficialRefundQuota total already orderMoney amount remaining ≤ total - already := by
  unfold calculateOfficialRefundQuota at positive ⊢
  dsimp only at positive ⊢
  split at positive
  · omega
  rename_i left
  rw [if_neg left]
  split
  · exact le_rfl
  split
  · omega
  split <;> omega

/-- A refund in money of a top-up that is not the order of a subscription. -/
structure MoneyRefund (settings : RefundSettings) (books next : Books) (topUp : TopUp)
    (amount : ℚ) (quota : Int) : Prop where
  positive : 0 < amount
  cents : Decimal.HasPlaces 2 amount
  fits : amount ≤ orderMoney topUp - refundedMoney topUp
  quotaEq : quota = calculateOfficialRefundQuota
    (topUpCreditedQuota settings.quotaPerUnit topUp) topUp.refundedQuota (orderMoney topUp)
    amount (orderMoney topUp - refundedMoney topUp)
  quotaPositive : 0 < quota
  booked : Booked books next topUp amount quota (refundedMoney topUp + amount)

section Money

variable {settings : RefundSettings} {books next : Books} {topUp : TopUp}
  (noOrder : books.store.orders.find? topUp.tradeNo = none)

include noOrder

theorem refundQuotaFor_noOrder (amount : ℚ) :
    refundQuotaFor settings books.store topUp amount = calculateOfficialRefundQuota
      (topUpCreditedQuota settings.quotaPerUnit topUp) topUp.refundedQuota
      (orderMoney topUp) amount (orderMoney topUp - refundedMoney topUp) := by
  simp only [refundQuotaFor, noOrder, Option.isSome_none, Bool.false_eq_true, if_false]

variable {params : OfficialRefund} {call : SelfServeRefund}

theorem official_book_ok (done : params.book books topUp amount quota = .ok next) :
    0 < quota ∧ Booked books next topUp amount quota (refundedMoney topUp + amount) := by
  simp only [OfficialRefund.book, noOrder, Option.isSome_none, Bool.not_false, and_true,
    Bool.false_eq_true, if_false] at done
  obtain ⟨positive, done⟩ := check_ok.mp done
  split at done
  · cases done
  rename_i created inserted
  split at done
  · cases done
  cases done
  refine ⟨not_le.mp positive, ?_⟩
  have early := createRefund_addQuota inserted topUp.userId (-quota)
  exact @booked_of_created _ _ _ _ _ _ (refundedMoney topUp + amount) _
    (bookRefund topUp (refundedMoney topUp + amount) quota).status early (by decide)

theorem official_ok (found : books.store.topUps.find? params.tradeNo = some topUp)
    (done : createOfficialPaymentRefund settings books params = .ok next) :
    ∃ amount quota, MoneyRefund settings books next topUp amount quota := by
  simp only [createOfficialPaymentRefund, found, check_ok] at done
  obtain ⟨-, -, positive, -, -, -, done⟩ := done
  cases checked : withinPreview settings books.store topUp params.allowFullRefund
      (round 2 params.refundAmount) with
  | error => simp [checked] at done
  | ok _ =>
    simp only [checked] at done
    obtain ⟨fits, done⟩ := check_ok.mp done
    obtain ⟨quotaPositive, booked⟩ := official_book_ok noOrder done
    exact ⟨_, _, not_not.mp positive, round_hasPlaces 2 _, not_lt.mp fits,
      refundQuotaFor_noOrder noOrder _, quotaPositive, booked⟩

theorem selfServe_book_ok (done : call.book settings books topUp amount quota = .ok next) :
    0 < quota ∧ Booked books next topUp amount quota (round 2 (refundedMoney topUp + amount)) := by
  simp only [SelfServeRefund.book, noOrder, Option.isSome_none, Bool.false_eq_true,
    if_false] at done
  split at done
  · cases done
  rename_i deducted taken
  simp only [SelfServeRefund.deduct, noOrder, Option.isSome_none, Bool.false_eq_true,
    if_false] at taken
  obtain ⟨positive, taken⟩ := check_ok.mp taken
  refine ⟨not_le.mp positive, ?_⟩
  split at taken
  · cases taken
  rename_i paid enough
  obtain ⟨-, taken⟩ := check_ok.mp taken
  cases taken
  obtain rfl := deductQuota_ok enough
  split at done
  · cases done
  next created inserted =>
    cases done
    exact booked_of_created inserted (by decide)

theorem selfServe_ok (found : books.store.topUps.find? (Text.trimSpace call.tradeNo) = some topUp)
    (done : createSelfServeManualRefund settings books call = .ok next) :
    ∃ amount quota, MoneyRefund settings books next topUp amount quota := by
  simp only [createSelfServeManualRefund, found, check_ok] at done
  obtain ⟨-, positive, -, done⟩ := done
  split at done
  · cases done
  · cases done
  split at done
  · cases done
  cases checked : withinPreview settings books.store topUp call.allowFullRefund
      (round 2 call.refundAmount) with
  | error => simp [checked] at done
  | ok _ =>
    simp only [checked] at done
    obtain ⟨fits, done⟩ := check_ok.mp done
    obtain ⟨quotaPositive, booked⟩ := selfServe_book_ok noOrder done
    have cents : Decimal.HasPlaces 2
        (refundedMoney topUp + round 2 call.refundAmount) :=
      (round_hasPlaces 2 _).add (round_hasPlaces 2 _)
    rw [round_of_hasPlaces cents] at booked
    exact ⟨_, _, not_not.mp positive, round_hasPlaces 2 _, not_lt.mp fits,
      refundQuotaFor_noOrder noOrder _, quotaPositive, booked⟩

/-! ## Rejections and refunds by quota -/

theorem reject_ok {call : Rejection}
    (found : books.store.topUps.find? (Text.trimSpace call.tradeNo) = some topUp)
    (done : rejectSelfServeTopUp settings books call = .ok next) :
    next = books ∨ ∃ audit ∈ books.store.audits.rows, audit.tradeNo = topUp.tradeNo ∧
      Booked books next topUp (max (round 2 (topUp.money - topUp.refundedMoney)) 0)
        (max (audit.creditedQuota - topUp.refundedQuota) 0)
        (round 2 (topUp.refundedMoney + max (round 2 (topUp.money - topUp.refundedMoney)) 0)) := by
  simp only [rejectSelfServeTopUp, found, check_ok] at done
  obtain ⟨-, -, done⟩ := done
  split at done
  · cases done
  rename_i audit auditFound
  have member := List.mem_of_find?_eq_some auditFound
  have trade : audit.tradeNo = topUp.tradeNo := by simpa using List.find?_some auditFound
  split at done
  · cases done
    exact .inl rfl
  · cases done
  · refine .inr ⟨audit, member, trade, ?_⟩
    simp only [Rejection.book, noOrder, Option.isSome_none, Bool.false_eq_true, if_false] at done
    generalize quotaEq : max (audit.creditedQuota - topUp.refundedQuota) 0 = quota at done ⊢
    have deducted : (if quota > 0 then books.addQuota topUp.userId (-quota) else books) =
        books.addQuota topUp.userId (-quota) := by
      split
      · rfl
      next empty =>
        obtain rfl : quota = 0 := by omega
        exact (addQuota_zero books topUp.userId).symm
    rw [deducted] at done
    split at done
    · cases done
    rename_i created inserted
    cases done
    have booked := @booked_of_created quota _ books created topUp call.outRequestNo
      (round 2 (topUp.refundedMoney + max (round 2 (topUp.money - topUp.refundedMoney)) 0))
      .success .refunded inserted (by decide)
    refine { booked with audits := ?_ }
    intro other otherMem
    rcases Table.mem_save.mp otherMem with ⟨rfl, -⟩ | ⟨old, -⟩
    · exact ⟨audit, member, rfl, rfl⟩
    · exact booked.audits other old

end Money

theorem admin_ok {settings : RefundSettings} {books next : Books} {topUp : TopUp}
    {call : AdminRefund}
    (found : books.store.topUps.find? (Text.trimSpace call.tradeNo) = some topUp)
    (done : refundAdminBalanceTopUp settings books call = .ok next) :
    isAdminTopUpRecord topUp = true ∧ 0 < call.refundQuota ∧
      call.refundQuota ≤ topUpCreditedQuota settings.quotaPerUnit topUp - topUp.refundedQuota ∧
      Booked books next topUp
        (adminRefundAmount topUp (topUpCreditedQuota settings.quotaPerUnit topUp) call.refundQuota)
        call.refundQuota
        (min (round 2 (refundedMoney topUp + adminRefundAmount topUp
          (topUpCreditedQuota settings.quotaPerUnit topUp) call.refundQuota))
          topUp.money) := by
  simp only [refundAdminBalanceTopUp, found, check_ok] at done
  obtain ⟨-, positive, admin, -, -, fits, done⟩ := done
  split at done
  · cases done
  rename_i deducted taken
  obtain rfl := deductQuota_ok taken
  split at done
  · cases done
  next created inserted =>
    cases done
    exact ⟨by simpa using admin, not_le.mp positive, not_lt.mp fits,
      booked_of_created inserted (by decide)⟩

/-! ## Answers of the provider -/

theorem markSuccess_ok {books next : Books}
    (done : markTopUpRefundSuccess books outRequestNo = .ok next) :
    next = books ∨ ∃ refund, books.refunds.find? outRequestNo = some refund ∧
      refund.status = .pending ∧
      next = { books with refunds := books.refunds.save { refund with status := .success } } := by
  unfold markTopUpRefundSuccess at done
  split at done
  · cases done
  split at done
  · cases done
  rename_i refund found
  split at done
  · cases done
    exact .inl rfl
  · cases done
  next pending =>
    cases done
    exact .inr ⟨refund, found, pending, rfl⟩

end StuHelper.TopUps

import StuHelper.Referral.InviterReward
import StuHelper.Subscription.LifecycleSteps
import StuHelper.TopUps.OneQuota
import StuHelper.TopUps.RefundSteps
import StuHelper.TopUps.World

/-!
# A top-up is credited at most once

No operation brings a top-up back into a state that a completion accepts, and a completion
that credits leaves such a state.  So the chances of a top-up to be credited only go down,
and so do the chances of its referral commission, whatever payment methods the paths pass.
-/

namespace StuHelper.Referral

open Lib Subscription List

/-! ## The keys of the commissions -/

def Referrals.keys (referrals : Referrals) : List CommissionKey :=
  referrals.commissions.rows.map ReferralCommission.key

variable (referrals : Referrals)

theorem keys_applyReferralCommissionRefundTarget (commission : ReferralCommission)
    (target orderMoney : ℚ) :
    (applyReferralCommissionRefundTarget referrals commission target orderMoney).keys =
      referrals.keys := by
  rw [applyReferralCommissionRefundTarget]
  split
  · rfl
  · simp only [Referrals.keys, Table.save, Table.map_key_update]
    split_ifs <;> rfl

@[simp] theorem keys_reverseReferralCommissionForRefund (sourceType : CommissionSource)
    (sourceId : String) (refundAmount orderMoney : ℚ) :
    (reverseReferralCommissionForRefund referrals sourceType sourceId refundAmount
      orderMoney).keys = referrals.keys := by
  rw [reverseReferralCommissionForRefund]
  split
  · rfl
  · exact foldlRecOn (motive := fun next : Referrals => next.keys = referrals.keys) _ _ rfl
      fun _ same _ _ => (keys_applyReferralCommissionRefundTarget _ _ _ _).trans same

@[simp] theorem keys_setReferralCommissionRefundTarget (sourceType : CommissionSource)
    (sourceId : String) (refundedAmount orderMoney : ℚ) :
    (setReferralCommissionRefundTarget referrals sourceType sourceId refundedAmount
      orderMoney).keys = referrals.keys := by
  rw [setReferralCommissionRefundTarget]
  split
  · rfl
  · exact foldlRecOn (motive := fun next : Referrals => next.keys = referrals.keys) _ _ rfl
      fun _ same _ _ => (keys_applyReferralCommissionRefundTarget _ _ _ _).trans same

@[simp] theorem keys_reverseInviterReward (store : Store) (userId : Int) :
    (reverseInviterRewardForFullRefund store referrals userId).2.keys = referrals.keys := by
  rw [Referrals.keys, commissions_reverseInviterReward]
  rfl

def Referrals.commissionsOf (referrals : Referrals) (tradeNo : String) : Nat :=
  referrals.commissions.rows.countP (ReferralCommission.isOf .topUp tradeNo)

theorem commissionsOf_creditInviteRewards (settings : ReferralSettings)
    (referrals : Referrals) (payment : Payment) (tradeNo : String) :
    (creditInviteRewardsAfterPayment settings referrals payment).2.commissionsOf tradeNo ≤
      referrals.commissionsOf tradeNo +
        (payment.sourceType = .topUp && payment.sourceId = tradeNo).toNat := by
  have rewarded := commissions_creditInviterReward referrals payment.userId
  rw [creditInviteRewardsAfterPayment]
  generalize creditInviterReward referrals payment.userId = answer at rewarded
  obtain ⟨_, start⟩ := answer
  simp only at rewarded ⊢
  rw [Referrals.commissionsOf, Referrals.commissionsOf, ← rewarded]
  rcases creditReferralCommission_cases settings start payment with same | ⟨row, commissioned⟩
  · rw [same]
    exact Nat.le_add_right _ _
  · have source := commissioned.source
    simp only [ReferralCommission.isOf, Bool.and_eq_true, decide_eq_true_eq] at source
    rw [commissioned.rows, countP_append, countP_singleton, ReferralCommission.isOf,
      source.1, source.2]
    generalize (decide (payment.sourceType = .topUp) && decide (payment.sourceId = tradeNo)) = own
    cases own <;> simp

end StuHelper.Referral

namespace StuHelper.TopUps

variable {store : Store} {next world : World} {settings : ServerSettings} {path : Path}
  {call : Completion}

open Lib Subscription Referral List

/-! ## Nothing reopens a top-up -/

/-- A completion would accept the top-up. -/
def canComplete (store : Store) (tradeNo : String) : Bool :=
  (store.topUps.find? tradeNo).any completable

/-- No top-up is open and no audit is pending that was not before. -/
structure Closes (before after : Store) : Prop where
  topUps : ∀ tradeNo, canComplete after tradeNo → canComplete before tradeNo
  audits : ∀ tradeNo, auditPending after tradeNo → auditPending before tradeNo

namespace Closes

variable {first second third : Store}

theorem refl (store : Store) : Closes store store := ⟨fun _ => id, fun _ => id⟩

theorem trans (earlier : Closes first second) (later : Closes second third) :
    Closes first third where
  topUps tradeNo opened := earlier.topUps tradeNo (later.topUps tradeNo opened)
  audits tradeNo pending := earlier.audits tradeNo (later.audits tradeNo pending)

theorem of_eq (topUps : second.topUps = first.topUps) (audits : second.audits = first.audits) :
    Closes first second where
  topUps tradeNo := by simp only [canComplete, topUps, imp_self]
  audits tradeNo := by simp only [auditPending, audits, imp_self]

theorem update {change : TopUp → TopUp} (keeps : ∀ row, (change row).tradeNo = row.tradeNo)
    (closes : ∀ topUp ∈ first.topUps.rows, completable (change topUp) → completable topUp)
    (topUps : second.topUps = first.topUps.update change keeps)
    (audits : second.audits = first.audits) : Closes first second where
  topUps tradeNo opened := by
    rw [canComplete, topUps, Table.find?_update] at opened
    cases found : first.topUps.find? tradeNo with
    | none => simp [found] at opened
    | some topUp =>
      rw [canComplete, found]
      rw [found] at opened
      exact closes topUp (Table.find?_mem found) opened
  audits tradeNo := by simp only [auditPending, audits, imp_self]

theorem save_of_imp {topUp : TopUp}
    (closes : ∀ row ∈ first.topUps.rows, row.tradeNo = topUp.tradeNo →
      completable topUp → completable row) (topUps : second.topUps = first.topUps.save topUp)
    (audits : second.audits = first.audits) : Closes first second := by
  refine update (by intro row; split <;> simp [*]) ?_ topUps audits
  intro row member opened
  split at opened
  next same => exact closes row member same opened
  · exact opened

/-- Saving a top-up that no completion accepts. -/
theorem save {topUp : TopUp} (closed : completable topUp = false)
    (topUps : second.topUps = first.topUps.save topUp)
    (audits : second.audits = first.audits) : Closes first second := by
  apply save_of_imp _ topUps audits
  intro row member same opened
  simp [closed] at opened

end Closes

variable {audit : SelfServeTopUpAudit}

/-- Searching the audits of a trade number after one of them was decided. -/
theorem find?_reviewed
    (member : audit ∈ store.audits.rows) (status : AuditStatus) (tradeNo : String) :
    ((store.audits.save { audit with status := status }).rows.find? fun row =>
        row.tradeNo = tradeNo) =
      (store.audits.rows.find? fun row => row.tradeNo = tradeNo).map fun row =>
        if row.transactionNo = audit.transactionNo then { audit with status := status }
        else row := by
  apply Table.find?_rows_update
  intro row rowMember
  split
  next same => rw [store.audits.eq_of_key_eq rowMember member same]
  · rfl

theorem Closes.review {status : AuditStatus}
    (decided : status ≠ .pending) (member : audit ∈ store.audits.rows) :
    Closes store
      { store with audits := store.audits.save { audit with status := status } } where
  topUps tradeNo := id
  audits tradeNo pending := by
    rw [auditPending, find?_reviewed member, Option.any_map] at pending
    rw [auditPending]
    cases row : store.audits.rows.find? fun row => row.tradeNo = tradeNo with
    | none => simp [row] at pending
    | some =>
      simp only [row, Option.any_some, decide_eq_true_eq] at pending ⊢
      split at pending
      · exact absurd pending decided
      · exact pending

variable {tradeNo : String}

/-! ## Refunds -/

theorem completable_bookRefund (topUp : TopUp) (money : ℚ) (quota : Int) :
    completable (bookRefund topUp money quota) = false := by
  rw [bookRefund]
  split <;> simp [completable]

theorem completable_unbookRefund (topUp : TopUp) (refund : TopUpRefund) :
    completable (unbookRefund topUp refund) = false := by
  simp only [unbookRefund]
  split <;> simp [completable]

theorem sync_closes {codec : PayloadCodec} {next : Store} {sync : RefundSync}
    (done : syncSubscriptionOrderRefundState codec store sync = .ok next) : Closes store next := by
  obtain ⟨order, topUp, _, -, -, -, -, -, rfl⟩ := sync_writes done
  refine .save ?_ rfl rfl
  simp only [completable, RefundSync.topUpAfter, RefundSync.status, refundStatus]
  split_ifs <;> simp

section Refunds

variable {settings : RefundSettings} {books next : Books}

theorem Closes.addQuota (closes : Closes store books.store)
    (userId delta : Int) : Closes store (books.addQuota userId delta).store :=
  ⟨closes.topUps, closes.audits⟩

variable {topUp : TopUp} {created : Books} {refund : TopUpRefund} {fails : Bool}

theorem saveTopUp_closes (closed : completable topUp = false) :
    Closes books.store (books.saveTopUp topUp).store :=
  .save closed rfl rfl

theorem created_closes (inserted : books.createRefund refund = .ok created) :
    Closes books.store created.store := by
  rw [(createRefund_ok inserted).2]
  exact .refl _

theorem createRefund_closes (inserted : books.createRefund refund = .ok created)
    (closed : completable topUp = false) :
    Closes books.store (created.saveTopUp topUp).store :=
  (created_closes inserted).trans (saveTopUp_closes closed)

theorem syncSubscription_closes {fullRefund : Bool} {now : Int}
    (done : books.syncSubscription settings tradeNo fullRefund now fails = .ok next) :
    Closes books.store next.store := by
  unfold Books.syncSubscription at done
  split at done
  · cases done
  next synced =>
    cases done
    exact sync_closes synced

theorem official_closes {params : OfficialRefund}
    (done : createOfficialPaymentRefund settings books params = .ok next) :
    Closes books.store next.store := by
  simp only [createOfficialPaymentRefund, check_ok] at done
  obtain ⟨-, -, -, done⟩ := done
  split at done
  · cases done
  simp only [check_ok] at done
  obtain ⟨-, -, -, done⟩ := done
  split at done
  · cases done
  split at done
  · cases done
  simp only [OfficialRefund.book] at done
  split at done
  · cases done
  split at done
  · cases done
  rename_i created inserted
  split at done
  · cases done
    exact createRefund_closes inserted (completable_bookRefund _ _ _)
  split at done
  · cases done
  · cases done
    exact (createRefund_closes inserted (completable_bookRefund _ _ _)).addQuota _ _

theorem markFailed_closes {outRequestNo : String}
    (done : markTopUpRefundFailed books outRequestNo fails = .ok next) :
    Closes books.store next.store := by
  unfold markTopUpRefundFailed at done
  split at done
  · cases done
  split at done
  · cases done
  split at done
  · cases done
    exact .of_eq rfl rfl
  split at done
  · cases done
  rename_i topUp _
  split at done
  · cases done
  split at done
  · cases done
    exact saveTopUp_closes (completable_unbookRefund topUp _)
  · cases done
    exact (saveTopUp_closes (completable_unbookRefund topUp _)).addQuota _ _

theorem deduct_closes {call : SelfServeRefund} {quota : Int}
    (done : call.deduct books topUp quota = .ok next) : Closes books.store next.store := by
  unfold SelfServeRefund.deduct at done
  split at done
  · cases done
    exact .of_eq rfl rfl
  split at done
  · cases done
  split at done
  · cases done
  rename_i taken
  split at done
  · cases done
  · cases done
    rw [deductQuota_ok taken]
    exact .of_eq rfl rfl

theorem selfServe_closes {call : SelfServeRefund}
    (done : createSelfServeManualRefund settings books call = .ok next) :
    Closes books.store next.store := by
  simp only [createSelfServeManualRefund, check_ok] at done
  obtain ⟨-, -, done⟩ := done
  split at done
  · cases done
  split at done
  · cases done
  split at done
  · cases done
  · cases done
  iterate 3
    split at done
    · cases done
  simp only [SelfServeRefund.book] at done
  split at done
  · cases done
  rename_i deducted
  split at done
  · cases done
  rename_i inserted
  have booked {row : TopUp} (closed : completable row = false) :=
    (deduct_closes deducted).trans (createRefund_closes inserted closed)
  split at done
  · exact (booked (completable_bookRefund _ _ _)).trans (syncSubscription_closes done)
  · cases done
    exact booked (completable_bookRefund _ _ _)

theorem reject_book_closes {call : Rejection} (member : audit ∈ books.store.audits.rows)
    (done : call.book settings books topUp audit = .ok next) : Closes books.store next.store := by
  unfold Rejection.book at done
  extract_lets subscription quota amount deducted at done
  have taken : Closes books.store deducted.store ∧ deducted.store.audits = books.store.audits := by
    simp only [deducted]
    split
    · exact ⟨(Closes.refl books.store).addQuota _ _, rfl⟩
    · exact ⟨.refl books.store, rfl⟩
  split at done
  · cases done
  rename_i created inserted
  have same := (createRefund_ok inserted).2
  have booked := taken.1.trans (createRefund_closes inserted
    (show completable (rejectTopUp topUp amount quota) = false by
      simp [rejectTopUp, completable]))
  have stored : audit ∈ (created.saveTopUp (rejectTopUp topUp amount quota)).store.audits.rows := by
    rw [Books.saveTopUp, same, taken.2]
    exact member
  have reviewed := booked.trans (Closes.review (show AuditStatus.rejected ≠ .pending by decide)
    stored)
  split at done
  · exact reviewed.trans (syncSubscription_closes done)
  · cases done
    exact reviewed

theorem reject_closes {call : Rejection}
    (done : rejectSelfServeTopUp settings books call = .ok next) :
    Closes books.store next.store := by
  simp only [rejectSelfServeTopUp] at done
  iterate 4
    split at done
    · cases done
  rename_i audit found
  split at done
  · cases done
    exact .refl _
  · cases done
  · exact reject_book_closes (mem_of_find?_eq_some found) done

theorem admin_closes {call : AdminRefund}
    (done : refundAdminBalanceTopUp settings books call = .ok next) :
    Closes books.store next.store := by
  simp only [refundAdminBalanceTopUp, check_ok] at done
  obtain ⟨-, -, done⟩ := done
  split at done
  · cases done
  simp only [check_ok] at done
  obtain ⟨-, -, -, -, done⟩ := done
  split at done
  · cases done
  rename_i taken
  split at done
  · cases done
  rename_i inserted
  cases done
  rw [deductQuota_ok taken] at inserted
  exact ((Closes.refl books.store).addQuota _ _).trans
    (createRefund_closes inserted (by rw [bookAdminRefund]; split <;> simp [completable]))

theorem refund_closes {op : RefundOp} (done : op.commit settings books = .ok next) :
    Closes books.store next.store := by
  cases op with
  | official => exact official_closes done
  | markSuccess =>
    rcases markSuccess_ok done with rfl | ⟨refund, -, -, rfl⟩
    · exact .refl _
    · exact .refl _
  | markFailed => exact markFailed_closes done
  | selfServe => exact selfServe_closes done
  | reject => exact reject_closes done
  | admin => exact admin_closes done

theorem refundBalance_closes {server : ServerSettings} {call : BalanceRefund}
    (done : createBalanceSubscriptionRefund server books call = .ok next) :
    Closes books.store next.store := by
  simp only [createBalanceSubscriptionRefund, check_ok] at done
  obtain ⟨-, -, done⟩ := done
  iterate 8
    split at done
    · cases done
  simp only [BalanceRefund.book] at done
  split at done
  · cases done
  split at done
  · cases done
  rename_i created inserted
  split at done
  · cases done
  rename_i synced
  cases done
  refine (((created_closes inserted).addQuota _ _).trans (saveTopUp_closes ?_)).trans
    (sync_closes synced)
  simp only [completable]
  split <;> simp

end Refunds

/-! ## The referral side -/

theorem keys_referRefund (world : World) (next : Books) (tradeNo : String) (amount : ℚ) :
    (world.referRefund next tradeNo amount).keys = world.referrals.keys := by
  rw [World.referRefund]
  split
  · rfl
  · split <;> simp

theorem keys_referSync (referrals : Referrals) (next : Store) (tradeNo : String) :
    (referSync referrals next tradeNo).keys = referrals.keys := by
  rw [referSync]
  split
  · split <;> simp
  · rfl

theorem keys_referFailure (world : World) (next : Books) (outRequestNo : String) :
    (world.referFailure next outRequestNo).keys = world.referrals.keys := by
  rw [World.referFailure]
  split
  · rfl
  split
  · rfl
  split
  · rfl
  extract_lets reversed
  have kept : reversed.keys = world.referrals.keys := by
    simp only [reversed]
    split <;> simp
  split
  · rw [restoreInviterRewardForRefundFailure]
    split
    · exact kept
    split
    · exact kept
    · rw [Referrals.keys, commissions_creditInviterReward]
      exact kept
  · exact kept

theorem keys_refer (world : World) (next : Books) (op : RefundOp) :
    (world.refer next op).keys = world.referrals.keys := by
  cases op with
  | official =>
    simp only [World.refer]
    split
    · rfl
    · exact keys_referRefund _ _ _ _
  | markSuccess => rfl
  | markFailed => exact keys_referFailure _ _ _
  | selfServe =>
    simp only [World.refer]
    split
    · exact keys_referSync _ _ _
    · exact keys_referRefund _ _ _ _
  | reject =>
    simp only [World.refer]
    split
    · exact keys_referSync _ _ _
    · rfl
  | admin => rfl

/-! ## Completions and approvals -/

section Crediting

theorem complete_world_cases (done : world.complete settings path call = .ok next) :
    ∃ completed, path.complete settings.credit world.books.store call = .ok completed ∧
      (next = world ∧ completed.credited = none ∨
      ∃ topUp, canComplete world.books.store call.tradeNo ∧ completed.credited.isSome ∧
        canComplete next.books.store call.tradeNo = false ∧
        Closes world.books.store next.books.store ∧ topUp.tradeNo = call.tradeNo ∧
        next.referrals = (creditInviteRewardsAfterPayment settings.referral world.referrals
          (paymentOf topUp (path.commissionMethod topUp))).2) := by
  rw [World.complete] at done
  split at done
  · cases done
  rename_i completed completes
  refine ⟨completed, completes, ?_⟩
  rcases complete_cases completes with rfl | ⟨topUp, quota, found, pending, credited, effect⟩
  · cases done
    exact .inl ⟨rfl, rfl⟩
  · simp only [credited, found] at done
    cases done
    have closed : completable
        (succeed topUp (path.paymentMethod topUp) call.now) = false := by
      simp [succeed, completable]
    refine .inr ⟨topUp, ?_, by simp [credited], ?_, ?_, Table.find?_key found, rfl⟩
    · rw [canComplete, found]
      exact pending
    · rw [canComplete, effect.row found]
      exact closed
    · rw [effect.store]
      exact .save closed rfl rfl

end Crediting

/-! ## Runs -/

/-- The step is a completion that credits the top-up. -/
def creditsTopUp (tradeNo : String) (world : World) (label : ServerSettings × WorldOp) : Bool :=
  match label.2 with
  | .complete path call => call.tradeNo = tradeNo &&
      match path.complete label.1.credit world.books.store call with
      | .ok completed => completed.credited.isSome
      | .error _ => false
  | _ => false

/-- How often the top-up can still be credited. -/
def chances (tradeNo : String) (world : World) : Nat :=
  (canComplete world.books.store tradeNo).toNat

/-- How often its commission can still be created by a review. -/
def reviews (tradeNo : String) (world : World) : Nat :=
  (auditPending world.books.store tradeNo).toNat

/-- What an operation does to the chances of a top-up and of its commission. -/
structure Spends (tradeNo : String) (world next : World) (credits : Bool) : Prop where
  quota : credits.toNat + chances tradeNo next ≤ chances tradeNo world
  commission : next.referrals.commissionsOf tradeNo + chances tradeNo next + reviews tradeNo next ≤
    world.referrals.commissionsOf tradeNo + chances tradeNo world + reviews tradeNo world

variable (tradeNo : String)

section

variable (closes : Closes world.books.store next.books.store)

include closes

theorem Closes.chances_le : chances tradeNo next ≤ chances tradeNo world :=
  Bool.toNat_le_toNat (Bool.le_iff_imp.mpr (closes.topUps tradeNo))

theorem Closes.reviews_le : reviews tradeNo next ≤ reviews tradeNo world :=
  Bool.toNat_le_toNat (Bool.le_iff_imp.mpr (closes.audits tradeNo))

/-- An operation that closes what it touches and creates no commission. -/
theorem Closes.spends
    (keys : next.referrals.keys = world.referrals.keys) : Spends tradeNo world next false := by
  have fewer := closes.chances_le tradeNo
  have decided := closes.reviews_le tradeNo
  have byKey (referrals : Referrals) : referrals.commissionsOf tradeNo =
      referrals.keys.countP fun key => key.sourceType = .topUp && key.sourceId = tradeNo := by
    rw [Referrals.keys, countP_map]
    rfl
  have same : next.referrals.commissionsOf tradeNo = world.referrals.commissionsOf tradeNo := by
    rw [byKey, byKey, keys]
  constructor
  · simpa using fewer
  · omega

theorem Closes.pays {payment : Payment}
    (referrals : next.referrals =
      (creditInviteRewardsAfterPayment settings.referral world.referrals payment).2)
    (spent : payment.sourceId = tradeNo → chances tradeNo next + reviews tradeNo next <
      chances tradeNo world + reviews tradeNo world) :
    next.referrals.commissionsOf tradeNo + chances tradeNo next + reviews tradeNo next ≤
      world.referrals.commissionsOf tradeNo + chances tradeNo world + reviews tradeNo world := by
  have created :=
    commissionsOf_creditInviteRewards settings.referral world.referrals payment tradeNo
  rw [← referrals] at created
  by_cases own : payment.sourceId = tradeNo
  · have once := created.trans (Nat.add_le_add_left (Bool.toNat_le _) _)
    have := spent own
    omega
  · have fewer := closes.chances_le tradeNo
    have decided := closes.reviews_le tradeNo
    simp only [own, decide_false, Bool.and_false, Bool.toNat_false, add_zero] at created
    omega

end

theorem complete_spends (done : world.complete settings path call = .ok next) :
    Spends tradeNo world next (creditsTopUp tradeNo world (settings, .complete path call)) := by
  obtain ⟨completed, completes, ⟨rfl, nothing⟩ |
    ⟨topUp, opened, -, closed, closes, trade, referrals⟩⟩ := complete_world_cases done
  · have uncounted :
        creditsTopUp tradeNo next (settings, .complete path call) = false := by
      simp [creditsTopUp, completes, nothing]
    rw [uncounted]
    exact (Closes.refl _).spends tradeNo rfl
  · have fewer := closes.chances_le tradeNo
    have decided := closes.reviews_le tradeNo
    have used (own : call.tradeNo = tradeNo) : chances tradeNo world = 1 ∧
        chances tradeNo next = 0 := by
      subst own
      rw [chances, chances, opened, closed]
      exact ⟨rfl, rfl⟩
    constructor
    · by_cases own : call.tradeNo = tradeNo
      · rw [(used own).1, (used own).2]
        exact Bool.toNat_le _
      · simpa [creditsTopUp, own] using fewer
    · refine closes.pays tradeNo referrals fun own => ?_
      have := used (trade.symm.trans own)
      omega

theorem approve_spends {approved : String}
    (done : world.approveSelfServeTopUp settings approved = .ok next) :
    Spends tradeNo world next false := by
  simp only [World.approveSelfServeTopUp] at done
  split at done
  · cases done
  split at done
  · cases done
  rename_i topUp found
  have trade : topUp.tradeNo = Text.trimSpace approved := Table.find?_key found
  rw [trade] at done
  split at done
  · cases done
  split at done
  · cases done
  rename_i audit auditFound
  have listed := mem_of_find?_eq_some auditFound
  split at done
  · cases done
    exact (Closes.refl _).spends tradeNo rfl
  · cases done
  rename_i pending
  have nextEq := Except.ok.inj done
  have closes : Closes world.books.store next.books.store := nextEq ▸ .review (by decide) listed
  have fewer := closes.chances_le tradeNo
  refine ⟨by simpa using fewer, closes.pays tradeNo (by rw [← nextEq]) fun own => ?_⟩
  obtain rfl : tradeNo = Text.trimSpace approved := own.symm.trans trade
  have waited : auditPending world.books.store (Text.trimSpace approved) = true := by
    simp [auditPending, auditFound, pending]
  have reviewed : auditPending next.books.store (Text.trimSpace approved) = false := by
    simp [auditPending, ← nextEq, find?_reviewed listed, auditFound]
  rw [reviews, reviews, waited, reviewed]
  exact Nat.lt_succ_of_le fewer

theorem updatePending_closes {next : Store} {tradeNo : String} {provider : PaymentProvider}
    {status : PaymentStatus}
    (done : updatePendingTopUpStatus store tradeNo provider status = .ok next) :
    Closes store next := by
  unfold updatePendingTopUpStatus at done
  split at done
  · cases done
  split at done
  · cases done
  rename_i topUp found
  simp only [check_ok] at done
  obtain ⟨-, pending, done⟩ := done
  cases done
  refine .save_of_imp ?_ rfl rfl
  intro row member same opened
  rw [store.topUps.eq_of_key_eq member (Table.find?_mem found) same]
  exact completable_of_pending (not_not.mp pending)

theorem expireOfficial_closes {next : Store} {call : OfficialExpiry}
    (done : expireOfficialPaymentPendingTopUpsBefore store call = .ok next) :
    Closes store next := by
  unfold expireOfficialPaymentPendingTopUpsBefore at done
  split at done
  · cases done
  split at done
  · cases done
    exact .refl _
  cases done
  refine .update (by intro row; rw [OfficialExpiry.expireTopUp]; split <;> rfl) ?_ rfl rfl
  intro row member opened
  rw [OfficialExpiry.expireTopUp] at opened
  split at opened
  next selected =>
    simp only [OfficialExpiry.selects, Bool.and_eq_true, decide_eq_true_eq] at selected
    exact completable_of_pending selected.1.1.2
  · exact opened

theorem map_ok {α β : Type} {result : Except TopUpError α} {change : α → β} {value : β}
    (done : result.map change = .ok value) :
    ∃ first, result = .ok first ∧ change first = value := by
  cases result with
  | error => cases done
  | ok first =>
    cases done
    exact ⟨first, rfl, rfl⟩

theorem commit_spends {op : WorldOp} (done : op.commit settings world = .ok next) :
    Spends tradeNo world next (creditsTopUp tradeNo world (settings, op)) := by
  cases op with
  | complete => exact complete_spends tradeNo done
  | updatePending =>
    obtain ⟨store, updated, rfl⟩ := map_ok done
    exact (updatePending_closes updated).spends tradeNo rfl
  | expireOfficial =>
    obtain ⟨_, expired, rfl⟩ := map_ok done
    exact (expireOfficial_closes expired).spends tradeNo rfl
  | approve =>
    exact approve_spends tradeNo done
  | refund op =>
    obtain ⟨books, refunded, rfl⟩ := map_ok done
    exact (refund_closes refunded).spends tradeNo (keys_refer world books op)
  | refundBalance =>
    obtain ⟨_, refunded, rfl⟩ := map_ok done
    exact (refundBalance_closes refunded).spends tradeNo (keys_referSync _ _ _)
  | sync =>
    simp only [WorldOp.commit] at done
    split at done
    · cases done
    next synced =>
      cases done
      exact (sync_closes synced).spends tradeNo (keys_referSync _ _ _)

theorem step_spends (world : World) (label : ServerSettings × WorldOp) :
    Spends tradeNo world (worldStep world label) (creditsTopUp tradeNo world label) := by
  obtain ⟨settings, op⟩ := label
  rw [worldStep]
  split
  next next done => exact commit_spends tradeNo done
  rename_i error failed
  have uncounted : creditsTopUp tradeNo world (settings, op) = false := by
    cases op with
    | complete =>
      change world.complete settings _ _ = _ at failed
      rw [World.complete] at failed
      split at failed
      next refused => simp [creditsTopUp, refused]
      · split at failed <;> cases failed
    | _ => rfl
  rw [uncounted]
  exact (Closes.refl _).spends tradeNo rfl

/-- In every run a top-up is credited at most once, completions that do not credit it
change nothing, and at most one referral commission of it is created.  A self-serve
order, whose commission waits for the review of its audit, is created complete. -/
theorem topUp_credited_once (start : World) (tradeNo : String)
    (created : auditPending start.books.store tradeNo →
      canComplete start.books.store tradeNo = false) (ops : List (ServerSettings × WorldOp)) :
    occurrences (creditsTopUp tradeNo) worldStep start ops ≤ 1 ∧
      (∀ world settings path call, call.tradeNo = tradeNo →
        creditsTopUp tradeNo world (settings, .complete path call) = false →
        worldStep world (settings, .complete path call) = world) ∧
      (run worldStep start ops).referrals.commissionsOf tradeNo ≤
        start.referrals.commissionsOf tradeNo + 1 := by
  have atMost : chances tradeNo start + reviews tradeNo start ≤ 1 := by
    cases pending : auditPending start.books.store tradeNo with
    | true => simp [chances, reviews, pending, created pending]
    | false => simpa [chances, reviews, pending] using Bool.toNat_le _
  refine ⟨?_, ?_, ?_⟩
  · have counted := occurrences_le (fun world label => (step_spends tradeNo world label).quota)
      start ops
    omega
  · intro world settings path call own uncounted
    subst own
    rw [worldStep]
    split
    next next done =>
      obtain ⟨_, completes, ⟨same, -⟩ | ⟨_, -, credited, -⟩⟩ := complete_world_cases done
      · exact same
      · simp [creditsTopUp, completes, credited] at uncounted
    · rfl
  · have bounded := @run_invariant_of_all _ _ worldStep (fun world =>
        world.referrals.commissionsOf tradeNo + chances tradeNo world + reviews tradeNo world ≤
          start.referrals.commissionsOf tradeNo + chances tradeNo start + reviews tradeNo start)
      (fun world label before => (step_spends tradeNo world label).commission.trans before)
      start ops le_rfl
    omega

/-- Ten percent commission, and a unit of quota for a unit of money. -/
def plainServer : ServerSettings where
  credit := ⟨1, fun sum => ⌊sum⌋⟩
  refund := ⟨1, ⟨fun _ => none, fun _ _ => none⟩, fun _ _ _ _ _ => .error .storeFailure⟩
  referral := tenPercent
  payments := ⟨1, 1, 100, 100, false⟩

def pendingWorld : World where
  books := { store :=
    { users := .single { id := 2 }
      topUps := .single { tradeNo := "T1", userId := 2, amount := 10, money := 10
                          paymentProvider := .alipayOfficial } } }
  referrals := invitedPair

/-- The order expires, is paid late, completed by hand and reported again. -/
def latePayment : List (ServerSettings × WorldOp) :=
  [(plainServer, .expireOfficial ⟨.alipayOfficial, 5, 5, 0, 5⟩),
    (plainServer, .complete (.official .alipayOfficial "alipay" none) ⟨"T1", 6, false⟩),
    (plainServer, .complete .manual ⟨"T1", 7, false⟩),
    (plainServer, .complete (.official .alipayOfficial "alipay_app" none) ⟨"T1", 8, false⟩)]

/-- The late payment is credited once and earns one commission. -/
theorem late_payment_credited_once :
    occurrences (creditsTopUp "T1") worldStep pendingWorld latePayment = 1 ∧
      (run worldStep pendingWorld latePayment).referrals.commissionsOf "T1" = 1 := by
  obtain ⟨once, -, commission⟩ := topUp_credited_once pendingWorld "T1" (by decide) latePayment
  exact ⟨le_antisymm once (by decide +kernel), le_antisymm commission (by decide +kernel)⟩

end StuHelper.TopUps

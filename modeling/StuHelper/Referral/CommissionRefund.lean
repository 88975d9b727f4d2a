import StuHelper.Lib.Run
import StuHelper.Referral.Rewards

/-!
# A commission follows the refunds of its order

Refunds of a top-up and refunds that fail move the refunded amount of a commission up and
down, and the sync of a subscription order sets it.  After every step the commission that
was taken back is the share that belongs to the net refunded amount, and the inviter has
exactly the rest.
-/

namespace StuHelper.Referral

open Lib Subscription Referrals List

/-! ## The balance of an affiliate -/

/-- `aff_quota` and `aff_history` of a user. -/
def Referrals.aff (referrals : Referrals) (userId : Int) : Option (Int × Int) :=
  (referrals.users.find? userId).map fun user => (user.affQuota, user.affHistory)

/-- Both balances moved by an amount. -/
def moveAff (delta : Int) (aff : Int × Int) : Int × Int := (aff.1 + delta, aff.2 + delta)

@[simp] theorem moveAff_zero : moveAff 0 = id := by
  funext aff
  simp [moveAff]

theorem map_moveAff (aff : Option (Int × Int)) {first second total : Int}
    (sum : first + second = total) :
    (aff.map (moveAff first)).map (moveAff second) = aff.map (moveAff total) := by
  subst sum
  cases aff with
  | none => rfl
  | some => simp [moveAff, add_assoc]

section Update

variable (referrals : Referrals) (userId : Int)

variable {change : Affiliate → Affiliate}

variable {keeps : ∀ user, (change user).id = user.id}

theorem find?_updateUser (wanted : Int) :
    (referrals.updateUser userId change keeps).users.find? wanted =
      (referrals.users.find? wanted).map
        fun user => if user.id = userId then change user else user := by
  exact Table.find?_update referrals.users _ (by intro user; split <;> simp [keeps]) wanted

theorem find?_updateUser_other {wanted : Int} (other : wanted ≠ userId) :
    (referrals.updateUser userId change keeps).users.find? wanted =
      referrals.users.find? wanted := by
  rw [find?_updateUser]
  cases found : referrals.users.find? wanted with
  | none => rfl
  | some user =>
    have id : user.id = wanted := Table.find?_key found
    simp [id, other]

theorem find?_updateUser_self {user : Affiliate}
    (found : referrals.users.find? userId = some user) :
    (referrals.updateUser userId change keeps).users.find? userId = some (change user) := by
  have id : user.id = userId := Table.find?_key found
  rw [find?_updateUser, found, Option.map_some, if_pos id]

theorem aff_addAff (delta wanted : Int) :
    (referrals.addAff userId delta).aff wanted =
      if wanted = userId then (referrals.aff wanted).map (moveAff delta)
      else referrals.aff wanted := by
  rw [aff, addAff, find?_updateUser, aff]
  cases found : referrals.users.find? wanted with
  | none => simp
  | some user =>
    have id : user.id = wanted := Table.find?_key found
    by_cases same : wanted = userId
    · simp [id, same, moveAff]
    · simp [id, same]

/-- A change that leaves the balances alone. -/
theorem aff_updateUser (quota : ∀ user, (change user).affQuota = user.affQuota)
    (history : ∀ user, (change user).affHistory = user.affHistory) (wanted : Int) :
    (referrals.updateUser userId change keeps).aff wanted = referrals.aff wanted := by
  rw [aff, find?_updateUser, aff]
  cases referrals.users.find? wanted with
  | none => rfl
  | some =>
    simp only [Option.map_some]
    split
    · simp [quota, history]
    · rfl

end Update

/-! ## Crediting -/

/-- What a payment that earns a commission leaves behind. -/
structure Commissioned (start next : Referrals) (payment : Payment)
    (row : ReferralCommission) : Prop where
  rows : next.commissions.rows = start.commissions.rows ++ [row]
  aff : ∀ userId, next.aff userId =
    if userId = row.inviterId then (start.aff userId).map (moveAff row.commissionQuota)
    else start.aff userId
  others : ∀ userId, userId ≠ row.inviterId → next.users.find? userId = start.users.find? userId
  invitee : ∃ invitee, start.users.find? payment.userId = some invitee ∧
    row.inviterId = invitee.inviterId ∧ row.key.inviteeId = payment.userId
  inviter : (start.users.find? row.inviterId).isSome
  inviterPos : 0 < row.inviterId
  source : row.isOf payment.sourceType payment.sourceId
  amount : row.rechargeAmount = payment.rechargeAmount
  amountPos : 0 < payment.rechargeAmount
  quotaPos : 0 < row.commissionQuota
  unrefunded : row.refundedRechargeAmount = 0 ∧ row.refundedCommissionQuota = 0

/-- A payment either earns one new commission or changes nothing. -/
theorem creditReferralCommission_cases (settings : ReferralSettings) (start : Referrals)
    (payment : Payment) :
    creditReferralCommission settings start payment = start ∨
      ∃ row, Commissioned start (creditReferralCommission settings start payment) payment
        row := by
  generalize nextEq : creditReferralCommission settings start payment = next
  simp only [creditReferralCommission] at nextEq
  split at nextEq
  · exact .inl nextEq.symm
  rename_i pays
  split at nextEq
  · exact .inl nextEq.symm
  rename_i invitee foundInvitee
  split at nextEq
  · exact .inl nextEq.symm
  split at nextEq
  · exact .inl nextEq.symm
  rename_i inviter foundInviter
  split at nextEq
  · exact .inl nextEq.symm
  split at nextEq
  · exact .inl nextEq.symm
  split at nextEq
  · exact .inl nextEq.symm
  rename_i commissions inserted
  right
  subst nextEq
  obtain ⟨-, rows⟩ := Table.insert?_some inserted
  have id : invitee.id = payment.userId := Table.find?_key foundInvitee
  refine ⟨_, rows, ?_, ?_, ⟨invitee, foundInvitee, rfl, id⟩, ?_, ?_, ?_, rfl, ?_, ?_,
    rfl, rfl⟩
  · exact fun userId => aff_addAff _ _ _ userId
  · intro userId other
    rw [addAff, find?_updateUser_other _ _ other]
  · simp [foundInviter]
  · simp only
    omega
  · simp [ReferralCommission.isOf]
  · simp only [Bool.or_eq_true, decide_eq_true_eq, not_or] at pays
    exact not_le.mp pays.1.2
  · simp only
    omega

/-! ## Refunds -/

theorem refundQuotaTarget_bounds {commissionQuota : Int} (positive : 0 < commissionQuota)
    (refundedAmount orderMoney : ℚ) :
    0 ≤ referralCommissionRefundQuotaTarget commissionQuota refundedAmount orderMoney ∧
      referralCommissionRefundQuotaTarget commissionQuota refundedAmount orderMoney ≤
        commissionQuota := by
  simp only [referralCommissionRefundQuotaTarget]
  split_ifs <;> omega

theorem refundQuotaTarget_zero (commissionQuota : Int) (orderMoney : ℚ) :
    referralCommissionRefundQuotaTarget commissionQuota 0 orderMoney = 0 := by
  simp [referralCommissionRefundQuotaTarget]

theorem clampAmount_of_mem {amount orderMoney : ℚ} (nonneg : 0 ≤ amount)
    (le : amount ≤ orderMoney) : clampAmount amount orderMoney = amount := by
  simp only [clampAmount, if_neg (not_lt.mpr nonneg), if_neg (not_lt.mpr le)]

def ReferralCommission.refunded (row : ReferralCommission) (money net : ℚ) : ReferralCommission :=
  { row with
    refundedRechargeAmount := net
    refundedCommissionQuota := referralCommissionRefundQuotaTarget row.commissionQuota net money }

/-- The order has this one commission, refunded to the net amount, and the inviter has the
rest of it. -/
structure Follows (start : Referrals) (sourceType : CommissionSource) (sourceId : String)
    (row : ReferralCommission) (money net : ℚ) (referrals : Referrals) : Prop where
  only : referrals.commissions.rows.filter (ReferralCommission.isOf sourceType sourceId) =
    [row.refunded money net]
  aff : referrals.aff row.inviterId = (start.aff row.inviterId).map
    (moveAff (row.commissionQuota -
      referralCommissionRefundQuotaTarget row.commissionQuota net money))
  cents : Decimal.HasPlaces 2 net
  nonneg : 0 ≤ net
  le : net ≤ money

section Refund

variable {start referrals : Referrals} {sourceType : CommissionSource} {sourceId : String}
  {row : ReferralCommission} {money net target : ℚ}

theorem Follows.apply (follows : Follows start sourceType sourceId row money net referrals)
    (earned : 0 < row.commissionQuota) (inviter : 0 < row.inviterId)
    (amount : Decimal.round 2 row.rechargeAmount = money) (positive : 0 < money)
    (own : row.isOf sourceType sourceId) (cents : Decimal.HasPlaces 2 target)
    (nonneg : 0 ≤ target) (le : target ≤ money) :
    Follows start sourceType sourceId row money target
      (applyReferralCommissionRefundTarget referrals (row.refunded money net) target money) := by
  obtain ⟨low, high⟩ := refundQuotaTarget_bounds earned net money
  have aff := follows.aff
  generalize current : referralCommissionRefundQuotaTarget row.commissionQuota net money =
    refunded at low high aff
  generalize next : referralCommissionRefundQuotaTarget row.commissionQuota target money = wanted
  have saved : ∀ moved : Referrals, moved.commissions = referrals.commissions →
      (moved.commissions.save (row.refunded money target)).rows.filter
        (ReferralCommission.isOf sourceType sourceId) = [row.refunded money target] := by
    intro moved same
    rw [same]
    exact Table.filter_save follows.only rfl own
  have result : applyReferralCommissionRefundTarget referrals (row.refunded money net) target
      money =
      let moved := if wanted - refunded ≠ 0 then
        referrals.addAff row.inviterId (-(wanted - refunded)) else referrals
      { moved with commissions := moved.commissions.save (row.refunded money target) } := by
    simp only [applyReferralCommissionRefundTarget, if_neg (not_not.mpr positive),
      clampAmount_of_mem nonneg le, ReferralCommission.refunded, current, next, amount,
      if_neg (not_lt.mpr low), if_neg (not_lt.mpr high), not_lt.mpr le, and_false, if_false,
      inviter, and_true]
  rw [result]
  refine ⟨?_, ?_, cents, nonneg, le⟩
  · apply saved
    split <;> rfl
  · rw [next]
    change Referrals.aff (if wanted - refunded ≠ 0 then
      referrals.addAff row.inviterId (-(wanted - refunded)) else referrals) row.inviterId = _
    split
    · rw [aff_addAff, if_pos rfl, aff]
      exact map_moveAff _ (by omega)
    · rw [aff, show wanted = refunded by omega]

end Refund

/-! ## Runs of refunds -/

/-- A refund of a top-up, which is negative when the refund failed, or the sync of a
subscription order, which knows the net amount. -/
inductive RefundMove where
  | reverse (refundAmount : ℚ)
  | setTarget (refundedAmount : ℚ)
  deriving DecidableEq, Repr

namespace RefundMove

def amount : RefundMove → ℚ
  | .reverse refundAmount => refundAmount
  | .setTarget refundedAmount => refundedAmount

def net (before : ℚ) : RefundMove → ℚ
  | .reverse refundAmount => before + refundAmount
  | .setTarget refundedAmount => refundedAmount

/-- The move in the database. -/
def apply (referrals : Referrals) (sourceType : CommissionSource) (sourceId : String)
    (money : ℚ) : RefundMove → Referrals
  | .reverse refundAmount =>
    reverseReferralCommissionForRefund referrals sourceType sourceId refundAmount money
  | .setTarget refundedAmount =>
    setReferralCommissionRefundTarget referrals sourceType sourceId refundedAmount money

end RefundMove

/-- One move, with the net refunded amount kept beside the database. -/
def refundMoveStep (sourceType : CommissionSource) (sourceId : String) (money : ℚ)
    (state : ℚ × Referrals) (move : RefundMove) : ℚ × Referrals :=
  (move.net state.1, move.apply state.2 sourceType sourceId money)

def InsideOrder (money : ℚ) (state : ℚ × Referrals) (move : RefundMove) : Prop :=
  Decimal.HasPlaces 2 move.amount ∧ 0 ≤ move.net state.1 ∧ move.net state.1 ≤ money

section Run

variable {start : Referrals} {sourceType : CommissionSource} {sourceId : String}
  {row : ReferralCommission} {money : ℚ}

theorem Follows.move {net : ℚ} {referrals : Referrals} {move : RefundMove}
    (follows : Follows start sourceType sourceId row money net referrals)
    (earned : 0 < row.commissionQuota) (inviter : 0 < row.inviterId)
    (amount : Decimal.round 2 row.rechargeAmount = money) (positive : 0 < money)
    (own : row.isOf sourceType sourceId) (inside : InsideOrder money (net, referrals) move) :
    Follows start sourceType sourceId row money (move.net net)
      (move.apply referrals sourceType sourceId money) := by
  obtain ⟨cents, nonneg, le⟩ := inside
  have moves (target : ℚ) :=
    @Follows.apply start referrals sourceType sourceId row money net target follows earned
      inviter amount positive own
  cases move with
  | setTarget refundedAmount =>
    simp only [RefundMove.net, RefundMove.amount] at cents nonneg le ⊢
    simp only [RefundMove.apply, setReferralCommissionRefundTarget, if_neg (not_not.mpr positive),
      follows.only, foldl_cons, foldl_nil, clampAmount_of_mem nonneg le]
    exact moves refundedAmount cents nonneg le
  | reverse refundAmount =>
    simp only [RefundMove.net, RefundMove.amount] at cents nonneg le ⊢
    have centsAfter := follows.cents.add cents
    by_cases nothing : refundAmount = 0
    · simpa [RefundMove.apply, reverseReferralCommissionForRefund, nothing] using follows
    have current : Decimal.round 2 (row.refunded money net).refundedRechargeAmount = net :=
      Decimal.round_of_hasPlaces follows.cents
    have signed : (if refundAmount < 0 then net - |refundAmount| else net + |refundAmount|) =
        net + refundAmount := by
      split
      next negative => rw [abs_of_neg negative, sub_neg_eq_add]
      next nonneg => rw [abs_of_nonneg (not_lt.mp nonneg)]
    simp only [RefundMove.apply, reverseReferralCommissionForRefund, nothing, false_or,
      if_neg (not_not.mpr positive), follows.only, foldl_cons, foldl_nil, current,
      if_neg (not_lt.mpr follows.nonneg), signed, clampAmount_of_mem nonneg le]
    exact moves (net + refundAmount) centsAfter nonneg le

theorem Commissioned.follows {next : Referrals} {payment : Payment}
    (commissioned : Commissioned start next payment row)
    (fresh : ∀ other ∈ start.commissions.rows,
      other.isOf payment.sourceType payment.sourceId = false) :
    Follows start payment.sourceType payment.sourceId row payment.rechargeAmount 0 next := by
  have unchanged : row.refunded payment.rechargeAmount 0 = row := by
    rw [ReferralCommission.refunded, refundQuotaTarget_zero, ← commissioned.unrefunded.1,
      ← commissioned.unrefunded.2]
  refine ⟨?_, ?_, .zero, le_rfl, commissioned.amountPos.le⟩
  · have none : start.commissions.rows.filter
        (ReferralCommission.isOf payment.sourceType payment.sourceId) = [] := by
      rw [filter_eq_nil_iff]
      intro other member
      simp [fresh other member]
    rw [commissioned.rows, filter_append, none, unchanged]
    simp [commissioned.source]
  · rw [commissioned.aff, if_pos rfl, refundQuotaTarget_zero, sub_zero]

end Run

/-- Along every run of refunds and failed refunds inside the order, the commission taken
back is the target for the net refunded amount, and the inviter's two balances have moved
since the credit by exactly the rest of the commission. -/
theorem commission_follows_net_refund (settings : ReferralSettings) (start : Referrals)
    (payment : Payment) (row : ReferralCommission)
    (cents : Decimal.HasPlaces 2 payment.rechargeAmount)
    (fresh : ∀ other ∈ start.commissions.rows,
      other.isOf payment.sourceType payment.sourceId = false)
    (credited : row ∈ (creditReferralCommission settings start payment).commissions.rows)
    (own : row.isOf payment.sourceType payment.sourceId) (moves : List RefundMove)
    (inside : Along (InsideOrder payment.rechargeAmount)
      (refundMoveStep payment.sourceType payment.sourceId payment.rechargeAmount)
      (0, creditReferralCommission settings start payment) moves) :
    let final := run
      (refundMoveStep payment.sourceType payment.sourceId payment.rechargeAmount)
      (0, creditReferralCommission settings start payment) moves
    ∃ now ∈ final.2.commissions.rows, now.key = row.key ∧
      now.commissionQuota = row.commissionQuota ∧
      now.refundedCommissionQuota = referralCommissionRefundQuotaTarget row.commissionQuota
        final.1 payment.rechargeAmount ∧
      0 ≤ now.refundedCommissionQuota ∧ now.refundedCommissionQuota ≤ row.commissionQuota ∧
      ∃ before after, start.users.find? row.inviterId = some before ∧
        final.2.users.find? row.inviterId = some after ∧ after.affQuota = before.affQuota +
          (row.commissionQuota - now.refundedCommissionQuota) ∧
        after.affHistory = before.affHistory +
          (row.commissionQuota - now.refundedCommissionQuota) := by
  rcases creditReferralCommission_cases settings start payment with same | ⟨earned, commissioned⟩
  · rw [same] at credited
    simp [fresh row credited] at own
  have rowEq : earned = row := by
    rw [commissioned.rows, mem_append, mem_singleton] at credited
    rcases credited with old | new
    · simp [fresh row old] at own
    · exact new.symm
  subst rowEq
  have amount : Decimal.round 2 earned.rechargeAmount = payment.rechargeAmount := by
    rw [commissioned.amount, Decimal.round_of_hasPlaces cents]
  have follows := @run_invariant _ _ _ _ (fun state : ℚ × Referrals => Follows start
      payment.sourceType payment.sourceId earned payment.rechargeAmount state.1 state.2)
    (fun _ _ before => before.move commissioned.quotaPos commissioned.inviterPos amount
      commissioned.amountPos own) _ moves (commissioned.follows fresh) inside
  generalize run (refundMoveStep payment.sourceType payment.sourceId payment.rechargeAmount)
    (0, creditReferralCommission settings start payment) moves = final at follows
  obtain ⟨low, high⟩ :=
    refundQuotaTarget_bounds commissioned.quotaPos final.1 payment.rechargeAmount
  obtain ⟨before, foundBefore⟩ := Option.isSome_iff_exists.mp commissioned.inviter
  have aff := follows.aff
  simp only [Referrals.aff, foundBefore, Option.map_some] at aff
  obtain ⟨after, foundAfter, moved⟩ := Option.map_eq_some_iff.mp aff
  simp only [moveAff, Prod.mk.injEq] at moved
  have member : earned.refunded payment.rechargeAmount final.1 ∈ final.2.commissions.rows :=
    mem_of_mem_filter (by rw [follows.only]; exact mem_singleton_self _)
  exact ⟨_, member, rfl, rfl, rfl, low, high, before, after, foundBefore, foundAfter, moved.1,
    moved.2⟩

/-- An inviter and an invitee. -/
def invitedPair : Referrals where
  users := ⟨[{ id := 1, affQuota := 7 }, { id := 2, inviterId := 1 }], by decide⟩

/-- A payment of 10.00 by the invitee. -/
def invitedPayment : Payment :=
  { userId := 2, rechargeAmount := 10, paymentMethod := "epay", sourceType := .topUp
    sourceId := "T1" }

/-- Ten percent of every payment, at a hundred units of quota for a unit of money. -/
def tenPercent : ReferralSettings :=
  { referralCommissionPercent := 10, quotaPerUnit := 100 }

/-- A refund of 3.33, one of 6.67 and the failure of the first leave a net refund of 6.67
and 33 of the commission of 100. -/
theorem split_refund_leaves_rest :
    ∃ now ∈ (run (refundMoveStep .topUp "T1" 10)
        (0, creditReferralCommission tenPercent invitedPair invitedPayment)
        [.reverse (333 / 100), .reverse (667 / 100), .reverse (-333 / 100)]).2.commissions.rows,
      now.refundedCommissionQuota = 67 ∧ now.commissionQuota = 100 := by
  have inside : Along (InsideOrder 10) (refundMoveStep .topUp "T1" 10)
      (0, creditReferralCommission tenPercent invitedPair invitedPayment)
      [.reverse (333 / 100), .reverse (667 / 100), .reverse (-333 / 100)] := by
    refine ⟨⟨⟨333, by norm_num [RefundMove.amount]⟩, ?_⟩,
      ⟨⟨667, by norm_num [RefundMove.amount]⟩, ?_⟩,
      ⟨⟨-333, by norm_num [RefundMove.amount]⟩, ?_⟩, trivial⟩
    all_goals norm_num [RefundMove.net, refundMoveStep]
  obtain ⟨now, member, -, quota, refunded, -⟩ :=
    commission_follows_net_refund tenPercent invitedPair invitedPayment
      { key := ⟨2, .topUp, "T1", "epay"⟩, inviterId := 1, rechargeAmount := 10
        commissionQuota := 100, rechargeSequence := 1, commissionRate := 10 }
      ⟨1000, by norm_num [invitedPayment]⟩ (by simp [invitedPair, Table.empty])
      (by decide +kernel) (by decide) _ inside
  refine ⟨now, member, ?_, quota⟩
  rw [refunded]
  decide +kernel

end StuHelper.Referral

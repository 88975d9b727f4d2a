import StuHelper.Referral.CommissionRefund

/-!
# The inviter's reward is credited at most once

The reward for an invitation is granted when the invitee registers or, when the programme
says so, by the first payment; a full refund takes a reward that a payment unlocked back,
and a refund that fails restores it.  The events of one invitation are a transition system
whose labels carry what the rest of the server decides: the options of the programme and
the orders in the database.  The counters beside the database are bookkeeping of the model.
-/

namespace StuHelper.Referral

open Lib Subscription

/-- The events of one invitation. -/
inductive RewardOp where
  | finalize (settings : ReferralSettings)
  | payment (settings : ReferralSettings) (rechargeAmount : ℚ) (paymentMethod : String)
      (sourceType : CommissionSource) (sourceId : String)
  | fullRefund (store : Store)
  | refundFailure (store : Store)

/-- The database with a count of how often the reward was credited and taken back. -/
structure RewardRun where
  referrals : Referrals
  finalized : Bool := false
  /-- The reward was granted at registration. -/
  granted : Bool := false
  credits : Nat := 0
  reversals : Nat := 0

def rewardStep (inviteeId inviterId : Int) (state : RewardRun) : RewardOp → RewardRun
  | .finalize settings =>
    let (granted, referrals) := finalizeUserInvitation settings state.referrals inviteeId inviterId
    { state with
      referrals := referrals, finalized := true, granted := granted
      credits := state.credits + granted.toNat }
  | .payment settings rechargeAmount paymentMethod sourceType sourceId =>
    let (credited, referrals) := creditInviteRewardsAfterPayment settings state.referrals
      { userId := inviteeId, rechargeAmount := rechargeAmount
        paymentMethod := paymentMethod, sourceType := sourceType, sourceId := sourceId }
    { state with referrals := referrals, credits := state.credits + credited.toNat }
  | .fullRefund store =>
    let (reversed, referrals) := reverseInviterRewardForFullRefund store state.referrals inviteeId
    { state with referrals := referrals, reversals := state.reversals + reversed.toNat }
  | .refundFailure store =>
    let (credited, referrals) :=
      restoreInviterRewardForRefundFailure store state.referrals inviteeId
    { state with referrals := referrals, credits := state.credits + credited.toNat }

/-- `FinalizeUserInvitation` runs once. -/
def FinalizesOnce (state : RewardRun) : RewardOp → Prop
  | .finalize _ => state.finalized = false
  | _ => True

/-- What the inviter has from commissions on this invitee's payments. -/
def Referrals.commissionPart (referrals : Referrals) (inviteeId inviterId : Int) : Int :=
  ((referrals.commissions.rows.filter fun row =>
    row.key.inviteeId = inviteeId && row.inviterId = inviterId).map
      fun row => row.commissionQuota - row.refundedCommissionQuota).sum

variable (referrals : Referrals)

/-- The reward that stands: credited once more often than taken back. -/
def RewardRun.stands (state : RewardRun) : Prop := state.credits = state.reversals + 1

instance (state : RewardRun) : Decidable state.stands := inferInstanceAs (Decidable (_ = _))

/-- The part of the inviter's balance that is due to the reward. -/
def RewardRun.part (state : RewardRun) (invitee : Affiliate) : Int :=
  if state.stands then invitee.inviterRewardQuota else 0

/-- The state of an invitation. -/
structure Invitation (start : Referrals) (inviteeId inviterId : Int) (state : RewardRun)
    (invitee : Affiliate) : Prop where
  found : state.referrals.users.find? inviteeId = some invitee
  invited : invitee.inviterId = inviterId
  aff : state.referrals.aff inviterId = (start.aff inviterId).map (moveAff
    (state.referrals.commissionPart inviteeId inviterId -
      start.commissionPart inviteeId inviterId + state.part invitee))
  balance : state.credits = state.reversals ∨ state.stands
  unlocked : state.stands → invitee.inviterRewardUnlocked
  byPayment : invitee.inviterRewardUnlockedByPayment → state.stands
  waiting : state.finalized = false → invitee.inviterRewardQuota = 0 ∧ state.credits = 0
  granted : state.granted → state.credits = 1 ∧ state.reversals = 0 ∧
    invitee.inviterRewardUnlockedByPayment = false

section Keeps

variable {start : Referrals} {inviteeId inviterId : Int} {state : RewardRun}
  {invitee : Affiliate}

variable {referrals : Referrals} {user : Affiliate} {userId : Int}

theorem find?_setUnlocked (found : referrals.users.find? userId = some user)
    (unlocked byPayment : Bool) :
    (referrals.setUnlocked userId unlocked byPayment).users.find? userId =
      some { user with
        inviterRewardUnlocked := unlocked, inviterRewardUnlockedByPayment := byPayment } := by
  exact find?_updateUser_self _ _ found

theorem aff_setUnlocked (referrals : Referrals) (userId wanted : Int) (unlocked byPayment : Bool) :
    (referrals.setUnlocked userId unlocked byPayment).aff wanted = referrals.aff wanted := by
  apply aff_updateUser
  · intro user
    rfl
  · intro user
    rfl

section

variable (invitation : Invitation start inviteeId inviterId state invitee)

include invitation

theorem Invitation.credit (inviteePos : 0 < inviteeId) (inviterPos : 0 < inviterId)
    (other : inviteeId ≠ inviterId) :
    ∃ next, Invitation start inviteeId inviterId
      { state with
        referrals := (creditInviterReward state.referrals inviteeId).2
        credits := state.credits + (creditInviterReward state.referrals inviteeId).1.toNat }
      next := by
  have id : invitee.id = inviteeId := Table.find?_key invitation.found
  have invited := invitation.invited
  cases locked : invitee.inviterRewardUnlocked with
  | true =>
    have same : creditInviterReward state.referrals inviteeId = (false, state.referrals) := by
      simp [creditInviterReward, invitation.found, locked]
    rw [same]
    exact ⟨invitee, invitation⟩
  | false =>
    have apart : ¬ state.stands := by
      intro stands
      simp [invitation.unlocked stands] at locked
    have even := invitation.balance.resolve_right apart
    by_cases earns : invitee.inviterRewardQuota ≤ 0
    · -- nothing to credit: the reward is settled for good
      have settled : creditInviterReward state.referrals inviteeId =
          (false, state.referrals.setUnlocked inviteeId true false) := by
        simp [creditInviterReward, markInviterRewardUnlocked, invitation.found, locked, earns,
          id, invited, inviteePos.not_ge, inviterPos.not_ge, other.symm]
      rw [settled]
      refine ⟨_, find?_setUnlocked invitation.found true false, invited, ?_, .inl even,
        fun _ => rfl, by simp, invitation.waiting, ?_⟩
      · rw [aff_setUnlocked]
        exact invitation.aff
      · intro granted
        obtain ⟨credits, reversals, -⟩ := invitation.granted granted
        exact ⟨credits, reversals, rfl⟩
    · have credited : creditInviterReward state.referrals inviteeId =
          (true, (state.referrals.setUnlocked inviteeId true true).addAff inviterId
            invitee.inviterRewardQuota) := by
        simp [creditInviterReward, invitation.found, locked, earns, id, invited,
          inviteePos.not_ge, inviterPos.not_ge, other.symm]
      rw [credited]
      refine ⟨{ invitee with
        inviterRewardUnlocked := true, inviterRewardUnlockedByPayment := true },
        ?_, invited, ?_, .inr ?_, fun _ => rfl, fun _ => ?_, ?_, ?_⟩
      · rw [Referrals.addAff, find?_updateUser_other _ _ other]
        exact find?_setUnlocked invitation.found true true
      · rw [aff_addAff, if_pos rfl, aff_setUnlocked, invitation.aff]
        refine map_moveAff _ ?_
        simp [RewardRun.part, RewardRun.stands, even]
        rfl
      · simp [RewardRun.stands, even]
      · simp [RewardRun.stands, even]
      · intro waiting
        have := (invitation.waiting waiting).1
        omega
      · intro granted
        obtain ⟨_, _, -⟩ := invitation.granted granted
        omega

theorem Invitation.commission (other : inviteeId ≠ inviterId) (settings : ReferralSettings)
    {payment : Payment} (own : payment.userId = inviteeId) :
    Invitation start inviteeId inviterId
      { state with referrals := creditReferralCommission settings state.referrals payment }
      invitee := by
  rcases creditReferralCommission_cases settings state.referrals payment with
    same | ⟨row, commissioned⟩
  · rw [same]
    exact invitation
  obtain ⟨_, foundPayer, rowInviter, rowInvitee⟩ := commissioned.invitee
  rw [own, invitation.found, Option.some.injEq] at foundPayer
  rw [← foundPayer, invitation.invited] at rowInviter
  rw [own] at rowInvitee
  refine { invitation with found := ?_, aff := ?_ }
  · rw [commissioned.others inviteeId (rowInviter ▸ other)]
    exact invitation.found
  · rw [commissioned.aff, if_pos rowInviter.symm, invitation.aff]
    refine map_moveAff _ ?_
    have grown : (creditReferralCommission settings state.referrals payment).commissionPart
        inviteeId inviterId =
        state.referrals.commissionPart inviteeId inviterId + row.commissionQuota := by
      simp [Referrals.commissionPart, commissioned.rows, rowInviter, rowInvitee,
        commissioned.unrefunded.2]
    simp only [grown, RewardRun.part, RewardRun.stands]
    omega

/-- `reverseInviterRewardForFullRefundTx` takes back only a reward that stands. -/
theorem Invitation.reverse (other : inviteeId ≠ inviterId) (store : Store) :
    ∃ next, Invitation start inviteeId inviterId
      { state with
        referrals := (reverseInviterRewardForFullRefund store state.referrals inviteeId).2
        reversals := state.reversals +
          (reverseInviterRewardForFullRefund store state.referrals inviteeId).1.toNat }
      next := by
  have id : invitee.id = inviteeId := Table.find?_key invitation.found
  generalize result : reverseInviterRewardForFullRefund store state.referrals inviteeId = answer
  simp only [reverseInviterRewardForFullRefund, invitation.found] at result
  split at result
  · subst result
    exact ⟨invitee, invitation⟩
  split at result
  · subst result
    exact ⟨invitee, invitation⟩
  next guard =>
  split at result
  · subst result
    exact ⟨invitee, invitation⟩
  simp only [not_or, Bool.not_eq_true, Bool.not_eq_false', not_le] at guard
  obtain ⟨-, -, -, byPayment, positive⟩ := guard
  have stands := invitation.byPayment byPayment
  have after : ¬ state.credits = state.reversals + 1 + 1 := by
    rw [stands]
    omega
  subst result
  rw [id, invitation.invited]
  refine ⟨{ invitee with
    inviterRewardUnlocked := false, inviterRewardUnlockedByPayment := false },
    ?_, invitation.invited, ?_, .inl stands, ?_, by simp, ?_, ?_⟩
  · have kept : (state.referrals.addAff inviterId (-invitee.inviterRewardQuota)).users.find?
        inviteeId = some invitee := by
      rw [Referrals.addAff, find?_updateUser_other _ _ other]
      exact invitation.found
    exact find?_setUnlocked kept false false
  · rw [aff_setUnlocked, aff_addAff, if_pos rfl, invitation.aff]
    refine map_moveAff _ ?_
    simp [RewardRun.part, RewardRun.stands, stands.symm]
    rfl
  · intro standing
    exact absurd standing after
  · intro waiting
    have := (invitation.waiting waiting).1
    omega
  · intro granted
    simp [(invitation.granted granted).2.2] at byPayment

end

theorem recordUserInvitation_some {counted : Referrals} {quota : Int}
    (recorded : recordUserInvitation referrals inviterId quota = some counted) :
    counted.commissions = referrals.commissions ∧
      (∀ userId ≠ inviterId, counted.users.find? userId = referrals.users.find? userId) ∧
      counted.aff inviterId =
        (referrals.aff inviterId).map (moveAff (if 0 < quota then quota else 0)) := by
  simp only [recordUserInvitation] at recorded
  split at recorded
  · simp at recorded
  generalize countedEq : referrals.updateUser inviterId
    (fun user => { user with affCount := user.affCount + 1 }) (fun _ => rfl) = once at recorded
  have others : ∀ userId ≠ inviterId, once.users.find? userId = referrals.users.find? userId := by
    intro userId other
    rw [← countedEq, find?_updateUser_other _ _ other]
  have aff : once.aff inviterId = referrals.aff inviterId := by
    rw [← countedEq]
    exact aff_updateUser _ _ (by intro user; rfl) (by intro user; rfl) _
  have commissions : once.commissions = referrals.commissions := by
    rw [← countedEq]
    rfl
  split at recorded
  next positive =>
    cases recorded
    refine ⟨commissions, ?_, ?_⟩
    · intro userId other
      rw [Referrals.addAff, find?_updateUser_other _ _ other, others userId other]
    · rw [aff_addAff, if_pos rfl, aff, if_pos positive]
  next nothing =>
    cases recorded
    refine ⟨commissions, others, ?_⟩
    rw [aff, if_neg nothing, moveAff_zero, Option.map_id, id]

theorem Invitation.registered (invitation : Invitation start inviteeId inviterId state invitee)
    (once : state.finalized = false) {next : Affiliate} {granted : Bool}
    (commissions : referrals.commissions = state.referrals.commissions)
    (found : referrals.users.find? inviteeId = some next) (invited : next.inviterId = inviterId)
    (aff : referrals.aff inviterId = (state.referrals.aff inviterId).map
      (moveAff (if granted then next.inviterRewardQuota else 0)))
    (byPayment : next.inviterRewardUnlockedByPayment = false)
    (unlocked : granted → next.inviterRewardUnlocked) :
    Invitation start inviteeId inviterId
      { state with
        referrals := referrals, finalized := true, granted := granted
        credits := state.credits + granted.toNat } next := by
  obtain ⟨-, none⟩ := invitation.waiting once
  have apart : ¬ state.stands := by
    intro stands
    simp only [RewardRun.stands, none] at stands
    omega
  have even := invitation.balance.resolve_right apart
  have part : referrals.commissionPart inviteeId inviterId =
      state.referrals.commissionPart inviteeId inviterId := by
    simp only [Referrals.commissionPart, commissions]
  have before : state.part invitee = 0 := if_neg apart
  refine ⟨found, invited, ?_, ?_, ?_, by simp [byPayment], by simp, ?_⟩
  · rw [aff, invitation.aff]
    refine map_moveAff _ ?_
    rw [part, before]
    cases granted <;> simp [RewardRun.part, RewardRun.stands, even]
  · cases granted <;> simp [RewardRun.stands, even]
  · intro stands
    cases granted with
    | true => exact unlocked rfl
    | false => simp [RewardRun.stands, even] at stands
  · rintro rfl
    refine ⟨?_, ?_, byPayment⟩
    · simp [none]
    · simp [← even, none]

theorem setInviterRewardQuota_changes (positive : 0 < userId)
    (found : referrals.users.find? userId = some user) (quota : Int) :
    let next := setInviterRewardQuota referrals userId quota
    next.users.find? userId = some { user with inviterRewardQuota := quota } ∧
      next.commissions = referrals.commissions ∧
      ∀ wanted, next.aff wanted = referrals.aff wanted := by
  rw [setInviterRewardQuota, if_neg positive.not_ge]
  exact ⟨find?_updateUser_self _ _ found, rfl,
    aff_updateUser _ _ (by intro user; rfl) (by intro user; rfl)⟩

/-- `FinalizeUserInvitation` grants the reward at registration or leaves it waiting. -/
theorem Invitation.finalize (invitation : Invitation start inviteeId inviterId state invitee)
    (once : state.finalized = false) (inviteePos : 0 < inviteeId)
    (other : inviteeId ≠ inviterId) (settings : ReferralSettings) :
    ∃ next, Invitation start inviteeId inviterId
      (rewardStep inviteeId inviterId state (.finalize settings)) next := by
  have notByPayment : invitee.inviterRewardUnlockedByPayment = false := by
    by_contra byPayment
    have stands := invitation.byPayment (by simpa using byPayment)
    simp [RewardRun.stands, (invitation.waiting once).2] at stands
  have unchanged : Invitation start inviteeId inviterId
      { state with finalized := true, granted := false, credits := state.credits + 0 } invitee :=
    invitation.registered once rfl invitation.found invitation.invited (by simp) notByPayment
      (by simp)
  generalize stepped : rewardStep inviteeId inviterId state (.finalize settings) = final
  simp only [rewardStep, finalizeUserInvitation, markInviterRewardUnlocked,
    if_neg inviteePos.not_ge] at stepped
  split at stepped
  · subst stepped
    exact ⟨invitee, unchanged⟩
  split at stepped
  · -- the reward waits for the first payment
    split at stepped
    · subst stepped
      exact ⟨invitee, unchanged⟩
    rename_i counted recorded
    obtain ⟨commissions, others, aff⟩ := recordUserInvitation_some recorded
    obtain ⟨found, kept, same⟩ := setInviterRewardQuota_changes inviteePos
      ((others inviteeId other).trans invitation.found) settings.quotaForInviter
    have waits : (setInviterRewardQuota counted inviteeId settings.quotaForInviter).aff inviterId =
        (state.referrals.aff inviterId).map (moveAff 0) := by
      rw [same, aff, if_neg (lt_irrefl 0)]
    split at stepped
    · subst stepped
      exact ⟨_, invitation.registered once (kept.trans commissions)
        (find?_setUnlocked found true false) invitation.invited
        ((aff_setUnlocked _ _ _ _ _).trans waits) rfl (by simp)⟩
    · subst stepped
      exact ⟨_, invitation.registered once (kept.trans commissions) found invitation.invited waits
        notByPayment (by simp)⟩
  · split at stepped
    · subst stepped
      exact ⟨invitee, unchanged⟩
    rename_i counted recorded
    obtain ⟨commissions, others, aff⟩ := recordUserInvitation_some recorded
    obtain ⟨found, kept, same⟩ := setInviterRewardQuota_changes inviteePos
      ((others inviteeId other).trans invitation.found) settings.quotaForInviter
    subst stepped
    refine ⟨_, invitation.registered once (kept.trans commissions)
      (find?_setUnlocked found true false) invitation.invited ?_ rfl (fun _ => rfl)⟩
    rw [aff_setUnlocked, same, aff]
    simp only [decide_eq_true_eq]

end Keeps

/-! ## What the reward leaves alone -/

theorem commissions_creditInviterReward (userId : Int) :
    (creditInviterReward referrals userId).2.commissions = referrals.commissions := by
  rw [creditInviterReward]
  split
  · rfl
  split
  · rfl
  split
  · rfl
  split
  · rfl
  split
  · rw [markInviterRewardUnlocked]
    split <;> rfl
  · rfl

theorem commissions_reverseInviterReward (store : Store) (referrals : Referrals) (userId : Int) :
    (reverseInviterRewardForFullRefund store referrals userId).2.commissions =
      referrals.commissions := by
  rw [reverseInviterRewardForFullRefund]
  split
  · rfl
  split
  · rfl
  split
  · rfl
  split <;> rfl

/-! ## Runs -/

theorem Invitation.step {start : Referrals} {inviteeId inviterId : Int}
    (inviteePos : 0 < inviteeId) (inviterPos : 0 < inviterId) (other : inviteeId ≠ inviterId)
    {state : RewardRun} {op : RewardOp}
    (before : ∃ invitee, Invitation start inviteeId inviterId state invitee)
    (meets : FinalizesOnce state op) :
    ∃ invitee, Invitation start inviteeId inviterId
      (rewardStep inviteeId inviterId state op) invitee := by
  obtain ⟨invitee, invitation⟩ := before
  cases op with
  | finalize settings => exact invitation.finalize meets inviteePos other settings
  | payment settings =>
    obtain ⟨rewarded, credited⟩ := invitation.credit inviteePos inviterPos other
    exact ⟨rewarded, credited.commission other settings rfl⟩
  | fullRefund store => exact invitation.reverse other store
  | refundFailure =>
    simp only [rewardStep, restoreInviterRewardForRefundFailure, if_neg inviteePos.not_ge]
    split
    · exact ⟨invitee, invitation⟩
    · exact invitation.credit inviteePos inviterPos other

/-- In every state of an invitation the reward was credited at most once more often than it
was taken back and never taken back more often than credited; the inviter's two balances
have moved by the commissions of the invitee and, while the reward is unlocked and
credited, by the reward; and a reward granted at registration is never taken back. -/
theorem inviter_reward_once (start : Referrals) (inviteeId inviterId : Int)
    (inviter invitee : Affiliate) (foundInviter : start.users.find? inviterId = some inviter)
    (foundInvitee : start.users.find? inviteeId = some invitee)
    (invited : invitee.inviterId = inviterId) (inviteePos : 0 < inviteeId)
    (inviterPos : 0 < inviterId) (other : inviteeId ≠ inviterId)
    (unrewarded : invitee.inviterRewardQuota = 0)
    (unpaid : invitee.inviterRewardUnlockedByPayment = false) (ops : List RewardOp)
    (once : Along FinalizesOnce (rewardStep inviteeId inviterId) { referrals := start } ops) :
    let final := run (rewardStep inviteeId inviterId) { referrals := start } ops
    (final.reversals ≤ final.credits ∧ final.credits ≤ final.reversals + 1) ∧
      (final.granted → final.credits = 1 ∧ final.reversals = 0) ∧
      ∃ inviterNow inviteeNow, final.referrals.users.find? inviterId = some inviterNow ∧
        final.referrals.users.find? inviteeId = some inviteeNow ∧
        let reward := if inviteeNow.inviterRewardUnlocked ∧ final.stands then
          inviteeNow.inviterRewardQuota else 0
        let commissions := final.referrals.commissionPart inviteeId inviterId -
          start.commissionPart inviteeId inviterId
        inviterNow.affQuota = inviter.affQuota + commissions + reward ∧
          inviterNow.affHistory = inviter.affHistory + commissions + reward := by
  have initially : Invitation start inviteeId inviterId { referrals := start } invitee :=
    ⟨foundInvitee, invited, by simp [RewardRun.part, RewardRun.stands], .inl rfl,
      by simp [RewardRun.stands], by simp [unpaid], fun _ => ⟨unrewarded, rfl⟩, by simp⟩
  obtain ⟨inviteeNow, invitation⟩ := @run_invariant _ _ _ _
    (fun state => ∃ invitee, Invitation start inviteeId inviterId state invitee)
    (fun _ _ => Invitation.step inviteePos inviterPos other) _ ops ⟨invitee, initially⟩ once
  generalize run (rewardStep inviteeId inviterId) { referrals := start } ops = final at invitation
  have counted : final.reversals ≤ final.credits ∧ final.credits ≤ final.reversals + 1 := by
    rcases invitation.balance with even | stands
    · omega
    · rw [RewardRun.stands] at stands
      omega
  refine ⟨counted, ?_, ?_⟩
  · intro granted
    obtain ⟨credits, reversals, -⟩ := invitation.granted granted
    exact ⟨credits, reversals⟩
  · have aff := invitation.aff
    simp only [Referrals.aff, foundInviter, Option.map_some] at aff
    obtain ⟨inviterNow, foundNow, moved⟩ := Option.map_eq_some_iff.mp aff
    have reward : (if inviteeNow.inviterRewardUnlocked ∧ final.stands then
        inviteeNow.inviterRewardQuota else 0) = final.part inviteeNow := by
      rw [RewardRun.part]
      by_cases stands : final.stands
      · rw [if_pos ⟨invitation.unlocked stands, stands⟩, if_pos stands]
      · rw [if_neg (fun both => stands both.2), if_neg stands]
    simp only [moveAff, Prod.mk.injEq] at moved
    refine ⟨inviterNow, inviteeNow, foundNow, invitation.found, ?_⟩
    omega

/-- A reward of 50 that waits for the first payment. -/
def rewardAfterPayment : ReferralSettings :=
  { tenPercent with quotaForInviter := 50, inviterRewardAfterPaymentEnabled := true }

/-- Registration, the first payment and its full refund. -/
def refundedInvitation : List RewardOp :=
  [.finalize rewardAfterPayment, .payment rewardAfterPayment 10 "epay" .topUp "T1", .fullRefund {}]

/-- The refund leaves the inviter the commission of 100, which other code takes back, and
nothing of the reward. -/
theorem refunded_reward_taken_back :
    let final := run (rewardStep 2 1) { referrals := invitedPair } refundedInvitation
    final.credits = 1 ∧ final.reversals = 1 ∧
      ∃ inviter, final.referrals.users.find? 1 = some inviter ∧ inviter.affQuota = 7 + 100 := by
  have once : Along FinalizesOnce (rewardStep 2 1) { referrals := invitedPair }
      refundedInvitation := ⟨rfl, trivial, trivial, trivial⟩
  obtain ⟨-, -, inviter, _, found, -, quota, -⟩ :=
    inviter_reward_once invitedPair 2 1 { id := 1, affQuota := 7 } { id := 2, inviterId := 1 }
      (by decide) (by decide) rfl (by decide) (by decide) (by decide) rfl rfl
      refundedInvitation once
  have reversed : ¬ (run (rewardStep 2 1) { referrals := invitedPair }
      refundedInvitation).stands := by decide +kernel
  have earned : (run (rewardStep 2 1) { referrals := invitedPair }
      refundedInvitation).referrals.commissionPart 2 1 -
        invitedPair.commissionPart 2 1 = 100 := by decide +kernel
  rw [if_neg (fun both => reversed both.2), earned, add_zero] at quota
  exact ⟨by decide +kernel, by decide +kernel, inviter, found, quota⟩

end StuHelper.Referral

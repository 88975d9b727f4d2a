import StuHelper.Billing.Session
import StuHelper.Subscription.QuotaSteps

/-!
# What the calls of a session can do

The effect of each call on the wallet, on the token and on the subscription row.  A
call on the token is described by `World.drawToken`, which does nothing in the
playground; whatever the call was named, it moves the token by one signed amount.
-/

namespace StuHelper.Billing

open Lib Subscription

/-! ## The accounts -/

theorem attempt_ok {α : Type} {fails : Bool} {call : Except BillingError α} {value : α}
    (done : attempt fails call = .ok value) : call = .ok value := by
  cases fails with
  | false => exact done
  | true => cases done

theorem unlessNegative_ok {quota : Int} {world next : World}
    (done : unlessNegative quota world = .ok next) : next = world := by
  unfold unlessNegative at done
  split at done
  · cases done
  · cases done
    rfl

theorem onStore_ok {world next : World} {result : Except SubscriptionError Store}
    (done : world.onStore result = .ok next) :
    ∃ store, result = .ok store ∧ next = { world with store := store } := by
  cases result with
  | error => cases done
  | ok store =>
    cases done
    exact ⟨store, rfl, rfl⟩

namespace World

variable (world : World)

/-- The user of a request has a row. -/
def hasUser (userId : Int) : Prop := (world.store.users.find? userId).isSome

/-- The token of a request has a row.  A request from the playground has no token. -/
def hasToken (request : Request) : Prop :=
  request.isPlayground = false → (world.tokens.find? request.tokenId).isSome

@[simp] theorem addTokenQuota_store (tokenId delta : Int) :
    (world.addTokenQuota tokenId delta).store = world.store := rfl

variable {world} {userId tokenId : Int}

theorem hasUser_addUserQuota (present : world.hasUser userId) (other delta : Int) :
    (world.addUserQuota other delta).hasUser userId := by
  simpa [hasUser, addUserQuota, Store.addQuota, Table.find?_update] using present

theorem userQuota_addUserQuota (present : world.hasUser userId) (delta : Int) :
    (world.addUserQuota userId delta).userQuota userId = world.userQuota userId + delta := by
  obtain ⟨user, found⟩ := Option.isSome_iff_exists.mp present
  have same : user.id = userId := Table.find?_key found
  simp [userQuota, addUserQuota, Store.addQuota, Table.find?_update, found, same]

theorem tokenRemain_addTokenQuota (present : (world.tokens.find? tokenId).isSome) (delta : Int) :
    (world.addTokenQuota tokenId delta).tokenRemain tokenId =
      world.tokenRemain tokenId + delta := by
  obtain ⟨token, found⟩ := Option.isSome_iff_exists.mp present
  have same : token.id = tokenId := Table.find?_key found
  simp [tokenRemain, addTokenQuota, Table.find?_update, found, same]

variable (world)

theorem addUserQuota_zero (userId : Int) : world.addUserQuota userId 0 = world := by
  simp only [addUserQuota, Store.addQuota]
  rw [Table.update_id]
  simp

theorem addUserQuota_cancel (userId delta : Int) :
    (world.addUserQuota userId (-delta)).addUserQuota userId delta = world := by
  simp only [addUserQuota, Store.addQuota]
  rw [Table.update_cancel]
  intro user
  by_cases hit : user.id = userId
  · subst hit
    simp
  · simp [hit]

theorem addTokenQuota_cancel (tokenId delta : Int) :
    (world.addTokenQuota tokenId (-delta)).addTokenQuota tokenId delta = world := by
  simp only [addTokenQuota]
  rw [Table.update_cancel]
  intro token
  by_cases hit : token.id = tokenId
  · subst hit
    simp
  · simp [hit]

end World

/-! ## The token -/

/-- Take an amount off the token of the request, except in the playground. -/
def World.drawToken (request : Request) (world : World) (amount : Int) : World :=
  if request.isPlayground then world else world.addTokenQuota request.tokenId (-amount)

/-- How much of an amount is taken off the token. -/
def Request.onToken (request : Request) (amount : Int) : Int :=
  if request.isPlayground then 0 else amount

theorem Request.onToken_add (request : Request) (left right : Int) :
    request.onToken left + request.onToken right = request.onToken (left + right) := by
  unfold Request.onToken
  split <;> omega

section Token

variable {request : Request} {fails : Bool} {world next : World} {amount : Int}

@[simp] theorem drawToken_store (request : Request) (world : World) (amount : Int) :
    (world.drawToken request amount).store = world.store := by
  unfold World.drawToken
  split <;> rfl

theorem hasToken_drawToken (present : world.hasToken request) (amount : Int) :
    (world.drawToken request amount).hasToken request := by
  unfold World.drawToken
  split
  · exact present
  · intro paid
    simpa [World.addTokenQuota, Table.find?_update] using present paid

theorem tokenRemain_drawToken (present : world.hasToken request) (amount : Int) :
    (world.drawToken request amount).tokenRemain request.tokenId =
      world.tokenRemain request.tokenId - request.onToken amount := by
  unfold World.drawToken Request.onToken
  split
  · omega
  next paid =>
    rw [World.tokenRemain_addTokenQuota (present (Bool.eq_false_of_not_eq_true paid))]
    omega

theorem preConsumeTokenQuota_ok
    (done : preConsumeTokenQuota request fails world amount = .ok next) :
    next = world.drawToken request amount := by
  unfold preConsumeTokenQuota at done
  unfold World.drawToken
  split at done
  · cases done
  split at done
  next playground =>
    cases done
    rw [if_pos playground]
  rename_i paid
  rw [if_neg paid]
  split at done
  · cases done
  split at done
  · cases done
  exact unlessNegative_ok (attempt_ok done)

theorem reserveToken_ok (positive : 0 < amount)
    (done : reserveToken request fails world amount = .ok next) :
    next = world.drawToken request amount := by
  unfold reserveToken at done
  split at done
  next skipped =>
    cases done
    have playground : request.isPlayground = true := by
      simp only [Bool.or_eq_true, decide_eq_true_eq] at skipped
      exact skipped.resolve_left (by omega)
    simp [World.drawToken, playground]
  · exact preConsumeTokenQuota_ok done

theorem settleToken_ok (done : settleToken request fails world amount = .ok next) :
    next = world.drawToken request amount := by
  unfold settleToken at done
  unfold World.drawToken
  split at done
  next playground =>
    cases done
    rw [if_pos playground]
  rename_i paid
  rw [if_neg paid]
  split at done
  · exact unlessNegative_ok (attempt_ok done)
  · exact unlessNegative_ok (attempt_ok done)

theorem refundToken_ok {session : BillingSession} (nonneg : 0 ≤ session.tokenConsumed)
    (present : world.hasToken session.request)
    (done : refundToken session fails world = .ok next) :
    next.store = world.store ∧ next.tokenRemain session.request.tokenId =
        world.tokenRemain session.request.tokenId +
          session.request.onToken session.tokenConsumed := by
  unfold refundToken at done
  unfold Request.onToken
  split at done
  next paid =>
    simp only [Bool.and_eq_true, decide_eq_true_eq, Bool.not_eq_true'] at paid
    have drawn := unlessNegative_ok (attempt_ok done)
    subst drawn
    rw [World.tokenRemain_addTokenQuota (present paid.2)]
    simp [paid.2]
  rename_i skipped
  cases done
  simp only [Bool.and_eq_true, decide_eq_true_eq, Bool.not_eq_true', not_and,
    Bool.not_eq_false] at skipped
  refine ⟨rfl, ?_⟩
  split
  · omega
  next paid =>
    have zero : ¬ session.tokenConsumed > 0 := fun positive => paid (skipped positive)
    omega

/-- Giving the token part back after a refusal restores the world. -/
theorem rollbackToken_drawToken (positive : 0 < amount) :
    rollbackToken request (world.drawToken request amount) amount = world := by
  unfold rollbackToken World.drawToken increaseTokenQuota unlessNegative
  by_cases playground : request.isPlayground = true
  · simp [playground]
  · simp only [playground, Bool.not_false, Bool.false_eq_true, if_false]
    rw [if_pos ⟨positive, trivial⟩, if_neg (by omega)]
    exact world.addTokenQuota_cancel request.tokenId amount

end Token

/-! ## The funding source -/

section Funding

variable {request : Request} {fails : Bool} {world next : World} {delta : Int}

variable {amount : Int} {granted : Funding} {funding : SubscriptionFunding} {store : Store}

theorem wallet_preConsume_ok (nonneg : 0 ≤ amount)
    (done : Funding.preConsume request fails world amount (.wallet 0) = .ok (granted, next)) :
    granted = .wallet amount ∧ next = world.addUserQuota request.userId (-amount) := by
  simp only [Funding.preConsume] at done
  split at done
  next empty =>
    obtain rfl : amount = 0 := by omega
    cases done
    exact ⟨rfl, (world.addUserQuota_zero request.userId).symm⟩
  cases taken : attempt fails (decreaseUserQuota world request.userId amount) with
  | error => simp [taken, Except.map] at done
  | ok =>
    simp only [taken, Except.map] at done
    cases done
    exact ⟨rfl, unlessNegative_ok (attempt_ok taken)⟩

theorem preConsume_fresh {loc : Location} {call : PreConsumeCall} {outcome : PreConsumeOutcome}
    (fresh : store.records.find? call.requestId = none)
    (done : preConsumeUserSubscription loc store call = .ok outcome) :
    ∃ (old sub : UserSubscription) (plan : SubscriptionPlan), store.subs.find? sub.id = some old ∧
      store.getSubscriptionPlanById old.planId = .ok plan ∧
      sub.amountUsed = (if old.rollsOver loc plan call.now then 0 else old.amountUsed) ∧
      outcome.result.userSubscriptionId = sub.id ∧ outcome.result.preConsumed = call.amount ∧
      outcome.result.amountUsedAfter = sub.amountUsed + call.amount ∧
      outcome.store.subs.find? sub.id = some (sub.withUsed (sub.amountUsed + call.amount)) ∧
      outcome.store.records.find? call.requestId = some
        { requestId := call.requestId, userId := call.userId,
          userSubscriptionId := sub.id, preConsumed := call.amount } := by
  obtain ⟨-, answered⟩ := preConsume_ok done
  rcases answered with ⟨-, -, looked⟩ | ⟨-, ⟨admission⟩⟩
  · simp [lookUpRecord, fresh] at looked
  · obtain ⟨middle, sub, ⟨old, plan, oldFound, planned, reset⟩, rolled, found, -, -, charged⟩ :=
      admission
    have freshLater : middle.records.find? call.requestId = none := by rw [rolled.records, fresh]
    refine ⟨old, sub, plan, oldFound, planned, ?_, ?_⟩
    · obtain ⟨_, _, subEq⟩ := maybeReset_ok reset
      rw [congrArg UserSubscription.amountUsed subEq]
      rfl
    · simp only [chargeCandidate] at charged
      split at charged
      next records inserted =>
        have lookup := Table.find?_insert inserted call.requestId
        rw [Except.ok.injEq] at charged
        rw [← congrArg PreConsumeOutcome.result charged, ← congrArg PreConsumeOutcome.store charged]
        refine ⟨rfl, rfl, rfl, ?_, ?_⟩
        · exact Store.find?_saveSub_same { middle with records := records }
            (sub.withUsed (sub.amountUsed + call.amount)) found
        · simpa [Store.saveSub] using lookup
      next taken =>
        rw [freshLater] at charged
        cases charged

/-- A strict charge can be taken back, and the store is as it was. -/
theorem postConsumeDelta_undo {charged : Store} {sub : UserSubscription} {id : Int}
    (found : store.subs.find? id = some sub) (nonneg : 0 ≤ sub.amountUsed) (positive : 0 < delta)
    (done : postConsumeUserSubscriptionDelta store id delta = .ok charged) :
    postConsumeUserSubscriptionDelta charged id (-delta) = .ok store := by
  obtain rfl : sub.id = id := Table.find?_key found
  unfold postConsumeUserSubscriptionDelta at done ⊢
  rw [postConsumeDeltaTx_found false found (by omega)] at done
  have raised : max (sub.amountUsed + delta) 0 = sub.amountUsed + delta := by omega
  rw [raised] at done
  obtain ⟨room, done⟩ := check_ok.mp done
  cases done
  have after := Store.find?_saveSub_same store (sub.withUsed (sub.amountUsed + delta))
    found
  have lowered : max (sub.amountUsed + delta + -delta) 0 = sub.amountUsed := by omega
  have undone := @postConsumeDeltaTx_found _ _ (-delta) false after (by omega)
  simp only [UserSubscription.withUsed_amountUsed, UserSubscription.withUsed_id,
    UserSubscription.withUsed_amountTotal, lowered] at undone
  rw [undone, if_neg (fun refused => room ⟨rfl, refused.2.1, by omega⟩)]
  have restored : (store.subs.save (sub.withUsed (sub.amountUsed + delta))).save sub =
      store.subs := by
    have same : (sub.withUsed (sub.amountUsed + delta)).id = sub.id := rfl
    rw [Serial.save_save store.subs same, Serial.save_eq_self (Table.find?_mem found)]
  exact congrArg (fun subs => Except.ok { store with subs := subs }) restored

theorem refundWithRetry_ok {call : Except BillingError World} {flags : List Bool}
    (done : refundWithRetry call flags = .ok next) : call = .ok next := by
  induction flags with
  | nil => cases done
  | cons fails rest ih =>
    simp only [refundWithRetry] at done
    split at done
    next reached =>
      cases done
      exact attempt_ok reached
    · split at done
      · cases done
      · exact ih done

end Funding

/-! ## Whole calls -/

theorem logged_ok {world next : World} {result : Except BillingError World}
    (done : logged world result = (next, [])) : result = .ok next := by
  cases result with
  | error => cases done
  | ok =>
    cases done
    rfl

variable {state next : BillingState}

theorem settleFunding_ok {delta : Int} {fails : Bool}
    (notFunded : state.session.fundingSettled = false)
    (done : settleFunding state delta fails = .ok next) :
    ∃ world, state.session.funding.settle state.session.request fails state.world delta =
        .ok world ∧
      next = ⟨world, { state.session with fundingSettled := true }⟩ := by
  simp only [settleFunding, notFunded, Bool.false_eq_true, if_false] at done
  cases committed : state.session.funding.settle state.session.request fails state.world
      delta with
  | error => simp [committed, Except.map] at done
  | ok world =>
    simp only [committed, Except.map] at done
    cases done
    exact ⟨world, rfl, rfl⟩

end StuHelper.Billing

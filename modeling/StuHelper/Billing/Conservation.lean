import StuHelper.Billing.SessionSteps

/-!
# A billing session takes what it settles

The net of an account is what a session has taken from it since it was opened.  While a
session is open, the nets of its funding source and of its token are the quota that it
has reserved (`Held`).  A settlement moves both to the actual quota, a refund moves both
back to 0, and a session that is settled or refunded does not move them again.

`settle` returns nil on a session that is already settled, whatever it is asked for, and
does not look at `refunded`; the runs considered settle no session that was refunded.
-/

namespace StuHelper.Billing

open World

variable {start world last : World} {sub : UserSubscription} {state next : BillingState}
  {fails : Bool} {delta actual : Int} {faults : RefundFaults} {funding : SubscriptionFunding}
  {ops : List BillingOp}

open Lib Subscription

/-! ## Nets -/

/-- The used amount that the pre-consume of the session found, in the period that it
charged. -/
def SubscriptionFunding.usedBefore (funding : SubscriptionFunding) : Int :=
  funding.amountUsedAfter - funding.preConsumed

/-- What the funding source has given since `start`. -/
def Funding.net (start world : World) (request : Request) : Funding → Int
  | .wallet _ => start.userQuota request.userId - world.userQuota request.userId
  | .subscription funding => world.usedAmount funding.subscriptionId - funding.usedBefore

/-- What the session has taken from its funding source. -/
def fundingNet (start : World) (state : BillingState) : Int :=
  state.session.funding.net start state.world state.session.request

def tokenNet (start : World) (state : BillingState) : Int :=
  start.tokenRemain state.session.request.tokenId -
    state.world.tokenRemain state.session.request.tokenId

theorem Funding.net_of_store_eq {left right : World} (request : Request) (funding : Funding)
    (same : left.store = right.store) :
    funding.net start left request = funding.net start right request := by
  cases funding <;> simp only [Funding.net, userQuota, usedAmount, same]

theorem token_of_tokens_eq {left right : World} (same : left.tokens = right.tokens)
    (request : Request) : (left.hasToken request ↔ right.hasToken request) ∧
      left.tokenRemain request.tokenId = right.tokenRemain request.tokenId := by
  simp only [hasToken, tokenRemain, same, and_self]

theorem usedAmount_of_found {id : Int} (found : world.store.subs.find? id = some sub) :
    world.usedAmount id = sub.amountUsed := by
  simp [usedAmount, found]

/-! ## Open sessions -/

/-- The wallet has given what the session has reserved. -/
structure WalletHolds (start : World) (state : BillingState) (consumed : Int) :
    Prop where
  consumed : consumed = state.session.preConsumedQuota
  present : state.world.hasUser state.session.request.userId
  taken : start.userQuota state.session.request.userId -
    state.world.userQuota state.session.request.userId = state.session.preConsumedQuota

/-- The row `sub` carries what the session has reserved: the part of the record and the
part reserved later. -/
structure SubscriptionHolds (state : BillingState) (funding : SubscriptionFunding)
    (sub : UserSubscription) : Prop where
  row : state.world.store.subs.find? funding.subscriptionId = some sub
  record : ∃ record, state.world.store.records.find? state.session.request.requestId = some record ∧
    record.status = .consumed ∧ record.preConsumed = funding.preConsumed ∧
    record.userSubscriptionId = funding.subscriptionId
  synced : state.session.subscriptionId = funding.subscriptionId
  used : sub.amountUsed = funding.usedBefore + state.session.preConsumedQuota
  before : 0 ≤ funding.usedBefore
  parts : funding.preConsumed + state.session.extraReserved = state.session.preConsumedQuota
  positive : 0 < funding.preConsumed
  extra : 0 ≤ state.session.extraReserved

/-- The funding source of an open session. -/
def FundingHolds (start : World) (state : BillingState) : Prop :=
  match state.session.funding with
  | .wallet consumed => WalletHolds start state consumed
  | .subscription funding => ∃ sub, SubscriptionHolds state funding sub

/-- An open session has taken its reservation, and nothing else, from both accounts. -/
structure Held (start : World) (state : BillingState) : Prop where
  nonneg : 0 ≤ state.session.preConsumedQuota
  tokenConsumed : state.session.tokenConsumed = state.session.preConsumedQuota
  token : state.world.hasToken state.session.request
  tokenTaken : tokenNet start state = state.session.request.onToken state.session.preConsumedQuota
  funding : FundingHolds start state

theorem Held.fundingNet (held : Held start state) :
    fundingNet start state = state.session.preConsumedQuota := by
  have holds := held.funding
  unfold FundingHolds at holds
  unfold Billing.fundingNet
  split at holds
  next consumed source =>
    rw [source]
    exact holds.taken
  next funding source =>
    obtain ⟨_, holds⟩ := holds
    rw [source, Funding.net, usedAmount_of_found holds.row, holds.used]
    omega

/-! ## Settlement -/

theorem Held.settleFunding {next : World} (held : Held start state) (nonzero : delta ≠ 0)
    (nonneg : state.session.funding.isSubscription = true →
      0 ≤ state.session.preConsumedQuota + delta)
    (done : state.session.funding.settle state.session.request fails state.world delta = .ok next) :
    state.session.funding.net start next state.session.request =
        state.session.preConsumedQuota + delta ∧ next.tokens = state.world.tokens := by
  have holds := held.funding
  unfold FundingHolds at holds
  split at holds
  next consumed source =>
    rw [source] at done ⊢
    simp only [Funding.settle, if_neg nonzero] at done
    obtain rfl : next = state.world.addUserQuota state.session.request.userId (-delta) := by
      split at done
      · exact unlessNegative_ok (attempt_ok done)
      · exact unlessNegative_ok (attempt_ok done)
    have taken := holds.taken
    refine ⟨?_, rfl⟩
    rw [Funding.net, userQuota_addUserQuota holds.present]
    omega
  rename_i funding source
  obtain ⟨sub, holds⟩ := holds
  rw [source] at done nonneg ⊢
  have bounded := nonneg rfl
  simp only [Funding.settle, if_neg nonzero] at done
  obtain ⟨_, settled, rfl⟩ := onStore_ok (attempt_ok done)
  rcases postConsumeDeltaTx_ok settled with ⟨zero, -⟩ | ⟨row, found, rfl⟩
  · exact absurd zero nonzero
  · obtain rfl : sub = row := Option.some.inj (holds.row.symm.trans found)
    have used := holds.used
    have before := holds.before
    refine ⟨?_, rfl⟩
    refine (congrArg (· - _) (usedAmount_of_found (Store.find?_saveUsed_same holds.row _))).trans ?_
    rw [UserSubscription.withUsed_amountUsed]
    omega

/-- A settlement of an open session that returns nil takes the actual quota. -/
theorem Held.settle {faults : SettleFaults} (held : Held start state)
    (notSettled : state.session.settled = false) (notFunded : state.session.fundingSettled = false)
    (nonneg : state.session.funding.isSubscription = true → 0 ≤ actual)
    (done : settle state actual faults = (next, .ok ())) :
    next.session.settled = true ∧ Billing.fundingNet start next = actual ∧
      tokenNet start next = state.session.request.onToken actual := by
  have fundingTaken := held.fundingNet
  have tokenTaken := held.tokenTaken
  unfold Billing.fundingNet tokenNet at *
  simp only [Billing.settle, notSettled, Bool.false_eq_true, if_false] at done
  split at done
  · obtain rfl : actual = state.session.preConsumedQuota := by omega
    cases done
    exact ⟨rfl, fundingTaken, tokenTaken⟩
  split at done
  · cases done
  rename_i world session funded
  obtain ⟨_, committed, stateEq⟩ := settleFunding_ok notFunded funded
  cases stateEq
  split at done
  · cases done
  rename_i last adjusted
  cases done
  obtain ⟨net, tokens⟩ := held.settleFunding (by omega)
    (fun subscription => by have := nonneg subscription; omega) committed
  obtain ⟨present, remain⟩ := token_of_tokens_eq tokens state.session.request
  have sum := state.session.request.onToken_add state.session.preConsumedQuota
    (actual - state.session.preConsumedQuota)
  have total : state.session.preConsumedQuota +
      (actual - state.session.preConsumedQuota) = actual := by omega
  rw [total] at sum
  refine ⟨rfl, ?_, ?_⟩
  · change Funding.net start last state.session.request state.session.funding = actual
    rw [settleToken_ok adjusted, Funding.net_of_store_eq _ _ (drawToken_store ..), net, total]
  · change start.tokenRemain state.session.request.tokenId -
      last.tokenRemain state.session.request.tokenId = _
    rw [settleToken_ok adjusted, tokenRemain_drawToken (present.mpr held.token), remain]
    omega

/-! ## Refund -/

theorem SubscriptionHolds.refundRecord {store : Store} (holds : SubscriptionHolds state funding sub)
    (done : refundSubscriptionPreConsume state.world.store
      state.session.request.requestId = .ok store) :
    store.subs.find? funding.subscriptionId = some (sub.withUsed
      (funding.usedBefore + state.session.extraReserved)) := by
  obtain ⟨record, recordFound, consumed, _, row⟩ := holds.record
  obtain ⟨found, foundEq, effect⟩ := refund_ok done
  obtain rfl : record = found := Option.some.inj (recordFound.symm.trans foundEq)
  have positive := holds.positive
  rcases effect with ⟨refunded, -⟩ | ⟨-, empty, -⟩ | ⟨-, -, charged, chargedFound, rfl⟩
  · rw [consumed] at refunded
    cases refunded
  · omega
  · rw [row] at chargedFound
    obtain rfl : sub = charged := Option.some.inj (holds.row.symm.trans chargedFound)
    have left : max (sub.amountUsed - record.preConsumed) 0 =
        funding.usedBefore + state.session.extraReserved := by
      have used := holds.used
      have before := holds.before
      have parts := holds.parts
      have extra := holds.extra
      omega
    rw [left]
    exact Store.find?_saveUsed_same holds.row _

theorem SubscriptionHolds.refundExtra (holds : SubscriptionHolds state funding sub)
    (source : state.session.funding = .subscription funding)
    (row : world.store.subs.find? funding.subscriptionId = some (sub.withUsed
      (funding.usedBefore + state.session.extraReserved)))
    (done : refundExtra state.session fails world = .ok last) :
    last.usedAmount funding.subscriptionId = funding.usedBefore ∧ last.tokens = world.tokens := by
  have extra := holds.extra
  have before := holds.before
  have same : sub.id = funding.subscriptionId := Table.find?_key holds.row
  have issued := (world.store.subs.issued _ (Table.find?_mem row)).1
  rw [UserSubscription.withUsed_id, same] at issued
  unfold Billing.refundExtra at done
  rw [source, holds.synced] at done
  split at done
  next reserved =>
    simp only [Bool.and_eq_true, decide_eq_true_eq] at reserved
    obtain ⟨_, lowered, rfl⟩ := onStore_ok (attempt_ok done)
    refine ⟨?_, rfl⟩
    rcases postConsumeDeltaTx_ok lowered with ⟨zero, -⟩ | ⟨found, foundEq, rfl⟩
    · omega
    · obtain rfl := Option.some.inj (row.symm.trans foundEq)
      refine (usedAmount_of_found (Store.find?_saveUsed_same row _)).trans ?_
      rw [UserSubscription.withUsed_amountUsed, UserSubscription.withUsed_amountUsed]
      omega
  rename_i skipped
  cases done
  refine ⟨?_, rfl⟩
  rw [usedAmount_of_found row, UserSubscription.withUsed_amountUsed]
  simp only [Funding.isSubscription, Bool.and_true, Bool.and_eq_true,
    decide_eq_true_eq] at skipped
  omega

theorem Held.refundFunding {funded : World} (held : Held start state)
    (refunded : state.session.funding.refund state.session.request faults state.world =
      .ok funded) (extra : refundExtra state.session faults.extra funded = .ok last) :
    state.session.funding.net start last state.session.request = 0 ∧
      last.tokens = state.world.tokens := by
  have holds := held.funding
  have nonneg := held.nonneg
  unfold FundingHolds at holds
  split at holds
  next consumed source =>
    have same : last = funded := by
      simp only [refundExtra, source, Funding.isSubscription, Bool.and_false,
        Bool.false_and, Bool.false_eq_true, if_false, Except.ok.injEq] at extra
      exact extra.symm
    have consumedEq := holds.consumed
    have taken := holds.taken
    rw [source] at refunded ⊢
    rw [same]
    simp only [Funding.refund] at refunded
    split at refunded
    next empty =>
      cases refunded
      refine ⟨?_, rfl⟩
      rw [Funding.net]
      omega
    obtain rfl := unlessNegative_ok (attempt_ok refunded)
    refine ⟨?_, rfl⟩
    rw [Funding.net, userQuota_addUserQuota holds.present]
    omega
  rename_i funding source
  obtain ⟨_, holds⟩ := holds
  have positive := holds.positive
  rw [source] at refunded ⊢
  simp only [Funding.refund, if_neg (Int.not_le.mpr positive)] at refunded
  obtain ⟨_, done, rfl⟩ := onStore_ok (refundWithRetry_ok refunded)
  obtain ⟨used, tokens⟩ := holds.refundExtra source (holds.refundRecord done) extra
  refine ⟨?_, tokens⟩
  rw [Funding.net, used]
  omega

/-- A refund of an open session that went through gives everything back. -/
theorem Held.refund (held : Held start state) (before : state.session.refunded = false)
    (done : refund state faults = (next, []))
    (after : next.session.refunded = true) :
    Billing.fundingNet start next = 0 ∧ tokenNet start next = 0 := by
  unfold Billing.refund at done
  simp only at done
  split at done
  · cases done
    rw [before] at after
    cases after
  · rw [Prod.mk.injEq, List.append_eq_nil_iff, List.append_eq_nil_iff] at done
    obtain ⟨rfl, ⟨fundingLog, extraLog⟩, tokenLog⟩ := done
    obtain ⟨net, tokens⟩ := held.refundFunding (logged_ok (Prod.ext rfl fundingLog))
      (logged_ok (Prod.ext rfl extraLog))
    obtain ⟨present, remain⟩ := token_of_tokens_eq tokens state.session.request
    have consumed := held.tokenConsumed
    have nonneg := held.nonneg
    obtain ⟨store, back⟩ := refundToken_ok (by omega) (present.mpr held.token)
      (logged_ok (Prod.ext rfl tokenLog))
    have taken := held.tokenTaken
    constructor
    · exact (Funding.net_of_store_eq _ _ store).trans net
    · unfold tokenNet at taken ⊢
      rw [consumed, remain] at back
      simp only [back]
      omega

/-! ## Reservation -/

/-- Whether nothing has closed the session. -/
def BillingSession.isOpen (session : BillingSession) : Bool :=
  !session.settled && !session.refunded && !session.fundingSettled

/-- The session after a reservation of `delta` more. -/
def BillingSession.reserved (session : BillingSession) (funding : Funding)
    (delta : Int) : BillingSession :=
  BillingSession.syncRelayInfo
    { session with
      funding := funding
      preConsumedQuota := session.preConsumedQuota + delta
      tokenConsumed := session.tokenConsumed + delta
      extraReserved := session.extraReserved + delta }

theorem SubscriptionHolds.reserved (holds : SubscriptionHolds state funding sub)
    (positive : 0 < delta) (nonneg : 0 ≤ state.session.preConsumedQuota) (same : last.store =
      state.world.store.saveSub (sub.withUsed (max (sub.amountUsed + delta) 0))) :
    SubscriptionHolds ⟨last, state.session.reserved (.subscription funding) delta⟩
      funding (sub.withUsed (max (sub.amountUsed + delta) 0)) := by
  have used := holds.used
  have before := holds.before
  have parts := holds.parts
  have extra := holds.extra
  have after := Store.find?_saveUsed_same holds.row (max (sub.amountUsed + delta) 0)
  rw [← same] at after
  constructor
  case row => exact after
  case record =>
    obtain ⟨record, found, facts⟩ := holds.record
    have records : last.store.records = state.world.store.records := by
      rw [same]
      rfl
    refine ⟨record, ?_, facts⟩
    rw [records]
    exact found
  case synced => rfl
  case used =>
    change max (sub.amountUsed + delta) 0 =
      funding.usedBefore + (state.session.preConsumedQuota + delta)
    omega
  case before => exact before
  case parts =>
    change funding.preConsumed + (state.session.extraReserved + delta) =
      state.session.preConsumedQuota + delta
    omega
  case positive => exact holds.positive
  case extra =>
    change 0 ≤ state.session.extraReserved + delta
    omega

/-- Extending the reservation of the funding source, and taking the extension back. -/
theorem Held.reserveFunding {funding : Funding} (held : Held start state) (positive : 0 < delta)
    (done : reserveFunding state fails delta = .ok (funding, world))
    (same : last.store = world.store) :
    FundingHolds start ⟨last, state.session.reserved funding delta⟩ ∧
      world.tokens = state.world.tokens ∧
      rollbackFundingReserve state.session.request funding world delta =
        (state.session.funding, state.world) := by
  have holds := held.funding
  unfold FundingHolds at holds
  unfold Billing.reserveFunding at done
  split at holds
  next consumed source =>
    simp only [source] at done
    split at done
    · cases done
    rename_i taken
    cases done
    obtain rfl := unlessNegative_ok (attempt_ok taken)
    have consumedEq := holds.consumed
    have takenBefore := holds.taken
    have present := hasUser_addUserQuota holds.present
      state.session.request.userId (-delta)
    have quota := userQuota_addUserQuota holds.present (-delta)
    refine ⟨⟨?_, ?_, ?_⟩, rfl, ?_⟩
    · change consumed + delta = state.session.preConsumedQuota + delta
      omega
    · change last.hasUser state.session.request.userId
      simpa [hasUser, same] using present
    · change start.userQuota state.session.request.userId -
        last.userQuota state.session.request.userId = state.session.preConsumedQuota + delta
      have lastQuota : last.userQuota state.session.request.userId =
          (state.world.addUserQuota state.session.request.userId (-delta)).userQuota
            state.session.request.userId := by
        simp only [userQuota, same]
      omega
    · simp only [rollbackFundingReserve, increaseUserQuota, unlessNegative,
        if_neg (Int.not_lt.mpr positive.le), addUserQuota_cancel, source, Int.add_sub_cancel]
  rename_i source sourceEq
  obtain ⟨sub, holds⟩ := holds
  simp only [sourceEq] at done
  split at done
  · cases done
  rename_i taken
  cases done
  obtain ⟨_, charged, rfl⟩ := onStore_ok (attempt_ok taken)
  have used := holds.used
  have before := holds.before
  have nonneg := held.nonneg
  have undone := postConsumeDelta_undo holds.row (by omega) positive charged
  rcases postConsumeDeltaTx_ok charged with ⟨zero, -⟩ | ⟨row, found, rfl⟩
  · omega
  · obtain rfl : sub = row := Option.some.inj (holds.row.symm.trans found)
    refine ⟨⟨_, holds.reserved positive nonneg same⟩, rfl, ?_⟩
    simp only [rollbackFundingReserve, undone, onStore, sourceEq]

theorem Held.reserved {funding : Funding} (held : Held start state) (positive : 0 < delta)
    (tokens : world.tokens = state.world.tokens)
    (holds : FundingHolds start ⟨world.drawToken state.session.request delta,
      state.session.reserved funding delta⟩) :
    Held start ⟨world.drawToken state.session.request delta,
      state.session.reserved funding delta⟩ := by
  obtain ⟨same, remain⟩ := token_of_tokens_eq tokens state.session.request
  have present := same.mpr held.token
  have nonneg := held.nonneg
  have consumed := held.tokenConsumed
  have taken := held.tokenTaken
  constructor
  case nonneg =>
    change 0 ≤ state.session.preConsumedQuota + delta
    omega
  case tokenConsumed => exact congrArg (· + delta) consumed
  case token => exact hasToken_drawToken present delta
  case tokenTaken =>
    have drawn := tokenRemain_drawToken present delta
    have sum := state.session.request.onToken_add state.session.preConsumedQuota delta
    change start.tokenRemain state.session.request.tokenId -
      (world.drawToken state.session.request delta).tokenRemain
        state.session.request.tokenId =
      state.session.request.onToken (state.session.preConsumedQuota + delta)
    unfold tokenNet at taken
    omega
  case funding => exact holds

/-- A reservation keeps an open session open, and one that is refused changes nothing. -/
theorem Held.reserve (target : Int) (faults : ReserveFaults) (held : Held start state) :
    ((reserve state target faults).2 = .ok () ∨ (reserve state target faults).1 = state) ∧
      Held start (reserve state target faults).1 ∧
      (reserve state target faults).1.session.isOpen = state.session.isOpen := by
  unfold Billing.reserve
  simp only
  split
  · exact ⟨.inl rfl, held, rfl⟩
  rename_i more
  simp only [Bool.or_eq_true, decide_eq_true_eq, not_or, not_le] at more
  have positive : 0 < target - state.session.preConsumedQuota := by omega
  cases funded : Billing.reserveFunding state faults.funding
      (target - state.session.preConsumedQuota) with
  | error => exact ⟨.inr rfl, held, rfl⟩
  | ok pair =>
    obtain ⟨_, world⟩ := pair
    simp only
    cases drawn : reserveToken state.session.request faults.token world
        (target - state.session.preConsumedQuota) with
    | error =>
      obtain ⟨-, -, undone⟩ := held.reserveFunding positive funded rfl
      simp only [undone]
      exact ⟨.inr trivial, held, trivial⟩
    | ok =>
      obtain rfl := reserveToken_ok positive drawn
      refine ⟨.inl rfl, ?_, rfl⟩
      obtain ⟨holds, tokens, -⟩ := held.reserveFunding positive funded (drawToken_store ..)
      exact held.reserved positive tokens holds

/-! ## Opening -/

def BillingSession.opened (request : Request) (funding : Funding) (quota : Int)
    (trusted : Bool) : BillingSession :=
  BillingSession.syncRelayInfo
    { request := request
      funding := funding
      preConsumedQuota := quota
      tokenConsumed := if quota > 0 then quota else 0
      trusted := trusted }

section Opening

variable {request : Request} {funding : Funding} {quota : Int}

theorem preConsume_cases (faults : ReserveFaults) (start : World) (funding : Funding)
    (userQuota quota : Int) :
    (∃ error, preConsume request faults start funding userQuota quota = (start, .error error)) ∨
    ∃ effective granted last trusted,
      effective = (if shouldTrust request funding userQuota then 0 else quota) ∧
      funding.preConsume request faults.funding
        (if effective > 0 then start.drawToken request effective else start)
        effective = .ok (granted, last) ∧ preConsume request faults start funding userQuota quota =
        (last, .ok (.opened request granted effective trusted)) := by
  unfold preConsume
  dsimp only
  generalize (if shouldTrust request funding userQuota then 0 else quota) = effective
  cases drawn : preConsumeToken request faults start effective with
  | error => exact .inl ⟨_, rfl⟩
  | ok middle =>
    have middleEq : middle =
        if effective > 0 then start.drawToken request effective else start := by
      unfold preConsumeToken at drawn
      split at drawn
      next positive => rw [if_pos positive, preConsumeTokenQuota_ok drawn]
      next skipped =>
        cases drawn
        rw [if_neg skipped]
    dsimp only
    cases granted : funding.preConsume request faults.funding middle effective with
    | error error =>
      left
      refine ⟨⟨fundingErrorCode error, error⟩, ?_⟩
      rw [middleEq]
      simp only [Prod.mk.injEq, and_true]
      split
      next positive => exact rollbackToken_drawToken positive
      next skipped => simp [rollbackToken]
    | ok pair =>
      exact .inr ⟨effective, pair.1, pair.2, shouldTrust request funding userQuota, rfl,
        middleEq ▸ granted, rfl⟩

theorem held_opened {trusted : Bool} (nonneg : 0 ≤ quota) (present : start.hasToken request)
    (tokens : world.tokens = (if quota > 0 then start.drawToken request quota else start).tokens)
    (holds : FundingHolds start ⟨world, .opened request funding quota trusted⟩) :
    Held start ⟨world, .opened request funding quota trusted⟩ := by
  constructor
  case nonneg => exact nonneg
  case tokenConsumed =>
    change (if quota > 0 then quota else 0) = quota
    split <;> omega
  case token =>
    refine (token_of_tokens_eq tokens request).1.mpr ?_
    split
    · exact hasToken_drawToken present quota
    · exact present
  case tokenTaken =>
    change start.tokenRemain request.tokenId - world.tokenRemain request.tokenId =
      request.onToken quota
    rw [(token_of_tokens_eq tokens request).2]
    split
    · rw [tokenRemain_drawToken present]
      omega
    next zero =>
      have empty : quota = 0 := by omega
      simp [Request.onToken, empty]
  case funding => exact holds

/-- A subscription is measured from its used amount at the start, or from 0 when its period has run
out then and the pre-consume of the session opens a new one. -/
def Funding.MeasuredFrom (start : World) (request : Request) : Funding → Prop
  | .wallet _ => True
  | .subscription funding => ∃ (row : UserSubscription) (plan : SubscriptionPlan),
    start.store.subs.find? funding.subscriptionId = some row ∧
      start.store.getSubscriptionPlanById row.planId = .ok plan ∧
      funding.usedBefore = if row.rollsOver request.loc plan request.now then 0 else row.amountUsed

/-- An attempt to open a session: refused without effect, or open and held. -/
def Opens (start : World) (request : Request)
    (result : World × Except ApiError BillingSession) : Prop :=
  (∃ error, result = (start, .error error)) ∨
    ∃ world session, result = (world, .ok session) ∧ session.isOpen = true ∧
      session.funding.MeasuredFrom start request ∧ Held start ⟨world, session⟩

variable (faults : SessionFaults) (present : start.hasToken request)

include present

theorem tryWallet_opens (nonneg : 0 ≤ quota) :
    Opens start request (tryWallet request faults start quota) := by
  unfold tryWallet
  simp only
  split
  · exact .inl ⟨_, rfl⟩
  split
  · exact .inl ⟨_, rfl⟩
  rename_i notEmpty
  split
  · exact .inl ⟨_, rfl⟩
  rcases preConsume_cases faults.wallet start (.wallet 0)
    (start.userQuota request.userId) quota with
    refused | ⟨effective, granted, last, trusted, effectiveEq, funded, opened⟩
  · exact .inl refused
  · right
    refine ⟨last, _, opened, rfl, ?_⟩
    have effectiveNonneg : 0 ≤ effective := by
      rw [effectiveEq]
      split <;> omega
    have user : start.hasUser request.userId := by
      unfold hasUser
      cases found : start.store.users.find? request.userId with
      | none => simp [userQuota, found] at notEmpty
      | some => rfl
    generalize middleEq : (if effective > 0 then start.drawToken request effective
      else start) = middle at funded
    have store : middle.store = start.store := by
      rw [← middleEq]
      split
      · exact drawToken_store ..
      · rfl
    obtain ⟨rfl, rfl⟩ := wallet_preConsume_ok effectiveNonneg funded
    have userLater : middle.hasUser request.userId := by simpa [hasUser, store] using user
    have quotaLater : middle.userQuota request.userId = start.userQuota request.userId := by
      simp only [userQuota, store]
    refine ⟨trivial, held_opened effectiveNonneg present ?_ ?_⟩
    · rw [middleEq]
      rfl
    · refine ⟨rfl, hasUser_addUserQuota userLater _ _, ?_⟩
      change start.userQuota request.userId -
        (middle.addUserQuota request.userId (-effective)).userQuota request.userId = effective
      rw [userQuota_addUserQuota userLater, quotaLater]
      omega

variable (fresh : start.store.records.find? request.requestId = none)
  (usedNonneg : ∀ sub ∈ start.store.subs.rows, 0 ≤ sub.amountUsed)

include fresh usedNonneg

theorem trySubscription_opens (quota : Int) :
    Opens start request (trySubscription request faults start quota) := by
  unfold trySubscription
  have positive : 0 < (if quota ≤ 0 then 1 else quota) := by split <;> omega
  generalize (if quota ≤ 0 then 1 else quota) = subConsume at positive
  rcases preConsume_cases faults.subscription start
    (.subscription { amount := subConsume }) 0 subConsume with
    refused | ⟨effective, granted, last, trusted, effectiveEq, funded, opened⟩
  · exact .inl refused
  · right
    obtain rfl : effective = subConsume := by
      rw [effectiveEq]
      simp [shouldTrust, Funding.isSubscription]
    refine ⟨last, _, opened, rfl, ?_⟩
    simp only [Funding.preConsume] at funded
    split at funded
    · cases funded
    next outcome reached =>
    cases funded
    have called := attempt_ok reached
    split at called
    · cases called
    next charged =>
    cases called
    rw [if_pos positive, drawToken_store] at charged
    obtain ⟨old, sub, plan, oldFound, planned, usedEq, idEq, amountEq, afterEq, row, record⟩ :=
      preConsume_fresh fresh charged
    have before : ∀ funding : SubscriptionFunding,
        funding.amountUsedAfter = outcome.result.amountUsedAfter →
        funding.preConsumed = outcome.result.preConsumed → funding.usedBefore = sub.amountUsed := by
      intro funding after consumed
      rw [SubscriptionFunding.usedBefore, after, consumed, afterEq, amountEq]
      omega
    have oldNonneg := usedNonneg old (Table.find?_mem oldFound)
    constructor
    · refine ⟨old, plan, idEq ▸ oldFound, planned, ?_⟩
      rw [before _ rfl rfl]
      exact usedEq
    · apply held_opened positive.le present
      · rfl
      refine ⟨sub.withUsed (sub.amountUsed + effective), ?_⟩
      constructor
      case row => exact idEq ▸ row
      case record => exact ⟨_, record, rfl, amountEq.symm, idEq.symm⟩
      case synced => rfl
      case used =>
        rw [before _ rfl rfl]
        rfl
      case before =>
        rw [before _ rfl rfl]
        omega
      case parts =>
        change outcome.result.preConsumed + 0 = effective
        rw [amountEq, Int.add_zero]
      case positive =>
        rw [amountEq]
        exact positive
      case extra => exact le_rfl

theorem newBillingSession_opens (nonneg : 0 ≤ quota) :
    Opens start request (newBillingSession request faults start quota) := by
  have wallet : Opens start request (tryWallet request faults start quota) :=
    tryWallet_opens faults present nonneg
  have subscription := trySubscription_opens faults present fresh usedNonneg quota
  unfold newBillingSession
  cases normalizeBillingPreference request.billingPreference with
  | subscriptionOnly => exact subscription
  | walletOnly => exact wallet
  | walletFirst =>
    rcases wallet with ⟨error, refused⟩ | ⟨world, session, opened, facts⟩
    · simp only [refused]
      split
      · exact subscription
      · exact .inl ⟨error, rfl⟩
    · simp only [opened]
      exact .inr ⟨world, session, rfl, facts⟩
  | subscriptionFirst =>
    dsimp only
    split
    · exact .inl ⟨_, rfl⟩
    · exact wallet
    · rcases subscription with ⟨error, refused⟩ | ⟨world, session, opened, facts⟩
      · simp only [refused]
        split
        · split
          · exact .inl ⟨_, rfl⟩
          · exact wallet
          · exact .inl ⟨error, rfl⟩
        · exact .inl ⟨error, rfl⟩
      · simp only [opened]
        exact .inr ⟨world, session, rfl, facts⟩

end Opening

/-! ## Runs -/

/-- A settlement comes before any refund and, for a subscription, is not negative. -/
def SettlesUnrefunded (state : BillingState) : BillingOp → Prop
  | .settle actual _ =>
    state.session.refunded = false ∧ (state.session.funding.isSubscription = true → 0 ≤ actual)
  | _ => True

/-- Where a session stands. -/
inductive Phase (start : World) (state : BillingState) : Prop
  | held (isOpen : state.session.isOpen = true) (held : Held start state)
  | settled (settled : state.session.settled = true)
      (notRefunded : state.session.refunded = false)
  | refunded (refunded : state.session.refunded = true)
      (notFunded : state.session.fundingSettled = false)

theorem isOpen_flags {session : BillingSession} (isOpen : session.isOpen = true) :
    session.settled = false ∧ session.refunded = false ∧ session.fundingSettled = false := by
  simpa [BillingSession.isOpen, and_assoc] using isOpen

theorem step_closed {op : BillingOp}
    (closed : state.session.settled = true ∨ state.session.refunded = true)
    (meets : SettlesUnrefunded state op) : billingStep state op = state := by
  cases op with
  | reserve => rcases closed with flag | flag <;> simp [billingStep, reserve, flag]
  | settle =>
    have settled := closed.resolve_right (by simp [meets.1])
    simp [billingStep, settle, settled]
  | refund => rcases closed with flag | flag <;> simp [billingStep, refund, flag]

theorem run_closed (closed : state.session.settled = true ∨ state.session.refunded = true)
    (meets : Along SettlesUnrefunded billingStep state ops) :
    run billingStep state ops = state := by
  have keeps : ∀ other op, other = state → SettlesUnrefunded other op →
      billingStep other op = state := by
    rintro other op rfl here
    exact step_closed closed here
  exact @run_invariant _ _ SettlesUnrefunded billingStep (· = state) keeps state ops rfl
    meets

theorem step_phase (state : BillingState) (op : BillingOp) (phase : Phase start state)
    (meets : SettlesUnrefunded state op) : Phase start (billingStep state op) := by
  cases phase with
  | held isOpen held =>
    cases op with
    | reserve target faults =>
      obtain ⟨-, kept, sameOpen⟩ := held.reserve target faults
      exact .held (sameOpen.trans isOpen) kept
    | settle =>
      -- a settlement fails without effect or closes the session
      obtain ⟨notSettled, notRefunded, notFunded⟩ := isOpen_flags isOpen
      unfold billingStep settle
      rw [notSettled]
      dsimp only
      split
      · contradiction
      split
      · exact .settled rfl notRefunded
      split
      · exact .held isOpen held
      rename_i world session funded
      have kept : session.refunded = false := by
        obtain ⟨_, -, stateEq⟩ := settleFunding_ok notFunded funded
        cases stateEq
        exact notRefunded
      split
      · exact .settled rfl kept
      · exact .settled rfl kept
    | refund =>
      unfold billingStep refund
      dsimp only
      split
      · exact .held isOpen held
      · exact .refunded rfl (isOpen_flags isOpen).2.2
  | settled settled notRefunded =>
    rw [step_closed (.inl settled) meets]
    exact .settled settled notRefunded
  | refunded refunded notFunded =>
    rw [step_closed (.inr refunded) meets]
    exact .refunded refunded notFunded

/-- What a session promises over every run that settles it before any refund. -/
structure Conserves (start : World) (opened : BillingState) : Prop where
  /-- After a settlement that found the session unsettled and returned nil, the session
  has taken the actual quota, whatever is called next. -/
  settled : ∀ front actual faults back,
    Along SettlesUnrefunded billingStep opened (front ++ .settle actual faults :: back) →
    (run billingStep opened front).session.settled = false →
    (settle (run billingStep opened front) actual faults).2 = .ok () → fundingNet start
        (run billingStep opened (front ++ .settle actual faults :: back)) = actual ∧
      tokenNet start (run billingStep opened (front ++ .settle actual faults :: back)) =
        opened.session.request.onToken actual
  /-- After a refund that ran and whose calls succeeded, it has taken nothing. -/
  refunded : ∀ front faults back,
    Along SettlesUnrefunded billingStep opened (front ++ .refund faults :: back) →
    (run billingStep opened front).session.refunded = false →
    (refund (run billingStep opened front) faults).1.session.refunded = true →
    (refund (run billingStep opened front) faults).2 = [] →
    fundingNet start (run billingStep opened (front ++ .refund faults :: back)) = 0 ∧
      tokenNet start (run billingStep opened (front ++ .refund faults :: back)) = 0
  /-- The funding source is never both settled and refunded. -/
  exclusive : ∀ ops, Along SettlesUnrefunded billingStep opened ops →
    ¬ ((run billingStep opened ops).session.fundingSettled = true ∧
      (run billingStep opened ops).session.refunded = true)
  /-- A reservation that fails leaves both accounts as they were. -/
  reserve : ∀ ops target faults error, Along SettlesUnrefunded billingStep opened ops →
    (reserve (run billingStep opened ops) target faults).2 = .error error →
    (reserve (run billingStep opened ops) target faults).1 = run billingStep opened ops

theorem settle_closes {faults : SettleFaults} (phase : Phase start state)
    (meets : SettlesUnrefunded state (.settle actual faults))
    (notSettled : state.session.settled = false) (done : (settle state actual faults).2 = .ok ()) :
    (settle state actual faults).1.session.settled = true ∧
      fundingNet start (settle state actual faults).1 = actual ∧
      tokenNet start (settle state actual faults).1 = state.session.request.onToken actual := by
  cases phase with
  | held isOpen held =>
    obtain ⟨-, -, notFunded⟩ := isOpen_flags isOpen
    exact held.settle notSettled notFunded meets.2 (Prod.ext rfl done)
  | settled settled =>
    rw [notSettled] at settled
    cases settled
  | refunded refunded =>
    rw [meets.1] at refunded
    cases refunded

theorem refund_closes (phase : Phase start state) (before : state.session.refunded = false)
    (after : (refund state faults).1.session.refunded = true)
    (clean : (refund state faults).2 = []) :
    fundingNet start (refund state faults).1 = 0 ∧ tokenNet start (refund state faults).1 = 0 := by
  cases phase with
  | held isOpen held => exact held.refund before (Prod.ext rfl clean) after
  | settled settled =>
    -- A settled session is left alone, so nothing was refunded.
    rw [show (refund state faults).1 = state by simp [refund, settled], before] at after
    cases after
  | refunded refunded =>
    rw [before] at refunded
    cases refunded

theorem step_request (state : BillingState) (op : BillingOp) :
    (billingStep state op).session.request = state.session.request := by
  cases op with
  | reserve =>
    simp only [billingStep, reserve]
    split
    · rfl
    split
    · rfl
    split <;> rfl
  | settle =>
    simp only [billingStep, settle]
    split
    · rfl
    split
    · rfl
    split
    · rfl
    rename_i world session funded
    have kept : session.request = state.session.request := by
      cases flag : state.session.fundingSettled with
      | true =>
        simp only [settleFunding, flag, if_true] at funded
        cases funded
        rfl
      | false =>
        obtain ⟨_, -, stateEq⟩ := settleFunding_ok flag funded
        cases stateEq
        rfl
    split <;> exact kept
  | refund =>
    simp only [billingStep, refund]
    split <;> rfl

theorem Held.conserves {opened : BillingState} (isOpen : opened.session.isOpen = true)
    (held : Held start opened) : Conserves start opened := by
  have phase {ops} (meets : Along SettlesUnrefunded billingStep opened ops) :=
    run_invariant step_phase (.held isOpen held) meets
  constructor
  case settled =>
    intro front actual faults back meets notSettled done
    obtain ⟨meetsFront, here, meetsBack⟩ := along_append.mp meets
    obtain ⟨closed, nets⟩ := settle_closes (phase meetsFront) here notSettled done
    have stays := @run_closed (billingStep _ (.settle actual faults)) back
      (.inl closed) meetsBack
    have same := @run_invariant_of_all _ _ billingStep (·.session.request = opened.session.request)
      (fun state op kept => (step_request state op).trans kept) opened front rfl
    rw [run_append, run_cons, stays, ← same]
    exact nets
  case refunded =>
    intro front faults back meets before after clean
    obtain ⟨meetsFront, _, meetsBack⟩ := along_append.mp meets
    have nets := refund_closes (phase meetsFront) before after clean
    have stays := @run_closed (billingStep _ (.refund faults)) back (.inr after) meetsBack
    rw [run_append, run_cons, stays]
    exact nets
  case exclusive =>
    rintro ops meets ⟨funded, refunded⟩
    cases phase meets with
    | held isOpen => simp [(isOpen_flags isOpen).2.1] at refunded
    | settled _ notRefunded => simp [notRefunded] at refunded
    | refunded _ notFunded => simp [notFunded] at funded
  case reserve =>
    intro ops target faults error meets refused
    cases phase meets with
    | held isOpen held =>
      apply (held.reserve target faults).1.resolve_left
      simp [refused]
    | settled settled => simp [Billing.reserve, settled]
    | refunded refunded => simp [Billing.reserve, refunded]

/-- A new session that is refused has changed nothing.  One that is opened takes exactly
what it settles and nothing once refunded, is never both settled and refunded, and is
not charged by a reservation that fails. -/
theorem billing_session_conserves (request : Request) (faults : SessionFaults)
    (start : World) (quota : Int) (nonneg : 0 ≤ quota) (present : start.hasToken request)
    (fresh : start.store.records.find? request.requestId = none)
    (usedNonneg : ∀ sub ∈ start.store.subs.rows, 0 ≤ sub.amountUsed) :
    match newBillingSession request faults start quota with
    | (world, .error _) => world = start
    | (world, .ok session) =>
      session.funding.MeasuredFrom start request ∧ Conserves start ⟨world, session⟩ := by
  have opens := newBillingSession_opens faults present fresh usedNonneg nonneg
  generalize newBillingSession request faults start quota = result at opens ⊢
  rcases opens with ⟨error, rfl⟩ | ⟨world, session, rfl, isOpen, measured, held⟩
  · rfl
  · exact ⟨measured, Held.conserves isOpen held⟩

/-- A user with a wallet, a token and a subscription of which 20 units are used. -/
def smallWorld : World where
  store :=
    { users := .single { id := 7, quota := 100 }
      plans := .single { id := 1 }
      subs := Serial.empty.create
        (fun id => { id := id, userId := 7, planId := 1, amountTotal := 100,
                     amountUsed := 20, startTime := 0, endTime := 1000 })
        (fun _ => rfl) }
  tokens := .single { id := 3, remainQuota := 100 }

/-- A request of that user; the subscription pays. -/
def smallRequest : Request :=
  { userId := 7, tokenId := 3, requestId := "a", now := 10 }

/-- The same request from the playground, which has no token. -/
def playgroundRequest : Request :=
  { smallRequest with tokenId := 0, isPlayground := true }

theorem billing_session_conserves_small :
    (match newBillingSession smallRequest {} smallWorld 10 with
    | (world, .error _) => world = smallWorld
    | (world, .ok session) => session.funding.MeasuredFrom smallWorld smallRequest ∧
        Conserves smallWorld ⟨world, session⟩) ∧
    match newBillingSession playgroundRequest {} smallWorld 10 with
    | (world, .error _) => world = smallWorld
    | (world, .ok session) => session.funding.MeasuredFrom smallWorld playgroundRequest ∧
        Conserves smallWorld ⟨world, session⟩ :=
  ⟨billing_session_conserves smallRequest {} smallWorld 10 (by decide) (fun _ => rfl) rfl
      (by decide),
    billing_session_conserves playgroundRequest {} smallWorld 10 (by decide) nofun rfl (by decide)⟩

/-- A second settlement returns nil and takes nothing; a settlement after the refund
returns nil, settles what was given back and takes too little. -/
theorem late_settlements_return_nil :
    (match newBillingSession smallRequest {} smallWorld 10 with
      | (_, .error _) => none
      | (world, .ok session) => some (
          ((settle (run billingStep ⟨world, session⟩ [.settle 10 {}]) 20 {}).2,
            fundingNet smallWorld
              (run billingStep ⟨world, session⟩ [.settle 10 {}, .settle 20 {}])),
          ((settle (run billingStep ⟨world, session⟩ [.refund {}]) 25 {}).2, fundingNet smallWorld
              (run billingStep ⟨world, session⟩ [.refund {}, .settle 25 {}])),
          ((run billingStep ⟨world, session⟩ [.refund {}, .settle 25 {}]).session.refunded,
            (run billingStep ⟨world, session⟩
              [.refund {}, .settle 25 {}]).session.fundingSettled))) =
      some ((.ok (), 10), (.ok (), 15), (true, true)) := by
  decide +kernel

end StuHelper.Billing

import StuHelper.Lib.Run
import StuHelper.Subscription.Rows

/-!
# Charging a subscription

The quota side of a subscription: the reset at a period boundary, the
pre-consume that admits a request, the deltas that reserve more or settle, and the
refund of a pre-consume.  Each is one transaction.

A pre-consume looks the request id up first and only then locks the rows of the
user, so another call with the same request id can commit in between.  The two
halves are separate definitions and the whole call runs them on one store.
-/

namespace StuHelper.Subscription

open Lib

/-! ## Quota resets -/

/-- One round of the loop that walks over the boundaries up to `now`.  The state is
the last boundary passed and the next one. -/
def resetRound (loc : Location) (plan : SubscriptionPlan) (endUnix now : Int) :
    Int × Int → Round (Int × Int) (Int × Int)
  | (base, next) =>
    if 0 < next ∧ next ≤ now then
      .again (next, calcNextResetTime loc next plan endUnix)
    else .stop (base, next)

/-- The loop of `maybeResetUserSubscriptionWithPlanTx`; `none` when it never ends.
The bound on the rounds loses no run that ends (`resetLoop_ends`,
`not_ends_of_stalls`). -/
def resetLoop (loc : Location) (plan : SubscriptionPlan) (endUnix now base : Int) :
    Option (Int × Int) :=
  runLoop (resetRound loc plan endUnix now) (now.toNat + 2)
    (base, calcNextResetTime loc base plan endUnix)

namespace UserSubscription

/-- The row with another used amount and other reset stamps. -/
@[simps] def withPeriod (sub : UserSubscription) (used lastReset nextReset : Int) :
    UserSubscription :=
  { sub with
    amountUsed := used, lastResetTime := lastReset, nextResetTime := nextReset }

/-- The row with another used amount. -/
@[simps] def withUsed (sub : UserSubscription) (used : Int) : UserSubscription :=
  { sub with amountUsed := used }

@[simp] theorem withPeriod_withPeriod (sub : UserSubscription)
    (used lastReset nextReset used' lastReset' nextReset' : Int) :
    (sub.withPeriod used lastReset nextReset).withPeriod used' lastReset' nextReset' =
      sub.withPeriod used' lastReset' nextReset' := rfl

@[simp] theorem withPeriod_self (sub : UserSubscription) :
    sub.withPeriod sub.amountUsed sub.lastResetTime sub.nextResetTime = sub := rfl

/-- Where the walk over the boundaries starts. -/
def resetBase (sub : UserSubscription) : Int :=
  if sub.lastResetTime ≤ 0 then sub.startTime else sub.lastResetTime

def boundaryPassed (loc : Location) (sub : UserSubscription)
    (plan : SubscriptionPlan) (now : Int) : Bool :=
  let next := calcNextResetTime loc sub.resetBase plan sub.endTime
  0 < next && next ≤ now

/-- The row is left alone by a reset at this time. -/
def resetNotDue (sub : UserSubscription) (plan : SubscriptionPlan) (now : Int) : Bool :=
  (sub.nextResetTime > 0 && sub.nextResetTime > now) ||
    normalizeResetPeriod plan.quotaResetPeriod = .never

end UserSubscription

/-- `maybeResetUserSubscriptionWithPlanTx`, on the row that the caller saves. -/
def maybeResetUserSubscriptionWithPlan (loc : Location) (sub : UserSubscription)
    (plan : SubscriptionPlan) (now : Int) : Except SubscriptionError UserSubscription :=
  if sub.resetNotDue plan now then .ok sub
  else
    let base := sub.resetBase
    let next := calcNextResetTime loc base plan sub.endTime
    if sub.boundaryPassed loc plan now then
      match resetLoop loc plan sub.endTime now base with
      | none => .error .resetNeverEnds
      | some (base, next) => .ok (sub.withPeriod 0 base next)
    else if sub.nextResetTime = 0 ∧ next > 0 then
      .ok (sub.withPeriod sub.amountUsed base next)
    else .ok sub

/-- Whether a reset at this time starts a new period. -/
def UserSubscription.rollsOver (loc : Location) (sub : UserSubscription)
    (plan : SubscriptionPlan) (now : Int) : Bool :=
  !sub.resetNotDue plan now && sub.boundaryPassed loc plan now

/-- What a reset can do to a row: it moves the two stamps, and it empties the used
amount exactly when a new period starts. -/
theorem maybeReset_ok {loc : Location} {sub next : UserSubscription}
    {plan : SubscriptionPlan} {now : Int}
    (reset : maybeResetUserSubscriptionWithPlan loc sub plan now = .ok next) :
    ∃ lastReset nextReset, next = sub.withPeriod
      (if sub.rollsOver loc plan now then 0 else sub.amountUsed)
      lastReset nextReset := by
  unfold maybeResetUserSubscriptionWithPlan at reset
  split at reset
  next notDue =>
    cases reset
    refine ⟨sub.lastResetTime, sub.nextResetTime, ?_⟩
    simp [UserSubscription.rollsOver, notDue]
  rename_i due
  simp only at reset
  split at reset
  next passed =>
    split at reset
    · cases reset
    next base later walked =>
      cases reset
      exact ⟨base, later, by simp [UserSubscription.rollsOver, due, passed]⟩
  rename_i waiting
  have stays : sub.rollsOver loc plan now = false := by
    simp [UserSubscription.rollsOver, waiting]
  split at reset
  · cases reset
    exact ⟨sub.resetBase, calcNextResetTime loc sub.resetBase plan sub.endTime, by simp [stays]⟩
  · cases reset
    refine ⟨sub.lastResetTime, sub.nextResetTime, ?_⟩
    simp [stays]

/-! ## Pre-consume -/

/-- `SubscriptionPreConsumeResult`. -/
structure PreConsumeResult where
  userSubscriptionId : Int
  preConsumed : Int
  amountTotal : Int
  amountUsedBefore : Int
  amountUsedAfter : Int
  deriving DecidableEq, Repr

/-- The arguments of `PreConsumeUserSubscription` and the database clock. -/
structure PreConsumeCall where
  requestId : String
  userId : Int
  modelName : String := ""
  amount : Int
  now : Int
  deriving DecidableEq, Repr

/-- A pre-consume that commits.  `resets` lists the subscriptions whose period was
rolled over on the way; it is bookkeeping of the model. -/
structure PreConsumeOutcome where
  result : PreConsumeResult
  store : Store
  resets : List Int

/-- The checks before the transaction. -/
def PreConsumeCall.check (call : PreConsumeCall) : Except SubscriptionError Unit :=
  if call.userId ≤ 0 then .error .invalidUserId
  else if Text.trimSpace call.requestId = "" then .error .requestIdEmpty
  else if call.amount ≤ 0 then .error .amountNotPositive
  else .ok ()

/-- First half of the transaction: the answer for a request id that already has a
record, and `none` for a new one. -/
def lookUpRecord (store : Store) (requestId : String) :
    Option (Except SubscriptionError PreConsumeResult) :=
  match store.records.find? requestId with
  | none => none
  | some existing =>
    if existing.status = .refunded then some (.error .alreadyRefunded)
    else
      match store.subs.find? existing.userSubscriptionId with
      | none => some (.error .recordNotFound)
      | some sub => some (.ok
          { userSubscriptionId := sub.id
            preConsumed := existing.preConsumed
            amountTotal := sub.amountTotal
            amountUsedBefore := sub.amountUsed
            amountUsedAfter := sub.amountUsed })

/-- The candidate has room for the amount; a total of 0 is no limit. -/
def UserSubscription.admits (sub : UserSubscription) (amount : Int) : Bool :=
  !(sub.amountTotal > 0 && sub.amountTotal - sub.amountUsed < amount)

/-- Insert the record and charge the admitting candidate.  When the unique index
refuses the record, the call answers from the record that is there, provided that
it can still read it. -/
def chargeCandidate (call : PreConsumeCall) (dupVisible : Bool)
    (sub : UserSubscription) (store : Store) (resets : List Int) :
    Except SubscriptionError PreConsumeOutcome :=
  let record : PreConsumeRecord :=
    { requestId := call.requestId
      userId := call.userId
      userSubscriptionId := sub.id
      preConsumed := call.amount }
  match store.records.insert? record with
  | some records =>
    let charged := sub.withUsed (sub.amountUsed + call.amount)
    .ok
      { result :=
          { userSubscriptionId := sub.id
            preConsumed := call.amount
            amountTotal := sub.amountTotal
            amountUsedBefore := sub.amountUsed
            amountUsedAfter := charged.amountUsed }
        store := { store with records := records }.saveSub charged
        resets := resets }
  | none =>
    match store.records.find? call.requestId with
    | none => .error .duplicateKey
    | some dup =>
      if !dupVisible then .error .duplicateKey
      else if dup.status = .refunded then .error .alreadyRefunded
      else .ok
        { result :=
            -- The source answers with the candidate, not with the
            -- subscription that the record names.
            { userSubscriptionId := sub.id
              preConsumed := dup.preConsumed
              amountTotal := sub.amountTotal
              amountUsedBefore := sub.amountUsed
              amountUsedAfter := sub.amountUsed }
          store := store
          resets := resets }

/-- The plan does not bill the model of the request. -/
def SubscriptionPlan.refusesModel (plan : SubscriptionPlan) (modelName : String) : Bool :=
  modelName ≠ "" && !plan.isModelAllowed modelName

/-- The loop over the candidates.  A reset of a candidate that is then passed over
stays in the transaction. -/
def tryCandidates (loc : Location) (call : PreConsumeCall) (dupVisible : Bool) :
    List UserSubscription → (anyPlanAllowsModel : Bool) → Store → List Int →
      Except SubscriptionError PreConsumeOutcome
  | [], anyPlanAllowsModel, _, _ =>
    if Text.trimSpace call.modelName ≠ "" && !anyPlanAllowsModel then
      .error (.noSubscriptionAllowsModel (Text.trimSpace call.modelName))
    else .error (.quotaInsufficient call.amount)
  | candidate :: rest, anyPlanAllowsModel, store, resets =>
    let modelName := Text.trimSpace call.modelName
    match store.getSubscriptionPlanById candidate.planId with
    | .error error => .error error
    | .ok plan =>
      if plan.refusesModel modelName then
        tryCandidates loc call dupVisible rest anyPlanAllowsModel store resets
      else
        match maybeResetUserSubscriptionWithPlan loc candidate plan call.now with
        | .error error => .error error
        | .ok sub =>
          let store := store.saveSub sub
          let resets :=
            if candidate.rollsOver loc plan call.now then sub.id :: resets
            else resets
          if sub.admits call.amount then
            chargeCandidate call dupVisible sub store resets
          else
            tryCandidates loc call dupVisible rest
              (anyPlanAllowsModel || modelName ≠ "") store resets

def Store.candidates (store : Store) (userId now : Int) : List UserSubscription :=
  select (Ascending UserSubscription.endTime UserSubscription.id)
    (fun sub => sub.userId = userId && sub.runsAt now) store.subs.rows

/-- Second half of the transaction: lock the rows of the user, insert and charge. -/
def lockAndInsert (loc : Location) (call : PreConsumeCall) (dupVisible : Bool)
    (store : Store) : Except SubscriptionError PreConsumeOutcome :=
  match store.candidates call.userId call.now with
  | [] => .error .noActiveSubscription
  | subs => tryCandidates loc call dupVisible subs false store []

/-- `PreConsumeUserSubscription`, undisturbed by other calls. -/
def preConsumeUserSubscription (loc : Location) (store : Store)
    (call : PreConsumeCall) : Except SubscriptionError PreConsumeOutcome :=
  match call.check with
  | .error error => .error error
  | .ok () =>
    match lookUpRecord store call.requestId with
    | some (.error error) => .error error
    | some (.ok result) => .ok { result := result, store := store, resets := [] }
    | none => lockAndInsert loc call true store

/-! ## Deltas and refunds -/

/-- The record after its refund. -/
@[simps] def PreConsumeRecord.markRefunded (record : PreConsumeRecord) : PreConsumeRecord :=
  { record with status := .refunded }

def postConsumeUserSubscriptionDeltaTx (store : Store) (userSubscriptionId delta : Int)
    (allowOverLimit : Bool) : Except SubscriptionError Store :=
  if userSubscriptionId ≤ 0 then .error .invalidUserSubscriptionId
  else if delta = 0 then .ok store
  else
    match store.subs.find? userSubscriptionId with
    | none => .error .recordNotFound
    | some sub =>
      let newUsed := if sub.amountUsed + delta < 0 then 0 else sub.amountUsed + delta
      if !allowOverLimit && sub.amountTotal > 0 && newUsed > sub.amountTotal then
        .error (.usedExceedsTotal newUsed sub.amountTotal)
      else .ok (store.saveSub (sub.withUsed newUsed))

def postConsumeUserSubscriptionDelta (store : Store) (userSubscriptionId delta : Int) :
    Except SubscriptionError Store :=
  postConsumeUserSubscriptionDeltaTx store userSubscriptionId delta false

def settleUserSubscriptionDelta (store : Store) (userSubscriptionId delta : Int) :
    Except SubscriptionError Store :=
  postConsumeUserSubscriptionDeltaTx store userSubscriptionId delta true

def refundSubscriptionPreConsume (store : Store) (requestId : String) :
    Except SubscriptionError Store :=
  if Text.trimSpace requestId = "" then .error .requestIdEmpty
  else
    match store.records.find? requestId with
    | none => .error .recordNotFound
    | some record =>
      if record.status = .refunded then .ok store
      else if record.preConsumed ≤ 0 then
        .ok (store.saveRecord record.markRefunded)
      else
        match postConsumeUserSubscriptionDeltaTx store record.userSubscriptionId
            (-record.preConsumed) false with
        | .error error => .error error
        | .ok store => .ok (store.saveRecord record.markRefunded)

/-- The transaction of `ResetDueSubscriptions` for one row.  It answers whether the
row is counted. -/
def resetDueRow (loc : Location) (store : Store) (id : Int) (plan : SubscriptionPlan)
    (now : Int) : Except SubscriptionError (Store × Bool) :=
  match store.subs.find? id with
  | none => .ok (store, false)
  | some locked =>
    if 0 < locked.nextResetTime ∧ locked.nextResetTime ≤ now then
      match maybeResetUserSubscriptionWithPlan loc locked plan now with
      | .error error => .error error
      | .ok sub => .ok (store.saveSub sub, true)
    else .ok (store, false)

end StuHelper.Subscription

import StuHelper.Subscription.Quota

/-!
# Billing sessions

A request is paid for in three acts: a session takes a reservation from its funding
source and from the token, may extend it before the request is sent, and finally settles
what was used or gives everything back.  The funding source is the wallet of the user or
one of their subscriptions.

Every call of the database can fail without effect; which calls do is a parameter of
each operation.  The calls that undo an earlier one succeed.  Deferred writes and caches
are taken as done at once.
-/

namespace StuHelper.Billing

open Lib Subscription

/-! ## The ledger -/

/-- The columns of `Token` that billing touches. -/
structure Token where
  id : Int
  remainQuota : Int := 0
  usedQuota : Int := 0
  deriving DecidableEq, Repr

/-- The database of a request. -/
structure World where
  store : Store
  tokens : Table Token.id := Table.empty

/-- Why a call fails. -/
inductive BillingError where
  | storeFailure
  | negativeQuota
  | tokenNotFound
  | tokenInsufficient (remain need : Int)
  | walletEmpty (quota : Int)
  | walletInsufficient (quota need : Int)
  | invalidUserId
  | subscription (error : SubscriptionError)
  deriving DecidableEq, Repr

/-- `types.ErrorCode`, as far as billing uses it. -/
inductive ErrorCode where
  | queryDataError | updateDataError | insufficientUserQuota
  | preConsumeTokenQuotaFailed
  deriving DecidableEq, Repr

/-- `StuHelperAIError`. -/
structure ApiError where
  code : ErrorCode
  cause : BillingError
  deriving DecidableEq, Repr

/-- A call of the database that may fail without effect. -/
def attempt {α : Type} (fails : Bool) (call : Except BillingError α) : Except BillingError α :=
  if fails then .error .storeFailure else call

namespace World

/-- Change the wallet of a user. -/
def addUserQuota (world : World) (userId delta : Int) : World :=
  { world with store := world.store.addQuota userId delta }

def addTokenQuota (world : World) (tokenId delta : Int) : World :=
  { world with
    tokens := world.tokens.update
      (fun token => if token.id = tokenId then
          { token with
            remainQuota := token.remainQuota + delta, usedQuota := token.usedQuota - delta }
        else token)
      (by intro token; split <;> rfl) }

/-- `GetUserQuota`; a missing user has no quota. -/
def userQuota (world : World) (userId : Int) : Int :=
  ((world.store.users.find? userId).map User.quota).getD 0

/-- What is left on a token. -/
def tokenRemain (world : World) (tokenId : Int) : Int :=
  ((world.tokens.find? tokenId).map Token.remainQuota).getD 0

def usedAmount (world : World) (subscriptionId : Int) : Int :=
  ((world.store.subs.find? subscriptionId).map UserSubscription.amountUsed).getD 0

end World

/-- The guard of the four quota functions: they refuse a negative amount. -/
def unlessNegative (quota : Int) (next : World) : Except BillingError World :=
  if quota < 0 then .error .negativeQuota else .ok next

def increaseUserQuota (world : World) (userId quota : Int) : Except BillingError World :=
  unlessNegative quota (world.addUserQuota userId quota)

def decreaseUserQuota (world : World) (userId quota : Int) : Except BillingError World :=
  unlessNegative quota (world.addUserQuota userId (-quota))

def increaseTokenQuota (world : World) (tokenId quota : Int) : Except BillingError World :=
  unlessNegative quota (world.addTokenQuota tokenId quota)

def decreaseTokenQuota (world : World) (tokenId quota : Int) : Except BillingError World :=
  unlessNegative quota (world.addTokenQuota tokenId (-quota))

/-- A transaction on the subscription tables. -/
def World.onStore (world : World) (result : Except SubscriptionError Store) :
    Except BillingError World :=
  match result with
  | .error error => .error (.subscription error)
  | .ok store => .ok { world with store := store }

/-! ## Requests -/

/-- The part of `RelayInfo` and of the request context that a session reads, and what
the server contributes: the trust quota, the time zone and the clock. -/
structure Request where
  userId : Int
  tokenId : Int
  tokenUnlimited : Bool := false
  isPlayground : Bool := false
  forcePreConsume : Bool := false
  requestId : String
  originModelName : String := ""
  billingPreference : String := ""
  tokenQuota : Int := 0
  trustQuota : Int := 0
  loc : Location := ⟨0⟩
  now : Int := 0

def preConsumeTokenQuota (request : Request) (fails : Bool) (world : World)
    (quota : Int) : Except BillingError World :=
  if quota < 0 then .error .negativeQuota
  else if request.isPlayground then .ok world
  else
    match world.tokens.find? request.tokenId with
    | none => .error .tokenNotFound
    | some token =>
      if !request.tokenUnlimited && token.remainQuota < quota then
        .error (.tokenInsufficient token.remainQuota quota)
      else attempt fails (decreaseTokenQuota world request.tokenId quota)

/-! ## Funding sources -/

structure SubscriptionFunding where
  amount : Int
  subscriptionId : Int := 0
  preConsumed : Int := 0
  amountTotal : Int := 0
  amountUsedAfter : Int := 0
  deriving DecidableEq, Repr

/-- `FundingSource`: the wallet with the quota it has given, or a subscription. -/
inductive Funding where
  | wallet (consumed : Int)
  | subscription (funding : SubscriptionFunding)
  deriving DecidableEq, Repr

/-- Whether the source is `BillingSourceSubscription`. -/
def Funding.isSubscription : Funding → Bool
  | .wallet _ => false
  | .subscription _ => true

/-- `FundingSource.PreConsume`.  A subscription takes the amount it was built with. -/
def Funding.preConsume (request : Request) (fails : Bool) (world : World)
    (amount : Int) : Funding → Except BillingError (Funding × World)
  | .wallet consumed =>
    if amount ≤ 0 then .ok (.wallet consumed, world)
    else
      (attempt fails (decreaseUserQuota world request.userId amount)).map fun world =>
        (.wallet amount, world)
  | .subscription funding =>
    match attempt fails (match preConsumeUserSubscription request.loc world.store
        { requestId := request.requestId, userId := request.userId,
          modelName := request.originModelName, amount := funding.amount,
          now := request.now } with
      | .error error => .error (.subscription error)
      | .ok outcome => .ok outcome) with
    | .error error => .error error
    | .ok outcome => .ok (.subscription
        { funding with
          subscriptionId := outcome.result.userSubscriptionId
          preConsumed := outcome.result.preConsumed
          amountTotal := outcome.result.amountTotal
          amountUsedAfter := outcome.result.amountUsedAfter },
        { world with store := outcome.store })

/-- `FundingSource.Settle`. -/
def Funding.settle (request : Request) (fails : Bool) (world : World) (delta : Int) :
    Funding → Except BillingError World
  | .wallet _ =>
    if delta = 0 then .ok world
    else if delta > 0 then
      attempt fails (decreaseUserQuota world request.userId delta)
    else attempt fails (increaseUserQuota world request.userId (-delta))
  | .subscription funding =>
    if delta = 0 then .ok world
    else attempt fails (world.onStore
      (settleUserSubscriptionDelta world.store funding.subscriptionId delta))

/-- `refundWithRetry`, one flag for each of its attempts. -/
def refundWithRetry (call : Except BillingError World) :
    List Bool → Except BillingError World
  | [] => .error .storeFailure
  | fails :: rest =>
    match attempt fails call with
    | .ok world => .ok world
    | .error error => if rest = [] then .error error else refundWithRetry call rest

/-- Which calls of a refund fail.  The refund of a pre-consume is tried three times, a
payment back into the wallet once. -/
structure RefundFaults where
  first : Bool := false
  second : Bool := false
  third : Bool := false
  extra : Bool := false
  token : Bool := false
  deriving DecidableEq, Repr

/-- `FundingSource.Refund`. -/
def Funding.refund (request : Request) (faults : RefundFaults) (world : World) :
    Funding → Except BillingError World
  | .wallet consumed =>
    if consumed ≤ 0 then .ok world
    else attempt faults.first (increaseUserQuota world request.userId consumed)
  | .subscription funding =>
    if funding.preConsumed ≤ 0 then .ok world
    else
      refundWithRetry
        (world.onStore (refundSubscriptionPreConsume world.store request.requestId))
        [faults.first, faults.second, faults.third]

/-! ## Sessions -/

/-- `BillingSession`.  The last two fields are those of the relay info that the session
writes and reads back. -/
structure BillingSession where
  request : Request
  funding : Funding
  preConsumedQuota : Int := 0
  tokenConsumed : Int := 0
  extraReserved : Int := 0
  trusted : Bool := false
  fundingSettled : Bool := false
  settled : Bool := false
  refunded : Bool := false
  subscriptionId : Int := 0
  subscriptionPostDelta : Int := 0

/-- A session and the database it works on. -/
structure BillingState where
  world : World
  session : BillingSession

def BillingSession.syncRelayInfo (session : BillingSession) : BillingSession :=
  { session with
    subscriptionId :=
      match session.funding with
      | .subscription funding => funding.subscriptionId
      | .wallet _ => 0
    subscriptionPostDelta :=
      if session.funding.isSubscription then 0 else session.subscriptionPostDelta }

/-- `shouldTrust`; a subscription is never trusted. -/
def shouldTrust (request : Request) (funding : Funding) (userQuota : Int) : Bool :=
  if request.forcePreConsume then false
  else if request.trustQuota ≤ 0 then false
  else if !(request.tokenUnlimited || request.tokenQuota > request.trustQuota) then false
  else !funding.isSubscription && userQuota > request.trustQuota

/-- Which calls of a pre-consume or a reservation fail. -/
structure ReserveFaults where
  token : Bool := false
  funding : Bool := false
  deriving DecidableEq, Repr

/-- The code of a funding source that refuses a pre-consume. -/
def fundingErrorCode : BillingError → ErrorCode
  | .subscription .noActiveSubscription => .insufficientUserQuota
  | .subscription (.quotaInsufficient _) => .insufficientUserQuota
  | .subscription (.noSubscriptionAllowsModel _) => .insufficientUserQuota
  | _ => .updateDataError

/-- Take the token part of a pre-consume. -/
def preConsumeToken (request : Request) (faults : ReserveFaults) (world : World)
    (quota : Int) : Except BillingError World :=
  if quota > 0 then preConsumeTokenQuota request faults.token world quota else .ok world

/-- Give the token part back after the funding source has refused. -/
def rollbackToken (request : Request) (world : World) (tokenConsumed : Int) : World :=
  if tokenConsumed > 0 ∧ !request.isPlayground then
    (increaseTokenQuota world request.tokenId tokenConsumed).toOption.getD world
  else world

/-- `BillingSession.preConsume` for a new session. -/
def preConsume (request : Request) (faults : ReserveFaults) (world : World)
    (funding : Funding) (userQuota quota : Int) : World × Except ApiError BillingSession :=
  let trusted := shouldTrust request funding userQuota
  let effectiveQuota := if trusted then 0 else quota
  let tokenConsumed := if effectiveQuota > 0 then effectiveQuota else 0
  match preConsumeToken request faults world effectiveQuota with
  | .error error => (world, .error ⟨.preConsumeTokenQuotaFailed, error⟩)
  | .ok world =>
    match funding.preConsume request faults.funding world effectiveQuota with
    | .error error =>
      (rollbackToken request world tokenConsumed, .error ⟨fundingErrorCode error, error⟩)
    | .ok (funding, world) =>
      (world, .ok (BillingSession.syncRelayInfo
        { request := request
          funding := funding
          preConsumedQuota := effectiveQuota
          tokenConsumed := tokenConsumed
          trusted := trusted }))

/-! ## New sessions -/

/-- `NormalizeBillingPreference`. -/
inductive Preference where
  | subscriptionFirst | walletFirst | subscriptionOnly | walletOnly
  deriving DecidableEq, Repr

@[inherit_doc Preference]
def normalizeBillingPreference (preference : String) : Preference :=
  let name := Text.trimSpace preference
  if name = "wallet_first" then .walletFirst
  else if name = "subscription_only" then .subscriptionOnly
  else if name = "wallet_only" then .walletOnly
  else .subscriptionFirst

/-- Which calls of `NewBillingSession` fail. -/
structure SessionFaults where
  userQuota : Bool := false
  subscriptionCheck : Bool := false
  overflowCheck : Bool := false
  wallet : ReserveFaults := {}
  subscription : ReserveFaults := {}
  deriving DecidableEq, Repr

def hasActiveUserSubscription (store : Store) (userId now : Int) : Except BillingError Bool :=
  if userId ≤ 0 then .error .invalidUserId
  else .ok (store.subs.rows.any fun sub => sub.userId = userId && sub.runsAt now)

def userActiveSubscriptionsAllowWalletOverflow (store : Store) (userId now : Int) :
    Except BillingError Bool :=
  if userId ≤ 0 then .error .invalidUserId
  else .ok (!store.subs.rows.any fun sub =>
    sub.userId = userId && sub.runsAt now && sub.allowWalletOverflow = some false)

/-- The wallet path of `NewBillingSession`. -/
def tryWallet (request : Request) (faults : SessionFaults) (world : World)
    (preConsumedQuota : Int) : World × Except ApiError BillingSession :=
  let userQuota := world.userQuota request.userId
  if faults.userQuota then (world, .error ⟨.queryDataError, .storeFailure⟩)
  else if userQuota ≤ 0 then
    (world, .error ⟨.insufficientUserQuota, .walletEmpty userQuota⟩)
  else if userQuota - preConsumedQuota < 0 then
    (world, .error ⟨.insufficientUserQuota, .walletInsufficient userQuota preConsumedQuota⟩)
  else preConsume request faults.wallet world (.wallet 0) userQuota preConsumedQuota

/-- The subscription path of `NewBillingSession`. -/
def trySubscription (request : Request) (faults : SessionFaults) (world : World)
    (preConsumedQuota : Int) : World × Except ApiError BillingSession :=
  let subConsume := if preConsumedQuota ≤ 0 then 1 else preConsumedQuota
  preConsume request faults.subscription world (.subscription { amount := subConsume })
    0 subConsume

def newBillingSession (request : Request) (faults : SessionFaults) (world : World)
    (preConsumedQuota : Int) : World × Except ApiError BillingSession :=
  match normalizeBillingPreference request.billingPreference with
  | .subscriptionOnly => trySubscription request faults world preConsumedQuota
  | .walletOnly => tryWallet request faults world preConsumedQuota
  | .walletFirst =>
    match tryWallet request faults world preConsumedQuota with
    | (world, .ok session) => (world, .ok session)
    | (world, .error error) =>
      if error.code = .insufficientUserQuota then
        trySubscription request faults world preConsumedQuota
      else (world, .error error)
  | .subscriptionFirst =>
    match attempt faults.subscriptionCheck
        (hasActiveUserSubscription world.store request.userId request.now) with
    | .error error => (world, .error ⟨.queryDataError, error⟩)
    | .ok false => tryWallet request faults world preConsumedQuota
    | .ok true =>
      match trySubscription request faults world preConsumedQuota with
      | (world, .ok session) => (world, .ok session)
      | (world, .error error) =>
        if error.code = .insufficientUserQuota then
          match attempt faults.overflowCheck
              (userActiveSubscriptionsAllowWalletOverflow world.store
                request.userId request.now) with
          | .error error => (world, .error ⟨.queryDataError, error⟩)
          | .ok true => tryWallet request faults world preConsumedQuota
          | .ok false => (world, .error error)
        else (world, .error error)

/-! ## Settle -/

/-- Which calls of a settlement fail. -/
structure SettleFaults where
  funding : Bool := false
  token : Bool := false
  deriving DecidableEq, Repr

/-- Commit the funding source, once. -/
def settleFunding (state : BillingState) (delta : Int) (fails : Bool) :
    Except BillingError BillingState :=
  if state.session.fundingSettled then .ok state
  else
    (state.session.funding.settle state.session.request fails state.world delta).map
      fun world => ⟨world, { state.session with fundingSettled := true }⟩

/-- Adjust the token by the same amount. -/
def settleToken (request : Request) (fails : Bool) (world : World) (delta : Int) :
    Except BillingError World :=
  if request.isPlayground then .ok world
  else if delta > 0 then attempt fails (decreaseTokenQuota world request.tokenId delta)
  else attempt fails (increaseTokenQuota world request.tokenId (-delta))

/-- The session after its settlement. -/
def BillingSession.settle (session : BillingSession) (delta : Int) : BillingSession :=
  { session with
    settled := true
    subscriptionPostDelta :=
      if session.funding.isSubscription then session.subscriptionPostDelta + delta
      else session.subscriptionPostDelta }

/-- `BillingSession.Settle`.  A token that cannot be adjusted is reported, and the
session counts as settled all the same. -/
def settle (state : BillingState) (actualQuota : Int) (faults : SettleFaults) :
    BillingState × Except BillingError Unit :=
  if state.session.settled then (state, .ok ())
  else
    let delta := actualQuota - state.session.preConsumedQuota
    if delta = 0 then
      (⟨state.world, { state.session with settled := true }⟩, .ok ())
    else
      match settleFunding state delta faults.funding with
      | .error error => (state, .error error)
      | .ok ⟨world, session⟩ =>
        match settleToken session.request faults.token world delta with
        | .error error => (⟨world, session.settle delta⟩, .error error)
        | .ok world => (⟨world, session.settle delta⟩, .ok ())

/-! ## Refund -/

/-- `needsRefundLocked`. -/
def BillingSession.needsRefund (session : BillingSession) : Bool :=
  if session.settled || session.refunded || session.fundingSettled then false
  else if session.tokenConsumed > 0 then true
  else
    match session.funding with
    | .subscription funding => funding.preConsumed > 0
    | .wallet _ => false

/-- The world after a call that only logs its failure, and the log. -/
def logged (world : World) (result : Except BillingError World) : World × List BillingError :=
  match result with
  | .ok world => (world, [])
  | .error error => (world, [error])

/-- The refund of what was reserved on top of a pre-consume. -/
def refundExtra (session : BillingSession) (fails : Bool) (world : World) :
    Except BillingError World :=
  if session.extraReserved > 0 && session.funding.isSubscription &&
      session.subscriptionId > 0 then
    attempt fails (world.onStore (postConsumeUserSubscriptionDelta world.store
      session.subscriptionId (-session.extraReserved)))
  else .ok world

def refundToken (session : BillingSession) (fails : Bool) (world : World) :
    Except BillingError World :=
  if session.tokenConsumed > 0 && !session.request.isPlayground then
    attempt fails (increaseTokenQuota world session.request.tokenId session.tokenConsumed)
  else .ok world

/-- `BillingSession.Refund`: the state after the refund has run, and the errors that it
has logged. -/
def refund (state : BillingState) (faults : RefundFaults) : BillingState × List BillingError :=
  let session := state.session
  if session.settled || session.refunded || !session.needsRefund then (state, [])
  else
    let (world, fundingLog) :=
      logged state.world (session.funding.refund session.request faults state.world)
    let (world, extraLog) := logged world (refundExtra session faults.extra world)
    let (world, tokenLog) := logged world (refundToken session faults.token world)
    (⟨world, { session with refunded := true }⟩, fundingLog ++ extraLog ++ tokenLog)

/-! ## Reserve -/

def reserveFunding (state : BillingState) (fails : Bool) (delta : Int) :
    Except ApiError (Funding × World) :=
  match state.session.funding with
  | .wallet consumed =>
    match attempt fails
        (decreaseUserQuota state.world state.session.request.userId delta) with
    | .error error => .error ⟨.updateDataError, error⟩
    | .ok world => .ok (.wallet (consumed + delta), world)
  | .subscription funding =>
    match attempt fails (state.world.onStore (postConsumeUserSubscriptionDelta
        state.world.store funding.subscriptionId delta)) with
    | .error error => .error ⟨.insufficientUserQuota, error⟩
    | .ok world => .ok (.subscription funding, world)

def rollbackFundingReserve (request : Request) (funding : Funding) (world : World)
    (delta : Int) : Funding × World :=
  match funding with
  | .wallet consumed =>
    match increaseUserQuota world request.userId delta with
    | .error _ => (funding, world)
    | .ok world => (.wallet (consumed - delta), world)
  | .subscription source =>
    match world.onStore (postConsumeUserSubscriptionDelta world.store
        source.subscriptionId (-delta)) with
    | .error _ => (funding, world)
    | .ok world => (funding, world)

def reserveToken (request : Request) (fails : Bool) (world : World) (delta : Int) :
    Except BillingError World :=
  if delta ≤ 0 || request.isPlayground then .ok world
  else preConsumeTokenQuota request fails world delta

/-- `BillingSession.Reserve`. -/
def reserve (state : BillingState) (targetQuota : Int) (faults : ReserveFaults) :
    BillingState × Except ApiError Unit :=
  let session := state.session
  if session.settled || session.refunded || session.trusted ||
      targetQuota ≤ session.preConsumedQuota then (state, .ok ())
  else
    let delta := targetQuota - session.preConsumedQuota
    match reserveFunding state faults.funding delta with
    | .error error => (state, .error error)
    | .ok (funding, world) =>
      match reserveToken session.request faults.token world delta with
      | .error error =>
        let (funding, world) := rollbackFundingReserve session.request funding world delta
        (⟨world, { session with funding := funding }⟩, .error ⟨.preConsumeTokenQuotaFailed, error⟩)
      | .ok world =>
        (⟨world, BillingSession.syncRelayInfo
          { session with
            funding := funding
            preConsumedQuota := session.preConsumedQuota + delta
            tokenConsumed := session.tokenConsumed + delta
            extraReserved := session.extraReserved + delta }⟩, .ok ())

/-! ## Runs -/

/-- The calls on a session. -/
inductive BillingOp where
  | reserve (targetQuota : Int) (faults : ReserveFaults)
  | settle (actualQuota : Int) (faults : SettleFaults)
  | refund (faults : RefundFaults)

def billingStep (state : BillingState) : BillingOp → BillingState
  | .reserve targetQuota faults => (reserve state targetQuota faults).1
  | .settle actualQuota faults => (settle state actualQuota faults).1
  | .refund faults => (refund state faults).1

end StuHelper.Billing

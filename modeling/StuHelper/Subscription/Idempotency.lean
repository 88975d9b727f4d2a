import StuHelper.Subscription.QuotaSteps

/-!
# Calls that race for one request id

Any number of pre-consume calls carry the same request id.  Each call first looks
the record up, then locks the rows of the user and tries to insert, and then commits;
other quota operations run in between.  The row locks and the unique index keep a
second call from inserting until the first has committed or rolled back, while a
lookup reads what is committed.

A call that loses the race answers from the record of the winner, but with the
subscription it would have charged itself.
-/

namespace StuHelper.Subscription

variable {loc : Location} {call : PreConsumeCall} {dupVisible : Bool} {outcome : PreConsumeOutcome}
  {store : Store}

open Lib

/-! ## The system -/

/-- How far a call has come. -/
inductive CallPhase where
  | idle
  | lookedUp
  | staged
  | returned (answer : Except SubscriptionError PreConsumeResult)
  deriving DecidableEq

/-- The committed store, the calls, the transaction that holds the locks, and the
amounts charged by the committed calls. -/
structure RaceState where
  store : Store
  phase : Nat → CallPhase := fun _ => .idle
  staged : Option (Nat × PreConsumeOutcome) := none
  charges : List Int := []

/-- Steps of the calls, and operations of other requests. -/
inductive RaceOp where
  | lookUp (call : Nat)
  | stage (call : Nat) (dupVisible : Bool)
  | commit (call : Nat)
  | rollback (call : Nat)
  | other (op : QuotaOp)

def QuotaOp.preConsumes (requestId : String) : QuotaOp → Bool
  | .preConsume call => call.requestId = requestId
  | _ => false

namespace RaceState

variable (loc : Location) (calls : Nat → PreConsumeCall) (requestId : String)

/-- A call comes back. -/
def answer (state : RaceState) (call : Nat)
    (result : Except SubscriptionError PreConsumeResult) : RaceState :=
  { state with phase := Function.update state.phase call (.returned result) }

/-- The first half of a call. -/
def lookUp (state : RaceState) (call : Nat) : RaceState :=
  match state.phase call with
  | .idle =>
    match (calls call).check with
    | .error error => state.answer call (.error error)
    | .ok () =>
      match lookUpRecord state.store (calls call).requestId with
      | some result => state.answer call result
      | none => { state with phase := Function.update state.phase call .lookedUp }
  | _ => state

/-- The second half of a call, up to its commit. -/
def stage (state : RaceState) (call : Nat) (dupVisible : Bool) : RaceState :=
  match state.phase call, state.staged with
  | .lookedUp, none =>
    match lockAndInsert loc (calls call) dupVisible state.store with
    | .error error => state.answer call (.error error)
    | .ok outcome =>
      { state with
        phase := Function.update state.phase call .staged
        staged := some (call, outcome) }
  | _, _ => state

/-- The commit of the transaction that holds the locks. -/
def commit (state : RaceState) (call : Nat) : RaceState :=
  match state.staged with
  | none => state
  | some (owner, outcome) =>
    if owner = call then
      let charge := outcome.result.amountUsedAfter - outcome.result.amountUsedBefore
      { store := outcome.store
        phase := Function.update state.phase call (.returned (.ok outcome.result))
        staged := none
        charges := if charge = 0 then state.charges else charge :: state.charges }
    else state

/-- The transaction that holds the locks fails at its commit. -/
def rollback (state : RaceState) (call : Nat) : RaceState :=
  match state.staged with
  | none => state
  | some (owner, _) =>
    if owner = call then
      { state.answer call (.error .storeFailure) with staged := none }
    else state

/-- An operation of another request, which waits for the locks. -/
def other (state : RaceState) (op : QuotaOp) : RaceState :=
  if state.staged.isNone && !op.preConsumes requestId then
    { state with store := quotaStep loc state.store op }
  else state

def step (state : RaceState) : RaceOp → RaceState
  | .lookUp call => state.lookUp calls call
  | .stage call dupVisible => state.stage loc calls call dupVisible
  | .commit call => state.commit call
  | .rollback call => state.rollback call
  | .other op => state.other loc requestId op

end RaceState

/-! ## Records -/

/-- The answer names the subscription and the amount of the record. -/
structure Agrees (result : PreConsumeResult) (record : PreConsumeRecord) : Prop where
  subscription : result.userSubscriptionId = record.userSubscriptionId
  amount : result.preConsumed = record.preConsumed

/-- The record of a request id is at most marked as refunded, and none appears. -/
structure RecordKept (requestId : String)
    (before after : Table PreConsumeRecord.requestId) : Prop where
  kept : ∀ record, before.find? requestId = some record →
    ∃ status, after.find? requestId = some { record with status := status }
  absent : before.find? requestId = none → after.find? requestId = none

theorem RecordKept.of_eq {requestId : String} {before after : Table PreConsumeRecord.requestId}
    (same : after.find? requestId = before.find? requestId) :
    RecordKept requestId before after where
  kept := fun record found => ⟨record.status, same.trans found⟩
  absent := same.trans

theorem RecordKept.markRefunded {records : Table PreConsumeRecord.requestId}
    {record : PreConsumeRecord} {other : String}
    (found : records.find? other = some record) (requestId : String) :
    RecordKept requestId records (records.save record.markRefunded) := by
  have recordKey : record.requestId = other := Table.find?_key found
  by_cases same : requestId = record.requestId
  · subst same
    rw [← recordKey] at found
    constructor
    · intro old oldFound
      cases found.symm.trans oldFound
      exact ⟨.refunded, Table.find?_save found rfl⟩
    · intro missing
      cases found.symm.trans missing
  · exact .of_eq (Table.find?_save_other records record.markRefunded same)

theorem RecordKept.step (loc : Location) (store : Store) {op : QuotaOp}
    {requestId : String} (foreign : op.preConsumes requestId = false) :
    RecordKept requestId store.records (quotaStep loc store op).records := by
  unfold quotaStep
  split
  next next done =>
    rcases commit_ok done with ⟨call, outcome, rfl, called, rfl⟩ |
      ⟨id, amount, allowOverLimit, called⟩ | ⟨refunded, called⟩ |
      ⟨id, plan, now, counted, called⟩
    · obtain ⟨-, ⟨storeEq, -, -⟩ | ⟨-, ⟨admission⟩⟩⟩ := preConsume_ok called
      · rw [storeEq]
        exact .of_eq rfl
      · obtain ⟨-, -, ⟨-, -, _, inserted, storeEq⟩ | ⟨-, -, -, -, -, storeEq⟩⟩ :=
          chargeCandidate_ok admission.charged
        · have unlike : requestId ≠ call.requestId := by
            simpa [QuotaOp.preConsumes, eq_comm] using foreign
          apply RecordKept.of_eq
          rw [storeEq, ← admission.rolled.records]
          exact (Table.find?_insert inserted requestId).trans (if_neg unlike)
        · rw [storeEq, admission.rolled.records]
          exact .of_eq rfl
    · rcases postConsumeDeltaTx_ok called with ⟨-, rfl⟩ | ⟨sub, -, rfl⟩
      · exact .of_eq rfl
      · exact .of_eq rfl
    · obtain ⟨_, found, ⟨-, rfl⟩ | ⟨-, -, rfl⟩ | ⟨-, -, sub, -, rfl⟩⟩ := refund_ok called
      · exact .of_eq rfl
      · exact .markRefunded found requestId
      · exact .markRefunded found requestId
    · rcases resetDueRow_ok called with ⟨-, rfl⟩ | ⟨row, sub, -, -, -, -, -, rfl⟩
      · exact .of_eq rfl
      · exact .of_eq rfl
  next => exact .of_eq rfl

theorem lockAndInsert_record (done : lockAndInsert loc call dupVisible store = .ok outcome) :
    (store.records.find? call.requestId = none ∧
        ∃ record, outcome.store.records.find? call.requestId = some record ∧
          Agrees outcome.result record) ∨
      (outcome.result.amountUsedAfter - outcome.result.amountUsedBefore = 0 ∧
        outcome.store.records = store.records ∧
        ∃ record, store.records.find? call.requestId = some record ∧
          outcome.result.preConsumed = record.preConsumed) := by
  obtain ⟨⟨admission⟩, -⟩ := lockAndInsert_ok done
  have recordsEq := admission.rolled.records
  obtain ⟨-, chosen, ⟨amount, -, records, inserted, storeEq⟩ |
    ⟨dup, found, -, amount, charge, storeEq⟩⟩ := chargeCandidate_ok admission.charged
  · left
    have recorded := (Table.find?_insert inserted call.requestId).trans (if_pos rfl)
    rw [← recordsEq]
    refine ⟨(Table.insert?_some inserted).1,
      { requestId := call.requestId, userId := call.userId,
        userSubscriptionId := admission.sub.id, preConsumed := call.amount }, ?_, chosen, amount⟩
    rw [storeEq]
    exact recorded
  · right
    refine ⟨charge, ?_, dup, ?_, amount⟩
    · rw [storeEq, recordsEq]
    · rw [← recordsEq]
      exact found

namespace RaceState

variable {calls : Nat → PreConsumeCall} {requestId : String}

/-- The transaction that holds the locks was staged on the committed store. -/
def Staged (loc : Location) (calls : Nat → PreConsumeCall) (state : RaceState) : Prop :=
  ∀ call outcome, state.staged = some (call, outcome) →
    ∃ dupVisible, lockAndInsert loc (calls call) dupVisible state.store = .ok outcome

/-- The request was charged at most once, and not before its record exists. -/
structure ChargedOnce (loc : Location) (calls : Nat → PreConsumeCall)
    (requestId : String) (state : RaceState) : Prop where
  staged : state.Staged loc calls
  once : state.charges.length ≤ 1
  recorded : state.store.records.find? requestId = none → state.charges = []

/-- Every answer so far, and the one that is staged, agrees with the record. -/
structure Agreed (loc : Location) (calls : Nat → PreConsumeCall)
    (requestId : String) (state : RaceState) : Prop where
  staged : state.Staged loc calls
  answers : ∀ call result, state.phase call = .returned (.ok result) →
    ∃ record, state.store.records.find? requestId = some record ∧ Agrees result record
  chosen : ∀ call outcome record, state.staged = some (call, outcome) →
    state.store.records.find? requestId = some record →
      outcome.result.userSubscriptionId = record.userSubscriptionId

/-- A call that is about to insert while the record is there would charge the
subscription that the record names. -/
def StagesOwnRecord (loc : Location) (calls : Nat → PreConsumeCall)
    (requestId : String) (state : RaceState) : RaceOp → Prop
  | .stage call _ => ∀ record sub, state.store.records.find? requestId = some record →
      state.store.firstAdmitting loc (calls call) = some sub → sub.id = record.userSubscriptionId
  | _ => True

/-- What a step may do, with the store and the transaction that holds the locks. -/
inductive Effect (loc : Location) (calls : Nat → PreConsumeCall) (requestId : String)
    (state : RaceState) : RaceOp → RaceState → Prop
  | answered {op : RaceOp} (call : Nat)
      (result : Except SubscriptionError PreConsumeResult)
      (recorded : ∀ value, result = .ok value →
        lookUpRecord state.store (calls call).requestId = some (.ok value)) :
      Effect loc calls requestId state op (state.answer call result)
  | lookedUp {op : RaceOp} (call : Nat) :
      Effect loc calls requestId state op
        { state with phase := Function.update state.phase call .lookedUp }
  | staged (call : Nat) (dupVisible : Bool) (outcome : PreConsumeOutcome)
      (done : lockAndInsert loc (calls call) dupVisible state.store = .ok outcome) :
      Effect loc calls requestId state (.stage call dupVisible)
        { state with
          phase := Function.update state.phase call .staged
          staged := some (call, outcome) }
  | committed {op : RaceOp} (call : Nat) (outcome : PreConsumeOutcome)
      (held : state.staged = some (call, outcome)) :
      Effect loc calls requestId state op
        { store := outcome.store
          phase := Function.update state.phase call (.returned (.ok outcome.result))
          staged := none
          charges :=
            if outcome.result.amountUsedAfter - outcome.result.amountUsedBefore = 0
            then state.charges
            else (outcome.result.amountUsedAfter - outcome.result.amountUsedBefore) ::
              state.charges }
  | rolledBack {op : RaceOp} (call : Nat) :
      Effect loc calls requestId state op
        { state.answer call (.error .storeFailure) with staged := none }
  | foreign {op : RaceOp} (inner : QuotaOp) (free : state.staged = none)
      (notOwn : inner.preConsumes requestId = false) :
      Effect loc calls requestId state op
        { state with store := quotaStep loc state.store inner }
  | refused {op : RaceOp} : Effect loc calls requestId state op state

theorem step_effect (loc : Location) (calls : Nat → PreConsumeCall)
    (requestId : String) (state : RaceState) (op : RaceOp) :
    Effect loc calls requestId state op (state.step loc calls requestId op) := by
  cases op with
  | lookUp call =>
    simp only [step, lookUp]
    split
    · split
      · exact .answered call _ nofun
      split
      next result found =>
        apply Effect.answered
        intro value equal
        rw [found, equal]
      next => exact .lookedUp call
    · exact .refused
  | stage call dupVisible =>
    simp only [step, stage]
    split
    · split
      · exact .answered call _ nofun
      next outcome done => exact .staged call dupVisible outcome done
    · exact .refused
  | commit =>
    simp only [step, commit]
    split
    · exact .refused
    rename_i owner outcome held
    split
    next same =>
      subst same
      exact .committed owner outcome held
    next => exact .refused
  | rollback call =>
    simp only [step, rollback]
    split
    · exact .refused
    · split
      · exact .rolledBack call
      · exact .refused
  | other inner =>
    simp only [step, other]
    split
    next free =>
      simp only [Bool.and_eq_true, Option.isNone_iff_eq_none, Bool.not_eq_true'] at free
      exact .foreign inner free.1 free.2
    next => exact .refused

variable {state : RaceState}

theorem Effect.staged_next {op : RaceOp} {next : RaceState}
    (effect : Effect loc calls requestId state op next) (inv : state.Staged loc calls) :
    next.Staged loc calls := by
  cases effect with
  | answered | lookedUp | refused => exact inv
  | staged call dupVisible outcome done =>
    intro other staged owned
    cases owned
    exact ⟨dupVisible, done⟩
  | committed | rolledBack =>
    intro call outcome owned
    cases owned
  | foreign inner free =>
    intro call outcome owned
    cases free.symm.trans owned

theorem ChargedOnce.step (sameId : ∀ call, (calls call).requestId = requestId)
    (state : RaceState) (op : RaceOp) (inv : state.ChargedOnce loc calls requestId) :
    (state.step loc calls requestId op).ChargedOnce loc calls requestId := by
  have effect := step_effect loc calls requestId state op
  generalize state.step loc calls requestId op = next at effect ⊢
  have staged := effect.staged_next inv.staged
  cases effect with
  | answered | lookedUp | staged | rolledBack => exact ⟨staged, inv.once, inv.recorded⟩
  | committed call outcome held =>
    obtain ⟨_, done⟩ := inv.staged call outcome held
    rcases lockAndInsert_record done with ⟨missing, record, recorded, -⟩ |
      ⟨uncharged, recordsEq, -⟩
    · rw [sameId] at missing recorded
      refine ⟨staged, ?_, ?_⟩
      · rw [inv.recorded missing]
        split <;> simp
      · intro absent
        rw [recorded] at absent
        cases absent
    · rw [if_pos uncharged]
      refine ⟨staged, inv.once, ?_⟩
      rw [recordsEq]
      exact inv.recorded
  | foreign inner free notOwn =>
    refine ⟨staged, inv.once, ?_⟩
    intro absent
    apply inv.recorded
    cases found : state.store.records.find? requestId with
    | none => rfl
    | some record =>
      obtain ⟨_, kept⟩ := (RecordKept.step loc state.store notOwn).kept record found
      rw [kept] at absent
      cases absent
  | refused => exact inv

theorem lookUpRecord_agrees {result : PreConsumeResult}
    (answered : lookUpRecord store requestId = some (.ok result)) :
    ∃ record, store.records.find? requestId = some record ∧ Agrees result record := by
  unfold lookUpRecord at answered
  split at answered
  · cases answered
  rename_i record found
  split at answered
  · cases answered
  split at answered
  · cases answered
  next sub subFound =>
    have named : sub.id = record.userSubscriptionId := Table.find?_key subFound
    cases answered
    exact ⟨record, found, named, rfl⟩

theorem answers_update {records : Table PreConsumeRecord.requestId}
    (answers : ∀ call result, state.phase call = .returned (.ok result) →
      ∃ record, records.find? requestId = some record ∧ Agrees result record) (call : Nat)
    (phase : CallPhase) (own : ∀ result, phase = .returned (.ok result) →
      ∃ record, records.find? requestId = some record ∧ Agrees result record) (other : Nat)
    (result : PreConsumeResult)
    (returned : Function.update state.phase call phase other = .returned (.ok result)) :
    ∃ record, records.find? requestId = some record ∧ Agrees result record := by
  by_cases same : other = call
  · subst same
    rw [Function.update_self] at returned
    exact own result returned
  · rw [Function.update_of_ne same] at returned
    exact answers other result returned

theorem Agreed.step (sameId : ∀ call, (calls call).requestId = requestId)
    (state : RaceState) (op : RaceOp) (inv : state.Agreed loc calls requestId)
    (own : state.StagesOwnRecord loc calls requestId op) :
    (state.step loc calls requestId op).Agreed loc calls requestId := by
  have effect := step_effect loc calls requestId state op
  generalize state.step loc calls requestId op = next at effect ⊢
  have staged := effect.staged_next inv.staged
  cases effect with
  | answered call result recorded =>
    refine ⟨staged, ?_, inv.chosen⟩
    apply answers_update inv.answers
    intro value equal
    apply lookUpRecord_agrees
    rw [← sameId call]
    apply recorded
    simpa using equal
  | lookedUp call =>
    exact ⟨staged, answers_update inv.answers call .lookedUp (by simp), inv.chosen⟩
  | staged call dupVisible outcome done =>
    refine ⟨staged, answers_update inv.answers call .staged (by simp), ?_⟩
    intro other staged record owned recorded
    cases owned
    obtain ⟨sub, admits, subId⟩ := Option.map_eq_some_iff.mp (lockAndInsert_ok done).2
    rw [← subId]
    exact own record sub recorded admits
  | committed call outcome held =>
    obtain ⟨_, done⟩ := inv.staged call outcome held
    refine ⟨staged, ?_, fun _ _ _ owned => by cases owned⟩
    rcases lockAndInsert_record done with ⟨missing, record, recorded, agrees⟩ |
      ⟨-, recordsEq, record, recorded, amount⟩
    · rw [sameId] at missing recorded
      apply answers_update
      · intro other result returned
        obtain ⟨_, found, -⟩ := inv.answers other result returned
        rw [missing] at found
        cases found
      · intro result equal
        cases equal
        exact ⟨record, recorded, agrees⟩
    · rw [sameId] at recorded
      rw [recordsEq]
      apply answers_update inv.answers
      intro result equal
      cases equal
      exact ⟨record, recorded, inv.chosen call outcome record held recorded, amount⟩
  | rolledBack call =>
    exact ⟨staged, answers_update inv.answers call _ (by simp),
      fun _ _ _ owned => by cases owned⟩
  | foreign inner free notOwn =>
    refine ⟨staged, ?_, ?_⟩
    · intro call result returned
      obtain ⟨record, found, agrees⟩ := inv.answers call result returned
      obtain ⟨_, kept⟩ := (RecordKept.step loc state.store notOwn).kept record found
      exact ⟨_, kept, agrees.subscription, agrees.amount⟩
    · intro call outcome record owned
      rw [free] at owned
      cases owned
  | refused => exact inv

end RaceState

/-! ## Whole runs -/

/-- A user with two subscriptions; the one that ends first has room for one call. -/
def raceStart : Store where
  plans := .single { id := 1 }
  subs := (Serial.empty.create
    (fun id => { id := id, userId := 7, planId := 1, amountTotal := 10,
                 startTime := 0, endTime := 1000 }) (fun _ => rfl)).create
    (fun id => { id := id, userId := 7, planId := 1, amountTotal := 100,
                 startTime := 0, endTime := 2000 }) (fun _ => rfl)

/-- The same call, any number of times. -/
def raceCalls (amount : Int) : Nat → PreConsumeCall := fun _ =>
  { requestId := "r", userId := 7, amount, now := 5 }

/-- Two calls look the record up before either inserts it. -/
def raceOps : List RaceOp :=
  [.lookUp 0, .lookUp 1, .stage 0 true, .commit 0, .stage 1 true, .commit 1]

end StuHelper.Subscription

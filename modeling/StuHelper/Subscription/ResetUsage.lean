import StuHelper.Subscription.QuotaSteps

/-!
# Usage across quota resets

The used amount of a row belongs to the current period, but a refund or a negative
settlement is applied to whatever period is current.  To say what is lost, a ledger
beside the store follows every request: what it was charged, and whether the period
has started over since its admission.

A request is admitted by a pre-consume and then either settles or is refunded.
-/

namespace StuHelper.Subscription

open Lib Table

/-! ## The ledger of requests -/

inductive RequestPhase where
  | admitted | settled | refunded
  deriving DecidableEq, Repr

/-- What the ledger knows about a request.  `sinceReset` holds until the period of its
subscription starts over. -/
structure UsageEntry where
  requestId : String
  userSubscriptionId : Int
  preConsumed : Int
  charge : Int
  phase : RequestPhase := .admitted
  sinceReset : Bool := true
  deriving DecidableEq, Repr

open UsageEntry

namespace UsageEntry

/-- The entry after the periods of these subscriptions have started over. -/
def age (resets : List Int) (entry : UsageEntry) : UsageEntry :=
  if entry.userSubscriptionId ∈ resets then { entry with sinceReset := false }
  else entry

def settle (entry : UsageEntry) (delta : Int) : UsageEntry :=
  { entry with charge := entry.charge + delta, phase := .settled }

def refund (entry : UsageEntry) : UsageEntry := { entry with phase := .refunded }

/-- What the request contributes to the current period of a subscription. -/
def currentCharge (userSubscriptionId : Int) (entry : UsageEntry) : Int :=
  if entry.userSubscriptionId = userSubscriptionId ∧ entry.sinceReset ∧
      entry.phase ≠ .refunded then entry.charge
  else 0

end UsageEntry

/-- The store with the ledger of the requests made so far. -/
structure UsageState where
  store : Store
  ledger : Table requestId := empty

/-- Net charges of the requests that were admitted after the last reset of a
subscription and have not been refunded. -/
def currentCharges (ledger : Table requestId) (userSubscriptionId : Int) : Int :=
  (ledger.rows.map (currentCharge userSubscriptionId)).sum

/-- The calls made for requests, and the resets of the maintenance task. -/
inductive UsageOp where
  | preConsume (call : PreConsumeCall)
  | settle (requestId : String) (delta : Int)
  | refund (requestId : String)
  | resetDue (userSubscriptionId planId now : Int)
  deriving DecidableEq, Repr

namespace UsageState

/-- Forget the current period of these subscriptions. -/
def aged (ledger : Table requestId) (resets : List Int) : Table requestId :=
  ledger.update (age resets) (by
    intro entry
    unfold age
    split <;> rfl)

def enter (ledger : Table requestId) (call : PreConsumeCall)
    (userSubscriptionId : Int) : Table requestId :=
  (ledger.insert?
    { requestId := call.requestId
      userSubscriptionId := userSubscriptionId
      preConsumed := call.amount
      charge := call.amount }).getD ledger

/-- A pre-consume, which rolls periods over and may admit a request. -/
def preConsume (loc : Location) (state : UsageState) (call : PreConsumeCall) : UsageState :=
  match preConsumeUserSubscription loc state.store call with
  | .error _ => state
  | .ok outcome =>
    let ledger := aged state.ledger outcome.resets
    if state.store.records.find? call.requestId = none then
      { store := outcome.store
        ledger := enter ledger call outcome.result.userSubscriptionId }
    else { store := outcome.store, ledger := ledger }

def settle (state : UsageState) (requestId : String) (delta : Int) : UsageState :=
  match state.ledger.find? requestId with
  | none => state
  | some entry =>
    if entry.phase = .refunded then state
    else
      match settleUserSubscriptionDelta state.store entry.userSubscriptionId
          delta with
      | .error _ => state
      | .ok store =>
        { store := store
          ledger := state.ledger.save (entry.settle delta) }

def refund (state : UsageState) (requestId : String) : UsageState :=
  match state.ledger.find? requestId with
  | none => state
  | some entry =>
    if entry.phase ≠ .admitted then state
    else
      match refundSubscriptionPreConsume state.store requestId with
      | .error _ => state
      | .ok store =>
        { store := store
          ledger := state.ledger.save entry.refund }

/-- The reset of one due row by the maintenance task. -/
def resetDue (loc : Location) (state : UsageState) (id planId now : Int) : UsageState :=
  match state.store.getSubscriptionPlanById planId, state.store.subs.find? id with
  | .ok plan, some row =>
    match resetDueRow loc state.store id plan now with
    | .error _ => state
    | .ok (store, counted) =>
      { store := store
        ledger := aged state.ledger
          (if counted && row.rollsOver loc plan now then [id] else []) }
  | _, _ => state

def step (loc : Location) (state : UsageState) : UsageOp → UsageState
  | .preConsume call => state.preConsume loc call
  | .settle requestId delta => state.settle requestId delta
  | .refund requestId => state.refund requestId
  | .resetDue id planId now => state.resetDue loc id planId now

/-- The request was admitted in the current period of its subscription. -/
def admittedSinceReset (state : UsageState) (requestId : String) : Prop :=
  ∀ entry, state.ledger.find? requestId = some entry → entry.sinceReset = true

/-- No amount is taken off a period for a request of an earlier one. -/
def TakesOffOwnPeriod (state : UsageState) : UsageOp → Prop
  | .settle requestId delta => delta < 0 → state.admittedSinceReset requestId
  | .refund requestId => state.admittedSinceReset requestId
  | _ => True

/-! ## How the charges move -/

variable {ledger : Table requestId} {call : PreConsumeCall}

/-- A period that starts over has no charges, and the others keep theirs. -/
theorem currentCharges_aged (resets : List Int) (id : Int) :
    currentCharges (aged ledger resets) id =
      if id ∈ resets then 0 else currentCharges ledger id := by
  have each : ∀ entry : UsageEntry, (entry.age resets).currentCharge id =
      if id ∈ resets then 0 else entry.currentCharge id := by
    intro entry
    unfold age currentCharge
    by_cases own : entry.userSubscriptionId = id
    · subst own
      by_cases listed : entry.userSubscriptionId ∈ resets <;> simp [listed]
    · by_cases listed : entry.userSubscriptionId ∈ resets <;> simp [listed, own]
  simp only [currentCharges, aged, update, List.map_map, Function.comp_def, each]
  split <;> simp

theorem currentCharges_enter {subscription : Int} (fresh : ledger.find? call.requestId = none)
    (id : Int) :
    currentCharges (enter ledger call subscription) id =
      currentCharges ledger id + if subscription = id then call.amount else 0 := by
  unfold enter
  cases inserted : ledger.insert?
      { requestId := call.requestId, userSubscriptionId := subscription,
        preConsumed := call.amount, charge := call.amount } with
  | none =>
    have taken := insert?_eq_none.mp inserted
    simp [fresh] at taken
  | some =>
    rw [Option.getD_some, currentCharges, (insert?_some inserted).2]
    simp [currentCharges, currentCharge]

variable {old : UsageEntry} {records : Table PreConsumeRecord.requestId}

/-- Replacing an entry moves the charges by the difference of the two entries. -/
theorem currentCharges_save {entry : UsageEntry} {requestId : String}
    (found : ledger.find? requestId = some old) (same : old.requestId = entry.requestId)
    (id : Int) :
    currentCharges (ledger.save entry) id =
      currentCharges ledger id - old.currentCharge id + entry.currentCharge id := by
  have moved := sum_save (find?_mem found) same
    (currentCharge id)
  unfold currentCharges
  omega

/-! ## The invariant -/

/-- An entry agrees with the record of its request. -/
structure Linked (entry : UsageEntry) (record : PreConsumeRecord) : Prop where
  subscription : record.userSubscriptionId = entry.userSubscriptionId
  amount : record.preConsumed = entry.preConsumed
  positive : 0 < entry.preConsumed
  admitted : entry.phase = .admitted → entry.charge = entry.preConsumed ∧ record.status = .consumed

/-- The used amount of every row covers the charges of its current period. -/
structure Covered (state : UsageState) : Prop where
  linked : ∀ requestId entry, state.ledger.find? requestId = some entry →
    ∃ record, state.store.records.find? requestId = some record ∧ Linked entry record
  covered : ∀ id sub, state.store.subs.find? id = some sub →
    currentCharges state.ledger id ≤ sub.amountUsed

abbrev AllLinked (ledger : Table requestId)
    (records : Table PreConsumeRecord.requestId) : Prop :=
  ∀ requestId entry, ledger.find? requestId = some entry →
    ∃ record, records.find? requestId = some record ∧ Linked entry record

/-- Ageing changes nothing that a record knows. -/
theorem linked_aged (linked : AllLinked ledger records) (resets : List Int) :
    AllLinked (aged ledger resets) records := by
  intro requestId entry found
  rw [aged, find?_update, Option.map_eq_some_iff] at found
  obtain ⟨old, oldFound, rfl⟩ := found
  obtain ⟨record, recorded, link⟩ := linked requestId old oldFound
  refine ⟨record, recorded, ?_⟩
  unfold age
  split
  · exact { link with }
  · exact link

theorem linked_save {records' : Table PreConsumeRecord.requestId}
    (linked : AllLinked ledger records) {requestId : String}
    {record : PreConsumeRecord} (entry : UsageEntry) (found : ledger.find? requestId = some old)
    (same : entry.requestId = old.requestId) (recorded : records'.find? requestId = some record)
    (link : Linked entry record)
    (elsewhere : ∀ other, other ≠ requestId → records'.find? other = records.find? other) :
    AllLinked (ledger.save entry) records' := by
  intro other row rowFound
  have entryKey : entry.requestId = requestId := same.trans (find?_key found)
  have rowKey := find?_key rowFound
  rcases mem_save.mp (find?_mem rowFound) with
    ⟨rfl, -⟩ | ⟨member, different⟩
  · rw [← rowKey, entryKey]
    exact ⟨record, recorded, link⟩
  · rw [rowKey, entryKey] at different
    rw [elsewhere other different]
    exact linked other row (find?_eq_some.mpr ⟨member, rowKey⟩)

namespace Covered

variable {state : UsageState} {requestId : String}

section Kept

variable (inv : state.Covered) {sub : UserSubscription}

include inv

theorem rolled {next : Store} {resets : List Int} (rolled : Rolled state.store next resets) :
    Covered { store := next, ledger := aged state.ledger resets } where
  linked := by
    intro requestId entry found
    rw [rolled.records]
    exact linked_aged inv.linked resets requestId entry found
  covered := by
    intro id sub found
    rw [currentCharges_aged]
    cases before : state.store.subs.find? id with
    | none =>
      rw [rolled.absent id before] at found
      cases found
    | some old =>
      obtain ⟨_, _, after⟩ := rolled.row id old before
      cases after.symm.trans found
      rw [UserSubscription.withPeriod_amountUsed]
      have usedBefore := inv.covered id old before
      split <;> omega

theorem fresh (missing : state.store.records.find? requestId = none) :
    state.ledger.find? requestId = none := by
  cases found : state.ledger.find? requestId with
  | none => rfl
  | some entry =>
    obtain ⟨_, recorded, -⟩ := inv.linked requestId entry found
    rw [missing] at recorded
    cases recorded

theorem charge
    (positive : 0 < call.amount)
    (found : state.store.subs.find? sub.id = some sub) (inserted : state.store.records.insert?
      { requestId := call.requestId, userId := call.userId,
        userSubscriptionId := sub.id, preConsumed := call.amount } = some records) :
    Covered
      { store := { state.store with records := records }.saveSub
          (sub.withUsed (sub.amountUsed + call.amount))
        ledger := enter state.ledger call sub.id } := by
  have missing := inv.fresh (insert?_some inserted).1
  constructor
  · intro requestId entry entryFound
    cases entered : state.ledger.insert?
        { requestId := call.requestId, userSubscriptionId := sub.id,
          preConsumed := call.amount, charge := call.amount } with
    | none =>
      have taken := insert?_eq_none.mp entered
      simp [missing] at taken
    | some next =>
      simp only [enter, entered, Option.getD_some] at entryFound
      rw [find?_insert entered] at entryFound
      change ∃ record, records.find? requestId = some record ∧ _
      rw [find?_insert inserted]
      split at entryFound
      next same =>
        cases entryFound
        rw [if_pos same]
        exact ⟨_, rfl, rfl, rfl, positive, fun _ => ⟨rfl, rfl⟩⟩
      next different =>
        rw [if_neg different]
        exact inv.linked requestId entry entryFound
  · intro id row rowFound
    rw [currentCharges_enter missing]
    have after := (Store.find?_saveUsed { state.store with records := records } found
      (sub.amountUsed + call.amount) id).symm.trans rowFound
    split at after
    next own =>
      subst own
      cases after
      have usedBefore := inv.covered sub.id sub found
      rw [if_pos rfl, UserSubscription.withUsed_amountUsed]
      omega
    next other =>
      have usedBefore := inv.covered id row after
      omega

theorem preConsume (loc : Location) (call : PreConsumeCall) :
    (state.preConsume loc call).Covered := by
  unfold UsageState.preConsume
  split
  · exact inv
  rename_i outcome done
  obtain ⟨checked, ⟨storeEq, resetsEq, answered⟩ | ⟨missing, ⟨admission⟩⟩⟩ := preConsume_ok done
  · have present : state.store.records.find? call.requestId ≠ none := by
      intro missing
      simp [lookUpRecord, missing] at answered
    rw [if_neg present, storeEq, resetsEq]
    exact inv.rolled (Rolled.refl state.store)
  · rw [if_pos missing]
    have middle := inv.rolled admission.rolled
    obtain ⟨-, chosen, ⟨-, -, _, inserted, storeEq⟩ | ⟨_, found, -⟩⟩ :=
      chargeCandidate_ok admission.charged
    · rw [storeEq, chosen]
      exact middle.charge (checked_call checked).2.2 admission.found inserted
    · rw [admission.rolled.records, missing] at found
      cases found

/-- Changing one row and one entry: the row has to move at least as much as the
contribution of the entry to its period. -/
theorem amend (records : Table PreConsumeRecord.requestId) (entry : UsageEntry) (used : Int)
    (subFound : state.store.subs.find? old.userSubscriptionId = some sub)
    (entryFound : state.ledger.find? requestId = some old)
    (sameRequest : entry.requestId = old.requestId)
    (sameSub : entry.userSubscriptionId = old.userSubscriptionId)
    (linked : AllLinked (state.ledger.save entry) records)
    (enough : sub.amountUsed - old.currentCharge sub.id + entry.currentCharge sub.id ≤ used) :
    Covered
      { store := { state.store with records := records }.saveSub (sub.withUsed used)
        ledger := state.ledger.save entry } where
  linked := linked
  covered := by
    intro id row rowFound
    have sameId : sub.id = old.userSubscriptionId := find?_key subFound
    rw [currentCharges_save entryFound sameRequest.symm]
    rw [← sameId] at subFound
    have after := (Store.find?_saveUsed { state.store with records := records }
      subFound used id).symm.trans rowFound
    split at after
    next own =>
      subst own
      cases after
      have usedBefore := inv.covered sub.id sub subFound
      rw [UserSubscription.withUsed_amountUsed]
      omega
    rename_i other
    have usedBefore := inv.covered id row after
    have oldZero : old.currentCharge id = 0 := by simp [currentCharge, ← sameId, Ne.symm other]
    have newZero : entry.currentCharge id = 0 := by
      simp [currentCharge, sameSub, ← sameId, Ne.symm other]
    omega

theorem settle {delta : Int} (own : delta < 0 → state.admittedSinceReset requestId) :
    (state.settle requestId delta).Covered := by
  unfold UsageState.settle
  split
  · exact inv
  rename_i entry entryFound
  split
  · exact inv
  rename_i open_
  split
  · exact inv
  rename_i store done
  obtain ⟨_, recorded, link⟩ := inv.linked requestId entry entryFound
  have linked := linked_save inv.linked (entry.settle delta) entryFound rfl recorded
    { link with admitted := fun admitted => by cases admitted } (fun _ _ => rfl)
  rcases postConsumeDeltaTx_ok done with ⟨zero, rfl⟩ | ⟨sub, subFound, rfl⟩
  · refine ⟨linked, ?_⟩
    intro id row rowFound
    have moved := currentCharges_save entryFound
      (show entry.requestId = (entry.settle delta).requestId from rfl) id
    have usedBefore := inv.covered id row rowFound
    have unchanged : (entry.settle delta).currentCharge id = entry.currentCharge id := by
      simp [currentCharge, UsageEntry.settle, open_, zero]
    simp only
    omega
  · apply inv.amend state.store.records (entry.settle delta) _ subFound
      entryFound rfl rfl linked
    have sameId : sub.id = entry.userSubscriptionId := find?_key subFound
    by_cases negative : delta < 0
    · have since := own negative entry entryFound
      simp only [currentCharge, UsageEntry.settle, sameId, since, open_, ne_eq,
        not_false_eq_true, and_self, if_true, reduceCtorEq]
      omega
    · cases since : entry.sinceReset <;>
        simp only [currentCharge, UsageEntry.settle, sameId, since, open_, ne_eq,
          not_false_eq_true, and_self, if_true, reduceCtorEq,
          Bool.false_eq_true, false_and, and_false, if_false] <;>
        omega

theorem refund (own : state.admittedSinceReset requestId) :
    (state.refund requestId).Covered := by
  unfold UsageState.refund
  split
  · exact inv
  rename_i entry entryFound
  split
  · exact inv
  rename_i admitted
  rw [not_not] at admitted
  split
  · exact inv
  rename_i store done
  obtain ⟨record, recorded, link⟩ := inv.linked requestId entry entryFound
  obtain ⟨charge, consumed⟩ := link.admitted admitted
  have positive := link.positive
  have since := own entry entryFound
  obtain ⟨other, otherFound, branches⟩ := refund_ok done
  cases recorded.symm.trans otherFound
  rcases branches with
    ⟨refunded, -⟩ | ⟨-, empty, -⟩ | ⟨-, -, sub, subFound, rfl⟩
  · rw [consumed] at refunded
    cases refunded
  · rw [link.amount] at empty
    omega
  · rw [link.subscription] at subFound
    have sameId : sub.id = entry.userSubscriptionId := find?_key subFound
    have sameRequest : record.requestId = requestId := find?_key recorded
    have marked : (state.store.records.save record.markRefunded).find? requestId =
        some record.markRefunded := find?_save recorded rfl
    have linked := linked_save inv.linked entry.refund entryFound rfl marked
      { link with admitted := fun admitted => by cases admitted }
      (fun other different => find?_save_other state.store.records
        record.markRefunded (sameRequest ▸ different))
    apply inv.amend (state.store.records.save record.markRefunded) entry.refund _
      subFound entryFound rfl rfl linked
    simp only [currentCharge, UsageEntry.refund, sameId, since, admitted,
      ne_eq, reduceCtorEq, not_false_eq_true, and_self, if_true, not_true_eq_false,
      and_false, if_false, charge, link.amount]
    omega

theorem resetDue (loc : Location) (id planId now : Int) :
    (state.resetDue loc id planId now).Covered := by
  unfold UsageState.resetDue
  split
  next plan row _ found =>
    split
    · exact inv
    rename_i store counted done
    rcases resetDueRow_ok done with
      ⟨rfl, rfl⟩ | ⟨locked, sub, lockedFound, rfl, -, -, reset, rfl⟩
    · exact inv.rolled (Rolled.refl state.store)
    · cases found.symm.trans lockedFound
      obtain rfl := find?_key found
      obtain ⟨_, _, subEq⟩ := maybeReset_ok reset
      have sameId : sub.id = row.id := by rw [subEq]; rfl
      have rolled := (Rolled.refl state.store).reset found reset
      rw [sameId] at rolled
      simpa using inv.rolled rolled
  · exact inv

end Kept

theorem step (loc : Location) (state : UsageState) (op : UsageOp)
    (inv : state.Covered) (own : state.TakesOffOwnPeriod op) : (state.step loc op).Covered := by
  cases op with
  | preConsume call => exact inv.preConsume loc call
  | settle => exact inv.settle own
  | refund => exact inv.refund own
  | resetDue id planId now => exact inv.resetDue loc id planId now

end Covered

end UsageState

/-! ## Whole runs -/

/-- In every run in which refunds and negative settlements are made in the period that
admitted the request, the used amount of every subscription covers the net charges of
the requests admitted after its last reset and not refunded. -/
theorem usage_kept_across_resets (loc : Location) (initial : Store)
    (nonneg : ∀ sub ∈ initial.subs.rows, 0 ≤ sub.amountUsed) (ops : List UsageOp)
    (own : Along UsageState.TakesOffOwnPeriod (UsageState.step loc)
      { store := initial } ops) :
    ∀ sub ∈ (run (UsageState.step loc) { store := initial } ops).store.subs.rows,
      currentCharges (run (UsageState.step loc) { store := initial } ops).ledger sub.id ≤
        sub.amountUsed := by
  have initially : UsageState.Covered { store := initial } := by
    constructor
    · intro requestId entry found
      have member := Table.find?_mem found
      simp [Table.empty] at member
    · intro id sub found
      simpa [currentCharges, Table.empty] using nonneg sub (Table.find?_mem found)
  have covered := run_invariant (UsageState.Covered.step loc) initially own
  intro sub member
  exact covered.covered sub.id sub (Table.find?_of_mem member)

/-- An unlimited subscription whose quota starts over every day. -/
def dailyStart : Store where
  plans := .single { id := 1, quotaResetPeriod := "daily" }
  subs := Serial.empty.create
    (fun id => { id := id, userId := 7, planId := 1, startTime := 1,
                 endTime := 1000000, nextResetTime := 86400 }) (fun _ => rfl)

/-- One request on the first day and one on the second. -/
def dailyRequests : List UsageOp :=
  [.preConsume { requestId := "a", userId := 7, amount := 10, now := 100 },
   .preConsume { requestId := "b", userId := 7, amount := 7, now := 90000 }]

/-- The late refund of the first request erases the usage of the second. -/
theorem late_refund_erases_usage :
    dailyStart.records.rows = [] ∧ (∀ sub ∈ dailyStart.subs.rows, 0 ≤ sub.amountUsed) ∧
      ((run (UsageState.step ⟨0⟩) { store := dailyStart }
        (dailyRequests ++ [.refund "a"])).store.subs.find? 1).map
          UserSubscription.amountUsed = some 0 ∧
      currentCharges (run (UsageState.step ⟨0⟩) { store := dailyStart }
        (dailyRequests ++ [.refund "a"])).ledger 1 = 7 := by
  decide +kernel

/-- The refund of the second request is made in its own period. -/
theorem usage_kept_by_timely_refund :
    (run (UsageState.step ⟨0⟩) { store := dailyStart }
        (dailyRequests ++ [.refund "b"])).store.subs.rows.Forall fun sub =>
      currentCharges (run (UsageState.step ⟨0⟩) { store := dailyStart }
        (dailyRequests ++ [.refund "b"])).ledger sub.id ≤ sub.amountUsed := by
  refine List.forall_iff_forall_mem.mpr (usage_kept_across_resets ⟨0⟩ dailyStart (by decide) _ ?_)
  refine ⟨trivial, trivial, ?_, trivial⟩
  intro entry found
  have entered : (run (UsageState.step ⟨0⟩) { store := dailyStart }
      dailyRequests).ledger.find? "b" = some
        { requestId := "b", userSubscriptionId := 1, preConsumed := 7, charge := 7 } := by
    decide +kernel
  cases entered.symm.trans found
  rfl

end StuHelper.Subscription

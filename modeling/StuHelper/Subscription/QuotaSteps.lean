import StuHelper.Subscription.Quota

/-!
# What the quota transactions can do

One inversion lemma for each transaction of the quota side.  The invariants of the
later modules are derived from these and do not unfold the transactions again.

A pre-consume may roll over the periods of the candidates that it inspects before it
charges one of them.  `Rolled` describes that part: only the used amounts of the
listed subscriptions and the two reset stamps have moved.
-/

namespace StuHelper.Subscription

variable {loc : Location} {call : PreConsumeCall} {outcome : PreConsumeOutcome} {store next : Store}
  {dupVisible : Bool} {plan : SubscriptionPlan} {resets : List Int}

open Lib List

/-! ## Saving a subscription row -/

namespace Store

variable (store : Store) (sub : UserSubscription) {old : UserSubscription} {id : Int}

theorem find?_saveSub_same (found : store.subs.find? sub.id = some old) :
    (store.saveSub sub).subs.find? sub.id = some sub :=
  Table.find?_save found (Table.find?_key found).symm

theorem find?_saveSub_other (different : id ≠ sub.id) :
    (store.saveSub sub).subs.find? id = store.subs.find? id :=
  Table.find?_save_other store.subs.toTable sub different

variable {sub}

/-- Lookups after the used amount of a present row was changed. -/
theorem find?_saveUsed (found : store.subs.find? sub.id = some sub) (used id : Int) :
    (store.saveSub (sub.withUsed used)).subs.find? id =
      if id = sub.id then some (sub.withUsed used) else store.subs.find? id := by
  by_cases same : id = sub.id
  · subst same
    rw [if_pos rfl]
    exact find?_saveSub_same store (sub.withUsed used) found
  · rw [if_neg same]
    exact find?_saveSub_other store (sub.withUsed used) same

variable {store}

theorem find?_saveUsed_same (found : store.subs.find? id = some sub) (used : Int) :
    (store.saveSub (sub.withUsed used)).subs.find? id = some (sub.withUsed used) :=
  Table.find?_save found rfl

end Store

/-! ## Rolled over periods -/

/-- Nothing but quota periods has moved, and the used amounts of exactly the
subscriptions in `resets` were emptied. -/
structure Rolled (before after : Store) (resets : List Int) : Prop where
  users : after.users = before.users
  plans : after.plans = before.plans
  records : after.records = before.records
  orders : after.orders = before.orders
  topUps : after.topUps = before.topUps
  audits : after.audits = before.audits
  absent : ∀ id, before.subs.find? id = none → after.subs.find? id = none
  row : ∀ id sub, before.subs.find? id = some sub →
    ∃ lastReset nextReset, after.subs.find? id = some (sub.withPeriod
      (if id ∈ resets then 0 else sub.amountUsed) lastReset nextReset)

namespace Rolled

theorem refl (store : Store) : Rolled store store [] where
  users := rfl
  plans := rfl
  records := rfl
  orders := rfl
  topUps := rfl
  audits := rfl
  absent := fun _ missing => missing
  row := fun _ sub found => ⟨sub.lastResetTime, sub.nextResetTime, by simpa using found⟩

/-- Resetting one more row of the later store. -/
theorem reset {before after : Store} {now : Int} {candidate sub : UserSubscription}
    (rolled : Rolled before after resets) (found : after.subs.find? candidate.id = some candidate)
    (done : maybeResetUserSubscriptionWithPlan loc candidate plan now = .ok sub) :
    Rolled before (after.saveSub sub)
      (if candidate.rollsOver loc plan now then sub.id :: resets else resets) := by
  obtain ⟨lastReset, nextReset, rfl⟩ := maybeReset_ok done
  refine { rolled with absent := ?_, row := ?_ }
  · intro id missing
    have missingAfter := rolled.absent id missing
    have different : id ≠ candidate.id := by
      intro same
      rw [same, found] at missingAfter
      cases missingAfter
    rw [Store.find?_saveSub_other after _ (by simpa using different), missingAfter]
  · intro id old oldFound
    obtain ⟨last, next, oldAfter⟩ := rolled.row id old oldFound
    by_cases same : id = candidate.id
    · subst same
      -- The candidate is the row that the earlier resets have left.
      rw [found, Option.some.injEq] at oldAfter
      refine ⟨lastReset, nextReset, ?_⟩
      have saved := Store.find?_saveSub_same after (candidate.withPeriod
        (if candidate.rollsOver loc plan now then 0 else candidate.amountUsed)
        lastReset nextReset) found
      have rebased := congrArg
        (fun sub => UserSubscription.withPeriod sub
          (if candidate.rollsOver loc plan now then 0 else candidate.amountUsed)
          lastReset nextReset) oldAfter
      have used := congrArg UserSubscription.amountUsed oldAfter
      rw [UserSubscription.withPeriod_id, rebased, used] at saved
      have sameId : old.id = candidate.id := Table.find?_key oldFound
      rw [rebased, used, saved]
      cases candidate.rollsOver loc plan now <;> simp [sameId]
    · refine ⟨last, next, ?_⟩
      rw [Store.find?_saveSub_other after _ (by simpa using same), oldAfter]
      cases candidate.rollsOver loc plan now <;> simp [same]

end Rolled

/-! ## Pre-consume -/

theorem chargeCandidate_ok {sub : UserSubscription}
    (charged : chargeCandidate call dupVisible sub store resets = .ok outcome) :
    outcome.resets = resets ∧ outcome.result.userSubscriptionId = sub.id ∧
      ((outcome.result.preConsumed = call.amount ∧
        outcome.result.amountUsedAfter - outcome.result.amountUsedBefore = call.amount ∧ ∃ records,
          store.records.insert?
            { requestId := call.requestId, userId := call.userId,
              userSubscriptionId := sub.id, preConsumed := call.amount } = some records ∧
          outcome.store = { store with records := records }.saveSub
            (sub.withUsed (sub.amountUsed + call.amount))) ∨
      (∃ dup, store.records.find? call.requestId = some dup ∧
        dup.status = .consumed ∧ outcome.result.preConsumed = dup.preConsumed ∧
        outcome.result.amountUsedAfter - outcome.result.amountUsedBefore = 0 ∧
        outcome.store = store)) := by
  unfold chargeCandidate at charged
  simp only at charged
  split at charged
  next records inserted =>
    cases charged
    exact ⟨rfl, rfl, .inl ⟨rfl, by simp, records, inserted, rfl⟩⟩
  split at charged
  · cases charged
  rename_i dup found
  simp only [check_ok] at charged
  obtain ⟨-, notRefunded, charged⟩ := charged
  cases charged
  have consumed : dup.status = .consumed := by
    cases status : dup.status with
    | consumed => rfl
    | refunded => exact absurd status notRefunded
  exact ⟨rfl, rfl, .inr ⟨dup, found, consumed, rfl, by simp, rfl⟩⟩

/-- The walk of a committed pre-consume: the periods that were rolled over, and the
candidate that had room in the store left by them. -/
structure Admission (loc : Location) (call : PreConsumeCall) (dupVisible : Bool) (before : Store)
    (outcome : PreConsumeOutcome) where
  middle : Store
  sub : UserSubscription
  reset : ∃ candidate plan, before.subs.find? sub.id = some candidate ∧
    before.getSubscriptionPlanById candidate.planId = .ok plan ∧
    maybeResetUserSubscriptionWithPlan loc candidate plan call.now = .ok sub
  rolled : Rolled before middle outcome.resets
  found : middle.subs.find? sub.id = some sub
  owner : sub.userId = call.userId
  room : sub.admits call.amount = true
  charged : chargeCandidate call dupVisible sub middle outcome.resets = .ok outcome

/-- The candidate passes every test of the loop. -/
def admitting (loc : Location) (store : Store) (call : PreConsumeCall)
    (candidate : UserSubscription) : Bool :=
  match store.getSubscriptionPlanById candidate.planId with
  | .error _ => false
  | .ok plan =>
    !plan.refusesModel (Text.trimSpace call.modelName) &&
      match maybeResetUserSubscriptionWithPlan loc candidate plan call.now with
      | .error _ => false
      | .ok sub => sub.admits call.amount

def Store.firstAdmitting (loc : Location) (store : Store) (call : PreConsumeCall) :
    Option UserSubscription :=
  (store.candidates call.userId call.now).find? (admitting loc store call)

/-- The walk over the candidates ends at the first one that passes the tests. -/
theorem tryCandidates_ok {before : Store} (candidates : List UserSubscription)
    (anyPlanAllowsModel : Bool) (store : Store) (resets : List Int)
    (rolled : Rolled before store resets)
    (read : ∀ candidate ∈ candidates, before.subs.find? candidate.id = some candidate)
    (current : ∀ candidate ∈ candidates, store.subs.find? candidate.id = some candidate)
    (distinct : (candidates.map UserSubscription.id).Nodup)
    (owners : ∀ candidate ∈ candidates, candidate.userId = call.userId)
    (done : tryCandidates loc call dupVisible candidates anyPlanAllowsModel store
      resets = .ok outcome) :
    Nonempty (Admission loc call dupVisible before outcome) ∧
      (candidates.find? (admitting loc before call)).map UserSubscription.id =
        some outcome.result.userSubscriptionId := by
  induction candidates generalizing anyPlanAllowsModel store resets with
  | nil =>
    simp only [tryCandidates] at done
    split at done <;> cases done
  | cons candidate rest ih =>
    rw [map_cons, nodup_cons] at distinct
    have restOwners : ∀ other ∈ rest, other.userId = call.userId :=
      fun other member => owners other (mem_cons_of_mem _ member)
    have restRead : ∀ other ∈ rest, before.subs.find? other.id = some other :=
      fun other member => read other (mem_cons_of_mem _ member)
    have planEq : store.getSubscriptionPlanById candidate.planId =
        before.getSubscriptionPlanById candidate.planId := by
      simp only [Store.getSubscriptionPlanById, rolled.plans]
    simp only [tryCandidates, planEq] at done
    split at done
    · cases done
    rename_i plan planned
    split at done
    next refused =>
      have fails : ¬ admitting loc before call candidate = true := by
        simp [admitting, planned, refused]
      rw [find?_cons_of_neg fails]
      exact ih _ _ _ rolled restRead
        (fun other member => current other (mem_cons_of_mem _ member))
        distinct.2 restOwners done
    rename_i allowed
    split at done
    · cases done
    rename_i sub reset
    have here := current candidate (mem_cons_self ..)
    have rolledOn := rolled.reset here reset
    obtain ⟨_, _, subEq⟩ := maybeReset_ok reset
    have sameId : sub.id = candidate.id := by rw [subEq]; rfl
    split at done
    next room =>
      have passes : admitting loc before call candidate = true := by
        simp [admitting, planned, allowed, reset, room]
      obtain ⟨resetsEq, named, -⟩ := chargeCandidate_ok done
      rw [find?_cons_of_pos passes, Option.map_some, named, sameId]
      have oldRow := read candidate (mem_cons_self ..)
      refine ⟨⟨⟨store.saveSub sub, sub, ⟨candidate, plan, sameId ▸ oldRow, planned, reset⟩,
        resetsEq ▸ rolledOn, ?_, ?_, room, resetsEq ▸ done⟩⟩, rfl⟩
      · exact Store.find?_saveSub_same store sub (sameId ▸ here)
      · rw [subEq]
        exact owners candidate (mem_cons_self ..)
    rename_i full
    have fails : ¬ admitting loc before call candidate = true := by
      simp [admitting, planned, reset, full]
    rw [find?_cons_of_neg fails]
    refine ih _ _ _ rolledOn restRead ?_ distinct.2 restOwners done
    intro other member
    rw [Store.find?_saveSub_other]
    · exact current other (mem_cons_of_mem _ member)
    · rw [sameId]
      intro same
      exact distinct.1 (mem_map.mpr ⟨other, member, same⟩)

theorem lockAndInsert_ok (done : lockAndInsert loc call dupVisible store = .ok outcome) :
    Nonempty (Admission loc call dupVisible store outcome) ∧
      (store.firstAdmitting loc call).map UserSubscription.id =
        some outcome.result.userSubscriptionId := by
  unfold lockAndInsert at done
  split at done
  · cases done
  have member : ∀ candidate ∈ store.candidates call.userId call.now,
      candidate ∈ store.subs.rows ∧ candidate.userId = call.userId := by
    intro candidate candidateMem
    obtain ⟨inRows, test⟩ := mem_select.mp candidateMem
    simp only [Bool.and_eq_true, decide_eq_true_eq] at test
    exact ⟨inRows, test.1⟩
  have read : ∀ candidate ∈ store.candidates call.userId call.now,
      store.subs.find? candidate.id = some candidate :=
    fun candidate candidateMem => Table.find?_of_mem (member _ candidateMem).1
  apply tryCandidates_ok _ _ _ _ (Rolled.refl store) read read _ _ done
  · exact select_keys_nodup store.subs.nodup
  · exact fun candidate candidateMem => (member _ candidateMem).2

/-- A whole pre-consume either answers from a record and changes nothing, or goes
through an admission. -/
theorem preConsume_ok (done : preConsumeUserSubscription loc store call = .ok outcome) :
    call.check = .ok () ∧
      ((outcome.store = store ∧ outcome.resets = [] ∧
          lookUpRecord store call.requestId = some (.ok outcome.result)) ∨
        (store.records.find? call.requestId = none ∧
          Nonempty (Admission loc call true store outcome))) := by
  unfold preConsumeUserSubscription at done
  split at done
  · cases done
  rename_i checked
  refine ⟨checked, ?_⟩
  split at done
  · cases done
  next result answered =>
    cases done
    exact .inl ⟨rfl, rfl, answered⟩
  rename_i missing
  refine .inr ⟨?_, (lockAndInsert_ok done).1⟩
  unfold lookUpRecord at missing
  split at missing
  · assumption
  · split at missing
    · cases missing
    · split at missing <;> cases missing

theorem checked_call (checked : call.check = .ok ()) :
    0 < call.userId ∧ Text.trimSpace call.requestId ≠ "" ∧ 0 < call.amount := by
  unfold PreConsumeCall.check at checked
  iterate 3
    split at checked
    · cases checked
  next positiveUser nonempty positive => exact ⟨by omega, nonempty, by omega⟩

/-! ## Deltas and refunds -/

/-- A delta on a present row: refused when the strict path would leave the row above
its total, and clamped at 0 otherwise. -/
theorem postConsumeDeltaTx_found {sub : UserSubscription} {delta : Int} (allowOverLimit : Bool)
    (found : store.subs.find? sub.id = some sub) (nonzero : delta ≠ 0) :
    postConsumeUserSubscriptionDeltaTx store sub.id delta allowOverLimit =
      if allowOverLimit = false ∧ 0 < sub.amountTotal ∧
          sub.amountTotal < max (sub.amountUsed + delta) 0 then
        .error (.usedExceedsTotal (max (sub.amountUsed + delta) 0) sub.amountTotal)
      else .ok (store.saveSub (sub.withUsed (max (sub.amountUsed + delta) 0))) := by
  have positive := (store.subs.issued sub (Table.find?_mem found)).1
  have clamped : (if sub.amountUsed + delta < 0 then 0 else sub.amountUsed + delta) =
      max (sub.amountUsed + delta) 0 := by
    split <;> omega
  unfold postConsumeUserSubscriptionDeltaTx
  rw [if_neg (by omega), if_neg nonzero]
  simp only [found, clamped, gt_iff_lt, Bool.and_eq_true, Bool.not_eq_true',
    decide_eq_true_eq, and_assoc]

theorem postConsumeDeltaTx_ok {id delta : Int} {allowOverLimit : Bool}
    (done : postConsumeUserSubscriptionDeltaTx store id delta allowOverLimit = .ok next) :
    (delta = 0 ∧ next = store) ∨ ∃ sub, store.subs.find? id = some sub ∧
        next = store.saveSub (sub.withUsed (max (sub.amountUsed + delta) 0)) := by
  by_cases zero : delta = 0
  · unfold postConsumeUserSubscriptionDeltaTx at done
    split at done
    · cases done
    · cases done
      exact .inl ⟨zero, rfl⟩
  · right
    cases found : store.subs.find? id with
    | none =>
      simp only [postConsumeUserSubscriptionDeltaTx, found, zero, if_false] at done
      split at done <;> cases done
    | some sub =>
      obtain rfl := Table.find?_key found
      rw [postConsumeDeltaTx_found allowOverLimit found zero] at done
      split at done
      · cases done
      · cases done
        exact ⟨sub, rfl, rfl⟩

theorem refund_ok {requestId : String}
    (done : refundSubscriptionPreConsume store requestId = .ok next) :
    ∃ record, store.records.find? requestId = some record ∧
      ((record.status = .refunded ∧ next = store) ∨
        (record.status = .consumed ∧ record.preConsumed ≤ 0 ∧
          next = store.saveRecord record.markRefunded) ∨
        (record.status = .consumed ∧ 0 < record.preConsumed ∧
          ∃ sub, store.subs.find? record.userSubscriptionId = some sub ∧
            next = (store.saveSub (sub.withUsed
              (max (sub.amountUsed - record.preConsumed) 0))).saveRecord record.markRefunded)) := by
  unfold refundSubscriptionPreConsume at done
  split at done
  · cases done
  split at done
  · cases done
  rename_i record found
  refine ⟨record, found, ?_⟩
  split at done
  next refunded =>
    cases done
    exact .inl ⟨refunded, rfl⟩
  rename_i notRefunded
  have consumed : record.status = .consumed := by
    cases status : record.status with
    | consumed => rfl
    | refunded => exact absurd status notRefunded
  split at done
  next empty =>
    cases done
    exact .inr (.inl ⟨consumed, empty, rfl⟩)
  split at done
  · cases done
  rename_i middle lowered
  cases done
  rcases postConsumeDeltaTx_ok lowered with ⟨zero, -⟩ | ⟨sub, subFound, rfl⟩
  · omega
  · exact .inr (.inr ⟨consumed, by omega, sub, subFound, rfl⟩)

theorem resetDueRow_ok {id now : Int} {counted : Bool}
    (done : resetDueRow loc store id plan now = .ok (next, counted)) :
    (counted = false ∧ next = store) ∨ ∃ row sub, store.subs.find? id = some row ∧ counted = true ∧
        0 < row.nextResetTime ∧ row.nextResetTime ≤ now ∧
        maybeResetUserSubscriptionWithPlan loc row plan now = .ok sub ∧
        next = store.saveSub sub := by
  unfold resetDueRow at done
  split at done
  · cases done
    exact .inl ⟨rfl, rfl⟩
  rename_i row found
  split at done
  next due =>
    split at done
    · cases done
    next sub reset =>
      cases done
      exact .inr ⟨row, sub, found, rfl, due.1, due.2, reset, rfl⟩
  · cases done
    exact .inl ⟨rfl, rfl⟩

/-! ## Runs of quota operations -/

/-- The operations on the used amounts. -/
inductive QuotaOp where
  | preConsume (call : PreConsumeCall)
  | postConsume (userSubscriptionId delta : Int)
  | settle (userSubscriptionId delta : Int)
  | refund (requestId : String)
  | resetDue (userSubscriptionId planId now : Int)
  deriving DecidableEq, Repr

/-- The store an operation commits, if it does. -/
def QuotaOp.commit (loc : Location) (store : Store) :
    QuotaOp → Except SubscriptionError Store
  | .preConsume call => (preConsumeUserSubscription loc store call).map PreConsumeOutcome.store
  | .postConsume id delta => postConsumeUserSubscriptionDelta store id delta
  | .settle id delta => settleUserSubscriptionDelta store id delta
  | .refund requestId => refundSubscriptionPreConsume store requestId
  | .resetDue id planId now =>
    match store.getSubscriptionPlanById planId with
    | .error error => .error error
    | .ok plan => (resetDueRow loc store id plan now).map Prod.fst

/-- One operation; a failing transaction is rolled back. -/
def quotaStep (loc : Location) (store : Store) (op : QuotaOp) : Store :=
  match op.commit loc store with
  | .ok next => next
  | .error _ => store

theorem commit_ok {op : QuotaOp} (done : op.commit loc store = .ok next) :
    (∃ call outcome, op = .preConsume call ∧
        preConsumeUserSubscription loc store call = .ok outcome ∧
        next = outcome.store) ∨
      (∃ id delta allowOverLimit,
        postConsumeUserSubscriptionDeltaTx store id delta allowOverLimit = .ok next) ∨
      (∃ requestId, refundSubscriptionPreConsume store requestId = .ok next) ∨
      (∃ id plan now counted, resetDueRow loc store id plan now = .ok (next, counted)) := by
  cases op with
  | preConsume call =>
    simp only [QuotaOp.commit] at done
    cases called : preConsumeUserSubscription loc store call with
    | error => simp [called, Except.map] at done
    | ok outcome =>
      simp only [called, Except.map, Except.ok.injEq] at done
      exact .inl ⟨call, outcome, rfl, called, done.symm⟩
  | postConsume id delta => exact .inr (.inl ⟨id, delta, false, done⟩)
  | settle id delta => exact .inr (.inl ⟨id, delta, true, done⟩)
  | refund requestId => exact .inr (.inr (.inl ⟨requestId, done⟩))
  | resetDue id planId now =>
    simp only [QuotaOp.commit] at done
    split at done
    · cases done
    rename_i plan _
    cases called : resetDueRow loc store id plan now with
    | error => simp [called, Except.map] at done
    | ok pair =>
      obtain ⟨_, counted⟩ := pair
      simp only [called, Except.map, Except.ok.injEq] at done
      subst done
      exact .inr (.inr (.inr ⟨id, plan, now, counted, called⟩))

end StuHelper.Subscription

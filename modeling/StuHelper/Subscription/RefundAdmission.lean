import StuHelper.Subscription.QuotaSteps

/-!
# When a refund of a pre-consume is refused

Refunds and negative deltas go through the strict path, whose limit check looks at
the resulting amount and not at the direction of the delta.  A settlement may push
the used amount above the total, and from then on a refund is refused as long as it
does not bring the amount back under the total.

The runs below interleave any number of requests on any number of subscriptions,
together with the resets of the maintenance task.
-/

namespace StuHelper.Subscription

open Lib

/-! ## What every run keeps -/

/-- No used amount is negative, and every record has a positive amount and a request id
that the refund accepts. -/
structure QuotaSound (store : Store) : Prop where
  used : ∀ id sub, store.subs.find? id = some sub → 0 ≤ sub.amountUsed
  record : ∀ requestId record, store.records.find? requestId = some record →
    0 < record.preConsumed ∧ Text.trimSpace record.requestId ≠ ""

variable {sub : UserSubscription} {record : PreConsumeRecord}

namespace QuotaSound

variable {store next : Store}

section Sound

variable (sound : QuotaSound store)

include sound

theorem saveSub (nonneg : 0 ≤ sub.amountUsed) : QuotaSound (store.saveSub sub) where
  used := by
    intro id row found
    rcases Table.find?_save_cases found with same | before
    · rw [same]
      exact nonneg
    · exact sound.used id row before
  record := sound.record

theorem rolled {resets : List Int} (rolled : Rolled store next resets) : QuotaSound next where
  used := by
    intro id row found
    cases before : store.subs.find? id with
    | none =>
      rw [rolled.absent id before] at found
      cases found
    | some sub =>
      obtain ⟨_, _, after⟩ := rolled.row id sub before
      cases after.symm.trans found
      have nonneg := sound.used id sub before
      rw [UserSubscription.withPeriod_amountUsed]
      split <;> omega
  record := by
    rw [rolled.records]
    exact sound.record

variable {loc : Location} {id : Int} {requestId : String}

theorem preConsume {call : PreConsumeCall} {outcome : PreConsumeOutcome}
    (done : preConsumeUserSubscription loc store call = .ok outcome) :
    QuotaSound outcome.store := by
  obtain ⟨checked, ⟨same, -, -⟩ | ⟨-, ⟨admission⟩⟩⟩ := preConsume_ok done
  · rw [same]
    exact sound
  · have middle := sound.rolled admission.rolled
    obtain ⟨-, -, ⟨-, -, _, inserted, storeEq⟩ | ⟨-, -, -, -, -, storeEq⟩⟩ :=
      chargeCandidate_ok admission.charged
    · obtain ⟨-, nonempty, positive⟩ := checked_call checked
      have usedBefore := middle.used _ _ admission.found
      rw [storeEq]
      apply saveSub
      · refine ⟨middle.used, ?_⟩
        intro requestId record found
        rw [Table.find?_insert inserted] at found
        split at found
        · cases found
          exact ⟨positive, nonempty⟩
        · exact middle.record requestId record found
      · simp only [UserSubscription.withUsed_amountUsed]
        omega
    · rw [storeEq]
      exact middle

theorem delta {amount : Int} {allowOverLimit : Bool}
    (done : postConsumeUserSubscriptionDeltaTx store id amount allowOverLimit = .ok next) :
    QuotaSound next := by
  rcases postConsumeDeltaTx_ok done with ⟨-, rfl⟩ | ⟨sub, -, rfl⟩
  · exact sound
  · exact sound.saveSub (by simp)

theorem saveRecord (found : store.records.find? requestId = some record) :
    QuotaSound (store.saveRecord record.markRefunded) where
  used := sound.used
  record := by
    intro other row rowFound
    rcases Table.find?_save_cases rowFound with same | before
    · rw [same]
      exact sound.record requestId record found
    · exact sound.record other row before

theorem refund (done : refundSubscriptionPreConsume store requestId = .ok next) :
    QuotaSound next := by
  obtain ⟨_, found, ⟨-, rfl⟩ | ⟨-, -, rfl⟩ | ⟨-, -, _, -, rfl⟩⟩ := refund_ok done
  · exact sound
  · exact sound.saveRecord found
  · exact saveRecord (sound.saveSub (by simp)) found

end Sound

/-- Every operation keeps the store sound, whether it commits or fails. -/
theorem step (loc : Location) (store : Store) (op : QuotaOp)
    (sound : QuotaSound store) : QuotaSound (quotaStep loc store op) := by
  unfold quotaStep
  split
  next next done =>
    rcases commit_ok done with ⟨call, outcome, -, called, rfl⟩ |
      ⟨id, amount, allowOverLimit, called⟩ | ⟨requestId, called⟩ |
      ⟨id, plan, now, counted, called⟩
    · exact sound.preConsume called
    · exact sound.delta called
    · exact sound.refund called
    · rcases resetDueRow_ok called with ⟨-, rfl⟩ | ⟨row, sub, found, -, -, -, reset, rfl⟩
      · exact sound
      · obtain rfl := Table.find?_key found
        exact sound.rolled ((Rolled.refl store).reset found reset)
  next => exact sound

end QuotaSound

/-! ## Refunds and negative deltas -/

/-- A refund took place: the record is marked, and the row is lower by what was
pre-consumed, as far as there is anything left to take off. -/
def Refunded (store next : Store) (record : PreConsumeRecord) (sub : UserSubscription) : Prop :=
  refundSubscriptionPreConsume store record.requestId = .ok next ∧
    next.records.find? record.requestId = some record.markRefunded ∧ next.subs.find? sub.id =
      some (sub.withUsed (sub.amountUsed - min record.preConsumed sub.amountUsed))

/-- The strict path lets a negative delta through exactly when the row ends under
its total. -/
theorem postConsume_negative_iff {store : Store} {delta : Int}
    (found : store.subs.find? sub.id = some sub) (negative : delta < 0) :
    (∃ next, postConsumeUserSubscriptionDelta store sub.id delta = .ok next) ↔
      sub.amountTotal ≤ 0 ∨ sub.amountUsed + delta ≤ sub.amountTotal := by
  rw [postConsumeUserSubscriptionDelta, postConsumeDeltaTx_found false found (by omega)]
  simp only [true_and]
  split
  next exceeds =>
    simp only [reduceCtorEq, exists_false, false_iff]
    omega
  next under =>
    simp only [Except.ok.injEq, exists_eq', true_iff]
    omega

theorem refunded_iff {store : Store} (sound : QuotaSound store)
    (recorded : store.records.find? record.requestId = some record)
    (consumed : record.status = .consumed)
    (found : store.subs.find? record.userSubscriptionId = some sub) :
    (∃ next, Refunded store next record sub) ↔
      sub.amountTotal ≤ 0 ∨ sub.amountUsed - record.preConsumed ≤ sub.amountTotal := by
  obtain ⟨positive, nonempty⟩ := sound.record _ _ recorded
  have sameId : sub.id = record.userSubscriptionId := Table.find?_key found
  rw [← sameId] at found
  have refundEq : refundSubscriptionPreConsume store record.requestId =
      (postConsumeUserSubscriptionDelta store sub.id (-record.preConsumed)).map
        fun store => store.saveRecord record.markRefunded := by
    unfold refundSubscriptionPreConsume postConsumeUserSubscriptionDelta
    rw [if_neg nonempty, recorded, sameId]
    refine (if_neg (by simp [consumed])).trans ((if_neg (not_le.mpr positive)).trans ?_)
    cases postConsumeUserSubscriptionDeltaTx store record.userSubscriptionId
      (-record.preConsumed) false with
    | error | ok => rfl
  rw [← Int.add_neg_eq_sub, ← postConsume_negative_iff found (by omega)]
  constructor
  · rintro ⟨next, done, -, -⟩
    cases lowered : postConsumeUserSubscriptionDelta store sub.id (-record.preConsumed) with
    | error =>
      rw [refundEq, lowered] at done
      cases done
    | ok next => exact ⟨next, rfl⟩
  · rintro ⟨lowered, done⟩
    refine ⟨lowered.saveRecord record.markRefunded, ?_, ?_, ?_⟩
    · rw [refundEq, done]
      rfl
    all_goals
      rw [postConsumeUserSubscriptionDelta, postConsumeDeltaTx_found false found (by omega)] at done
      split at done
      · cases done
    · cases done
      exact Table.find?_save recorded rfl
    · cases done
      have clamped : max (sub.amountUsed + -record.preConsumed) 0 =
          sub.amountUsed - min record.preConsumed sub.amountUsed := by omega
      rw [clamped]
      exact Store.find?_saveSub_same store (sub.withUsed _) found

/-- In every state that any interleaving of requests reaches, the refund of a consumed
record succeeds, and a negative delta succeeds, exactly when the row is unlimited or
ends under its total. -/
theorem refund_succeeds_iff_under_total (loc : Location) (initial : Store)
    (noRecords : initial.records.rows = [])
    (nonneg : ∀ sub ∈ initial.subs.rows, 0 ≤ sub.amountUsed) (ops : List QuotaOp) :
    (∀ record sub, record ∈ (run (quotaStep loc) initial ops).records.rows →
      record.status = .consumed →
      (run (quotaStep loc) initial ops).subs.find? record.userSubscriptionId = some sub →
      ((∃ next, Refunded (run (quotaStep loc) initial ops) next record sub) ↔
        sub.amountTotal ≤ 0 ∨ sub.amountUsed - record.preConsumed ≤ sub.amountTotal)) ∧
    (∀ sub delta, sub ∈ (run (quotaStep loc) initial ops).subs.rows → delta < 0 →
      ((∃ next, postConsumeUserSubscriptionDelta
          (run (quotaStep loc) initial ops) sub.id delta = .ok next) ↔
        sub.amountTotal ≤ 0 ∨ sub.amountUsed + delta ≤ sub.amountTotal)) := by
  have initially : QuotaSound initial := by
    constructor
    · intro id sub found
      exact nonneg sub (Table.find?_mem found)
    · intro requestId record found
      have member := Table.find?_mem found
      rw [noRecords] at member
      cases member
  have sound := run_invariant_of_all (QuotaSound.step loc) ops initially
  constructor
  · intro record sub recorded consumed found
    exact refunded_iff sound (Table.find?_of_mem recorded) consumed found
  · intro sub delta member negative
    exact postConsume_negative_iff (Table.find?_of_mem member) negative

/-- A subscription of 100 units, two requests of 10, and a settlement of one of them
that takes the row to 220. -/
def overdrawnStart : Store where
  plans := .single { id := 1, totalAmount := 100 }
  subs := Serial.empty.create
    (fun id => { id := id, userId := 7, planId := 1, amountTotal := 100,
                 startTime := 0, endTime := 1000 }) (fun _ => rfl)

def overdrawnOps : List QuotaOp :=
  [.preConsume { requestId := "a", userId := 7, amount := 10, now := 5 },
   .preConsume { requestId := "b", userId := 7, amount := 10, now := 6 }, .settle 1 200]

/-- After another request has settled above the total, the refund of a consumed record
and a negative delta are both refused. -/
theorem refund_refused_after_overdraft :
    overdrawnStart.records.rows = [] ∧ (∀ sub ∈ overdrawnStart.subs.rows, 0 ≤ sub.amountUsed) ∧
      ((run (quotaStep ⟨0⟩) overdrawnStart overdrawnOps).records.find? "a").map
        PreConsumeRecord.status = some .consumed ∧
      ((refundSubscriptionPreConsume
        (run (quotaStep ⟨0⟩) overdrawnStart overdrawnOps) "a").map fun _ => ()) =
        .error (.usedExceedsTotal 210 100) ∧
      ((postConsumeUserSubscriptionDelta
        (run (quotaStep ⟨0⟩) overdrawnStart overdrawnOps) 1 (-10)).map fun _ => ()) =
        .error (.usedExceedsTotal 210 100) := by
  decide +kernel

/-- The same run without the settlement: the refund goes through. -/
theorem refund_succeeds_under_total :
    ∃ next, Refunded (run (quotaStep ⟨0⟩) overdrawnStart (overdrawnOps.take 2)) next
      { requestId := "a", userId := 7, userSubscriptionId := 1, preConsumed := 10 }
      { id := 1, userId := 7, planId := 1, amountTotal := 100, amountUsed := 20,
        startTime := 0, endTime := 1000 } :=
  ((refund_succeeds_iff_under_total ⟨0⟩ overdrawnStart rfl (by decide)
    (overdrawnOps.take 2)).1 _ _ (by decide +kernel) rfl (by decide +kernel)).mpr
    (by decide)

end StuHelper.Subscription

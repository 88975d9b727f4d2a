import StuHelper.Tasks.Poll

/-!
# The books of a task

The statements about refunds are about one task of the table: its row, and the refunds in the
ledger that are its own.  A decision is sound for a row when carrying it out keeps the two in
agreement; the sweep's decision and those of the two pollers are, and the real-time fetch is only
when the answer does not move the task to or from `FAILURE`.
-/

namespace StuHelper.Tasks

open Lib List

/-! ## One task of the store -/

def refundsOf (id : Int) (ledger : List Entry) : List Entry :=
  ledger.filter fun entry => entry.isRefund ∧ entry.taskId = id

/-- The part of the store that is about a task. -/
def Store.view (store : Store) (id : Int) : Option Task × List Entry :=
  (store.table.rows id, refundsOf id store.ledger)

/-- The row and the refunds of a task agree: it has its quota back when it has failed, once, and
otherwise not at all. -/
def Booked (quota : Int) (source : FundingSource) (id : Int) (view : Option Task × List Entry) :
    Prop :=
  ∃ row, view.1 = some row ∧ row.quota = quota ∧ row.fundingSource = source ∧
    view.2 = if row.status = statusFailure then [.refunded id source quota] else []

theorem refundsOf_append (id : Int) (front back : List Entry) :
    refundsOf id (front ++ back) = refundsOf id front ++ refundsOf id back :=
  filter_append ..

theorem refundsOf_pay (bill : Bill) (task : Task) (id : Int) :
    refundsOf id (bill.pay task true).1 = if bill = .refund ∧ task.id = id ∧ task.quota ≠ 0 then
        [.refunded id task.fundingSource task.quota]
      else [] := by
  rcases pay_cases bill task true with ⟨paid, other⟩ | rfl | ⟨actualQuota, paid, other⟩
  · rw [paid, if_neg fun both => other both.1]
    rfl
  · simp only [Bill.pay, refundTaskQuota, true_and]
    by_cases free : task.quota = 0
    · simp [free, refundsOf]
    · by_cases same : task.id = id
      · simp [free, same, refundsOf, Entry.isRefund, Entry.taskId]
      · simp [free, same, refundsOf, Entry.isRefund, Entry.taskId]
  · rw [paid, if_neg fun both => other both.1, recalculateTaskQuota]
    split
    · rfl
    · rfl

theorem pay_id (bill : Bill) (task : Task) (funded : Bool) :
    (bill.pay task funded).2.id = task.id := by
  rcases pay_cases bill task funded with ⟨paid, -⟩ | rfl | ⟨actualQuota, paid, -⟩
  · rw [paid]
  · rfl
  · rw [paid, recalculateTaskQuota]
    split
    · rfl
    · rfl

def Decision.outcome (decision : Decision) (row : Task) : Task :=
  if decision.write.hits row then decision.task else row

namespace Store

variable (store : Store)

variable {decision : Decision} {id : Int}

theorem perform_rows {row : Task} (there : store.table.rows id = some row)
    (same : decision.task.id = row.id) :
    (store.perform decision).1.table.rows id = some (decision.outcome row) := by
  have key : decision.task.id = id := same.trans (store.table.keyed there)
  have there' : store.table.rows decision.task.id = some row := by rw [key]; exact there
  simp only [perform, there', Option.any_some, Decision.outcome]
  split
  · rw [← key]
    exact store.table.put_rows_self decision.task
  · exact there

theorem perform_view_of_ne (other : decision.task.id ≠ id) :
    (store.perform decision).1.view id = store.view id := by
  have rows : (store.perform decision).1.table.rows id = store.table.rows id := by
    simp only [perform]
    split
    · exact store.table.put_rows_of_ne (Ne.symm other)
    · rfl
  have refunds : refundsOf id (store.perform decision).1.ledger = refundsOf id store.ledger := by
    simp only [perform, refundsOf_append, refundsOf_pay, other, false_and, and_false, if_false,
      append_nil]
  rw [view, rows, refunds, view]

theorem bulkFail_view_of_notMem {taskIds : List Int} (outside : id ∉ taskIds)
    (failReason : Option String) : (store.bulkFail taskIds failReason).view id = store.view id := by
  simp only [bulkFail, view, Table.bulkFail, if_neg outside, Option.map_id']

end Store

/-! ## Sound decisions -/

/-- A decision pairs the failure with a refund: it refunds exactly when its write takes the row to
`FAILURE`. -/
structure Decision.Sound (decision : Decision) (row : Task) : Prop where
  hit : decision.write.hits row = true →
    (decision.task.status = statusFailure ∧ row.status ≠ statusFailure ∧ decision.bill = .refund) ∨
      ((decision.task.status = statusFailure ↔ row.status = statusFailure) ∧
        decision.bill ≠ .refund)
  miss : decision.write.hits row = false → decision.billIf false ≠ .refund

theorem Store.perform_booked {store : Store} {quota : Int} {source : FundingSource} {id : Int}
    (positive : quota ≠ 0) (booked : Booked quota source id (store.view id)) {decision : Decision}
    (sound : ∀ row, store.table.rows id = some row →
      decision.Sound row ∧ SameTask decision.task row) :
    Booked quota source id ((store.perform decision).1.view id) := by
  obtain ⟨row, there, sameQuota, sameSource, refunds⟩ := booked
  obtain ⟨pairs, same⟩ := sound row there
  have key : decision.task.id = id := same.id.trans (store.table.keyed there)
  have there' : store.table.rows decision.task.id = some row := by rw [key]; exact there
  have refunded : ∀ bill : Bill, refundsOf id (bill.pay decision.task true).1 =
      if bill = .refund then [.refunded id source quota] else [] := by
    intro bill
    rw [refundsOf_pay, same.quota, same.source, sameQuota, sameSource]
    simp [key, positive]
  have ledger : refundsOf id (store.perform decision).1.ledger = refundsOf id store.ledger ++
        if decision.billIf (decision.write.hits row) = .refund then [.refunded id source quota]
        else [] := by
    simp only [perform, there', Option.any_some, refundsOf_append, refunded]
  refine ⟨_, store.perform_rows there same.id, ?_⟩
  rw [Decision.outcome]
  change _ ∧ _ ∧ refundsOf id (store.perform decision).1.ledger = _
  rw [ledger, show refundsOf id store.ledger = _ from refunds]
  cases hits : decision.write.hits row with
  | false =>
    refine ⟨sameQuota, sameSource, ?_⟩
    rw [if_neg (pairs.miss hits), append_nil]
    rfl
  | true =>
    have kept : decision.billIf true = decision.bill := if_neg fun both => both.2 rfl
    refine ⟨same.quota.trans sameQuota, same.source.trans sameSource, ?_⟩
    rw [kept]
    cases pairs.hit hits with
    | inl fails =>
      rw [if_neg fails.2.1, if_pos fails.2.2, nil_append]
      exact (if_pos fails.1).symm
    | inr keeps =>
      rw [if_neg keeps.2, append_nil]
      exact if_congr keeps.1.symm rfl rfl

section Sound

variable {row task : Task}

theorem ne_failure_of_not_final {status : String} (unfinished : isFinal status = false) :
    status ≠ statusFailure := fun same => of_decide_eq_false unfinished (Or.inl same)

theorem sound_of_skip {decision : Decision} (write : decision.write = .skip)
    (free : decision.bill = .nothing) : decision.Sound row := by
  constructor
  · intro hits
    rw [write] at hits
    cases hits
  · intro _
    rw [Decision.billIf, free, ite_self]
    exact Bill.noConfusion

theorem updateSunoTask_sound {item : SunoDataResponse} (unfinished : isFinal task.status = false)
    (reported : item.failReason ≠ "" → item.status = statusFailure) :
    (updateSunoTask task item).Sound task := by
  have running := ne_failure_of_not_final unfinished
  rw [updateSunoTask]
  split
  · split
    · rename_i failed
      have next : item.nextStatus task = statusFailure := by
        cases of_decide_eq_true failed.1 with
        | inl reason =>
          rw [SunoDataResponse.nextStatus, reported reason]
          rfl
        | inr next => exact next
      constructor
      · intro _
        exact Or.inl ⟨next, running, rfl⟩
      · intro misses
        exact absurd rfl (of_decide_eq_false misses)
    · rename_i calm
      have next : item.nextStatus task ≠ statusFailure := fun next =>
        calm ⟨decide_eq_true (Or.inr next), running⟩
      constructor
      · intro _
        exact Or.inr ⟨iff_of_false next running, Bill.noConfusion⟩
      · intro misses
        cases misses
  · exact sound_of_skip rfl rfl

theorem updateVideoSingleTask_sound (serverAddress : String) (answer : VideoAnswer)
    (unfinished : isFinal task.status = false) (costs : task.quota ≠ 0) :
    (updateVideoSingleTask serverAddress task answer).Sound task := by
  have running := ne_failure_of_not_final unfinished
  cases updateVideoSingleTask_decides serverAddress unfinished answer with
  | finish write guarded final refunds =>
    constructor
    · intro _
      by_cases failed : (updateVideoSingleTask serverAddress task answer).task.status =
          statusFailure
      · exact Or.inl ⟨failed, running, (refunds costs).mpr failed⟩
      · exact Or.inr ⟨iff_of_false failed running, fun refund =>
          failed ((refunds costs).mp refund)⟩
    · intro _
      rw [Decision.billIf, if_pos ⟨guarded, Bool.false_ne_true⟩]
      exact Bill.noConfusion
  | skip write free => exact sound_of_skip write free
  | proceed write still free =>
    constructor
    · intro _
      refine Or.inr ⟨iff_of_false (ne_failure_of_not_final still) running, ?_⟩
      rw [free]
      exact Bill.noConfusion
    · intro _
      rw [Decision.billIf, free, ite_self]
      exact Bill.noConfusion

/-- A real-time fetch bills nothing, so it must leave a failure alone. -/
theorem tryRealtimeFetch_sound (serverAddress : String) {info : TaskInfo}
    (steady : info.status ≠ "" → (info.status = statusFailure ↔ task.status = statusFailure)) :
    (tryRealtimeFetch serverAddress task info).Sound task := by
  constructor
  · intro _
    refine Or.inr ⟨?_, Bill.noConfusion⟩
    simp only [tryRealtimeFetch, TaskInfo.applyTo]
    split
    · rename_i given
      exact steady given
    · exact Iff.rfl
  · intro _
    exact Bill.noConfusion

end Sound

end StuHelper.Tasks

import StuHelper.Tasks.Turns

/-!
# Failed tasks are refunded

A task that ends in `FAILURE` should have its quota back.  The sweep and the two pollers pair the
transition with a refund; the bulk updates and the real-time fetch do not.  Away from these, and
with answers that are about the tasks that were asked for, every failed task has been refunded
exactly once.

The proof follows one task through a round.  Before its turn the store still has the row that was
read; its turn carries out one sound decision on that row; and what comes after leaves its books
alone.
-/

namespace StuHelper.Tasks

open Lib List

/-! ## The task's own turn -/

/-- The books are right, whether the turn of the task has come or not. -/
structure Kept (quota : Int) (source : FundingSource) (id : Int) (key : String)
    (polling : Polling) : Prop where
  elsewhere : Elsewhere id (· = key) polling.memory
  booked : Booked quota source id (polling.store.view id)

section Turn

variable {id : Int} {row : Task} {refunds : List Entry} {quota : Int} {source : FundingSource}
  {polling after : Polling}

theorem Kept.untouched {key : String} (kept : Kept quota source id key polling)
    (untouched : Untouched id (· = key) polling after) : Kept quota source id key after where
  elsewhere := untouched.elsewhere
  booked := by
    rw [untouched.view]
    exact kept.booked

variable (costs : quota ≠ 0) (booked : Booked quota source id (some row, refunds))

include booked

theorem row_quota : row.quota = quota := by
  obtain ⟨_, found, sameQuota, -⟩ := booked
  cases found
  exact sameQuota

variable (waiting : Waiting id row refunds polling)

include waiting

theorem Waiting.kept : Kept quota source id row.getUpstreamTaskID polling where
  elsewhere := waiting.elsewhere
  booked := by
    rw [waiting.view]
    exact booked

include costs

theorem Waiting.perform {decision : Decision} (sound : decision.Sound row)
    (same : SameTask decision.task row) :
    Kept quota source id row.getUpstreamTaskID
      (polling.perform row.getUpstreamTaskID decision) where
  elsewhere := by
    intro key task found different
    rw [Polling.perform_memory_of_ne _ different] at found
    exact waiting.elsewhere key task found different
  booked := by
    apply Store.perform_booked costs
    · rw [waiting.view]
      exact booked
    · intro current found
      have there : some row = some current := (congrArg Prod.fst waiting.view).symm.trans found
      cases there
      exact ⟨sound, same⟩

theorem Waiting.sunoItem {item : SunoDataResponse}
    (meant : item.taskID = row.getUpstreamTaskID)
    (reported : item.failReason ≠ "" → item.status = statusFailure) :
    Kept quota source id row.getUpstreamTaskID (polling.sunoItem item) := by
  rw [Polling.sunoItem, meant]
  split
  · exact waiting.kept booked
  split
  · exact { waiting.kept booked with }
  · rename_i task found
    obtain ⟨rfl, unfinished⟩ := waiting.own task found
    exact waiting.perform costs booked (updateSunoTask_sound unfinished reported)
      (updateSunoTask_same task item)

theorem Waiting.videoTask (serverAddress : String) (fetch : Fetch VideoAnswer) :
    Kept quota source id row.getUpstreamTaskID
      (polling.videoTask serverAddress row.getUpstreamTaskID fetch) := by
  simp only [Polling.videoTask]
  split
  · exact waiting.kept booked
  cases found : polling.memory row.getUpstreamTaskID with
  | none => exact waiting.kept booked
  | some task =>
    cases fetch with
    | failed => exact waiting.kept booked
    | panicked => exact { waiting.kept booked with }
    | answered answer =>
      obtain ⟨rfl, unfinished⟩ := waiting.own task found
      have price : task.quota ≠ 0 := by
        rw [row_quota booked]
        exact costs
      exact waiting.perform costs booked
        (updateVideoSingleTask_sound serverAddress answer unfinished price)
        (updateVideoSingleTask_same serverAddress task answer)

theorem Waiting.updateSunoTasks (input : PollInput) (upstreamIDs : List String)
    (open_ : input.channelExists row.channelId = true)
    (once : ((input.suno row.channelId).itemsFor row.getUpstreamTaskID).length ≤ 1)
    (reported : ∀ item ∈ (input.suno row.channelId).itemsFor row.getUpstreamTaskID,
      item.failReason ≠ "" → item.status = statusFailure) :
    Kept quota source id row.getUpstreamTaskID
      (polling.updateSunoTasks input row.channelId upstreamIDs) := by
  rw [Polling.updateSunoTasks, open_]
  split
  · exact waiting.kept booked
  rw [if_neg (not_not_intro rfl)]
  split
  · exact waiting.kept booked
  · exact { waiting.kept booked with }
  · rename_i items answered
    rw [answered] at once reported
    refine @run_once _ _ Polling.sunoItem _ _ (Waiting id row refunds)
      (Kept quota source id row.getUpstreamTaskID) SunoDataResponse.taskID row.getUpstreamTaskID _
      ?_ ?_ ?_ (fun _ waiting => waiting.kept booked) ?_ polling waiting
    · intro state item _ quiet waiting
      exact waiting.untouched (Untouched.sunoItem waiting.elsewhere quiet)
    · intro state item _ quiet kept
      exact kept.untouched (Untouched.sunoItem kept.elsewhere quiet)
    · intro state item member loud waiting
      exact waiting.sunoItem costs booked loud
        (reported item (mem_filter.mpr ⟨member, decide_eq_true loud⟩))
    · rw [count, countP_map, countP_eq_length_filter]
      exact once

theorem Waiting.updateVideoTasks (input : PollInput) {upstreamIDs : List String}
    (open_ : input.channelExists row.channelId = true)
    (once : upstreamIDs.count row.getUpstreamTaskID ≤ 1) :
    Kept quota source id row.getUpstreamTaskID
      (polling.updateVideoTasks input row.channelId upstreamIDs) := by
  rw [Polling.updateVideoTasks, open_]
  split
  · exact waiting.kept booked
  refine @run_once _ _ _ _ _ (Waiting id row refunds)
    (Kept quota source id row.getUpstreamTaskID) Prod.fst row.getUpstreamTaskID _
    ?_ ?_ ?_ (fun _ waiting => waiting.kept booked) ?_ polling waiting
  · intro state numbered _ other waiting
    exact waiting.untouched
      (@Untouched.videoTask id (· = row.getUpstreamTaskID) _ waiting.elsewhere _ _ other _)
  · intro state numbered _ other kept
    exact kept.untouched
      (@Untouched.videoTask id (· = row.getUpstreamTaskID) _ kept.elsewhere _ _ other _)
  · intro state numbered _ loud waiting
    rw [loud]
    exact waiting.videoTask costs booked _ _
  · rw [zipIdx_map_fst]
    exact once

end Turn

/-! ## The task's platform -/

section Platform

variable {tasks : List Task}

/-- What a round must meet for a task: it has an upstream id that no other task of its platform
has, its channel is there, and the Suno channels answer for it at most once, the others not at
all, with a reason for a failure only with the status `FAILURE`. -/
@[mk_iff]
structure AnswersFor (input : PollInput) (others : List Task) (row : Task) : Prop where
  named : row.getUpstreamTaskID ≠ ""
  unique : ∀ other ∈ others, other.platform = row.platform →
    other.getUpstreamTaskID = row.getUpstreamTaskID → other.id = row.id
  channel : row.platform ≠ "mj" → input.channelExists row.channelId = true
  once : row.platform = "suno" →
    ((input.suno row.channelId).itemsFor row.getUpstreamTaskID).length ≤ 1
  reported : row.platform = "suno" →
    ∀ item ∈ (input.suno row.channelId).itemsFor row.getUpstreamTaskID,
      item.failReason ≠ "" → item.status = statusFailure
  foreign : row.platform = "suno" → ∀ other ∈ others, other.platform = row.platform →
    other.channelId ≠ row.channelId →
      (input.suno other.channelId).itemsFor row.getUpstreamTaskID = []

section Own

variable {input : PollInput} {allTasks : List Task} {row : Task}

variable (sound : AnswersFor input allTasks row)
  (current : ∀ task ∈ allTasks, task.id = row.id → task = row ∧ isFinal row.status = false)

include sound current

section Books

variable {quota : Int} {source : FundingSource} {refunds : List Entry} (costs : quota ≠ 0)
  (booked : Booked quota source row.id (some row, refunds))
  (nodup : (allTasks.map Task.id).Nodup)

include costs booked nodup

theorem pollPlatform_booked {polling : Polling}
    (view : polling.store.view row.id = (some row, refunds)) :
    Booked quota source row.id
      ((pollPlatform input allTasks polling row.platform).store.view row.id) := by
  rw [pollPlatform]
  split
  · rw [view]
    exact booked
  have apart : Apart input _ row := { sound with }
  have waiting := waiting_taskM apart current view
  simp only [dispatchPlatformUpdate]
  split
  · exact (waiting.kept booked).booked
  rename_i polled
  refine Kept.booked (@run_once _ _ _ _ _ (Waiting row.id row refunds)
    (Kept quota source row.id row.getUpstreamTaskID) (fun id => id) row.channelId _
    ?_ ?_ ?_ (fun _ waiting => waiting.kept booked) ?_ _ waiting)
  · intro state channelId member quiet waiting
    exact waiting.untouched (updateChannel_untouched apart current
      (input.channelOrder.mem_of_shuffle member) quiet waiting.elsewhere)
  · intro state channelId member quiet kept
    exact kept.untouched (updateChannel_untouched apart current
      (input.channelOrder.mem_of_shuffle member) quiet kept.elsewhere)
  · rintro state _ _ rfl waiting
    have exists_ := sound.channel polled
    rw [Polling.updateChannel]
    split
    · rename_i suno
      exact waiting.updateSunoTasks costs booked input _ exists_ (sound.once suno)
        (sound.reported suno)
    · exact waiting.updateVideoTasks costs booked input exists_
        (count_upstream apart current nodup row.channelId)
  · rw [map_id']
    exact count_shuffle input.channelOrder _ row.channelId

end Books

end Own

end Platform

/-! ## A round -/

section Round

variable {store : Store} {id : Int} {row : Task}

theorem pollUnfinished_booked {quota : Int} {source : FundingSource} (costs : quota ≠ 0)
    (booked : Booked quota source id (store.view id)) (input : PollInput)
    (sound : ∀ row, store.table.rows id = some row → row.isUnfinished = true →
      AnswersFor input (store.getAllUnFinishSyncTasks input.limit) row) :
    Booked quota source id ((pollUnfinished input store).view id) := by
  have current := booked
  obtain ⟨row, found, -⟩ := current
  obtain rfl : row.id = id := store.table.keyed found
  cases reads : row.isUnfinished with
  | false =>
    rw [pollUnfinished_view input]
    · exact booked
    · intro task member same
      obtain ⟨there, unfinished⟩ := mem_unfinished member
      rw [same] at there
      cases found.symm.trans there
      rw [reads] at unfinished
      cases unfinished
  | true =>
    have view : store.view row.id = (some row, refundsOf row.id store.ledger) :=
      congrArg (·, _) found
    rw [view] at booked
    have own : ∀ task ∈ store.getAllUnFinishSyncTasks input.limit, task.id = row.id →
        task = row ∧ isFinal row.status = false := by
      intro task member same
      obtain ⟨there, -⟩ := mem_unfinished member
      rw [same] at there
      cases found.symm.trans there
      exact ⟨rfl, not_final_of_unfinished reads⟩
    have elsewhere : ∀ platform, platform ≠ row.platform → ∀ polling : Polling,
        (pollPlatform input (store.getAllUnFinishSyncTasks input.limit) polling
          platform).store.view row.id = polling.store.view row.id := by
      intro platform different polling
      refine pollPlatform_view input (fun task member at_ same => ?_) polling
      rw [(own task member same).1] at at_
      exact different at_.symm
    refine @run_once _ _ _ _ _
      (fun polling : Polling =>
        polling.store.view row.id = (some row, refundsOf row.id store.ledger))
      (fun polling : Polling => Booked quota source row.id (polling.store.view row.id))
      (fun platform => platform) row.platform _ ?_ ?_ ?_ ?_ ?_ _ view
    · intro polling platform _ quiet waiting
      exact (elsewhere platform quiet polling).trans waiting
    · intro polling platform _ quiet kept
      rw [elsewhere platform quiet polling]
      exact kept
    · rintro polling _ _ rfl waiting
      exact pollPlatform_booked (sound row found reads) own costs booked
        (nodup_unfinished input.limit) waiting
    · intro polling waiting
      rw [waiting]
      exact booked
    · rw [map_id']
      exact count_shuffle input.platformOrder _ row.platform

end Round

/-! ## The sweep -/

section Sweep

variable {store : Store} {id : Int} {task : Task}

theorem mem_timedOut {cutoffUnix : Int} {limit : Nat}
    (member : task ∈ store.getTimedOutUnfinishedTasks cutoffUnix limit) :
    store.table.rows task.id = some task ∧ task.isUnfinished = true := by
  have listed := mem_mergeSort.mp (mem_of_mem_take member)
  obtain ⟨inTable, timedOut⟩ := mem_filter.mp listed
  exact ⟨mem_all inTable, (of_decide_eq_true timedOut).1⟩

variable {quota : Int} {source : FundingSource}

theorem sweepStep_booked (costs : quota ≠ 0) (unfinished : isFinal task.status = false)
    (young : task.isLegacy = false) (price : task.quota = quota)
    (payer : task.fundingSource = source) {current : Store}
    (booked : Booked quota source task.id (current.view task.id)) (timeoutMinutes now : Int) :
    Booked quota source task.id
      ((current.perform (sweepTimedOutTask timeoutMinutes now task)).1.view task.id) := by
  have books := booked
  obtain ⟨_, found, sameQuota, sameSource, -⟩ := books
  apply Store.perform_booked costs booked
  intro other there
  cases found.symm.trans there
  refine ⟨⟨fun hits => Or.inl ⟨rfl, ?_, ?_⟩, fun _ => ?_⟩, ?_⟩
  · rw [show _ = task.status from of_decide_eq_true hits]
    exact ne_failure_of_not_final unfinished
  · exact if_pos ⟨by rw [young]; exact Bool.false_ne_true, price ▸ costs⟩
  · exact Bill.noConfusion
  exact ⟨(current.table.keyed found).symm, price.trans sameQuota.symm, payer.trans sameSource.symm⟩

theorem sweepTimedOutTasks_booked (costs : quota ≠ 0)
    (booked : Booked quota source id (store.view id))
    (young : ∀ row, store.table.rows id = some row → row.isUnfinished = true → row.isLegacy = false)
    (timeoutMinutes now : Int) :
    Booked quota source id ((store.sweepTimedOutTasks timeoutMinutes now).view id) ∧
      ∀ row, (store.sweepTimedOutTasks timeoutMinutes now).table.rows id = some row →
        row.isUnfinished = true → store.table.rows id = some row := by
  rw [Store.sweepTimedOutTasks]
  split
  · exact ⟨booked, fun _ found _ => found⟩
  have books := booked
  obtain ⟨first, there, price, payer, -⟩ := books
  refine @run_invariant_of_mem _ _ _ (fun current : Store =>
    Booked quota source id (current.view id) ∧
      ∀ row, current.table.rows id = some row → row.isUnfinished = true →
        store.table.rows id = some row) _ ?_ store ⟨booked, fun _ found _ => found⟩
  intro current task member kept
  obtain ⟨read, unfinished⟩ := mem_timedOut member
  by_cases same : task.id = id
  · cases same
    obtain rfl : task = first := Option.some.inj (read.symm.trans there)
    refine ⟨sweepStep_booked costs (not_final_of_unfinished unfinished)
      (young task read unfinished) price payer kept.1 timeoutMinutes now, ?_⟩
    intro row found still
    simp only [Store.perform] at found
    split at found
    · -- the row that was written is finished
      have written := current.table.put_rows_self
        (sweepTimedOutTask timeoutMinutes now task).task
      cases written.symm.trans found
      cases still
    · exact kept.2 row found still
  · have view := current.perform_view_of_ne
      (show (sweepTimedOutTask timeoutMinutes now task).task.id ≠ id from same)
    rw [view]
    refine ⟨kept.1, ?_⟩
    intro row found
    exact kept.2 row ((congrArg Prod.fst view).symm.trans found)

/-- What a round reads about a task is not changed by a sweep. -/
structure Alike (task other : Task) : Prop where
  platform : task.platform = other.platform
  channelId : task.channelId = other.channelId
  upstream : task.getUpstreamTaskID = other.getUpstreamTaskID

theorem sweepTimedOutTasks_alike (timeoutMinutes now : Int) :
    (store.sweepTimedOutTasks timeoutMinutes now).table.ids = store.table.ids ∧
      ∀ key task, (store.sweepTimedOutTasks timeoutMinutes now).table.rows key = some task →
        ∃ before, store.table.rows key = some before ∧ Alike task before := by
  rw [Store.sweepTimedOutTasks]
  split
  · exact ⟨rfl, fun _ task found => ⟨task, found, rfl, rfl, rfl⟩⟩
  refine @run_invariant_of_mem _ _ _ (fun current : Store =>
    current.table.ids = store.table.ids ∧ ∀ key task, current.table.rows key = some task →
        ∃ before, store.table.rows key = some before ∧ Alike task before) _ ?_ store
    ⟨rfl, fun _ task found => ⟨task, found, rfl, rfl, rfl⟩⟩
  intro current task member kept
  obtain ⟨read, -⟩ := mem_timedOut member
  simp only [Store.perform]
  split
  · refine ⟨kept.1, fun key other found => ?_⟩
    by_cases same : key = (sweepTimedOutTask timeoutMinutes now task).task.id
    · rw [same, Table.put_rows_self] at found
      cases found
      exact ⟨task, same ▸ read, rfl, rfl, rfl⟩
    · rw [Table.put_rows_of_ne _ same] at found
      exact kept.2 key other found
  · exact kept

theorem AnswersFor.afterSweep {input : PollInput} {row : Task}
    (sound : AnswersFor input store.table.all row) (timeoutMinutes now : Int) (limit : Nat) :
    AnswersFor input
      ((store.sweepTimedOutTasks timeoutMinutes now).getAllUnFinishSyncTasks limit) row := by
  obtain ⟨ids, alike⟩ := @sweepTimedOutTasks_alike store timeoutMinutes now
  have before : ∀ other ∈ (store.sweepTimedOutTasks timeoutMinutes now).getAllUnFinishSyncTasks
      limit, ∃ task ∈ store.table.all, task.id = other.id ∧ Alike other task := by
    intro other member
    obtain ⟨listed, -⟩ := mem_filter.mp (mem_of_mem_take member)
    obtain ⟨key, inIds, found⟩ := mem_filterMap.mp listed
    obtain ⟨task, there, same⟩ := alike key other found
    refine ⟨task, mem_filterMap.mpr ⟨key, ids ▸ inIds, there⟩, ?_, same⟩
    rw [store.table.keyed there, Table.keyed _ found]
  refine { sound with unique := ?_, foreign := ?_ }
  · intro other member platform upstream
    obtain ⟨task, inTable, key, same⟩ := before other member
    rw [← key]
    exact sound.unique task inTable (same.platform.symm.trans platform)
      (same.upstream.symm.trans upstream)
  · intro suno other member platform different
    obtain ⟨task, inTable, -, same⟩ := before other member
    rw [same.channelId]
    exact sound.foreign suno task inTable (same.platform.symm.trans platform)
      (same.channelId ▸ different)

end Sweep

/-! ## The main result -/

/-- An event treats a task in order.  Legacy tasks are not swept; a round meets what the task needs;
and a real-time fetch neither fails the task nor takes a failed task back. -/
def Orderly (id : Int) (store : Store) : Event → Prop
  | .poll input => ∀ row ∈ store.table.rows id, row.isUnfinished = true →
      row.isLegacy = false ∧ AnswersFor input store.table.all row
  | .sweep _ _ => ∀ row ∈ store.table.rows id, row.isUnfinished = true → row.isLegacy = false
  | .fetch fetched _ info => fetched = id → ∀ row ∈ store.table.rows id, info.status ≠ "" →
      (info.status = statusFailure ↔ row.status = statusFailure)

theorem Store.step_booked {store : Store} {quota : Int} {source : FundingSource} {id : Int}
    (costs : quota ≠ 0) (booked : Booked quota source id (store.view id)) {event : Event}
    (orderly : Orderly id store event) : Booked quota source id ((store.step event).view id) := by
  cases event with
  | poll input =>
    obtain ⟨swept, kept⟩ := sweepTimedOutTasks_booked costs booked
      (fun row found unfinished => (orderly row found unfinished).1) input.timeoutMinutes input.now
    refine pollUnfinished_booked costs swept input fun row found unfinished => ?_
    have before := kept row found unfinished
    exact (orderly row before unfinished).2.afterSweep input.timeoutMinutes input.now input.limit
  | sweep => exact (sweepTimedOutTasks_booked costs booked orderly _ _).1
  | fetch fetched serverAddress info =>
    simp only [Store.step]
    cases found : store.table.rows fetched with
    | none => exact booked
    | some task =>
      have key := store.table.keyed found
      by_cases same : fetched = id
      · cases same
        apply store.perform_booked costs booked
        intro row there
        cases found.symm.trans there
        exact ⟨tryRealtimeFetch_sound serverAddress (orderly rfl task found), rfl, rfl, rfl⟩
      · have other : (tryRealtimeFetch serverAddress task info).task.id ≠ id := by
          intro here
          exact same (key.symm.trans here)
        rw [store.perform_view_of_ne other]
        exact booked

/-- A failed task has its quota back, once. -/
def RefundedIfFailed (id : Int) (source : FundingSource) (quota : Int) (store : Store) : Prop :=
  ∀ row ∈ store.table.rows id, row.status = statusFailure →
    refundsOf id store.ledger = [.refunded id source quota]

/-- In every run whose events treat the task in order, a task that costs something and has failed
has been refunded exactly once. -/
theorem failed_refunded (store : Store) (id : Int) (row : Task)
    (there : store.table.rows id = some row) (costs : 0 < row.quota)
    (running : row.status ≠ statusFailure) (unbilled : refundsOf id store.ledger = [])
    (events : List Event) (orderly : Along (Orderly id) Store.step store events) :
    RefundedIfFailed id row.fundingSource row.quota (run Store.step store events) := by
  have initially : Booked row.quota row.fundingSource id (store.view id) := by
    refine ⟨row, there, rfl, rfl, ?_⟩
    rw [if_neg running]
    exact unbilled
  have lastly : Booked row.quota row.fundingSource id
      ((run Store.step store events).view id) :=
    @run_invariant _ _ (Orderly id) Store.step
      (fun store => Booked row.quota row.fundingSource id (store.view id))
      (fun _ _ booked orderly => Store.step_booked (Int.ne_of_gt costs) booked orderly)
      store events initially orderly
  obtain ⟨_, found, -, -, refunds⟩ := lastly
  intro other member failed
  cases found.symm.trans member
  exact refunds.trans (if_pos failed)

instance (input : PollInput) (others : List Task) (row : Task) :
    Decidable (AnswersFor input others row) :=
  decidable_of_iff' _ (answersFor_iff input others row)

instance (id : Int) (store : Store) (event : Event) : Decidable (Orderly id store event) :=
  match event with
  | .poll _ => inferInstanceAs (Decidable (∀ row ∈ _, _))
  | .sweep _ _ => inferInstanceAs (Decidable (∀ row ∈ _, _))
  | .fetch _ _ _ => inferInstanceAs (Decidable (_ → ∀ row ∈ _, _))

instance (id : Int) (source : FundingSource) (quota : Int) (store : Store) :
    Decidable (RefundedIfFailed id source quota store) :=
  inferInstanceAs (Decidable (∀ row ∈ _, _))

def oneTask (task : Task) : Store where
  table :=
    { ids := [task.id]
      nodup := nodup_singleton task.id
      rows := fun id => if id = task.id then some task else none
      keyed := by
        intro id other found
        rw [Option.ite_none_right_eq_some] at found
        obtain ⟨same, found⟩ := found
        cases found
        exact same.symm }
  ledger := []

def videoTask : Task :=
  { id := 1, taskID := "task_1", platform := "kling", userId := 7, channelId := 3, quota := 500,
    status := statusInProgress, progress := "30%", submitTime := 1771718400 }

/-- A round in which the channels are there or not, and the upstream says that a video failed. -/
def failingRound (channelExists : Bool) : PollInput where
  timeoutMinutes := 0
  now := 1771722000
  limit := 1000
  platformOrder := ⟨fun keys => keys, fun _ => .refl _⟩
  channelOrder := ⟨fun keys => keys, fun _ => .refl _⟩
  channelExists := fun _ => channelExists
  suno := fun _ => .failed
  video := fun _ _ => .answered { result := some { status := "FAILURE", reason := "blocked" } }
  serverAddress := ""

/-- A round finds the failure; the sweep and the round after it leave the task alone. -/
theorem failed_refunded_video :
    RefundedIfFailed 1 (.wallet 7) 500 (run Store.step (oneTask videoTask)
      [.poll (failingRound true), .sweep 60 1771729200, .poll (failingRound true)]) :=
  failed_refunded (oneTask videoTask) 1 videoTask rfl (by decide) (by decide) rfl
    [.poll (failingRound true), .sweep 60 1771729200, .poll (failingRound true)]
    (by decide +kernel)

/-- Three runs that fail a task without a refund: its channel is gone, it has no upstream id, and a
user asks for it in real time before the next round does. -/
theorem failed_not_refunded :
    ¬RefundedIfFailed 1 (.wallet 7) 500
        (run Store.step (oneTask videoTask) [.poll (failingRound false)]) ∧
      ¬RefundedIfFailed 1 (.wallet 7) 500
        (run Store.step (oneTask { videoTask with taskID := "" }) [.poll (failingRound true)]) ∧
      ¬RefundedIfFailed 1 (.wallet 7) 500
        (run Store.step (oneTask videoTask) [.fetch 1 "" { status := "FAILURE" }]) := by
  decide +kernel

end StuHelper.Tasks

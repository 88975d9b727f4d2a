import StuHelper.Tasks.Frames

/-!
# The turn of a task

A task has its turn in a round when its channel is polled.  Until then the store still has the row
that was read, and the memory of the round has the task under its upstream id.  That no earlier
part of the round takes the turn of another task needs the upstream ids of a platform to be apart:
the memory has one key for all channels.
-/

namespace StuHelper.Tasks

open Lib List

/-! ## Items of an answer -/

def Fetch.itemsFor (key : String) : Fetch (List SunoDataResponse) → List SunoDataResponse
  | .answered items => items.filter fun item => item.taskID = key
  | .failed => []
  | .panicked => []

/-! ## Waiting -/

/-- The turn of the task has not come: the store still has the row that was read, and if the task
is in memory, it is that row. -/
structure Waiting (id : Int) (row : Task) (refunds : List Entry) (polling : Polling) : Prop where
  elsewhere : Elsewhere id (· = row.getUpstreamTaskID) polling.memory
  view : polling.store.view id = (some row, refunds)
  own : ∀ task, polling.memory row.getUpstreamTaskID = some task →
    task = row ∧ isFinal row.status = false

variable {refunds : List Entry}

theorem Waiting.untouched {id : Int} {row : Task} {polling after : Polling}
    (waiting : Waiting id row refunds polling)
    (untouched : Untouched id (· = row.getUpstreamTaskID) polling after) :
    Waiting id row refunds after where
  elsewhere := untouched.elsewhere
  view := untouched.view.trans waiting.view
  own := by
    intro task found
    rw [untouched.memory row.getUpstreamTaskID rfl] at found
    exact waiting.own task found

/-! ## Apart from the other tasks -/

/-- A task has an upstream id that no other task of its platform has, and the Suno channels other
than its own do not answer for it. -/
structure Apart (input : PollInput) (others : List Task) (row : Task) : Prop where
  named : row.getUpstreamTaskID ≠ ""
  unique : ∀ other ∈ others, other.platform = row.platform →
    other.getUpstreamTaskID = row.getUpstreamTaskID → other.id = row.id
  foreign : row.platform = "suno" → ∀ other ∈ others, other.platform = row.platform →
    other.channelId ≠ row.channelId →
      (input.suno other.channelId).itemsFor row.getUpstreamTaskID = []

section Own

variable {input : PollInput} {allTasks : List Task} {row : Task}

variable (apart : Apart input allTasks row)
  (current : ∀ task ∈ allTasks, task.id = row.id → task = row ∧ isFinal row.status = false)

include current in
/-- Before the channels of the platform are polled, a task that has its place in memory waits for
its turn. -/
theorem waiting_of_own (named : row.getUpstreamTaskID ≠ "") {store : Store}
    (view : store.view row.id = (some row, refunds))
    (own : ∀ task, taskM (platformTasks allTasks row.platform) row.getUpstreamTaskID = some task →
      task = row ∧ isFinal row.status = false) :
    Waiting row.id row refunds
      ⟨store.bulkFail (nullTaskIds (platformTasks allTasks row.platform)) none,
        taskM (platformTasks allTasks row.platform), false⟩ where
  elsewhere := by
    intro key task found different same
    obtain ⟨listed, upstream⟩ := taskM_some found
    obtain ⟨inAll, -⟩ := mem_platformTasks.mp (mem_withUpstream.mp listed).1
    obtain ⟨rfl, -⟩ := current task inAll same
    exact different upstream.symm
  view := by
    refine (store.bulkFail_view_of_notMem (notMem_nullTaskIds ?_) none).trans view
    intro task member same
    obtain ⟨rfl, -⟩ := current task (mem_platformTasks.mp member).1 same
    exact named
  own := own

include apart current

theorem eq_row_of_upstream {task : Task} (member : task ∈ platformTasks allTasks row.platform)
    (same : task.getUpstreamTaskID = row.getUpstreamTaskID) :
    task = row ∧ isFinal row.status = false := by
  obtain ⟨listed, platform⟩ := mem_platformTasks.mp member
  exact current task listed (apart.unique task listed platform same)

theorem count_upstream (nodup : (allTasks.map Task.id).Nodup) (channelId : Int) :
    (channelUpstreamIDs (platformTasks allTasks row.platform) channelId).count
      row.getUpstreamTaskID ≤ 1 := by
  have byId := nodup_iff_count_le_one.mp nodup row.id
  rw [count, countP_map] at byId
  rw [channelUpstreamIDs, count, countP_map]
  refine Nat.le_trans (List.Sublist.countP_le
    (filter_sublist.trans filter_sublist)) ?_
  refine Nat.le_trans (countP_mono_left (fun task member loud => ?_))
    (Nat.le_trans (List.Sublist.countP_le filter_sublist) byId)
  have same := (eq_row_of_upstream apart current member (beq_iff_eq.mp loud)).1
  rw [same]
  exact beq_self_eq_true row.id

theorem waiting_taskM {store : Store} (view : store.view row.id = (some row, refunds)) :
    Waiting row.id row refunds
      ⟨store.bulkFail (nullTaskIds (platformTasks allTasks row.platform)) none,
        taskM (platformTasks allTasks row.platform), false⟩ := by
  refine waiting_of_own current apart.named view fun task found => ?_
  obtain ⟨listed, upstream⟩ := taskM_some found
  exact eq_row_of_upstream apart current (mem_withUpstream.mp listed).1 upstream

theorem updateChannel_untouched {channelId : Int}
    (member : channelId ∈ taskChannels (platformTasks allTasks row.platform))
    (different : channelId ≠ row.channelId) {polling : Polling}
    (elsewhere : Elsewhere row.id (· = row.getUpstreamTaskID) polling.memory) :
    Untouched row.id (· = row.getUpstreamTaskID) polling
      (polling.updateChannel input row.platform (platformTasks allTasks row.platform)
        channelId) := by
  have quiet : ∀ key ∈ channelUpstreamIDs (platformTasks allTasks row.platform) channelId,
      ¬key = row.getUpstreamTaskID := by
    intro key member same
    obtain ⟨_, listed, upstream⟩ := mem_map.mp member
    obtain ⟨inTasks, channel⟩ := mem_filter.mp listed
    obtain ⟨rfl, -⟩ := eq_row_of_upstream apart current (mem_withUpstream.mp inTasks).1
      (upstream.trans same)
    exact different (of_decide_eq_true channel).symm
  rw [Polling.updateChannel]
  split
  · rename_i suno
    obtain ⟨other, listed, rfl⟩ := mem_taskChannels member
    obtain ⟨inAll, platform⟩ := mem_platformTasks.mp listed
    have foreign := apart.foreign suno other inAll platform different
    refine Untouched.updateSunoTasks elsewhere quiet input other.channelId ?_
    intro items answered item member same
    rw [answered, Fetch.itemsFor, filter_eq_nil_iff] at foreign
    exact foreign item member (decide_eq_true same)
  · exact Untouched.updateVideoTasks elsewhere quiet input channelId

end Own

end StuHelper.Tasks

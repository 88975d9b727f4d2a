import Mathlib.Data.List.Dedup
import StuHelper.Lib.Run
import StuHelper.Tasks.Task

/-!
# Polling rounds

`pollTasksOnce` sweeps the timed-out tasks, reads the unfinished ones, and polls them by platform
and channel.  The tasks that it has read stay in memory, in a map by upstream id, and are looked
up there when the answers come.  Tasks without an upstream id and tasks of a channel that is gone
are failed in bulk.

The rounds, the sweeps and the real-time fetches come one after the other here, and the store
does not fail.
-/

namespace StuHelper.Tasks

open Lib

/-! ## The store -/

structure Table where
  ids : List Int
  nodup : ids.Nodup
  rows : Int → Option Task
  keyed : ∀ {id : Int} {task : Task}, rows id = some task → task.id = id

namespace Table

def all (table : Table) : List Task := table.ids.filterMap table.rows

def put (table : Table) (task : Task) : Table where
  ids := table.ids
  nodup := table.nodup
  rows := Function.update table.rows task.id (some task)
  keyed := by
    intro id other found
    by_cases same : id = task.id
    · rw [same, Function.update_self] at found
      cases found
      exact same.symm
    · rw [Function.update_of_ne same] at found
      exact table.keyed found

theorem put_rows_self (table : Table) (task : Task) : (table.put task).rows task.id = some task :=
  Function.update_self ..

theorem put_rows_of_ne (table : Table) {task : Task} {id : Int} (different : id ≠ task.id) :
    (table.put task).rows id = table.rows id := Function.update_of_ne different ..

/-- `TaskBulkUpdateByID` with the status `FAILURE` and the progress `100%`. -/
def bulkFail (table : Table) (taskIds : List Int) (failReason : Option String) : Table where
  ids := table.ids
  nodup := table.nodup
  rows := fun id => (table.rows id).map fun task =>
    if id ∈ taskIds then
      { task with
        status := statusFailure
        progress := "100%"
        failReason := failReason.getD task.failReason }
    else task
  keyed := by
    intro id other found
    obtain ⟨_, there, rfl⟩ := Option.map_eq_some_iff.mp found
    have key := table.keyed there
    split
    · exact key
    · exact key

end Table

/-- The table and the adjustments of the funding sources. -/
structure Store where
  table : Table
  ledger : List Entry

namespace Store

/-- Carry out a decision: the write, then the bill.  The task is the one in memory afterwards. -/
def perform (store : Store) (decision : Decision) : Store × Task :=
  let won := (store.table.rows decision.task.id).any decision.write.hits
  let paid := (decision.billIf won).pay decision.task true
  (⟨if won then store.table.put decision.task else store.table, store.ledger ++ paid.1⟩, paid.2)

/-- `TaskBulkUpdateByID`. -/
def bulkFail (store : Store) (taskIds : List Int) (failReason : Option String) : Store :=
  { store with table := store.table.bulkFail taskIds failReason }

def getTimedOutUnfinishedTasks (store : Store) (cutoffUnix : Int) (limit : Nat) : List Task :=
  ((store.table.all.filter (Task.isTimedOut cutoffUnix)).mergeSort
    fun task other => task.submitTime ≤ other.submitTime).take limit

def getAllUnFinishSyncTasks (store : Store) (limit : Nat) : List Task :=
  (store.table.all.filter Task.isUnfinished).take limit

def sweepTimedOutTasks (store : Store) (timeoutMinutes now : Int) : Store :=
  if timeoutMinutes ≤ 0 then store
  else (store.getTimedOutUnfinishedTasks (now - timeoutMinutes * 60) 100).foldl
    (fun store task => (store.perform (sweepTimedOutTask timeoutMinutes now task)).1) store

end Store

/-! ## Answers -/

/-- How a request to the upstream ends. -/
inductive Fetch (α : Type) where
  | failed
  /-- The code panics on the answer. -/
  | panicked
  | answered (answer : α)
  deriving DecidableEq, Repr

/-- An order in which Go walks through the keys of a map. -/
structure MapOrder (α : Type) where
  shuffle : List α → List α
  perm : ∀ keys, (shuffle keys).Perm keys

/-- What a round meets. -/
structure PollInput where
  timeoutMinutes : Int
  now : Int
  /-- `TaskQueryLimit`. -/
  limit : Nat
  platformOrder : MapOrder String
  channelOrder : MapOrder Int
  /-- `CacheGetChannel` succeeds. -/
  channelExists : Int → Bool
  /-- The items for a Suno channel. -/
  suno : Int → Fetch (List SunoDataResponse)
  /-- The answer for a task of a channel, by its position. -/
  video : Int → Nat → Fetch VideoAnswer
  serverAddress : String

/-! ## Polling -/

/-- A round on its way. -/
structure Polling where
  store : Store
  /-- `taskM`. -/
  memory : String → Option Task
  /-- The code has panicked, and the rest of the round is skipped. -/
  aborted : Bool

namespace Polling

/-- Carry out a decision about the task in memory with an upstream id. -/
def perform (polling : Polling) (upstreamID : String) (decision : Decision) : Polling :=
  { polling with
    store := (polling.store.perform decision).1
    memory := Function.update polling.memory upstreamID (some (polling.store.perform decision).2) }

/-- One item of a Suno answer.  An item of an unknown task is a nil pointer. -/
def sunoItem (polling : Polling) (item : SunoDataResponse) : Polling :=
  if polling.aborted then polling
  else
    match polling.memory item.taskID with
    | none => { polling with aborted := true }
    | some task => polling.perform item.taskID (updateSunoTask task item)

/-- The bulk update of the tasks of a channel that is gone. -/
def failChannel (polling : Polling) (upstreamIDs : List String) (failReason : String) : Polling :=
  { polling with
    store := polling.store.bulkFail ((upstreamIDs.filterMap polling.memory).map Task.id)
      (some failReason) }

def updateSunoTasks (input : PollInput) (channelId : Int) (upstreamIDs : List String)
    (polling : Polling) : Polling :=
  if polling.aborted then polling
  else if ¬input.channelExists channelId then
    polling.failChannel upstreamIDs ("获取渠道信息失败，请联系管理员，渠道ID：" ++ toString channelId)
  else
    match input.suno channelId with
    | .failed => polling
    | .panicked => { polling with aborted := true }
    | .answered items => items.foldl sunoItem polling

/-- `updateVideoSingleTask`, with the request. -/
def videoTask (serverAddress : String) (polling : Polling) (upstreamID : String)
    (fetch : Fetch VideoAnswer) : Polling :=
  if polling.aborted then polling
  else
    match polling.memory upstreamID, fetch with
    | none, _ => polling
    | some _, .failed => polling
    | some _, .panicked => { polling with aborted := true }
    | some task, .answered answer =>
      polling.perform upstreamID (Tasks.updateVideoSingleTask serverAddress task answer)

def updateVideoTasks (input : PollInput) (channelId : Int) (upstreamIDs : List String)
    (polling : Polling) : Polling :=
  if polling.aborted then polling
  else if ¬input.channelExists channelId then
    polling.failChannel upstreamIDs ("Failed to get channel info, channel ID: " ++
      toString channelId)
  else upstreamIDs.zipIdx.foldl (fun polling numbered =>
    polling.videoTask input.serverAddress numbered.1 (input.video channelId numbered.2)) polling

end Polling

section Platform

variable (tasks : List Task)

def withUpstream : List Task := tasks.filter fun task => task.getUpstreamTaskID ≠ ""

def nullTaskIds : List Int :=
  (tasks.filter fun task => task.getUpstreamTaskID = "").map Task.id

/-- `taskM`: the last task with an upstream id. -/
def taskM : String → Option Task :=
  (withUpstream tasks).foldl (fun memory task =>
    Function.update memory task.getUpstreamTaskID (some task)) fun _ => none

/-- The keys of `taskChannelM`. -/
def taskChannels : List Int := ((withUpstream tasks).map Task.channelId).dedup

/-- The upstream ids of a channel in `taskChannelM`. -/
def channelUpstreamIDs (channelId : Int) : List String :=
  ((withUpstream tasks).filter fun task => task.channelId = channelId).map Task.getUpstreamTaskID

end Platform

/-- The loop bodies of `UpdateSunoTasks` and `UpdateVideoTasks`. -/
def Polling.updateChannel (input : PollInput) (platform : String) (tasks : List Task)
    (polling : Polling) (channelId : Int) : Polling :=
  if platform = "suno" then
    polling.updateSunoTasks input channelId (channelUpstreamIDs tasks channelId)
  else polling.updateVideoTasks input channelId (channelUpstreamIDs tasks channelId)

/-- `DispatchPlatformUpdate` with `UpdateSunoTasks` and `UpdateVideoTasks`. -/
def dispatchPlatformUpdate (input : PollInput) (platform : String) (tasks : List Task)
    (polling : Polling) : Polling :=
  if platform = "mj" then polling
  else
    (input.channelOrder.shuffle (taskChannels tasks)).foldl
      (Polling.updateChannel input platform tasks) polling

/-- The tasks of a platform in `platformTask`. -/
def platformTasks (allTasks : List Task) (platform : String) : List Task :=
  allTasks.filter fun task => task.platform = platform

/-- The loop body of `pollTasksOnce` for a platform. -/
def pollPlatform (input : PollInput) (allTasks : List Task) (polling : Polling)
    (platform : String) : Polling :=
  if polling.aborted then polling
  else
    dispatchPlatformUpdate input platform (platformTasks allTasks platform)
      ⟨polling.store.bulkFail (nullTaskIds (platformTasks allTasks platform)) none,
        taskM (platformTasks allTasks platform), false⟩

/-- The part of `pollTasksOnce` after the sweep. -/
def pollUnfinished (input : PollInput) (store : Store) : Store :=
  let allTasks := store.getAllUnFinishSyncTasks input.limit
  ((input.platformOrder.shuffle (allTasks.map Task.platform).dedup).foldl
    (pollPlatform input allTasks) ⟨store, fun _ => none, false⟩).store

def pollTasksOnce (input : PollInput) (store : Store) : Store :=
  pollUnfinished input (store.sweepTimedOutTasks input.timeoutMinutes input.now)

/-! ## The system -/

/-- What happens to the tasks. -/
inductive Event where
  | poll (input : PollInput)
  | sweep (timeoutMinutes now : Int)
  /-- A user asks for a task, and the upstream answers. -/
  | fetch (id : Int) (serverAddress : String) (info : TaskInfo)

def Store.step (store : Store) : Event → Store
  | .poll input => pollTasksOnce input store
  | .sweep timeoutMinutes now => store.sweepTimedOutTasks timeoutMinutes now
  | .fetch id serverAddress info =>
    match store.table.rows id with
    | none => store
    | some task => (store.perform (tryRealtimeFetch serverAddress task info)).1

end StuHelper.Tasks

import StuHelper.Tasks.Turns

/-!
# Answers reach their own tasks

A channel is asked about its own tasks, but its answer is looked up in a memory with one key for
all channels of the platform.  When the memory has the tasks that are answered for, each answer
reaches its task, and the row after a round is what the task's own answers make of it.  When two
channels use one upstream id, the memory has the task of one of them, and an answer of the other
goes there.
-/

namespace StuHelper.Tasks

open Lib Polling List

/-! ## What a task's own answers make of it -/

def Fetch.items : Fetch (List SunoDataResponse) → List SunoDataResponse
  | .answered items => items
  | .failed => []
  | .panicked => []

theorem itemsFor_eq_filter (key : String) (fetch : Fetch (List SunoDataResponse)) :
    fetch.itemsFor key = fetch.items.filter fun item => item.taskID = key := by
  cases fetch with
  | failed | panicked | answered => rfl

/-- The row of a task after the items of its own channel for its upstream id, or after the answer
of its own channel at its place. -/
def PollInput.ownRow (input : PollInput) (allTasks : List Task) (row : Task) : Task :=
  if row.platform = "mj" then row
  else if row.platform = "suno" then
    ((input.suno row.channelId).itemsFor row.getUpstreamTaskID).foldl
      (fun row item => (updateSunoTask row item).outcome row) row
  else
    let place := (channelUpstreamIDs (platformTasks allTasks row.platform) row.channelId).idxOf
      row.getUpstreamTaskID
    match input.video row.channelId place with
    | .failed => row
    | .panicked => row
    | .answered answer => (updateVideoSingleTask input.serverAddress row answer).outcome row

/-- The channel of the task answers for it. -/
def PollInput.answers (input : PollInput) (allTasks : List Task) (task : Task) : Bool :=
  if task.platform = "mj" then false
  else if task.platform = "suno" then
    (input.suno task.channelId).itemsFor task.getUpstreamTaskID ≠ []
  else
    input.video task.channelId ((channelUpstreamIDs (platformTasks allTasks task.platform)
      task.channelId).idxOf task.getUpstreamTaskID) ≠ .failed

/-- Between the two stores, each task that was read has had its own answers, and nothing else has
changed a row. -/
def OnlyOwnAnswers (input : PollInput) (before after : Store) : Prop :=
  ∀ id, after.table.rows id = (before.table.rows id).map fun row =>
    if row ∈ before.getAllUnFinishSyncTasks input.limit then
      input.ownRow (before.getAllUnFinishSyncTasks input.limit) row
    else row

/-- The upstream ids are apart within each channel. -/
def UniquePerChannel (tasks : List Task) : Prop :=
  ∀ task ∈ tasks, ∀ other ∈ tasks, other.platform = task.platform →
    other.channelId = task.channelId → other.getUpstreamTaskID = task.getUpstreamTaskID →
    other.id = task.id

/-- A task that its channel answers for is the one in memory: no task after it has its platform and
its upstream id.  Every task has an upstream id, the channels are there, the code does not panic on
their answers, and the items of a Suno channel are for its tasks. -/
@[mk_iff]
structure Separate (input : PollInput) (tasks : List Task) : Prop where
  named : ∀ task ∈ tasks, task.getUpstreamTaskID ≠ ""
  own : ∀ task ∈ tasks, input.answers tasks task = true →
    taskM (platformTasks tasks task.platform) task.getUpstreamTaskID = some task
  channel : ∀ task ∈ tasks, task.platform ≠ "mj" → input.channelExists task.channelId = true
  sunoCalm : ∀ task ∈ tasks, task.platform = "suno" → input.suno task.channelId ≠ .panicked
  items : ∀ task ∈ tasks, task.platform = "suno" → ∀ item ∈ (input.suno task.channelId).items,
    ∃ other ∈ tasks, other.platform = "suno" ∧ other.channelId = task.channelId ∧
      other.getUpstreamTaskID = item.taskID
  videoCalm : ∀ task ∈ tasks, task.platform ≠ "mj" → task.platform ≠ "suno" →
    ∀ place < (channelUpstreamIDs (platformTasks tasks task.platform) task.channelId).length,
      input.video task.channelId place ≠ .panicked

/-! ## The round goes on -/

/-- The code has not panicked, and the tasks are all in memory. -/
structure Live (tasks : List Task) (polling : Polling) : Prop where
  going : polling.aborted = false
  held : ∀ task ∈ withUpstream tasks, ∃ other, polling.memory task.getUpstreamTaskID = some other

variable {item : SunoDataResponse}

namespace Polling

variable {polling : Polling} {input : PollInput}

variable {task : Task} {channelId : Int}

theorem sunoItem_found (going : polling.aborted = false)
    (found : polling.memory item.taskID = some task) :
    polling.sunoItem item = polling.perform item.taskID (updateSunoTask task item) := by
  simp only [sunoItem, going, found, Bool.false_eq_true, if_false]

theorem videoTask_found (going : polling.aborted = false) (serverAddress : String) {key : String}
    (found : polling.memory key = some task) (answer : VideoAnswer) :
    polling.videoTask serverAddress key (.answered answer) =
      polling.perform key (updateVideoSingleTask serverAddress task answer) := by
  simp only [videoTask, going, found, Bool.false_eq_true, if_false]

theorem videoTask_failed (serverAddress key : String) :
    polling.videoTask serverAddress key .failed = polling := by
  simp only [videoTask]
  split
  · rfl
  · cases polling.memory key with
    | none | some => rfl

theorem updateSunoTasks_eq (going : polling.aborted = false)
    (open_ : input.channelExists channelId = true) (calm : input.suno channelId ≠ .panicked)
    (upstreamIDs : List String) :
    polling.updateSunoTasks input channelId upstreamIDs =
      (input.suno channelId).items.foldl sunoItem polling := by
  rw [updateSunoTasks, going, open_, if_neg Bool.false_ne_true, if_neg (not_not_intro rfl)]
  cases answer : input.suno channelId with
  | failed => rfl
  | panicked => exact absurd answer calm
  | answered => rfl

theorem updateVideoTasks_eq (going : polling.aborted = false)
    (open_ : input.channelExists channelId = true) (upstreamIDs : List String) :
    polling.updateVideoTasks input channelId upstreamIDs =
      upstreamIDs.zipIdx.foldl (fun polling numbered =>
        polling.videoTask input.serverAddress numbered.1 (input.video channelId numbered.2))
        polling := by
  rw [updateVideoTasks, going, open_, if_neg Bool.false_ne_true, if_neg (not_not_intro rfl)]

end Polling

namespace Live

variable {tasks : List Task} {polling : Polling}

variable (live : Live tasks polling)

include live

theorem perform (key : String) (decision : Decision) :
    Live tasks (polling.perform key decision) where
  going := live.going
  held := by
    intro task member
    by_cases here : task.getUpstreamTaskID = key
    · rw [here]
      exact ⟨_, polling.perform_memory_self key decision⟩
    · rw [polling.perform_memory_of_ne here]
      exact live.held task member

theorem sunoItem (known : ∃ task ∈ withUpstream tasks, task.getUpstreamTaskID = item.taskID) :
    Live tasks (polling.sunoItem item) := by
  obtain ⟨task, member, same⟩ := known
  obtain ⟨_, found⟩ := live.held task member
  rw [same] at found
  rw [sunoItem_found live.going found]
  exact live.perform _ _

theorem videoTask (serverAddress key : String) {fetch : Fetch VideoAnswer}
    (calm : fetch ≠ .panicked) : Live tasks (polling.videoTask serverAddress key fetch) := by
  cases fetch with
  | failed =>
    rw [videoTask_failed]
    exact live
  | panicked => exact absurd rfl calm
  | answered =>
    cases found : polling.memory key with
    | none =>
      simp only [Polling.videoTask, live.going, found]
      exact live
    | some =>
      rw [videoTask_found live.going serverAddress found]
      exact live.perform _ _

end Live

theorem taskM_of_mem {tasks : List Task} {task : Task} (member : task ∈ withUpstream tasks) :
    ∃ other, taskM tasks task.getUpstreamTaskID = some other := by
  rw [taskM]
  generalize withUpstream tasks = named at member
  induction named using reverseRecOn with
  | nil => cases member
  | append_singleton front last ih =>
    rw [foldl_append, foldl_cons, foldl_nil]
    by_cases here : task.getUpstreamTaskID = last.getUpstreamTaskID
    · rw [here, Function.update_self]
      exact ⟨last, rfl⟩
    rw [Function.update_of_ne here]
    apply ih
    cases mem_append.mp member with
    | inl earlier => exact earlier
    | inr same =>
      rw [mem_singleton.mp same] at here
      exact absurd rfl here

/-- A round starts a platform with all its tasks in memory. -/
theorem live_taskM (tasks : List Task) (store : Store) : Live tasks ⟨store, taskM tasks, false⟩ :=
  ⟨rfl, fun _ member => taskM_of_mem member⟩

/-! ## The task's own turn -/

/-- The task is in memory as it is in the store. -/
structure Synced (id : Int) (key : String) (row : Task) (polling : Polling) : Prop where
  elsewhere : Elsewhere id (· = key) polling.memory
  found : polling.store.table.rows id = some row
  own : polling.memory key = some row

/-- The task has had its turn, and this is its row. -/
structure Settled (id : Int) (key : String) (row : Task) (polling : Polling) : Prop where
  elsewhere : Elsewhere id (· = key) polling.memory
  found : polling.store.table.rows id = some row

section Turn

variable {id : Int} {key : String} {row : Task} {refunds : List Entry} {tasks : List Task}
  {polling after : Polling}

theorem rows_of_view (view : polling.store.view id = (some row, refunds)) :
    polling.store.table.rows id = some row := congrArg Prod.fst view

theorem Untouched.rows (untouched : Untouched id (· = key) polling after) :
    after.store.table.rows id = polling.store.table.rows id := congrArg Prod.fst untouched.view

theorem Settled.untouched (settled : Settled id key row polling)
    (untouched : Untouched id (· = key) polling after) : Settled id key row after :=
  ⟨untouched.elsewhere, untouched.rows.trans settled.found⟩

/-- A task that waits for its turn in a round that goes on is in memory as it is in the store. -/
theorem Waiting.synced (waiting : Waiting id row refunds polling) (live : Live tasks polling)
    (listed : row ∈ withUpstream tasks) : Synced id row.getUpstreamTaskID row polling := by
  obtain ⟨other, found⟩ := live.held row listed
  obtain ⟨rfl, -⟩ := waiting.own other found
  exact ⟨waiting.elsewhere, rows_of_view waiting.view, found⟩

variable (synced : Synced id key row polling)

include synced

theorem Synced.untouched (untouched : Untouched id (· = key) polling after) :
    Synced id key row after :=
  ⟨untouched.elsewhere, untouched.rows.trans synced.found,
    (untouched.memory key rfl).trans synced.own⟩

theorem Synced.settled : Settled id key row polling :=
  ⟨synced.elsewhere, synced.found⟩

theorem Synced.perform {decision : Decision} (same : decision.task.id = row.id) :
    Settled id key (decision.outcome row) (polling.perform key decision) where
  elsewhere := by
    intro other task found different
    rw [perform_memory_of_ne _ different] at found
    exact synced.elsewhere other task found different
  found := polling.store.perform_rows synced.found same

theorem Synced.sunoItem (going : polling.aborted = false) (meant : item.taskID = key) :
    Synced id key ((updateSunoTask row item).outcome row) (polling.sunoItem item) := by
  have found : polling.memory item.taskID = some row := by
    rw [meant]
    exact synced.own
  rw [sunoItem_found going found, meant]
  have settled := synced.perform (updateSunoTask_same row item).id
  refine ⟨settled.elsewhere, settled.found, ?_⟩
  -- what an item makes of a task is what is written, and what stays in memory
  have written : (updateSunoTask row item).outcome row = (updateSunoTask row item).task := by
    rw [Decision.outcome, updateSunoTask]
    split
    · split
      · exact if_pos (decide_eq_true rfl)
      · exact if_pos rfl
    · exact ite_self row
  simp only [perform_memory_self, written, Store.perform]
  generalize (polling.store.table.rows _).any _ = won
  cases won with
  | false | true =>
    rw [updateSunoTask]
    split
    · split
      · rfl
      · rfl
    · rfl

theorem Synced.sunoItems (live : Live tasks polling) {items : List SunoDataResponse}
    (known : ∀ item ∈ items, ∃ task ∈ withUpstream tasks, task.getUpstreamTaskID = item.taskID) :
    Synced id key
      ((items.filter fun item => item.taskID = key).foldl
        (fun row item => (updateSunoTask row item).outcome row) row)
      (items.foldl Polling.sunoItem polling) := by
  induction items generalizing polling row with
  | nil => exact synced
  | cons item items ih =>
    have goesOn := live.sunoItem (known item (.head _))
    have later := fun other member => known other (.tail _ member)
    by_cases meant : item.taskID = key
    · rw [filter_cons, if_pos (decide_eq_true meant)]
      exact ih (synced.sunoItem live.going meant) goesOn later
    · rw [filter_cons, if_neg fun loud => meant (of_decide_eq_true loud)]
      exact ih (synced.untouched (Untouched.sunoItem synced.elsewhere meant)) goesOn later

theorem Synced.videoTask (going : polling.aborted = false) (serverAddress : String)
    (fetch : Fetch VideoAnswer) :
    Settled id key
      (match fetch with
        | .failed => row
        | .panicked => row
        | .answered answer => (updateVideoSingleTask serverAddress row answer).outcome row)
      (polling.videoTask serverAddress key fetch) := by
  cases fetch with
  | failed =>
    rw [Polling.videoTask_failed]
    exact synced.settled
  | panicked =>
    simp only [Polling.videoTask, going, synced.own]
    exact ⟨synced.elsewhere, synced.found⟩
  | answered answer =>
    rw [Polling.videoTask_found going serverAddress synced.own]
    exact synced.perform (updateVideoSingleTask_same serverAddress row answer).id

end Turn

/-! ## The task's platform -/

section Platform

variable {input : PollInput} {allTasks : List Task} (separate : Separate input allTasks)

include separate

variable {task row : Task} {refunds : List Entry}

theorem Separate.mem_withUpstream (member : task ∈ allTasks) :
    task ∈ withUpstream (platformTasks allTasks task.platform) :=
  Tasks.mem_withUpstream.mpr ⟨mem_platformTasks.mpr ⟨member, rfl⟩, separate.named task member⟩

theorem Separate.known (member : task ∈ allTasks) (suno : task.platform = "suno")
    (listed : item ∈ (input.suno task.channelId).items) :
    ∃ other ∈ withUpstream (platformTasks allTasks "suno"),
      other.getUpstreamTaskID = item.taskID := by
  obtain ⟨owner, there, onSuno, -, upstream⟩ := separate.items task member suno item listed
  refine ⟨owner, ?_, upstream⟩
  rw [← onSuno]
  exact separate.mem_withUpstream there

theorem Separate.updateChannel_live {platform : String} (polled : platform ≠ "mj")
    {channelId : Int} (member : channelId ∈ taskChannels (platformTasks allTasks platform))
    {polling : Polling} (live : Live (platformTasks allTasks platform) polling) :
    Live (platformTasks allTasks platform)
      (polling.updateChannel input platform (platformTasks allTasks platform) channelId) := by
  obtain ⟨task, listed, rfl⟩ := mem_taskChannels member
  obtain ⟨inAll, rfl⟩ := mem_platformTasks.mp listed
  have exists_ := separate.channel task inAll polled
  rw [updateChannel]
  split
  · rename_i suno
    rw [updateSunoTasks_eq live.going exists_ (separate.sunoCalm task inAll suno)]
    refine @run_invariant_of_mem _ _ _ (Live _) _ ?_ _ live
    intro state item inItems live
    rw [suno]
    rw [suno] at live
    exact live.sunoItem (separate.known inAll suno inItems)
  · rename_i other
    rw [updateVideoTasks_eq live.going exists_]
    refine @run_invariant_of_mem _ _ _ (Live _) _ ?_ _ live
    intro state numbered inIds live
    exact live.videoTask _ _
      (separate.videoCalm task inAll polled other _ (snd_lt_of_mem_zipIdx inIds))

/-- A task that is not the one in memory is left as it is by its own answers: there are none. -/
theorem Separate.ownRow_eq (member : row ∈ allTasks)
    (other : taskM (platformTasks allTasks row.platform) row.getUpstreamTaskID ≠ some row) :
    input.ownRow allTasks row = row := by
  have silent := mt (separate.own row member) other
  rw [PollInput.answers] at silent
  rw [PollInput.ownRow]
  split_ifs with manual suno
  · rfl
  · rw [if_neg manual, if_pos suno, decide_eq_true_eq, not_ne_iff] at silent
    rw [silent, foldl_nil]
  · rw [if_neg manual, if_neg suno, decide_eq_true_eq, not_ne_iff] at silent
    simp only [silent]

variable (unique : UniquePerChannel allTasks) (nodup : (allTasks.map Task.id).Nodup)

include unique nodup

omit separate in
theorem UniquePerChannel.nodup_upstreamIDs (platform : String) (channelId : Int) :
    (channelUpstreamIDs (platformTasks allTasks platform) channelId).Nodup := by
  apply List.Nodup.map_on
  · intro task member other listed same
    obtain ⟨inChannel, channel⟩ := mem_filter.mp member
    obtain ⟨otherInChannel, otherChannel⟩ := mem_filter.mp listed
    obtain ⟨inAll, onPlatform⟩ := mem_platformTasks.mp (Tasks.mem_withUpstream.mp inChannel).1
    obtain ⟨otherInAll, otherOnPlatform⟩ :=
      mem_platformTasks.mp (Tasks.mem_withUpstream.mp otherInChannel).1
    exact inj_on_of_nodup_map nodup inAll otherInAll (unique other otherInAll task inAll
      (onPlatform.trans otherOnPlatform.symm)
      ((of_decide_eq_true channel).trans (of_decide_eq_true otherChannel).symm) same)
  · exact (((nodup.of_map _).filter _).filter _).filter _

omit separate unique nodup in
theorem idxOf_of_mem_zipIdx {ids : List String} (nodup : ids.Nodup) {numbered : String × Nat}
    (member : numbered ∈ ids.zipIdx) : ids.idxOf numbered.1 = numbered.2 := by
  obtain ⟨inside, same⟩ := List.getElem?_eq_some_iff.mp (mem_zipIdx_iff_getElem?.mp member)
  rw [← same, nodup.idxOf_getElem]

/-- Another channel does not touch the task in memory. -/
theorem Separate.updateChannel_untouched (polled : row.platform ≠ "mj")
    (own : taskM (platformTasks allTasks row.platform) row.getUpstreamTaskID = some row)
    {channelId : Int} (member : channelId ∈ taskChannels (platformTasks allTasks row.platform))
    (different : channelId ≠ row.channelId) {polling : Polling}
    (live : Live (platformTasks allTasks row.platform) polling)
    (elsewhere : Elsewhere row.id (· = row.getUpstreamTaskID) polling.memory) :
    Untouched row.id (· = row.getUpstreamTaskID) polling
      (polling.updateChannel input row.platform (platformTasks allTasks row.platform)
        channelId) := by
  -- A task of the channel with the upstream id of this one is not answered for.
  have silent : ∀ task ∈ allTasks, task.platform = row.platform → task.channelId = channelId →
      task.getUpstreamTaskID = row.getUpstreamTaskID → input.answers allTasks task ≠ true := by
    intro task listed platform channel upstream answered
    have found := separate.own task listed answered
    rw [platform, upstream, own] at found
    cases found
    exact different channel.symm
  obtain ⟨task, listed, rfl⟩ := mem_taskChannels member
  obtain ⟨inAll, platform⟩ := mem_platformTasks.mp listed
  have exists_ := separate.channel task inAll (platform ▸ polled)
  rw [updateChannel]
  split
  · rename_i suno
    rw [updateSunoTasks_eq live.going exists_ (separate.sunoCalm task inAll (platform.trans suno))]
    refine Untouched.loop elsewhere fun _ item inItems elsewhere =>
      Untouched.sunoItem elsewhere fun meant => ?_
    obtain ⟨other, there, onSuno, channel, upstream⟩ :=
      separate.items task inAll (platform.trans suno) item inItems
    refine silent other there (onSuno.trans suno.symm) channel (upstream.trans meant) ?_
    rw [PollInput.answers, if_neg (by rw [onSuno, ← suno]; exact polled), if_pos onSuno]
    rw [channel, itemsFor_eq_filter, upstream]
    exact decide_eq_true (ne_nil_of_mem (mem_filter.mpr ⟨inItems, decide_eq_true rfl⟩))
  · rename_i other
    rw [updateVideoTasks_eq live.going exists_]
    refine Untouched.loop elsewhere fun state numbered inZip elsewhere => ?_
    by_cases meant : numbered.1 = row.getUpstreamTaskID
    · obtain ⟨sharer, inChannel, upstream⟩ := mem_map.mp (fst_mem_of_mem_zipIdx inZip)
      obtain ⟨inTasks, channel⟩ := mem_filter.mp inChannel
      obtain ⟨there, on⟩ := mem_platformTasks.mp (Tasks.mem_withUpstream.mp inTasks).1
      have quiet := silent sharer there on (of_decide_eq_true channel) (upstream.trans meant)
      rw [PollInput.answers, on, if_neg polled, if_neg other, of_decide_eq_true channel, upstream,
        idxOf_of_mem_zipIdx (unique.nodup_upstreamIDs nodup _ _) inZip, ne_eq, decide_eq_true_eq,
        not_ne_iff] at quiet
      rw [quiet, videoTask_failed]
      exact Untouched.refl elsewhere
    · exact Untouched.videoTask elsewhere _ meant _

theorem Separate.updateChannel_settled (member : row ∈ allTasks) (polled : row.platform ≠ "mj")
    {polling : Polling} (live : Live (platformTasks allTasks row.platform) polling)
    (waiting : Waiting row.id row refunds polling) :
    Settled row.id row.getUpstreamTaskID (input.ownRow allTasks row)
      (polling.updateChannel input row.platform (platformTasks allTasks row.platform)
        row.channelId) := by
  have exists_ := separate.channel row member polled
  have listed := separate.mem_withUpstream member
  rw [updateChannel, PollInput.ownRow, if_neg polled]
  split
  · rename_i suno
    rw [updateSunoTasks_eq live.going exists_ (separate.sunoCalm row member suno),
      itemsFor_eq_filter]
    refine ((waiting.synced live listed).sunoItems live fun item inItems => ?_).settled
    rw [suno]
    exact separate.known member suno inItems
  · rename_i other
    have distinct := unique.nodup_upstreamIDs nodup row.platform row.channelId
    have inIds : row.getUpstreamTaskID ∈
        channelUpstreamIDs (platformTasks allTasks row.platform) row.channelId :=
      mem_map_of_mem (mem_filter.mpr ⟨listed, decide_eq_true rfl⟩)
    rw [updateVideoTasks_eq live.going exists_]
    refine @run_exactly_once _ _ _ _ _
      (fun polling => Live (platformTasks allTasks row.platform) polling ∧
        Waiting row.id row refunds polling)
      (Settled row.id row.getUpstreamTaskID _) Prod.fst row.getUpstreamTaskID _ ?_ ?_ ?_ ?_
      polling ⟨live, waiting⟩
    · rintro state numbered inZip different ⟨live, waiting⟩
      refine ⟨live.videoTask _ _ (separate.videoCalm row member polled other _
        (snd_lt_of_mem_zipIdx inZip)), ?_⟩
      exact waiting.untouched
        (@Untouched.videoTask row.id (· = row.getUpstreamTaskID) _ waiting.elsewhere _ _
          different _)
    · intro state numbered _ different settled
      exact settled.untouched
        (@Untouched.videoTask row.id (· = row.getUpstreamTaskID) _ settled.elsewhere _ _
          different _)
    · rintro state numbered inZip here ⟨live, waiting⟩
      rw [← here, idxOf_of_mem_zipIdx distinct inZip, here]
      exact (waiting.synced live listed).videoTask live.going _ _
    · rw [zipIdx_map_fst]
      exact count_eq_one_of_mem distinct inIds

omit unique nodup in
theorem Separate.pollPlatform_going (platform : String) {polling : Polling}
    (going : polling.aborted = false) :
    (pollPlatform input allTasks polling platform).aborted = false := by
  rw [pollPlatform, going, if_neg Bool.false_ne_true]
  simp only [dispatchPlatformUpdate]
  split
  · rfl
  rename_i polled
  refine Live.going (@run_invariant_of_mem _ _ _ (Live (platformTasks allTasks platform)) _ ?_ _
    (live_taskM _ _))
  intro state channelId member live
  exact separate.updateChannel_live polled (input.channelOrder.mem_of_shuffle member) live

theorem Separate.pollPlatform_rows (member : row ∈ allTasks)
    (unfinished : isFinal row.status = false) {polling : Polling} (going : polling.aborted = false)
    (view : polling.store.view row.id = (some row, refunds)) :
    (pollPlatform input allTasks polling row.platform).store.table.rows row.id =
      some (input.ownRow allTasks row) := by
  have current : ∀ task ∈ allTasks, task.id = row.id → task = row ∧ isFinal row.status = false :=
    fun task listed same => ⟨inj_on_of_nodup_map nodup listed member same, unfinished⟩
  by_cases own : taskM (platformTasks allTasks row.platform) row.getUpstreamTaskID = some row
  · have waiting := waiting_of_own current (separate.named row member) view fun task found =>
      ⟨Option.some.inj (found.symm.trans own), unfinished⟩
    rw [pollPlatform, going, if_neg Bool.false_ne_true]
    simp only [dispatchPlatformUpdate]
    split
    · rename_i manual
      rw [PollInput.ownRow, if_pos manual]
      exact rows_of_view waiting.view
    · rename_i polled
      refine Settled.found (And.right (@run_exactly_once _ _ _ _ _
        (fun polling => Live (platformTasks allTasks row.platform) polling ∧
          Waiting row.id row refunds polling)
        (fun polling => Live (platformTasks allTasks row.platform) polling ∧
          Settled row.id row.getUpstreamTaskID (input.ownRow allTasks row) polling)
        (fun id => id) row.channelId _ ?_ ?_ ?_ ?_ _ ⟨live_taskM _ _, waiting⟩))
      · rintro state channelId inOrder quiet ⟨live, waiting⟩
        have listed := input.channelOrder.mem_of_shuffle inOrder
        exact ⟨separate.updateChannel_live polled listed live, waiting.untouched
          (separate.updateChannel_untouched unique nodup polled own listed quiet live
            waiting.elsewhere)⟩
      · rintro state channelId inOrder quiet ⟨live, settled⟩
        have listed := input.channelOrder.mem_of_shuffle inOrder
        exact ⟨separate.updateChannel_live polled listed live, settled.untouched
          (separate.updateChannel_untouched unique nodup polled own listed quiet live
            settled.elsewhere)⟩
      · rintro state _ inOrder rfl ⟨live, waiting⟩
        exact ⟨separate.updateChannel_live polled (input.channelOrder.mem_of_shuffle inOrder) live,
          separate.updateChannel_settled unique nodup member polled live waiting⟩
      · rw [map_id']
        exact count_shuffle_of_mem input.channelOrder
          (mem_map_of_mem (separate.mem_withUpstream member))
  · -- The memory has another task, and never this one.
    rw [separate.ownRow_eq member own]
    refine rows_of_view ((pollPlatform_quiet input (notMem_nullTaskIds fun task listed same => ?_)
      ?_ polling).trans view)
    · exact separate.named task (mem_platformTasks.mp listed).1
    · intro key task found _ same
      obtain ⟨listed, upstream⟩ := taskM_some found
      obtain ⟨rfl, -⟩ := current task
        (mem_platformTasks.mp (Tasks.mem_withUpstream.mp listed).1).1 same
      exact own (upstream ▸ found)

end Platform

/-! ## The main result -/

/-- When the memory has the tasks that are answered for, a round changes each row by the answers of
the task's own channel for its own upstream id, and by nothing else. -/
theorem pollTasksOnce_onlyOwnAnswers (input : PollInput) (store : Store)
    (unique : UniquePerChannel ((store.sweepTimedOutTasks input.timeoutMinutes
      input.now).getAllUnFinishSyncTasks input.limit))
    (separate : Separate input ((store.sweepTimedOutTasks input.timeoutMinutes
      input.now).getAllUnFinishSyncTasks input.limit)) :
    OnlyOwnAnswers input (store.sweepTimedOutTasks input.timeoutMinutes input.now)
      (pollTasksOnce input store) := by
  rw [pollTasksOnce]
  generalize store.sweepTimedOutTasks input.timeoutMinutes input.now = swept at unique separate ⊢
  have nodup := @nodup_unfinished swept input.limit
  intro id
  cases there : swept.table.rows id with
  | none =>
    have absent : ∀ task ∈ swept.getAllUnFinishSyncTasks input.limit, task.id ≠ id := by
      intro task member same
      obtain ⟨found, -⟩ := mem_unfinished member
      rw [same, there] at found
      cases found
    exact (congrArg Prod.fst (pollUnfinished_view input absent)).trans there
  | some row =>
    obtain rfl : row.id = id := swept.table.keyed there
    rw [Option.map_some]
    have only : ∀ task ∈ swept.getAllUnFinishSyncTasks input.limit, task.id = row.id →
        task = row := by
      intro task member same
      obtain ⟨found, -⟩ := mem_unfinished member
      rw [same] at found
      exact Option.some.inj (found.symm.trans there)
    split
    · rename_i member
      obtain ⟨-, unfinished⟩ := mem_unfinished member
      have elsewhere {platform : String} (quiet : platform ≠ row.platform) (polling : Polling) :
          (pollPlatform input _ polling platform).store.view row.id = polling.store.view row.id :=
        pollPlatform_view input (fun task listed at_ same =>
          quiet (at_.symm.trans (congrArg Task.platform (only task listed same)))) polling
      refine And.right (@run_exactly_once _ _ _ _ _
        (fun polling : Polling => polling.aborted = false ∧
          polling.store.view row.id = (some row, refundsOf row.id swept.ledger))
        (fun polling : Polling => polling.aborted = false ∧
          polling.store.table.rows row.id = some (input.ownRow _ row))
        (fun platform => platform) row.platform _ ?_ ?_ ?_ ?_ _
        ⟨rfl, congrArg (·, _) there⟩)
      · rintro polling platform _ quiet ⟨going, view⟩
        exact ⟨separate.pollPlatform_going platform going, (elsewhere quiet polling).trans view⟩
      · rintro polling platform _ quiet ⟨going, rows⟩
        exact ⟨separate.pollPlatform_going platform going,
          (congrArg Prod.fst (elsewhere quiet polling)).trans rows⟩
      · rintro polling _ _ rfl ⟨going, view⟩
        exact ⟨separate.pollPlatform_going row.platform going,
          separate.pollPlatform_rows unique nodup member (not_final_of_unfinished unfinished)
            going view⟩
      · rw [map_id']
        exact count_shuffle_of_mem input.platformOrder (mem_map_of_mem member)
    · rename_i unread
      have absent : ∀ task ∈ swept.getAllUnFinishSyncTasks input.limit, task.id ≠ row.id := by
        intro task member same
        rw [only task member same] at member
        exact unread member
      exact (congrArg Prod.fst (pollUnfinished_view input absent)).trans there

instance (tasks : List Task) : Decidable (UniquePerChannel tasks) :=
  inferInstanceAs (Decidable (∀ task ∈ _, _))

instance (input : PollInput) (tasks : List Task) : Decidable (Separate input tasks) :=
  decidable_of_iff' _ (separate_iff input tasks)

/-- A store with two video tasks of the channels 3 and 4. -/
def twoVideos (upstreamID otherUpstreamID : String) : Store where
  table :=
    { ids := [1, 2]
      nodup := by decide
      rows := fun id =>
        if id = 1 then
          some { id := 1, taskID := "task_1", platform := "kling", channelId := 3
                 status := statusQueued, progress := "20%", upstreamTaskID := upstreamID }
        else if id = 2 then
          some { id := 2, taskID := "task_2", platform := "kling", channelId := 4
                 status := statusQueued, progress := "20%", upstreamTaskID := otherUpstreamID }
        else none
      keyed := by
        intro id task found
        split at found
        · rename_i first
          cases found
          exact first.symm
        · rw [Option.ite_none_right_eq_some] at found
          obtain ⟨second, found⟩ := found
          cases found
          exact second.symm }
  ledger := []

/-- A round in which channel 3 says that its video is half done, and channel 4 does not answer. -/
def halfDoneRound : PollInput where
  timeoutMinutes := 0
  now := 1771722000
  limit := 1000
  platformOrder := ⟨fun keys => keys, fun _ => .refl _⟩
  channelOrder := ⟨fun keys => keys, fun _ => .refl _⟩
  channelExists := fun _ => true
  suno := fun _ => .failed
  video := fun channelId _ =>
    if channelId = 3 then
      .answered { result := some { status := statusInProgress, progress := "50%" }, now := 5 }
    else .failed
  serverAddress := ""

theorem pollTasksOnce_onlyOwnAnswers_twoVideos :
    OnlyOwnAnswers halfDoneRound (twoVideos "kling_1" "kling_2")
      (pollTasksOnce halfDoneRound (twoVideos "kling_1" "kling_2")) :=
  pollTasksOnce_onlyOwnAnswers halfDoneRound (twoVideos "kling_1" "kling_2") (by decide +kernel)
    (by decide +kernel)

/-- Two channels use one upstream id: the answer of channel 3 goes to the task of channel 4, which
has not answered, and the task of channel 3 stays as it was. -/
theorem answer_reaches_foreign_task :
    UniquePerChannel ((twoVideos "kling_1" "kling_1").getAllUnFinishSyncTasks halfDoneRound.limit) ∧
      (pollTasksOnce halfDoneRound (twoVideos "kling_1" "kling_1")).table.rows 1 =
        (twoVideos "kling_1" "kling_1").table.rows 1 ∧
      ((pollTasksOnce halfDoneRound (twoVideos "kling_1" "kling_1")).table.rows 2).map
        Task.progress = some "50%" ∧ ¬OnlyOwnAnswers halfDoneRound (twoVideos "kling_1" "kling_1")
        (pollTasksOnce halfDoneRound (twoVideos "kling_1" "kling_1")) := by
  refine ⟨by decide +kernel, by decide +kernel, by decide +kernel, fun all => ?_⟩
  have second := all 2
  revert second
  decide +kernel

end StuHelper.Tasks

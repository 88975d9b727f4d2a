import Mathlib.Data.List.Induction
import StuHelper.Tasks.Books

/-!
# What a round leaves alone

A round of the poller works through many tasks.  Seen from one task, most of it is elsewhere: the
rows, the ledger and the memory of the round are looked at only where they are about this task, and
whatever does not hold it in memory leaves that part as it was.
-/

namespace StuHelper.Tasks

open Lib List

/-! ## The rest of a round -/

namespace Polling

theorem perform_memory_self (polling : Polling) (key : String) (decision : Decision) :
    (polling.perform key decision).memory key = some (polling.store.perform decision).2 :=
  Function.update_self ..

theorem perform_memory_of_ne (polling : Polling) {key other : String} (different : other ≠ key)
    (decision : Decision) : (polling.perform key decision).memory other = polling.memory other :=
  Function.update_of_ne different ..

end Polling

def Elsewhere (id : Int) (loud : String → Prop) (memory : String → Option Task) : Prop :=
  ∀ key task, memory key = some task → ¬loud key → task.id ≠ id

/-- A part of a round has not touched the task. -/
structure Untouched (id : Int) (loud : String → Prop) (before after : Polling) : Prop where
  view : after.store.view id = before.store.view id
  memory : ∀ key, loud key → after.memory key = before.memory key
  elsewhere : Elsewhere id loud after.memory

variable {task : Task}

namespace Untouched

variable {id : Int} {loud : String → Prop} {polling : Polling}

theorem trans {between after : Polling} (first : Untouched id loud polling between)
    (second : Untouched id loud between after) : Untouched id loud polling after :=
  ⟨second.view.trans first.view,
    fun key isLoud => (second.memory key isLoud).trans (first.memory key isLoud), second.elsewhere⟩

variable (elsewhere : Elsewhere id loud polling.memory)

include elsewhere

theorem refl : Untouched id loud polling polling := ⟨rfl, fun _ _ => rfl, elsewhere⟩

theorem loop {ι : Type} {step : Polling → ι → Polling} {labels : List ι}
    (quiet : ∀ polling, ∀ label ∈ labels, Elsewhere id loud polling.memory →
      Untouched id loud polling (step polling label)) :
    Untouched id loud polling (labels.foldl step polling) := by
  refine @run_invariant_of_mem _ _ step (Untouched id loud polling) labels ?_ polling
    (refl elsewhere)
  intro state label member untouched
  exact untouched.trans (quiet state label member untouched.elsewhere)

theorem perform {key : String} (found : polling.memory key = some task) (isQuiet : ¬loud key)
    {decision : Decision} (same : decision.task.id = task.id) :
    Untouched id loud polling (polling.perform key decision) := by
  have other : decision.task.id ≠ id := by
    rw [same]
    exact elsewhere key task found isQuiet
  constructor
  · exact polling.store.perform_view_of_ne other
  · intro kept isLoud
    apply polling.perform_memory_of_ne
    intro same
    rw [same] at isLoud
    exact isQuiet isLoud
  · intro anyKey held there quietKey
    by_cases here : anyKey = key
    · rw [here, Polling.perform_memory_self] at there
      cases there
      rwa [Store.perform, pay_id]
    · rw [Polling.perform_memory_of_ne _ here] at there
      exact elsewhere anyKey held there quietKey

theorem sunoItem {item : SunoDataResponse} (isQuiet : ¬loud item.taskID) :
    Untouched id loud polling (polling.sunoItem item) := by
  rw [Polling.sunoItem]
  split
  · exact refl elsewhere
  · split
    · exact ⟨rfl, fun _ _ => rfl, elsewhere⟩
    · rename_i task found
      exact perform elsewhere found isQuiet (updateSunoTask_same task item).id

theorem videoTask (serverAddress : String) {upstreamID : String} (isQuiet : ¬loud upstreamID)
    (fetch : Fetch VideoAnswer) :
    Untouched id loud polling (polling.videoTask serverAddress upstreamID fetch) := by
  simp only [Polling.videoTask]
  split
  · exact refl elsewhere
  cases found : polling.memory upstreamID with
  | none => exact refl elsewhere
  | some task =>
    cases fetch with
    | failed => exact refl elsewhere
    | panicked => exact ⟨rfl, fun _ _ => rfl, elsewhere⟩
    | answered answer =>
      exact perform elsewhere found isQuiet
        (updateVideoSingleTask_same serverAddress task answer).id

variable {upstreamIDs : List String}

variable (quiet : ∀ key ∈ upstreamIDs, ¬loud key)

include quiet

theorem failChannel (failReason : String) :
    Untouched id loud polling (polling.failChannel upstreamIDs failReason) := by
  refine ⟨Store.bulkFail_view_of_notMem _ ?_ _, fun _ _ => rfl, elsewhere⟩
  intro member
  obtain ⟨task, listed, same⟩ := mem_map.mp member
  obtain ⟨key, inChannel, found⟩ := mem_filterMap.mp listed
  exact elsewhere key task found (quiet key inChannel) same

theorem updateSunoTasks (input : PollInput) (channelId : Int)
    (quietItems : ∀ items, input.suno channelId = .answered items →
      ∀ item ∈ items, ¬loud item.taskID) :
    Untouched id loud polling (polling.updateSunoTasks input channelId upstreamIDs) := by
  rw [Polling.updateSunoTasks]
  split
  · exact refl elsewhere
  split
  · exact failChannel elsewhere quiet _
  split
  · exact refl elsewhere
  · exact ⟨rfl, fun _ _ => rfl, elsewhere⟩
  · rename_i items answered
    exact loop elsewhere fun _ item member elsewhere =>
      sunoItem elsewhere (quietItems items answered item member)

theorem updateVideoTasks (input : PollInput) (channelId : Int) :
    Untouched id loud polling (polling.updateVideoTasks input channelId upstreamIDs) := by
  rw [Polling.updateVideoTasks]
  split
  · exact refl elsewhere
  · split
    · exact failChannel elsewhere quiet _
    · refine loop elsewhere fun _ numbered member elsewhere => ?_
      exact videoTask elsewhere _ (quiet numbered.1 (fst_mem_of_mem_zipIdx member)) _

end Untouched

/-! ## A platform -/

section Platform

variable {tasks : List Task}

theorem mem_withUpstream :
    task ∈ withUpstream tasks ↔ task ∈ tasks ∧ task.getUpstreamTaskID ≠ "" := by
  rw [withUpstream, mem_filter, decide_eq_true_iff]

variable {key platform : String} {channelId id : Int} {α : Type} {keys : List α}

theorem taskM_some (found : taskM tasks key = some task) :
    task ∈ withUpstream tasks ∧ task.getUpstreamTaskID = key := by
  rw [taskM] at found
  generalize withUpstream tasks = named at found ⊢
  induction named using reverseRecOn with
  | nil => cases found
  | append_singleton front last ih =>
    rw [foldl_append, foldl_cons, foldl_nil] at found
    by_cases here : key = last.getUpstreamTaskID
    · rw [here, Function.update_self] at found
      cases found
      exact ⟨mem_append_right _ mem_cons_self, here.symm⟩
    · rw [Function.update_of_ne here] at found
      exact ⟨mem_append_left _ (ih found).1, (ih found).2⟩

theorem mem_taskChannels (member : channelId ∈ taskChannels tasks) :
    ∃ task ∈ tasks, task.channelId = channelId := by
  obtain ⟨task, listed, same⟩ := mem_map.mp (mem_dedup.mp member)
  exact ⟨task, (mem_withUpstream.mp listed).1, same⟩

theorem notMem_nullTaskIds (named : ∀ task ∈ tasks, task.id = id → task.getUpstreamTaskID ≠ "") :
    id ∉ nullTaskIds tasks := by
  intro member
  obtain ⟨task, listed, same⟩ := mem_map.mp member
  obtain ⟨inTasks, empty⟩ := mem_filter.mp listed
  exact named task inTasks same (of_decide_eq_true empty)

theorem mem_platformTasks :
    task ∈ platformTasks tasks platform ↔ task ∈ tasks ∧ task.platform = platform := by
  rw [platformTasks, mem_filter, decide_eq_true_iff]

theorem MapOrder.mem_of_shuffle (order : MapOrder α) {key : α}
    (member : key ∈ order.shuffle keys) : key ∈ keys :=
  (order.perm keys).mem_iff.mp member

theorem count_shuffle [DecidableEq α] (order : MapOrder α) (keys : List α) (key : α) :
    (order.shuffle keys.dedup).count key ≤ 1 := by
  rw [(order.perm keys.dedup).count_eq]
  exact nodup_iff_count_le_one.mp keys.nodup_dedup key

theorem count_shuffle_of_mem [DecidableEq α] (order : MapOrder α) {key : α}
    (member : key ∈ keys) : (order.shuffle keys.dedup).count key = 1 := by
  rw [(order.perm keys.dedup).count_eq]
  exact count_eq_one_of_mem keys.nodup_dedup (mem_dedup.mpr member)

/-- A platform that does not have the task in memory does not touch it. -/
theorem pollPlatform_quiet (input : PollInput) {allTasks : List Task}
    (named : id ∉ nullTaskIds (platformTasks allTasks platform))
    (elsewhere : Elsewhere id (fun _ => False) (taskM (platformTasks allTasks platform)))
    (polling : Polling) :
    (pollPlatform input allTasks polling platform).store.view id = polling.store.view id := by
  rw [pollPlatform]
  split
  · rfl
  have bulk := polling.store.bulkFail_view_of_notMem named none
  simp only [dispatchPlatformUpdate]
  split
  · exact bulk
  refine Eq.trans (Untouched.view (Untouched.loop elsewhere
    fun _ channelId _ elsewhere => ?_)) bulk
  rw [Polling.updateChannel]
  split
  · exact Untouched.updateSunoTasks elsewhere (fun _ _ => not_false) input channelId
      fun _ _ _ _ => not_false
  · exact Untouched.updateVideoTasks elsewhere (fun _ _ => not_false) input channelId

theorem pollPlatform_view (input : PollInput) {allTasks : List Task}
    (absent : ∀ task ∈ allTasks, task.platform = platform → task.id ≠ id) (polling : Polling) :
    (pollPlatform input allTasks polling platform).store.view id = polling.store.view id := by
  have absent' : ∀ task ∈ platformTasks allTasks platform, task.id ≠ id := by
    intro task member
    obtain ⟨listed, same⟩ := mem_platformTasks.mp member
    exact absent task listed same
  refine pollPlatform_quiet input (notMem_nullTaskIds fun task member same => ?_) ?_ polling
  · exact absurd same (absent' task member)
  · intro key task found _
    exact absent' task (mem_withUpstream.mp (taskM_some found).1).1

end Platform

/-! ## What a round reads -/

section Reads

variable {store : Store} {id : Int}

theorem mem_all {table : Table} (member : task ∈ table.all) :
    table.rows task.id = some task := by
  obtain ⟨_, -, found⟩ := mem_filterMap.mp member
  rwa [table.keyed found]

theorem nodup_all (table : Table) : (table.all.map Task.id).Nodup := by
  have ids : table.all.map Task.id = table.ids.filter fun key => (table.rows key).isSome := by
    rw [Table.all, map_filterMap, ← filterMap_eq_filter]
    refine filterMap_congr fun key _ => ?_
    cases found : table.rows key with
    | none => simp [found, Option.guard]
    | some => simp [found, table.keyed found, Option.guard]
  rw [ids]
  exact table.nodup.filter _

theorem mem_unfinished {limit : Nat} (member : task ∈ store.getAllUnFinishSyncTasks limit) :
    store.table.rows task.id = some task ∧ task.isUnfinished = true := by
  obtain ⟨listed, unfinished⟩ := mem_filter.mp (mem_of_mem_take member)
  exact ⟨mem_all listed, unfinished⟩

theorem nodup_unfinished (limit : Nat) :
    ((store.getAllUnFinishSyncTasks limit).map Task.id).Nodup :=
  (nodup_all store.table).sublist
    ((take_sublist ..).trans filter_sublist |>.map Task.id)

/-- A round does not touch a task that it has not read. -/
theorem pollUnfinished_view (input : PollInput)
    (absent : ∀ task ∈ store.getAllUnFinishSyncTasks input.limit, task.id ≠ id) :
    (pollUnfinished input store).view id = store.view id := by
  refine @run_invariant_of_mem _ _ _ (fun polling : Polling =>
    polling.store.view id = store.view id) _ ?_ _ rfl
  intro polling platform _ kept
  exact (pollPlatform_view input (fun task member _ => absent task member) polling).trans kept

end Reads

end StuHelper.Tasks

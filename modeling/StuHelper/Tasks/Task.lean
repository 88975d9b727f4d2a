import Mathlib.Data.List.Basic
import Mathlib.Data.Int.Basic

/-!
# Asynchronous tasks

A task is paid for when it is submitted.  From then on several parties move its row: the pollers
of its platform, the sweep of timed-out tasks, and the users who ask for it.  Each of them works
on a copy of the row, decides from an answer of the upstream what the row becomes, writes it, and
then gives the quota back or settles the difference.

This module has the decisions, one per party: the new row, how it is written, and what is billed
after the write.
-/

namespace StuHelper.Tasks

/-! ## Rows -/

/-- `TaskStatusSubmitted`. -/
abbrev statusSubmitted : String := "SUBMITTED"

/-- `TaskStatusQueued`. -/
abbrev statusQueued : String := "QUEUED"

/-- `TaskStatusInProgress`. -/
abbrev statusInProgress : String := "IN_PROGRESS"

/-- `TaskStatusFailure`. -/
abbrev statusFailure : String := "FAILURE"

/-- `TaskStatusSuccess`. -/
abbrev statusSuccess : String := "SUCCESS"

/-- The status is one in which the task is done. -/
def isFinal (status : String) : Bool := status = statusFailure ∨ status = statusSuccess

/-- `model.Task`, with the fields of its `PrivateData` and `BillingContext` that are used. -/
structure Task where
  id : Int
  taskID : String := ""
  platform : String := ""
  userId : Int := 0
  channelId : Int := 0
  quota : Int := 0
  status : String
  failReason : String := ""
  submitTime : Int := 0
  startTime : Int := 0
  finishTime : Int := 0
  progress : String := "0%"
  /-- The bytes of `Data`, as they are marshalled. -/
  data : List UInt8 := []
  upstreamTaskID : String := ""
  resultURL : String := ""
  billingSource : String := "wallet"
  subscriptionId : Int := 0
  perCallBilling : Bool := false
  deriving DecidableEq, Repr

namespace Task

def getUpstreamTaskID (task : Task) : String :=
  if task.upstreamTaskID ≠ "" then task.upstreamTaskID else task.taskID

/-- The rows of `GetAllUnFinishSyncTasks`. -/
def isUnfinished (task : Task) : Bool := task.progress ≠ "100%" ∧ ¬isFinal task.status

/-- The rows of `GetTimedOutUnfinishedTasks`. -/
def isTimedOut (cutoffUnix : Int) (task : Task) : Bool :=
  task.isUnfinished ∧ task.submitTime < cutoffUnix

/-- `Snapshot` and `Equal`: the fields that matter are the same. -/
def sameSnapshot (task other : Task) : Bool :=
  task.status = other.status ∧ task.progress = other.progress ∧
    task.startTime = other.startTime ∧ task.finishTime = other.finishTime ∧
    task.failReason = other.failReason ∧ task.resultURL = other.resultURL ∧ task.data = other.data

end Task

variable {task : Task}

theorem not_final_of_unfinished (unfinished : task.isUnfinished = true) :
    isFinal task.status = false := Bool.eq_false_iff.mpr (of_decide_eq_true unfinished).2

/-! ## Billing -/

/-- Where the quota of a task came from. -/
inductive FundingSource where
  | wallet (userId : Int)
  | subscription (subscriptionId : Int)
  deriving DecidableEq, Repr

/-- `taskIsSubscription` and the choice in `taskAdjustFunding`. -/
def Task.fundingSource (task : Task) : FundingSource :=
  if task.billingSource = "subscription" ∧ 0 < task.subscriptionId then
    .subscription task.subscriptionId
  else .wallet task.userId

/-- An adjustment of a funding source that took effect. -/
inductive Entry where
  /-- `RefundTaskQuota`. -/
  | refunded (taskId : Int) (source : FundingSource) (quota : Int)
  /-- `RecalculateTaskQuota`. -/
  | recalculated (taskId : Int) (source : FundingSource) (quotaDelta : Int)
  deriving DecidableEq, Repr

namespace Entry

def isRefund : Entry → Bool
  | .refunded .. => true
  | .recalculated .. => false

def taskId : Entry → Int
  | .refunded taskId _ _ => taskId
  | .recalculated taskId _ _ => taskId

end Entry

/-- `RefundTaskQuota`; `funded` says that the funding source could be adjusted. -/
def refundTaskQuota (task : Task) (funded : Bool) : List Entry :=
  if task.quota ≠ 0 ∧ funded then [.refunded task.id task.fundingSource task.quota] else []

/-- `RecalculateTaskQuota`, with the task in memory after it. -/
def recalculateTaskQuota (task : Task) (actualQuota : Int) (funded : Bool) : List Entry × Task :=
  if 0 < actualQuota ∧ actualQuota - task.quota ≠ 0 ∧ funded then
    ([.recalculated task.id task.fundingSource (actualQuota - task.quota)],
      { task with quota := actualQuota })
  else ([], task)

/-- `settleTaskBillingOnComplete`.  `adjusted` is what `AdjustBillingOnComplete` returns, and
`byTokens` the quota for the tokens, 0 where `RecalculateTaskQuotaByTokens` gives up. -/
def settleTaskBillingOnComplete (task : Task) (adjusted totalTokens byTokens : Int)
    (funded : Bool) : List Entry × Task :=
  if task.perCallBilling then ([], task)
  else if 0 < adjusted then recalculateTaskQuota task adjusted funded
  else if 0 < totalTokens then recalculateTaskQuota task byTokens funded
  else ([], task)

/-- What is billed after a write. -/
inductive Bill where
  | nothing
  | refund
  | settle (adjusted totalTokens byTokens : Int)
  deriving DecidableEq, Repr

/-- The entries of a bill, and the task in memory after it. -/
def Bill.pay (bill : Bill) (task : Task) (funded : Bool) : List Entry × Task :=
  match bill with
  | .nothing => ([], task)
  | .refund => (refundTaskQuota task funded, task)
  | .settle adjusted totalTokens byTokens =>
    settleTaskBillingOnComplete task adjusted totalTokens byTokens funded

theorem pay_cases (bill : Bill) (task : Task) (funded : Bool) :
    bill.pay task funded = ([], task) ∧ bill ≠ .refund ∨
      bill = .refund ∨ ∃ actualQuota, bill.pay task funded =
        recalculateTaskQuota task actualQuota funded ∧ bill ≠ .refund := by
  cases bill with
  | nothing => exact .inl ⟨rfl, nofun⟩
  | refund => exact .inr (.inl rfl)
  | settle adjusted totalTokens byTokens =>
    simp only [Bill.pay, settleTaskBillingOnComplete]
    split
    · exact .inl ⟨rfl, nofun⟩
    split
    · exact .inr (.inr ⟨adjusted, rfl, nofun⟩)
    · split
      · exact .inr (.inr ⟨byTokens, rfl, nofun⟩)
      · exact .inl ⟨rfl, nofun⟩

/-! ## Decisions -/

/-- How a row is written. -/
inductive Write where
  | skip
  | updateWithStatus (fromStatus : String)
  | update
  deriving DecidableEq, Repr

/-- The write takes place when the row is this one. -/
def Write.hits (write : Write) (row : Task) : Bool :=
  match write with
  | .skip => false
  | .updateWithStatus fromStatus => row.status = fromStatus
  | .update => true

/-- What a party decides. -/
structure Decision where
  /-- The task in memory, which is what is written. -/
  task : Task
  write : Write := .skip
  bill : Bill := .nothing
  /-- The bill is dropped when the write does not take place. -/
  onlyIfWon : Bool := true
  deriving DecidableEq, Repr

/-- What is billed once it is known whether the write took place. -/
def Decision.billIf (decision : Decision) (won : Bool) : Bill :=
  if decision.onlyIfWon ∧ ¬won then .nothing else decision.bill

/-! ## The sweep -/

def legacyTaskCutoff : Int := 1740182400

/-- The task is from the old system. -/
def Task.isLegacy (task : Task) : Bool :=
  0 < task.submitTime ∧ task.submitTime < legacyTaskCutoff

/-- The loop body of `sweepTimedOutTasks`. -/
def sweepTimedOutTask (timeoutMinutes now : Int) (task : Task) : Decision where
  task :=
    { task with
      status := statusFailure
      progress := "100%"
      finishTime := now
      failReason := if task.isLegacy then "任务超时（旧系统遗留任务，不进行退款，请联系管理员）"
        else "任务超时（" ++ toString timeoutMinutes ++ "分钟）" }
  write := .updateWithStatus task.status
  bill := if ¬task.isLegacy ∧ task.quota ≠ 0 then .refund else .nothing

/-! ## Suno tasks -/

/-- `dto.SunoDataResponse`. -/
structure SunoDataResponse where
  taskID : String := ""
  status : String := ""
  failReason : String := ""
  submitTime : Int := 0
  startTime : Int := 0
  finishTime : Int := 0
  data : List UInt8 := []
  deriving DecidableEq, Repr

/-- `taskNeedsUpdate`; the data are compared with their bytes sorted. -/
def taskNeedsUpdate (oldTask : Task) (newTask : SunoDataResponse) : Bool :=
  oldTask.submitTime ≠ newTask.submitTime ∨ oldTask.startTime ≠ newTask.startTime ∨
    oldTask.finishTime ≠ newTask.finishTime ∨ oldTask.status ≠ newTask.status ∨
    oldTask.failReason ≠ newTask.failReason ∨ (isFinal oldTask.status ∧ oldTask.progress ≠ "100%") ∨
    ¬oldTask.data.isPerm newTask.data

namespace SunoDataResponse

def nextStatus (item : SunoDataResponse) (task : Task) : String :=
  if item.status ≠ "" then item.status else task.status

def isFailed (item : SunoDataResponse) (task : Task) : Bool :=
  item.failReason ≠ "" ∨ item.nextStatus task = statusFailure

def applyTo (item : SunoDataResponse) (task : Task) : Task :=
  { task with
    status := item.nextStatus task
    failReason := if item.failReason ≠ "" then item.failReason else task.failReason
    submitTime := if item.submitTime ≠ 0 then item.submitTime else task.submitTime
    startTime := if item.startTime ≠ 0 then item.startTime else task.startTime
    finishTime := if item.finishTime ≠ 0 then item.finishTime else task.finishTime
    progress := if item.isFailed task ∨ item.status = statusSuccess then "100%" else task.progress
    data := item.data }

end SunoDataResponse

/-- The loop body of `updateSunoTasks` for the task of an item. -/
def updateSunoTask (task : Task) (item : SunoDataResponse) : Decision :=
  if taskNeedsUpdate task item then
    if item.isFailed task ∧ task.status ≠ statusFailure then
      { task := item.applyTo task, write := .updateWithStatus task.status, bill := .refund }
    else { task := item.applyTo task, write := .update }
  else { task := task }

/-! ## Video tasks -/

/-- `relaycommon.TaskInfo`. -/
structure TaskInfo where
  status : String := ""
  reason : String := ""
  url : String := ""
  progress : String := ""
  totalTokens : Int := 0
  deriving DecidableEq, Repr

def failTaskInfo (reason : String) : TaskInfo := { status := "FAILURE", reason := reason }

/-- The body of a response as a `GeneralErrorResponse`. -/
inductive ErrorBody where
  | unreadable
  | unrecognized
  | openAI (code : String)
  deriving DecidableEq, Repr

/-- What `updateVideoSingleTask` reads off a response. -/
structure VideoAnswer where
  /-- The result in the own format or from `ParseTaskResult`; none when it fails. -/
  result : Option TaskInfo
  /-- `redactVideoResponseBody`. -/
  body : List UInt8 := []
  error : ErrorBody := .unreadable
  now : Int := 0
  /-- `AdjustBillingOnComplete`. -/
  adjusted : Int := 0
  /-- The quota that the tokens cost. -/
  byTokens : Int := 0
  deriving DecidableEq, Repr

/-- The result, with an empty status taken for a failure; none when the upstream is busy. -/
def TaskInfo.orFailure (result : TaskInfo) (error : ErrorBody) : Option TaskInfo :=
  if result.status ≠ "" then some result
  else
    match error with
    | .unreadable => some result
    | .unrecognized => some (failTaskInfo "upstream returned unrecognized message")
    | .openAI code => if code = "429" then none else some (failTaskInfo "upstream returned error")

section Video

variable (serverAddress : String)

def buildProxyURL (taskID : String) : String :=
  serverAddress ++ "/v1/videos/" ++ taskID ++ "/content"

def isDataURI (url : String) : Bool := "data:".toList.isPrefixOf url.toList

/-- The switch on the status of a result; none when the status is unknown. -/
def Task.advance (task : Task) (result : TaskInfo) (now : Int) : Option Task :=
  let progressed := fun progress => if result.progress ≠ "" then result.progress else progress
  if result.status = statusSubmitted then
    some { task with status := result.status, progress := progressed "10%" }
  else if result.status = statusQueued then
    some { task with status := result.status, progress := progressed "20%" }
  else if result.status = statusInProgress then
    some { task with
      status := result.status
      progress := progressed "30%"
      startTime := if task.startTime = 0 then now else task.startTime }
  else if result.status = statusSuccess then
    some { task with
      status := result.status
      progress := progressed "100%"
      finishTime := if task.finishTime = 0 then now else task.finishTime
      resultURL := if ¬isDataURI result.url ∧ result.url ≠ "" then result.url
        else buildProxyURL serverAddress task.taskID }
  else if result.status = statusFailure then
    some { task with
      status := result.status
      progress := "100%"
      finishTime := if task.finishTime = 0 then now else task.finishTime
      failReason := result.reason }
  else none

/-- What a result bills: `shouldSettle` and `shouldRefund`. -/
def TaskInfo.bill (result : TaskInfo) (answer : VideoAnswer) (quota : Int) : Bill :=
  if result.status = statusSuccess then
    .settle answer.adjusted result.totalTokens answer.byTokens
  else if result.status = statusFailure ∧ quota ≠ 0 then .refund
  else .nothing

/-- `updateVideoSingleTask`, once there is a response. -/
def updateVideoSingleTask (task : Task) (answer : VideoAnswer) : Decision :=
  match answer.result with
  | none => { task := task }
  | some parsed =>
    let received := { task with data := answer.body }
    match parsed.orFailure answer.error with
    | none => { task := received }
    | some result =>
      match received.advance serverAddress result answer.now with
      | none => { task := { received with status := result.status } }
      | some advanced =>
        let bill := result.bill answer task.quota
        if isFinal advanced.status ∧ task.status ≠ advanced.status then
          { task := advanced, write := .updateWithStatus task.status, bill := bill }
        else
          { task := advanced
            write := if task.sameSnapshot advanced then .skip
              else .updateWithStatus task.status
            bill := bill
            onlyIfWon := false }

/-! ## Real-time fetches -/

/-- The task after a real-time fetch. -/
def TaskInfo.applyTo (info : TaskInfo) (task : Task) : Task :=
  let status := if info.status ≠ "" then info.status else task.status
  { task with
    status := status
    progress := if info.progress ≠ "" then info.progress else task.progress
    resultURL := if isDataURI info.url then task.resultURL
      else if info.url ≠ "" then info.url
      else if status = statusSuccess then buildProxyURL serverAddress task.taskID
      else task.resultURL }

/-- `tryRealtimeFetch`, once there is a result.  Nothing is billed. -/
def tryRealtimeFetch (task : Task) (info : TaskInfo) : Decision where
  task := info.applyTo serverAddress task
  write := if task.sameSnapshot (info.applyTo serverAddress task) then .skip
    else .updateWithStatus task.status

end Video

/-! ## What a video poll decides -/

/-- The fields that no decision changes. -/
structure SameTask (task other : Task) : Prop where
  id : task.id = other.id
  quota : task.quota = other.quota
  source : task.fundingSource = other.fundingSource

variable {result : TaskInfo}

theorem advance_some {serverAddress : String} {now : Int} {advanced : Task}
    (step : task.advance serverAddress result now = some advanced) :
    advanced.status = result.status ∧ SameTask advanced task := by
  rw [Task.advance] at step
  split at step
  · cases step; exact ⟨rfl, rfl, rfl, rfl⟩
  split at step
  · cases step; exact ⟨rfl, rfl, rfl, rfl⟩
  split at step
  · cases step; exact ⟨rfl, rfl, rfl, rfl⟩
  split at step
  · cases step; exact ⟨rfl, rfl, rfl, rfl⟩
  · split at step
    · cases step; exact ⟨rfl, rfl, rfl, rfl⟩
    · cases step

/-- What a poll decides about an unfinished task. -/
inductive VideoDecision (task : Task) (decision : Decision) : Prop where
  /-- The task is finished, and billed if the write takes place. -/
  | finish (write : decision.write = .updateWithStatus task.status)
      (guarded : decision.onlyIfWon = true) (final : isFinal decision.task.status = true)
      (refunds : task.quota ≠ 0 → (decision.bill = .refund ↔ decision.task.status = statusFailure))
  /-- Nothing is written. -/
  | skip (write : decision.write = .skip) (free : decision.bill = .nothing)
  /-- The task goes on. -/
  | proceed (write : decision.write = .updateWithStatus task.status)
      (unfinished : isFinal decision.task.status = false) (free : decision.bill = .nothing)

theorem updateVideoSingleTask_decides (serverAddress : String)
    (unfinished : isFinal task.status = false) (answer : VideoAnswer) :
    VideoDecision task (updateVideoSingleTask serverAddress task answer) := by
  rw [updateVideoSingleTask]
  split
  · exact .skip rfl rfl
  simp only
  split
  · exact .skip rfl rfl
  split
  · exact .skip rfl rfl
  rename_i result _ _ advanced step
  obtain ⟨status, -⟩ := advance_some step
  split
  · rename_i done
    refine .finish rfl rfl done.1 fun costs => ?_
    rw [status, TaskInfo.bill]
    constructor
    · intro refunds
      split at refunds
      · cases refunds
      · split at refunds
        · rename_i failed
          exact failed.1
        · cases refunds
    · intro failed
      rw [if_neg (by rw [failed]; decide), if_pos ⟨failed, costs⟩]
  · rename_i undone
    -- a final status would differ from that of the task, which is not final
    have still : isFinal advanced.status = false := by
      rw [Bool.eq_false_iff]
      intro final
      refine undone ⟨final, fun same => ?_⟩
      rw [same, final] at unfinished
      cases unfinished
    have free : result.bill answer task.quota = .nothing := by
      have unfinished := status ▸ still
      rw [isFinal, decide_eq_false_iff_not, not_or] at unfinished
      rw [TaskInfo.bill, if_neg unfinished.2, if_neg fun both => unfinished.1 both.1]
    split
    · exact .skip rfl free
    · exact .proceed rfl still free

theorem updateVideoSingleTask_same (serverAddress : String) (task : Task) (answer : VideoAnswer) :
    SameTask (updateVideoSingleTask serverAddress task answer).task task := by
  rw [updateVideoSingleTask]
  split
  · exact ⟨rfl, rfl, rfl⟩
  simp only
  split
  · exact ⟨rfl, rfl, rfl⟩
  split
  · exact ⟨rfl, rfl, rfl⟩
  rename_i step
  obtain ⟨-, same⟩ := advance_some step
  split
  · exact { same with }
  · exact { same with }

theorem updateSunoTask_same (task : Task) (item : SunoDataResponse) :
    SameTask (updateSunoTask task item).task task := by
  rw [updateSunoTask]
  split
  · split
    · exact ⟨rfl, rfl, rfl⟩
    · exact ⟨rfl, rfl, rfl⟩
  · exact ⟨rfl, rfl, rfl⟩

end StuHelper.Tasks

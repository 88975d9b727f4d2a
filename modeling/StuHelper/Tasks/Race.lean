import StuHelper.Lib.Run
import StuHelper.Tasks.Task

/-!
# One task and its parties

Any number of pollers, sweeps and real-time fetches work on the row of one task.  Each reads the
row, decides, writes, and bills; between these the others go on.  `UpdateWithStatus` makes sure
that a copy that has become old moves nothing, as long as the status of a finished row never goes
back.  Where a write takes a finished row back to an unfinished status, or where a failure leaves
the status unfinished, the row can be billed again.
-/

namespace StuHelper.Tasks

open Lib

/-! ## Parties -/

inductive Kind where
  /-- `updateSunoTasks`. -/
  | suno
  /-- `updateVideoSingleTask`. -/
  | video
  /-- `sweepTimedOutTasks`. -/
  | sweep
  /-- `tryRealtimeFetch`. -/
  | realtime
  deriving DecidableEq, Repr

/-- The party reads the row.  The pollers are told apart by the platform. -/
def Kind.selects (cutoffUnix : Int) (row : Task) : Kind → Bool
  | .suno => row.isUnfinished ∧ row.getUpstreamTaskID ≠ "" ∧ row.platform = "suno"
  | .video => row.isUnfinished ∧ row.getUpstreamTaskID ≠ "" ∧ row.platform ≠ "suno" ∧
      row.platform ≠ "mj"
  | .sweep => row.isTimedOut cutoffUnix
  | .realtime => true

/-- What a party decides from. -/
inductive Answer where
  | suno (item : SunoDataResponse)
  | video (answer : VideoAnswer)
  | sweep (timeoutMinutes now : Int)
  | realtime (info : TaskInfo)
  deriving DecidableEq, Repr

namespace Answer

/-- The party that an answer is for. -/
def kind : Answer → Kind
  | .suno _ => .suno
  | .video _ => .video
  | .sweep .. => .sweep
  | .realtime _ => .realtime

/-- The decision from a copy of the row. -/
def decision (serverAddress : String) (task : Task) : Answer → Decision
  | .suno item => updateSunoTask task item
  | .video answer => updateVideoSingleTask serverAddress task answer
  | .sweep timeoutMinutes now => sweepTimedOutTask timeoutMinutes now task
  | .realtime info => tryRealtimeFetch serverAddress task info

end Answer

/-- Where a party stands, with its copy of the row. -/
inductive Worker where
  | holding (kind : Kind) (task : Task)
  | billing (kind : Kind) (task : Task) (bill : Bill)
  deriving DecidableEq, Repr

/-- The row, the parties and the adjustments of the funding source. -/
structure Race where
  row : Task
  workers : Nat → Option Worker
  ledger : List Entry

/-- Nobody works on the task, and nothing has been billed. -/
def Race.start (row : Task) : Race := ⟨row, fun _ => none, []⟩

/-- One step of one party. -/
inductive Step where
  | read (worker : Nat) (kind : Kind) (cutoffUnix : Int)
  /-- The decision and the write; `stored` says that the store did not fail. -/
  | write (worker : Nat) (answer : Answer) (stored : Bool)
  /-- The refund or the settlement; `funded` says that the funding source was adjusted. -/
  | bill (worker : Nat) (funded : Bool)
  deriving DecidableEq, Repr

namespace Race

/-- A party has moved on. -/
def place (state : Race) (worker : Nat) (stage : Option Worker) : Race :=
  { state with workers := Function.update state.workers worker stage }

def writeRow (state : Race) (worker : Nat) (kind : Kind) (decision : Decision) (stored : Bool) :
    Race :=
  let won := stored && decision.write.hits state.row
  { state with row := if won then decision.task else state.row }.place worker
    (some (.billing kind decision.task (decision.billIf won)))

/-- One step.  A Suno poller goes on with its copy, as an answer may have more items for the
task; the others are done after the bill. -/
def step (serverAddress : String) (state : Race) : Step → Race
  | .read worker kind cutoffUnix =>
    if state.workers worker = none ∧ kind.selects cutoffUnix state.row then
      state.place worker (some (.holding kind state.row))
    else state
  | .write worker answer stored =>
    match state.workers worker with
    | some (.holding kind task) =>
      if answer.kind = kind then
        state.writeRow worker kind (answer.decision serverAddress task) stored
      else state
    | _ => state
  | .bill worker funded =>
    match state.workers worker with
    | some (.billing kind task bill) =>
      { state with ledger := state.ledger ++ (bill.pay task funded).1 }.place worker
        (if kind = Kind.suno then some (.holding kind (bill.pay task funded).2) else none)
    | _ => state

end Race

/-! ## Steady steps -/

/-- An item of a Suno answer is steady: a failure takes an unfinished copy to a final status, and
anything else leaves a finished row finished. -/
def sunoSteady (row task : Task) (item : SunoDataResponse) : Bool :=
  !taskNeedsUpdate task item ||
    if item.isFailed task ∧ task.status ≠ statusFailure then
      !isFinal task.status && isFinal (item.nextStatus task)
    else !isFinal row.status || isFinal (item.nextStatus task)

/-- The result of a real-time fetch is steady: it leaves a finished row finished. -/
def realtimeSteady (row task : Task) (info : TaskInfo) : Bool :=
  row.status ≠ task.status || !isFinal row.status || info.status = "" || isFinal info.status

/-- A step is steady.  Reads, bills, sweeps and video polls always are. -/
def steady (state : Race) : Step → Bool
  | .write worker (.suno item) _ =>
    match state.workers worker with
    | some (.holding .suno task) => sunoSteady state.row task item
    | _ => true
  | .write worker (.realtime info) _ =>
    match state.workers worker with
    | some (.holding .realtime task) => realtimeSteady state.row task info
    | _ => true
  | _ => true

/-! ## Careful decisions -/

/-- A decision is careful about a row: it bills only when it takes the row from an unfinished to a
final status, and it never takes a finished row back. -/
structure Decision.Careful (decision : Decision) (row : Task) : Prop where
  bills : decision.bill ≠ .nothing → decision.onlyIfWon = true ∧
    (decision.write.hits row = true →
      isFinal row.status = false ∧ isFinal decision.task.status = true)
  keeps : decision.write.hits row = true → isFinal row.status = true →
    isFinal decision.task.status = true

variable {decision : Decision} {serverAddress : String}

section Careful

variable {row task : Task}

theorem hits_updateWithStatus {status : String}
    (hits : (Write.updateWithStatus status).hits row = true) : row.status = status :=
  of_decide_eq_true hits

theorem careful_of_final (unfinished : isFinal task.status = false)
    (write : decision.write = .updateWithStatus task.status) (guarded : decision.onlyIfWon = true)
    (final : isFinal decision.task.status = true) :
    decision.Careful row := by
  constructor
  · intro _
    refine ⟨guarded, fun hits => ⟨?_, final⟩⟩
    rw [write] at hits
    rw [hits_updateWithStatus hits]
    exact unfinished
  · intro _ _
    exact final

theorem careful_of_nothing (unfinished : isFinal task.status = false)
    (write : decision.write = .skip ∨ decision.write = .updateWithStatus task.status)
    (free : decision.bill = .nothing) : decision.Careful row := by
  constructor
  · intro billed
    exact absurd free billed
  · intro hits finished
    cases write with
    | inl skip =>
      rw [skip] at hits
      cases hits
    | inr guarded =>
      rw [guarded] at hits
      rw [hits_updateWithStatus hits, unfinished] at finished
      cases finished

theorem updateVideoSingleTask_careful (serverAddress : String) (answer : VideoAnswer)
    (unfinished : isFinal task.status = false) :
    (updateVideoSingleTask serverAddress task answer).Careful row := by
  cases updateVideoSingleTask_decides serverAddress unfinished answer with
  | finish write guarded final => exact careful_of_final unfinished write guarded final
  | skip write free => exact careful_of_nothing unfinished (Or.inl write) free
  | proceed write _ free => exact careful_of_nothing unfinished (Or.inr write) free

theorem updateSunoTask_careful {item : SunoDataResponse}
    (steady : sunoSteady row task item = true) : (updateSunoTask task item).Careful row := by
  rw [updateSunoTask]
  rw [sunoSteady] at steady
  split
  · rename_i needed
    rw [needed, Bool.not_true, Bool.false_or] at steady
    split
    · rename_i failed
      rw [if_pos failed, Bool.and_eq_true, Bool.not_eq_true'] at steady
      exact careful_of_final steady.1 rfl rfl steady.2
    · rename_i calm
      rw [if_neg calm, Bool.or_eq_true, Bool.not_eq_true'] at steady
      constructor
      · intro billed
        exact absurd rfl billed
      · intro _ finished
        cases steady with
        | inl unfinished =>
          rw [unfinished] at finished
          cases finished
        | inr final => exact final
  · exact ⟨fun billed => absurd rfl billed, fun hits => absurd hits Bool.false_ne_true⟩

theorem tryRealtimeFetch_careful {info : TaskInfo} (steady : realtimeSteady row task info = true) :
    (tryRealtimeFetch serverAddress task info).Careful row := by
  constructor
  · intro billed
    exact absurd rfl billed
  · intro hits finished
    have same : row.status = task.status := by
      simp only [tryRealtimeFetch] at hits
      split at hits
      · cases hits
      · exact hits_updateWithStatus hits
    rw [realtimeSteady, finished] at steady
    simp only [same, ne_eq, not_true_eq_false, decide_false, Bool.not_true, Bool.false_or,
      Bool.or_eq_true, decide_eq_true_eq] at steady
    simp only [tryRealtimeFetch, TaskInfo.applyTo]
    cases steady with
    | inl empty =>
      rw [if_neg (not_not_intro empty), ← same]
      exact finished
    | inr final =>
      split
      · exact final
      · rw [← same]
        exact finished

end Careful

/-! ## The invariant -/

/-- The party still has something to bill. -/
def Worker.owes : Option Worker → Bool
  | some (.billing _ _ bill) => bill ≠ .nothing
  | _ => false

/-- The copy of a party whose writes are always careful is not finished. -/
def Worker.Fresh : Option Worker → Prop
  | some (.holding .video task) => isFinal task.status = false
  | some (.holding .sweep task) => isFinal task.status = false
  | _ => True

/-- At most one bill is open or paid, and none before the row is finished. -/
structure Race.Inv (state : Race) : Prop where
  unfinished : isFinal state.row.status = false →
    state.ledger = [] ∧ ∀ worker, Worker.owes (state.workers worker) = false
  atMostOne : state.ledger.length ≤ 1
  paid : state.ledger ≠ [] → ∀ worker, Worker.owes (state.workers worker) = false
  single : ∀ worker other, Worker.owes (state.workers worker) = true →
    Worker.owes (state.workers other) = true → worker = other
  fresh : ∀ worker, Worker.Fresh (state.workers worker)

theorem pay_length (bill : Bill) (task : Task) (funded : Bool) :
    (bill.pay task funded).1.length ≤ 1 := by
  rcases pay_cases bill task funded with ⟨paid, -⟩ | rfl | ⟨actualQuota, paid, -⟩
  · rw [paid]
    exact Nat.zero_le 1
  · simp only [Bill.pay, refundTaskQuota]
    split
    · exact Nat.le_refl 1
    · exact Nat.zero_le 1
  · rw [paid, recalculateTaskQuota]
    split
    · exact Nat.le_refl 1
    · exact Nat.zero_le 1

namespace Race

variable {state : Race}

theorem Inv.start (row : Task) : (start row).Inv where
  unfinished := fun _ => ⟨rfl, fun _ => rfl⟩
  atMostOne := Nat.zero_le 1
  paid := fun _ _ => rfl
  single := nofun
  fresh := fun _ => trivial

theorem place_self (state : Race) (worker : Nat) (stage : Option Worker) :
    (state.place worker stage).workers worker = stage := Function.update_self ..

variable {worker : Nat} {stage : Option Worker} {kind : Kind} {task : Task}

theorem place_of_ne (state : Race) {other : Nat} (different : other ≠ worker)
    (stage : Option Worker) : (state.place worker stage).workers other = state.workers other :=
  Function.update_of_ne different ..

theorem place_fresh (worker : Nat) (fresh : Worker.Fresh stage)
    (all : ∀ other, Worker.Fresh (state.workers other)) (other : Nat) :
    Worker.Fresh ((state.place worker stage).workers other) := by
  by_cases same : other = worker
  · rw [same, place_self]
    exact fresh
  · rw [place_of_ne state same]
    exact all other

theorem Inv.place (inv : state.Inv) (worker : Nat) (free : Worker.owes stage = false)
    (fresh : Worker.Fresh stage) :
    (state.place worker stage).Inv := by
  have owes : ∀ other, Worker.owes ((state.place worker stage).workers other) = true →
      Worker.owes (state.workers other) = true := by
    intro other owing
    by_cases same : other = worker
    · rw [same, place_self, free] at owing
      cases owing
    · rwa [place_of_ne state same] at owing
  have quiet : (∀ other, Worker.owes (state.workers other) = false) →
      ∀ other, Worker.owes ((state.place worker stage).workers other) = false := by
    intro all other
    rw [Bool.eq_false_iff]
    intro owing
    exact Bool.eq_false_iff.mp (all other) (owes other owing)
  constructor
  · intro unfinished
    exact ⟨(inv.unfinished unfinished).1, quiet (inv.unfinished unfinished).2⟩
  · exact inv.atMostOne
  · intro nonempty
    exact quiet (inv.paid nonempty)
  · intro first second owing other
    exact inv.single first second (owes first owing) (owes second other)
  · exact place_fresh worker fresh inv.fresh

theorem Inv.writeRow (inv : state.Inv) (worker : Nat) (kind : Kind)
    (careful : decision.Careful state.row) (stored : Bool) :
    (state.writeRow worker kind decision stored).Inv := by
  rw [Race.writeRow]
  cases won : stored && decision.write.hits state.row with
  | false =>
    -- a bill that needs the write is dropped
    have dropped : decision.billIf false = .nothing := by
      rw [Decision.billIf]
      split
      · rfl
      · rename_i kept
        by_contra billed
        exact kept ⟨(careful.bills billed).1, Bool.false_ne_true⟩
    rw [dropped]
    exact inv.place worker rfl trivial
  | true =>
    obtain ⟨-, hits⟩ := Bool.and_eq_true_iff.mp won
    have kept : decision.billIf true = decision.bill := if_neg fun both => both.2 rfl
    rw [kept]
    by_cases billed : decision.bill = .nothing
    · rw [billed]
      have written : Inv { state with row := decision.task } := by
        refine { inv with unfinished := fun unfinished => inv.unfinished ?_ }
        rw [Bool.eq_false_iff]
        intro finished
        exact Bool.eq_false_iff.mp unfinished (careful.keeps hits finished)
      exact written.place worker rfl trivial
    · obtain ⟨unfinished, final⟩ := (careful.bills billed).2 hits
      obtain ⟨empty, quiet⟩ := inv.unfinished unfinished
      have only : ∀ other, Worker.owes ((Race.place { state with row := decision.task } worker
          (some (.billing kind decision.task decision.bill))).workers other) = true →
            other = worker := by
        intro other owing
        by_contra different
        rw [place_of_ne _ different, quiet other] at owing
        cases owing
      constructor
      · intro still
        exact absurd (final.symm.trans still) Bool.noConfusion
      · exact inv.atMostOne
      · intro nonempty
        exact absurd empty nonempty
      · intro first second owing other
        rw [only first owing, only second other]
      · exact @place_fresh { state with row := decision.task } _ worker trivial inv.fresh

theorem Inv.bill (inv : state.Inv) {bill : Bill}
    (there : state.workers worker = some (.billing kind task bill)) (funded : Bool)
    (free : Worker.owes stage = false) (fresh : Worker.Fresh stage) :
    ({ state with ledger := state.ledger ++ (bill.pay task funded).1 }.place worker stage).Inv := by
  by_cases nothing : bill = .nothing
  · rw [nothing, Bill.pay, List.append_nil]
    exact inv.place worker free fresh
  have owing : Worker.owes (state.workers worker) = true := by
    rw [there]
    exact decide_eq_true nothing
  have empty : state.ledger = [] := by
    by_contra nonempty
    rw [inv.paid nonempty worker] at owing
    cases owing
  have quiet : ∀ other, Worker.owes ((state.place worker stage).workers other) = false := by
    intro other
    by_cases same : other = worker
    · rw [same, place_self, free]
    · rw [place_of_ne state same, Bool.eq_false_iff]
      intro alsoOwing
      exact same (inv.single other worker alsoOwing owing)
  rw [empty, List.nil_append]
  constructor
  · intro unfinished
    rw [(inv.unfinished unfinished).2 worker] at owing
    cases owing
  · exact pay_length bill task funded
  · intro _
    exact quiet
  · intro first second owingFirst _
    exact absurd owingFirst (Bool.eq_false_iff.mp (quiet first))
  · exact place_fresh worker fresh inv.fresh

theorem decision_careful {answer : Answer} {stored : Bool} (inv : state.Inv)
    (there : state.workers worker = some (.holding kind task))
    (meant : answer.kind = kind) (steadyStep : steady state (.write worker answer stored) = true) :
    (answer.decision serverAddress task).Careful state.row := by
  have fresh := inv.fresh worker
  rw [there] at fresh
  subst meant
  cases answer with
  | suno =>
    simp only [steady, there] at steadyStep
    exact updateSunoTask_careful steadyStep
  | video answer => exact updateVideoSingleTask_careful serverAddress answer fresh
  | sweep => exact careful_of_final fresh rfl rfl rfl
  | realtime =>
    simp only [steady, there] at steadyStep
    exact tryRealtimeFetch_careful steadyStep

theorem Inv.step (serverAddress : String) (inv : state.Inv) (step : Step)
    (steadyStep : steady state step = true) : (state.step serverAddress step).Inv := by
  cases step with
  | read worker kind cutoffUnix =>
    rw [Race.step]
    split
    · rename_i reads
      apply inv.place worker rfl
      cases kind with
      | suno => trivial
      | video | sweep => exact not_final_of_unfinished (of_decide_eq_true reads.2).1
      | realtime => trivial
    · exact inv
  | write worker answer stored =>
    simp only [Race.step]
    split
    · rename_i kind task there
      split
      · rename_i meant
        exact inv.writeRow worker kind (decision_careful inv there meant steadyStep) stored
      · exact inv
    · exact inv
  | bill worker funded =>
    simp only [Race.step]
    split
    · rename_i kind task bill there
      split
      · rename_i isSuno
        rw [isSuno] at there ⊢
        exact inv.bill there funded rfl trivial
      · exact inv.bill there funded rfl trivial
    · exact inv

end Race

/-! ## The main result -/

/-- A refund takes effect at most once, and not together with a settlement. -/
def BilledOnce (ledger : List Entry) : Prop :=
  ledger.countP Entry.isRefund ≤ 1 ∧
    (0 < ledger.countP Entry.isRefund → ledger.countP (fun entry => !entry.isRefund) = 0)

instance (ledger : List Entry) : Decidable (BilledOnce ledger) :=
  inferInstanceAs (Decidable (_ ∧ _))

theorem billedOnce_of_length {ledger : List Entry} (short : ledger.length ≤ 1) :
    BilledOnce ledger := by
  have split := @List.length_eq_countP_add_countP _ Entry.isRefund ledger
  simp only [Bool.not_eq_true, Bool.decide_eq_false] at split
  constructor
  · omega
  · omega

def runningTask (platform : String) : Task :=
  { id := 1, taskID := "task_1", platform := platform, channelId := 1, quota := 500,
    status := statusInProgress, progress := "30%", submitTime := 1771718400 }

/-- A whole sweep by one party. -/
def sweepSteps (worker : Nat) : List Step :=
  [.read worker .sweep 1771725600, .write worker (.sweep 60 1771729200) true, .bill worker true]

end StuHelper.Tasks

import Mathlib.Algebra.Ring.Int.Defs
import Mathlib.Data.List.Induction
import StuHelper.Lib.Run
import StuHelper.Lib.Upsert

/-!
# Batched quota updates

With batch updates on, quota changes are added up in five maps.  `batchUpdate` takes the maps one
after the other, each under its lock, and then writes their entries to the database, those of a user
in one write.  A write that fails is logged; nothing puts its amounts back.
-/

namespace StuHelper.Billing

open Lib List

inductive BatchUpdateType where
  | userQuota | tokenQuota | usedQuota | channelUsedQuota | requestCount
  deriving DecidableEq, Repr

open BatchUpdateType

/-- The maps, in the order in which they are taken. -/
def batchUpdateTypes : List BatchUpdateType :=
  [userQuota, tokenQuota, usedQuota, channelUsedQuota, requestCount]

/-- A map from ids to amounts. -/
abbrev BatchStore := List (Int × Int)

namespace BatchStore

variable (store : BatchStore) (id : Int)

def held : Int := (store.map fun entry => if entry.1 = id then entry.2 else 0).sum

def get : Int := (store.lookup id).getD 0

def add (value : Int) : BatchStore :=
  upsert (·.1 = id) (id, value) (fun entry => (id, entry.2 + value)) store

def remove : BatchStore := store.eraseP (·.1 = id)

variable {store id}

theorem held_add (value other : Int) :
    (store.add id value).held other = store.held other + if id = other then value else 0 := by
  simp only [add, held]
  induction store with
  | nil => simp [upsert]
  | cons entry store ih =>
    rw [upsert]
    split
    next own =>
      simp only [map_cons, sum_cons, of_decide_eq_true own]
      split <;> omega
    next => simp only [map_cons, sum_cons, ih, Int.add_assoc]

/-- What is removed is the value of the map. -/
theorem held_remove (other : Int) :
    (store.remove id).held other + (if id = other then store.get id else 0) = store.held other := by
  simp only [remove, held, get]
  induction store with
  | nil => simp
  | cons entry store ih =>
    obtain ⟨key, -⟩ := entry
    by_cases own : key = id
    · simp [own, Int.add_comm]
    · simp [own, lookup_cons, beq_false_of_ne (Ne.symm own), ← ih, Int.add_assoc]

end BatchStore

/-- The maps, those that the running `batchUpdate` has taken, and the changes in the database. -/
structure BatchState where
  batchUpdateStores : BatchUpdateType → BatchStore := fun _ => []
  stores : BatchUpdateType → Option BatchStore := fun _ => none
  database : BatchUpdateType → Int → Int := fun _ _ => 0

/-- The writes: `increaseTokenQuota`, `updateChannelUsedQuota` and
`updateUserQuotaUsedQuotaAndRequestCount`. -/
inductive BatchWrite where
  | token | channel | user
  deriving DecidableEq

/-- The columns of a write. -/
def BatchWrite.covers : BatchWrite → BatchUpdateType → Bool
  | token, type => type = tokenQuota
  | channel, type => type = channelUsedQuota
  | user, type => type = userQuota || type = usedQuota || type = requestCount

/-- The steps of `addNewRecord` and `batchUpdate`.  The writes come in the order of a range over a
map, that is in any order. -/
inductive BatchOp where
  | addNewRecord (type : BatchUpdateType) (id value : Int)
  /-- Take the next map. -/
  | swap
  | write (kind : BatchWrite) (id : Int) (fails : Bool)
  | finish

/-- A write of the amounts of an id, once all maps are taken. -/
def BatchState.write (state : BatchState) (kind : BatchWrite) (id : Int) (fails : Bool) :
    BatchState :=
  if batchUpdateTypes.all fun type => (state.stores type).isSome then
    { state with
      stores := fun type => (state.stores type).map fun store =>
        if kind.covers type then store.remove id else store
      database := fun type other => state.database type other +
        if kind.covers type ∧ id = other ∧ fails = false then ((state.stores type).getD []).get id
        else 0 }
  else state

def BatchState.step (state : BatchState) : BatchOp → BatchState
  | .addNewRecord type id value =>
    { state with
      batchUpdateStores := Function.update state.batchUpdateStores type
        ((state.batchUpdateStores type).add id value) }
  | .swap =>
    match batchUpdateTypes.find? fun type => (state.stores type).isNone with
    | none => state
    | some type =>
      { state with
        stores := Function.update state.stores type (some (state.batchUpdateStores type))
        batchUpdateStores := Function.update state.batchUpdateStores type [] }
  | .write kind id fails => state.write kind id fails
  | .finish =>
    if batchUpdateTypes.all fun type => state.stores type = some [] then
      { state with stores := fun _ => none }
    else state

/-- The amount that is still held. -/
def BatchState.held (state : BatchState) (type : BatchUpdateType) (id : Int) : Int :=
  (state.batchUpdateStores type).held id + ((state.stores type).getD []).held id

/-- The amount that a step records. -/
def BatchOp.recorded (type : BatchUpdateType) (id : Int) : BatchOp → Int
  | .addNewRecord other key value => if other = type ∧ key = id then value else 0
  | .swap | .write _ _ _ | .finish => 0

def BatchOp.failsFor (type : BatchUpdateType) (id : Int) : BatchOp → Bool
  | .write kind key fails => fails && kind.covers type && key = id
  | .addNewRecord _ _ _ | .swap | .finish => false

variable {state : BatchState} {type : BatchUpdateType} {id : Int}

theorem write_balance {kind : BatchWrite} {key : Int} {fails : Bool}
    (safe : kind.covers type = true → key = id → fails = false) :
    (state.write kind key fails).database type id + (state.write kind key fails).held type id =
      state.database type id + state.held type id := by
  rw [BatchState.write]
  split
  · simp only [BatchState.held]
    cases stored : state.stores type with
    | none => simp [BatchStore.get]
    | some store =>
      have removed := @BatchStore.held_remove store key id
      by_cases own : kind.covers type = true
      · by_cases same : key = id
        · simp only [own, same, safe own same, and_self, if_true, Option.getD_some,
            Option.map_some] at removed ⊢
          omega
        · simpa [own, same] using removed
      · simp [own]
  · rfl

theorem step_balance (op : BatchOp) (safe : op.failsFor type id = false) :
    (state.step op).database type id + (state.step op).held type id =
      state.database type id + state.held type id + op.recorded type id := by
  cases op with
  | addNewRecord other key value =>
    rw [BatchState.step, BatchOp.recorded]
    by_cases same : other = type
    · subst same
      simp only [BatchState.held, Function.update_self, BatchStore.held_add, true_and]
      omega
    · simp [BatchState.held, Function.update_of_ne (Ne.symm same), same]
  | swap =>
    rw [BatchState.step, BatchOp.recorded, Int.add_zero]
    split
    · rfl
    rename_i other found
    by_cases same : other = type
    · have untaken : state.stores type = none := by simpa [same] using find?_some found
      simp [BatchState.held, same, untaken, BatchStore.held]
    · simp [BatchState.held, Function.update_of_ne (Ne.symm same)]
  | write kind key fails =>
    rw [BatchState.step, BatchOp.recorded, Int.add_zero]
    apply write_balance
    intro own same
    simpa [BatchOp.failsFor, own, same] using safe
  | finish =>
    rw [BatchState.step, BatchOp.recorded, Int.add_zero]
    split
    next done =>
      have empty := all_eq_true.mp done type (by cases type <;> decide)
      simp [BatchState.held, of_decide_eq_true empty, BatchStore.held]
    · rfl

/-- What has been recorded for an id is in the database or still held, at every moment, as long as
no write of it fails. -/
theorem batch_updates_not_lost (ops : List BatchOp) (type : BatchUpdateType) (id : Int)
    (safe : ∀ op ∈ ops, op.failsFor type id = false) :
    (ops.map (BatchOp.recorded type id)).sum =
      (run BatchState.step {} ops).database type id +
        (run BatchState.step {} ops).held type id := by
  induction ops using reverseRec with
  | nil => rfl
  | append_singleton ops op ih =>
    obtain ⟨earlier, last⟩ := forall_mem_append.mp safe
    rw [run_append, run_cons, run_nil, step_balance op (last op mem_cons_self), ← ih earlier]
    simp

/-- One record is written, and a later one is still held. -/
theorem batch_updates_not_lost_swapped :
    let after := run BatchState.step {} [.addNewRecord tokenQuota 1 5, .swap, .swap, .swap, .swap,
      .swap, .write .token 1 false, .addNewRecord tokenQuota 1 3]
    after.database tokenQuota 1 = 5 ∧ after.database tokenQuota 1 + after.held tokenQuota 1 = 8 :=
  ⟨by decide, (batch_updates_not_lost [.addNewRecord tokenQuota 1 5, .swap, .swap, .swap, .swap,
    .swap, .write .token 1 false, .addNewRecord tokenQuota 1 3] tokenQuota 1 (by decide)).symm⟩

/-- The write of a token's quota fails. -/
theorem failed_write_loses_quota :
    let after := run BatchState.step {} [.addNewRecord tokenQuota 1 (-5), .swap, .swap, .swap,
      .swap, .swap, .write .token 1 true, .finish]
    after.database tokenQuota 1 = 0 ∧ after.held tokenQuota 1 = 0 := by
  decide

end StuHelper.Billing

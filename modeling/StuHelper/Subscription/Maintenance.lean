import StuHelper.Subscription.LifecycleSteps
import StuHelper.Subscription.ResetLoop

/-!
# The maintenance task

Once a minute a task works through the due rows in batches: it expires subscriptions,
moves users into the groups of queued subscriptions that have started, and resets used
quotas.  Each of its three loops asks for another batch while a full one was counted,
so each ends only if what is counted is not due any more.

The first two loops always end.  The third one counts a row whose stored reset time has
passed even if the reset left the row alone, which it does when the plan was edited so
that no boundary of it has passed.
-/

namespace StuHelper.Subscription

variable {sub : UserSubscription} {subs : List UserSubscription} {counted : List Int}

open Lib UserSubscription Store Table List

/-! ## Quota resets in batches -/

/-- A row that the query of `ResetDueSubscriptions` finds. -/
def UserSubscription.awaitsReset (sub : UserSubscription) (now : Int) : Bool :=
  sub.status = .active && sub.resetDue now

/-- The first rows whose reset is due. -/
def Store.resetBatch (store : Store) (limit now : Int) : List UserSubscription :=
  (select (Ascending nextResetTime id)
    (fun sub => sub.awaitsReset now) store.subs.rows).take (batchLimit limit)

/-- The loop of `ResetDueSubscriptions` over a batch: the ids of the rows counted so far
and the store.  A row whose plan cannot be read is skipped. -/
def resetDueRows (loc : Location) (now : Int) :
    List UserSubscription → List Int × Store → Except SubscriptionError (List Int × Store)
  | [], state => .ok state
  | sub :: subs, (counted, store) =>
    match store.getSubscriptionPlanById sub.planId with
    | .error _ => resetDueRows loc now subs (counted, store)
    | .ok plan =>
      match resetDueRow loc store sub.id plan now with
      | .error error => .error error
      | .ok (store, reset) =>
        resetDueRows loc now subs
          (if reset then counted ++ [sub.id] else counted, store)

/-- `ResetDueSubscriptions`; its result is the number of counted rows. -/
def resetDueSubscriptions (loc : Location) (store : Store) (limit now : Int) :
    Except SubscriptionError (List Int × Store) :=
  resetDueRows loc now (store.resetBatch limit now) ([], store)

/-! ## The task -/

def subscriptionResetBatchSize : Nat := 300

/-- A loop of the task is left unless a full batch was counted. -/
def lastBatch (count : Nat) : Bool := count = 0 || count < subscriptionResetBatchSize

/-- The first loop of the task.  Each call has its own order of the users. -/
def expireBatches (maps : Nat → MapOrder) (now : Int) :
    Nat × Store → Round (Nat × Store) Store
  | (round, store) =>
    let (count, next) := expireDueSubscriptions store subscriptionResetBatchSize now (maps round)
    if lastBatch count then .stop next else .again (round + 1, next)

/-- The second loop of the task. -/
def applyBatches (now : Int) (store : Store) : Round Store Store :=
  let (count, next) := applyStartedSubscriptionUpgradeGroups store subscriptionResetBatchSize now
  if lastBatch count then .stop next else .again next

/-- The third loop of the task; a call that does not come back is its error. -/
def resetBatches (loc : Location) (now : Int) (store : Store) :
    Round Store (Except SubscriptionError Store) :=
  match resetDueSubscriptions loc store subscriptionResetBatchSize now with
  | .error error => .stop (.error error)
  | .ok (counted, next) => if lastBatch counted.length then .stop (.ok next) else .again next

/-- `runSubscriptionQuotaResetOnce` with a bound on the rounds of each loop. -/
def runSubscriptionQuotaResetOnce (loc : Location) (maps : Nat → MapOrder) (now : Int)
    (rounds : Nat) (store : Store) : Option (Except SubscriptionError Store) :=
  ((runLoop (expireBatches maps now) rounds (0, store)).bind
    (runLoop (applyBatches now) rounds)).bind (runLoop (resetBatches loc now) rounds)

variable {loc : Location} {store next : Store} {now : Int}

theorem lastBatch_eq_false {count : Nat} (full : lastBatch count = false) : 0 < count := by
  simp only [lastBatch, Bool.or_eq_false_iff, decide_eq_false_iff_not] at full
  exact Nat.pos_of_ne_zero full.1

/-! ## Expiries -/

/-- Number of rows whose expiry is due. -/
def Store.expiriesDue (store : Store) (now : Int) : Nat :=
  store.subs.rows.countP fun sub => sub.expiryDue now

theorem expiryDue_expire (sub : UserSubscription) (userId now : Int) :
    (sub.expire userId now).expiryDue now =
      (sub.expiryDue now && decide (sub.userId ≠ userId)) := by
  unfold expire
  split
  next due =>
    simp only [Bool.and_eq_true, decide_eq_true_eq] at due
    simp [expiryDue, due.1]
  rename_i other
  by_cases own : sub.userId = userId
  · have notDue : sub.expiryDue now = false := by simpa [own] using other
    simp [notDue]
  · simp [own]

theorem expiriesDue_expireUser (store : Store) (userId now : Int) :
    store.expiryCount userId now + (store.expireUser userId now).expiriesDue now =
      store.expiriesDue now := by
  simp only [expiryCount, expiriesDue, subs_expireUser, countP_map]
  induction store.subs.rows with
  | nil => rfl
  | cons sub rows ih =>
    simp only [countP_cons, Function.comp_apply, expiryDue_expire] at ih ⊢
    cases sub.expiryDue now <;> by_cases own : sub.userId = userId <;> simp [own] <;> omega

theorem expiriesDue_expireUsers (now : Int) (userIds : List Int) (state : Nat × Store) :
    (expireUsers now state userIds).1 + (expireUsers now state userIds).2.expiriesDue now =
      state.1 + state.2.expiriesDue now := by
  refine foldlRecOn (motive := fun next : Nat × Store => next.1 + next.2.expiriesDue now = _) _ _
    rfl fun next same userId _ => ?_
  have counted := expiriesDue_expireUser next.2 userId now
  simp only
  omega

/-- The first loop of the task ends: every round but the last leaves fewer rows due. -/
theorem expireBatches_end (maps : Nat → MapOrder) (now : Int) (state : Nat × Store) :
    Ends (expireBatches maps now) state := by
  apply @ends_of_measure _ _ _ (fun _ => True) (fun state => state.2.expiriesDue now) _
    state trivial
  rintro ⟨round, store⟩ next - again
  simp only [expireBatches] at again
  split at again
  · cases again
  rename_i full
  cases again
  have counted := expiriesDue_expireUsers now
    ((maps round).order (store.expiryUsers subscriptionResetBatchSize now)) (0, store)
  have some := lastBatch_eq_false (Bool.not_eq_true _ ▸ full)
  refine ⟨trivial, ?_⟩
  simp only [expireDueSubscriptions] at some counted ⊢
  omega

/-! ## Started upgrades -/

/-- The user is not in the group of the running subscription that ends last. -/
def Store.misplaced (store : Store) (now : Int) (user : User) : Bool :=
  (store.topUpgrade user.id now).any fun selected =>
    Text.trimSpace selected.upgradeGroup ≠ "" &&
      user.group ≠ Text.trimSpace selected.upgradeGroup

def Store.misplacedUsers (store : Store) (now : Int) : Nat :=
  store.users.rows.countP (store.misplaced now)

variable {user : User} {group : String} {counted' : List Int}

theorem misplacedUsers_setUserGroup {userId : Int} (present : (store.users.find? userId).isSome)
    (target : store.startedTarget userId now = some group) :
    (store.setUserGroup userId group).misplacedUsers now + 1 = store.misplacedUsers now := by
  obtain ⟨user, found⟩ := Option.isSome_iff_exists.mp present
  obtain ⟨member, rfl⟩ := find?_eq_some.mp found
  -- a user who is moved was misplaced and is not any more
  obtain ⟨before, after⟩ : store.misplaced now user = true ∧
      store.misplaced now { user with group := group } = false := by
    unfold startedTarget at target
    split at target
    · cases target
    rename_i selected top
    simp only at target
    split at target
    · cases target
    rename_i away
    cases target
    rw [not_or] at away
    have current : store.getUserGroupById user.id = user.group := by
      simp [getUserGroupById, found]
    rw [current] at away
    simp [misplaced, top, away.1, away.2]
  have saved : (store.setUserGroup user.id group).users =
      store.users.save { user with group := group } := by
    apply eq_of_rows
    apply map_congr_left
    intro row rowMem
    by_cases same : row.id = user.id
    · rw [if_pos same, if_pos same, store.users.eq_of_key_eq rowMem member same]
    · rw [if_neg same, if_neg same]
  have sameKey : user.id = User.id { user with group := group } := rfl
  have moved := countP_save member sameKey (store.misplaced now)
  have same : (store.setUserGroup user.id group).misplaced now = store.misplaced now := rfl
  rw [misplacedUsers, saved, same, misplacedUsers]
  simpa [before, after] using moved

theorem misplacedUsers_applyStarted (now : Int) (userIds : List Int) (state : Nat × Store)
    (present : ∀ userId ∈ userIds, (state.2.users.find? userId).isSome) :
    (userIds.foldl (applyStarted now) state).1 +
        (userIds.foldl (applyStarted now) state).2.misplacedUsers now =
      state.1 + state.2.misplacedUsers now := by
  refine (foldlRecOn (motive := fun next : Nat × Store =>
    next.1 + next.2.misplacedUsers now = state.1 + state.2.misplacedUsers now ∧
      ∀ other, (next.2.users.find? other).isSome = (state.2.users.find? other).isSome)
    userIds _ ⟨rfl, fun _ => rfl⟩ ?_).1
  rintro next ⟨same, users⟩ userId member
  unfold applyStarted
  split
  · exact ⟨same, users⟩
  split
  · exact ⟨same, users⟩
  rename_i group target
  have counted := misplacedUsers_setUserGroup
    ((users userId).trans (present userId member)) target
  refine ⟨by simp only; omega, ?_⟩
  intro other
  simp only [setUserGroup, find?_update, Option.isSome_map, users]

/-- The second loop of the task ends: every round but the last leaves fewer users
misplaced. -/
theorem applyBatches_end (now : Int) (store : Store) : Ends (applyBatches now) store := by
  apply @ends_of_measure _ _ _ (fun _ => True) (fun store => store.misplacedUsers now) _
    store trivial
  intro store next _ again
  simp only [applyBatches] at again
  split at again
  · cases again
  rename_i full
  cases again
  have some := lastBatch_eq_false (Bool.not_eq_true _ ▸ full)
  have counted := misplacedUsers_applyStarted now
    (store.startedUsers subscriptionResetBatchSize now) (0, store) (by
      intro userId member
      obtain ⟨_, taken, rfl⟩ := mem_map.mp member
      have awaits := (mem_select.mp (mem_of_mem_take taken)).2
      simp only [awaitsUpgrade, Bool.and_eq_true] at awaits
      exact Option.isSome_of_any awaits.1.2)
  refine ⟨trivial, ?_⟩
  simp only [applyStartedSubscriptionUpgradeGroups] at some counted ⊢
  omega

/-! ## Quota resets -/

/-- Number of rows that wait for a reset. -/
def Store.resetsDue (store : Store) (now : Int) : Nat :=
  store.subs.rows.countP fun sub => sub.awaitsReset now

/-- Every active row whose reset time has passed, and whose plan can be read, has passed
a boundary of that plan, and the plan does not stall. -/
def ResetsAdvance (loc : Location) (store : Store) (now : Int) : Prop :=
  ∀ sub ∈ store.subs.rows, sub.awaitsReset now →
    ∀ plan, store.getSubscriptionPlanById sub.planId = .ok plan → sub.resetAdvances loc plan now

/-- A batch holds rows of the store that wait for a reset, each once. -/
structure Batch (store : Store) (now : Int) (subs : List UserSubscription) : Prop where
  nodup : (subs.map UserSubscription.id).Nodup
  found : ∀ sub ∈ subs, store.subs.find? sub.id = some sub
  awaits : ∀ sub ∈ subs, sub.awaitsReset now

theorem resetBatch_batch (store : Store) (limit now : Int) :
    Batch store now (store.resetBatch limit now) where
  nodup := by
    apply List.Nodup.sublist ((take_sublist _ _).map _)
    exact select_keys_nodup store.subs.nodup
  found := fun sub member =>
    find?_of_mem (mem_select.mp (mem_of_mem_take member)).1
  awaits := fun sub member => (mem_select.mp (mem_of_mem_take member)).2

theorem resetDue_of_awaitsReset (awaits : sub.awaitsReset now = true) :
    sub.resetDue now = true := by
  simp only [awaitsReset, Bool.and_eq_true] at awaits
  exact awaits.2

section

variable (batch : Batch store now (sub :: subs))

include batch

theorem Batch.tail : Batch store now subs where
  nodup := (nodup_cons.mp batch.nodup).2
  found := fun other member => batch.found other (mem_cons_of_mem sub member)
  awaits := fun other member => batch.awaits other (mem_cons_of_mem sub member)

/-- The rest of a batch is not touched by the reset of its first row. -/
theorem Batch.saved {moved : UserSubscription} (same : moved.id = sub.id) :
    Batch (store.saveSub moved) now subs where
  nodup := batch.tail.nodup
  found := by
    intro other member
    rw [find?_saveSub_other]
    · exact batch.tail.found other member
    · rw [same]
      rintro equal
      apply (nodup_cons.mp batch.nodup).1
      exact equal ▸ mem_map_of_mem member
  awaits := batch.tail.awaits

theorem resetDueRow_batch (loc : Location) (plan : SubscriptionPlan) :
    resetDueRow loc store sub.id plan now =
      (maybeResetUserSubscriptionWithPlan loc sub plan now).map fun moved =>
        (store.saveSub moved, true) := by
  have due := resetDue_of_awaitsReset (batch.awaits sub mem_cons_self)
  simp only [resetDue, Bool.and_eq_true, decide_eq_true_eq] at due
  rw [resetDueRow, batch.found sub mem_cons_self]
  simp only [due.1, due.2, and_self, if_true]
  cases maybeResetUserSubscriptionWithPlan loc sub plan now <;> rfl

end

/-- What a batch does whose rows all advance: the counted rows are not due any more, and
the other rows are left alone. -/
structure Advanced (store next : Store) (now : Int) (counted : List Int) : Prop where
  plans : next.plans = store.plans
  kept : ∀ row ∈ next.subs.rows, row.resetDue now → row ∈ store.subs.rows ∧ row.id ∉ counted
  fewer : counted.length + next.resetsDue now = store.resetsDue now

theorem resetDueRows_advance (batch : Batch store now subs) (advances : ∀ sub ∈ subs, ∀ plan,
      store.getSubscriptionPlanById sub.planId = .ok plan → sub.resetAdvances loc plan now)
    (counted : List Int) :
    ∃ more next, resetDueRows loc now subs (counted, store) = .ok (counted ++ more, next) ∧
      Advanced store next now more := by
  induction subs generalizing store counted with
  | nil =>
    refine ⟨[], store, by simp [resetDueRows], rfl, ?_, by simp⟩
    exact fun row member _ => ⟨member, by simp⟩
  | cons sub subs ih =>
    have rest := fun other member => advances other (mem_cons_of_mem sub member)
    cases planned : store.getSubscriptionPlanById sub.planId with
    | error =>
      obtain ⟨more, next, done, advanced⟩ := ih batch.tail rest counted
      exact ⟨more, next, by simpa [resetDueRows, planned] using done, advanced⟩
    | ok plan =>
      have awaits := batch.awaits sub mem_cons_self
      obtain ⟨moved, reset, same, notDue⟩ := maybeReset_advances
        (resetDue_of_awaitsReset awaits) (advances sub mem_cons_self plan planned)
      obtain ⟨more, next, done, advanced⟩ := ih (batch.saved same) rest
        (counted ++ [sub.id])
      refine ⟨sub.id :: more, next, ?_, advanced.plans, ?_, ?_⟩
      · rw [resetDueRows, planned]
        simp only [resetDueRow_batch batch, reset, Except.map, if_true]
        simpa using done
      · intro row member due
        obtain ⟨saved, fresh⟩ := advanced.kept row member due
        rcases mem_save.mp saved with ⟨rfl, -⟩ | ⟨old, other⟩
        · rw [notDue] at due
          cases due
        · refine ⟨old, ?_⟩
          rw [mem_cons, not_or]
          exact ⟨same ▸ other, fresh⟩
      · have waits : moved.awaitsReset now = false := by simp [awaitsReset, notDue]
        have once := countP_save
          (find?_mem (batch.found sub mem_cons_self)) same.symm
          (fun sub => sub.awaitsReset now)
        have fewer := advanced.fewer
        simp only [awaits, waits, if_true, Bool.false_eq_true, if_false] at once
        simp only [resetsDue, saveSub, Serial.save_toTable, length_cons] at fewer once ⊢
        omega

section

variable (advance : ResetsAdvance loc store now)

include advance

theorem ResetsAdvance.batch (limit : Int) :
    ∃ counted next, resetDueSubscriptions loc store limit now = .ok (counted, next) ∧
      Advanced store next now counted := by
  have batch := resetBatch_batch store limit now
  obtain ⟨counted, next, done, advanced⟩ := resetDueRows_advance batch (by
    intro sub member
    exact advance sub (find?_mem (batch.found sub member)) (batch.awaits sub member))
    []
  exact ⟨counted, next, done, advanced⟩

theorem ResetsAdvance.advanced (advanced : Advanced store next now counted) :
    ResetsAdvance loc next now := by
  intro sub member awaits plan planned
  apply advance sub (advanced.kept sub member (resetDue_of_awaitsReset awaits)).1 awaits plan
  simpa only [getSubscriptionPlanById, advanced.plans] using planned

/-- A full batch is followed by a smaller problem. -/
theorem ResetsAdvance.again (again : resetBatches loc now store = .again next) :
    ResetsAdvance loc next now ∧ next.resetsDue now < store.resetsDue now := by
  obtain ⟨_, _, done, advanced⟩ := advance.batch subscriptionResetBatchSize
  simp only [resetBatches, done] at again
  split at again
  · cases again
  rename_i full
  cases again
  have some := lastBatch_eq_false (Bool.not_eq_true _ ▸ full)
  have fewer := advanced.fewer
  exact ⟨advance.advanced advanced, by omega⟩

theorem resetBatches_end :
    ∃ rounds next, runLoop (resetBatches loc now) rounds store = some (.ok next) := by
  obtain ⟨result, ended, _, advance, stopped⟩ :=
    @runLoop_of_measure _ _ (resetBatches loc now) (fun store => ResetsAdvance loc store now)
      (fun store => store.resetsDue now)
      (fun _ _ advance again => ResetsAdvance.again advance again) store advance
  obtain ⟨_, after, done, -⟩ := advance.batch subscriptionResetBatchSize
  simp only [resetBatches, done] at stopped
  split at stopped
  · cases stopped
    exact ⟨_, after, ended⟩
  · cases stopped

end

/-! ## Rows that do not advance -/

/-- A batch only adds to the count, and changes no row outside of it. -/
theorem resetDueRows_frame
    (done : resetDueRows loc now subs (counted, store) = .ok (counted', next)) :
    (∀ id ∈ counted, id ∈ counted') ∧
      ∀ id, id ∉ subs.map UserSubscription.id → next.subs.find? id = store.subs.find? id := by
  induction subs generalizing store counted with
  | nil =>
    cases done
    exact ⟨fun _ member => member, fun _ _ => rfl⟩
  | cons sub subs ih =>
    rw [resetDueRows] at done
    split at done
    · obtain ⟨grows, frame⟩ := ih done
      exact ⟨grows, fun id outside => frame id (by simp_all)⟩
    split at done
    · cases done
    rename_i middle reset row
    obtain ⟨grows, frame⟩ := ih done
    constructor
    · intro id member
      apply grows
      split
      · exact mem_append_left _ member
      · exact member
    · intro id outside
      rw [frame id (by simp_all)]
      have other : id ≠ sub.id := by
        intro same
        exact outside (by simp [same])
      unfold resetDueRow at row
      split at row
      · cases row
        rfl
      rename_i locked found
      split at row
      · split at row
        · cases row
        rename_i moved called
        cases row
        obtain ⟨_, _, rfl⟩ := maybeReset_ok called
        apply find?_saveSub_other
        rw [withPeriod_id, Table.find?_key found]
        exact other
      · cases row
        rfl

theorem resetDueRows_stuck (batch : Batch store now subs)
    (done : resetDueRows loc now subs (counted, store) = .ok (counted', next)) (member : sub ∈ subs)
    {plan : SubscriptionPlan} (planned : store.getSubscriptionPlanById sub.planId = .ok plan)
    (stuck : sub.resetAdvances loc plan now = false) :
    sub.id ∈ counted' ∧ next.subs.find? sub.id = some sub := by
  induction subs generalizing store counted with
  | nil => cases member
  | cons first subs ih =>
    have outside := (nodup_cons.mp batch.nodup).1
    rw [resetDueRows] at done
    split at done
    next unplanned =>
      rcases mem_cons.mp member with rfl | later
      · rw [unplanned] at planned
        cases planned
      · exact ih batch.tail done later planned
    rename_i firstPlan firstPlanned
    rw [resetDueRow_batch batch] at done
    cases called : maybeResetUserSubscriptionWithPlan loc first firstPlan now with
    | error => simp [called, Except.map] at done
    | ok moved =>
      simp only [called, Except.map, if_true] at done
      obtain ⟨_, _, same⟩ := maybeReset_ok called
      have sameId : moved.id = first.id := by rw [same, withPeriod_id]
      rcases mem_cons.mp member with rfl | later
      · rw [planned] at firstPlanned
        cases firstPlanned
        have due := resetDue_of_awaitsReset (batch.awaits sub member)
        have unmoved := maybeReset_stuck due stuck called
        obtain ⟨grows, frame⟩ := resetDueRows_frame done
        refine ⟨grows _ (by simp), ?_⟩
        rw [frame _ outside, unmoved]
        exact find?_saveSub_same store sub (batch.found sub member)
      · exact ih (batch.saved sameId) done later planned

theorem resetDueRows_idle (batch : Batch store now subs)
    (idle : ∀ sub ∈ subs, ∃ plan, store.getSubscriptionPlanById sub.planId = .ok plan ∧
      sub.boundaryPassed loc plan now = false) (counted : List Int) :
    resetDueRows loc now subs (counted, store) =
      .ok (counted ++ subs.map UserSubscription.id, store) := by
  induction subs generalizing counted with
  | nil => simp [resetDueRows]
  | cons sub subs ih =>
    obtain ⟨plan, planned, waiting⟩ := idle sub mem_cons_self
    have due := resetDue_of_awaitsReset (batch.awaits sub mem_cons_self)
    have unmoved : maybeResetUserSubscriptionWithPlan loc sub plan now = .ok sub := by
      simp [maybeReset_due due, waiting]
    have saved : store.saveSub sub = store := by
      rw [saveSub, Serial.save_eq_self
        (find?_mem (batch.found sub mem_cons_self))]
    have rest := ih batch.tail
      (fun other member => idle other (mem_cons_of_mem sub member))
      (counted ++ [sub.id])
    rw [resetDueRows, planned]
    simp only [resetDueRow_batch batch, unmoved, Except.map, saved, if_true, rest,
      map_cons, append_assoc, singleton_append]

/-- A full batch of such rows keeps the task running for ever. -/
theorem resetBatches_never_end (full : subscriptionResetBatchSize ≤ store.resetsDue now)
    (idle : ∀ sub ∈ store.subs.rows, sub.awaitsReset now →
      ∃ plan, store.getSubscriptionPlanById sub.planId = .ok plan ∧
        sub.boundaryPassed loc plan now = false) : ¬ Ends (resetBatches loc now) store := by
  have batch := resetBatch_batch store subscriptionResetBatchSize now
  have unchanged := resetDueRows_idle batch (fun sub member =>
    idle sub (find?_mem (batch.found sub member)) (batch.awaits sub member)) []
  have size : ((store.resetBatch subscriptionResetBatchSize now).map
      UserSubscription.id).length = subscriptionResetBatchSize := by
    rw [resetsDue, countP_eq_length_filter] at full
    simp only [resetBatch, select, length_map, length_take, length_insertionSort]
    exact min_eq_left full
  apply @not_ends_of_invariant _ _ (resetBatches loc now) (fun state => state = store)
  · rintro state rfl
    refine ⟨state, ?_, rfl⟩
    simp only [resetBatches, resetDueSubscriptions, unchanged, nil_append, size]
    rfl
  · rfl

/-! ## The whole task -/

theorem ResetsAdvance.expireUser (advance : ResetsAdvance loc store now) (userId : Int) :
    ResetsAdvance loc (store.expireUser userId now) now := by
  intro sub member awaits plan planned
  obtain ⟨old, oldMem, rfl⟩ := mem_expireUser.mp member
  have same : old.expire userId now = old := by
    rcases old.expire_eq userId now with same | ⟨changed, -⟩
    · exact same
    · simp [awaitsReset, changed] at awaits
  rw [same] at awaits planned ⊢
  apply advance old oldMem awaits plan
  simpa only [getSubscriptionPlanById, plans_expireUser] using planned

theorem ResetsAdvance.expireUsers (userIds : List Int) (state : Nat × Store)
    (advance : ResetsAdvance loc state.2 now) :
    ResetsAdvance loc (expireUsers now state userIds).2 now := by
  exact foldlRecOn (motive := fun next : Nat × Store => ResetsAdvance loc next.2 now) _ _ advance
    fun _ advance userId _ => advance.expireUser userId

theorem ResetsAdvance.applyStarted (advance : ResetsAdvance loc store now) (limit : Int) :
    ResetsAdvance loc (applyStartedSubscriptionUpgradeGroups store limit now).2 now := by
  obtain ⟨_, moved⟩ := applyStarted_ok now (store.startedUsers limit now) (0, store)
  rw [applyStartedSubscriptionUpgradeGroups, moved]
  exact advance

/-- Expiries and upgrades leave the resets as they are, so the whole pass ends. -/
theorem ResetsAdvance.pass (advance : ResetsAdvance loc store now) (maps : Nat → MapOrder) :
    ∃ rounds next, runSubscriptionQuotaResetOnce loc maps now rounds store = some (.ok next) := by
  obtain ⟨first, expired, expiredEnd⟩ := expireBatches_end maps now (0, store)
  have advance : ResetsAdvance loc expired now := by
    obtain ⟨last, kept, stopped⟩ := @runLoop_stopped _ _ _
      (fun state : Nat × Store => ResetsAdvance loc state.2 now) (by
        intro state next kept again
        simp only [expireBatches] at again
        split at again
        · cases again
        · cases again
          exact kept.expireUsers _ (0, state.2)) _ _ _ advance expiredEnd
    simp only [expireBatches] at stopped
    split at stopped
    · cases stopped
      exact kept.expireUsers _ (0, last.2)
    · cases stopped
  obtain ⟨second, applied, appliedEnd⟩ := applyBatches_end now expired
  have advance : ResetsAdvance loc applied now := by
    obtain ⟨_, kept, stopped⟩ := @runLoop_stopped _ _ _
      (fun store => ResetsAdvance loc store now) (by
        intro store next kept again
        simp only [applyBatches] at again
        split at again
        · cases again
        · cases again
          exact kept.applyStarted _) _ _ _ advance appliedEnd
    simp only [applyBatches] at stopped
    split at stopped
    · cases stopped
      exact kept.applyStarted _
    · cases stopped
  obtain ⟨third, next, resetEnd⟩ := resetBatches_end advance
  refine ⟨max first (max second third), next, ?_⟩
  rw [runSubscriptionQuotaResetOnce, runLoop_mono _ (le_max_left _ _) expiredEnd,
    Option.bind_some, runLoop_mono _ (by omega) appliedEnd, Option.bind_some,
    runLoop_mono _ (by omega) resetEnd]

/-- What the task promises: its loops end, the pass as a whole ends, and a reset that
counts a row leaves it not due. -/
structure MaintenanceEnds (loc : Location) (store : Store) (now : Int) : Prop where
  expire : ∀ maps, Ends (expireBatches maps now) (0, store)
  apply : Ends (applyBatches now) store
  reset : ∃ rounds next, runLoop (resetBatches loc now) rounds store = some (.ok next)
  pass : ∀ maps, ∃ rounds next,
    runSubscriptionQuotaResetOnce loc maps now rounds store = some (.ok next)
  counted : ∀ limit, ∃ counted next,
    resetDueSubscriptions loc store limit now = .ok (counted, next) ∧
      ∀ id ∈ counted, ∀ row, next.subs.find? id = some row → row.resetDue now = false

/-- The maintenance task ends, and counts no row that stays due, exactly when every row
whose reset time has passed has passed a boundary of its current plan. -/
theorem maintenance_ends_iff (loc : Location) (store : Store) (now : Int) :
    MaintenanceEnds loc store now ↔ ResetsAdvance loc store now := by
  constructor
  · intro ends sub member awaits plan planned
    by_contra stuck
    obtain ⟨counted, next, done, notDue⟩ := ends.counted (store.subs.rows.length + 1)
    have inBatch : sub ∈ store.resetBatch (store.subs.rows.length + 1) now := by
      rw [resetBatch, take_of_length_le]
      · exact mem_select.mpr ⟨member, awaits⟩
      · have short := length_filter_le (fun sub => sub.awaitsReset now)
          store.subs.rows
        simp only [select, length_insertionSort, batchLimit]
        split <;> omega
    obtain ⟨isCounted, unmoved⟩ := resetDueRows_stuck (resetBatch_batch store _ now) done
      inBatch planned (by simpa using stuck)
    have due := resetDue_of_awaitsReset awaits
    rw [notDue sub.id isCounted sub unmoved] at due
    cases due
  · intro advance
    refine ⟨fun maps => expireBatches_end maps now (0, store), applyBatches_end now store,
      resetBatches_end advance, advance.pass, ?_⟩
    intro limit
    obtain ⟨counted, next, done, advanced⟩ := advance.batch limit
    refine ⟨counted, next, done, ?_⟩
    intro id isCounted row found
    by_contra due
    obtain ⟨-, fresh⟩ := advanced.kept row (find?_mem found) (by simpa using due)
    exact fresh (find?_key found ▸ isCounted)

/-- The row of a plan that an administrator has edited. -/
def Store.updatePlan (store : Store) (plan : SubscriptionPlan) : Store :=
  { store with plans := store.plans.save plan }

/-- A plan whose quota starts over every day. -/
def dailyPlan : SubscriptionPlan := { id := 1, quotaResetPeriod := "daily" }

/-- A subscription to it, one day old. -/
def dailySub (id : Int) : UserSubscription :=
  { id := id, userId := 7, planId := 1, startTime := 0, endTime := 1000000,
    nextResetTime := 86400 }

def dailyStore : Store where
  plans := .single dailyPlan
  subs :=
    { rows := (range subscriptionResetBatchSize).map fun index : Nat =>
        dailySub (index + 1)
      nodup := by
        rw [map_map]
        apply nodup_range.map
        intro left right same
        simpa [dailySub] using same
      next := subscriptionResetBatchSize + 1
      next_pos := by decide
      issued := by
        intro row member
        obtain ⟨_, inside, rfl⟩ := mem_map.mp member
        have bound := mem_range.mp inside
        simp only [dailySub]
        omega }

theorem mem_dailyStore (member : sub ∈ dailyStore.subs.rows) : ∃ id, sub = dailySub id := by
  obtain ⟨_, -, rfl⟩ := mem_map.mp member
  exact ⟨_, rfl⟩

/-- The plan after an administrator has switched its resets off. -/
def neverPlan : SubscriptionPlan := { dailyPlan with quotaResetPeriod := "never" }

/-- While the plan resets daily all is well; editing it so that its quota never starts
over keeps the task running for ever. -/
theorem edited_plan_keeps_task_running :
    ResetsAdvance ⟨0⟩ dailyStore 90000 ∧
      ¬ Ends (resetBatches ⟨0⟩ 90000) (dailyStore.updatePlan neverPlan) ∧
      ¬ MaintenanceEnds ⟨0⟩ (dailyStore.updatePlan neverPlan) 90000 := by
  have endless : ¬ Ends (resetBatches ⟨0⟩ 90000) (dailyStore.updatePlan neverPlan) := by
    apply resetBatches_never_end
    · have all : (dailyStore.subs.rows.countP fun sub => sub.awaitsReset 90000) =
          dailyStore.subs.rows.length := by
        apply countP_eq_length.mpr
        intro sub member
        obtain ⟨id, rfl⟩ := mem_dailyStore member
        rfl
      exact (all.trans (by simp [dailyStore])).ge
    · intro sub member _
      obtain ⟨id, rfl⟩ := mem_dailyStore member
      refine ⟨neverPlan.normalizeDefaults, rfl, ?_⟩
      have waiting : (dailySub 0).boundaryPassed ⟨0⟩ neverPlan.normalizeDefaults 90000 =
          false := by
        decide +kernel
      exact waiting
  refine ⟨?_, endless, ?_⟩
  · intro sub member _ plan planned
    obtain ⟨_, rfl⟩ := mem_dailyStore member
    cases planned
    have passed : (dailySub 0).resetAdvances ⟨0⟩ dailyPlan.normalizeDefaults 90000 =
        true := by
      decide +kernel
    exact passed
  · intro ends
    obtain ⟨rounds, _, ended⟩ := ends.reset
    exact endless ⟨rounds, _, ended⟩

end StuHelper.Subscription

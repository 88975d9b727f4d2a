import StuHelper.Lib.Run
import StuHelper.Subscription.LifecycleSteps

/-!
# Paid groups are given back

A subscription remembers the group that its user had before, and the subscription that
expires last gives it back.  A renewal that is queued behind a running subscription of
the same plan inherits the remembered group.  A purchase that is made in another paid
group remembers that one instead, or nothing when the two groups are equal.

The invariant says in which of two phases a user is: at home, or in the middle of one
chain of renewals, every subscription of which leads back home.
-/

namespace StuHelper.Subscription

variable {sub : UserSubscription} {since planId user : Int} {group : String}

open Lib UserSubscription Store

/-! ## Purchases, upgrades and expiries under a clock -/

/-- A store and the time of its last operation. -/
structure GroupState where
  clock : Int
  store : Store

/-- The operations that move a user between groups by themselves. -/
inductive GroupOp where
  | purchase (op : PurchaseOp)
  | applyStarted (limit now : Int)
  | expireDue (limit now : Int) (map : MapOrder)

namespace GroupOp

/-- The clock at which an operation runs. -/
def now : GroupOp → Int
  | .purchase op => op.now
  | .applyStarted _ now => now
  | .expireDue _ now _ => now

/-- The operation among all operations on subscriptions. -/
def lifecycle : GroupOp → LifecycleOp
  | .purchase op => .purchase op
  | .applyStarted limit now => .applyStarted limit now
  | .expireDue limit now map => .expireDue limit now map

end GroupOp

/-- One operation, which also moves the clock. -/
def groupStep (shop : Shop) (state : GroupState) (op : GroupOp) : GroupState :=
  ⟨op.now, lifecycleStep shop state.store op.lifecycle⟩

def Store.subsOf (store : Store) (userId : Int) : Set UserSubscription :=
  { sub | sub ∈ store.subs.rows ∧ sub.userId = userId }

/-- The plan moves its buyers out of the group `home` and names no other group for the
way back. -/
@[mk_iff]
structure LeavesHome (home : String) (plan : SubscriptionPlan) : Prop where
  upgrades : Text.trimSpace plan.upgradeGroup ≠ ""
  leaves : Text.trimSpace plan.upgradeGroup ≠ home
  plain : Text.trimSpace plan.downgradeGroup = ""
  fits : plan.DurationInRange

/-- The clock does not go back, and the user buys a plan only at home or while an active
subscription of the same plan has not ended. -/
def RenewsInTime (userId : Int) (home : String) (state : GroupState) (op : GroupOp) : Prop :=
  state.clock ≤ op.now ∧
    match op with
    | .purchase op => ∀ planId, op.buys state.store = some (userId, planId) →
        state.store.getUserGroupById userId = home ∨
          ∃ sub ∈ state.store.subsOf userId, sub.planId = planId ∧
            sub.status = .active ∧ op.now < sub.endTime
    | .applyStarted _ _ | .expireDue _ _ _ => True

section Invariant

variable (userId : Int) (home : String)

/-- A subscription leads home: it is active, or has expired when it ended. -/
structure LeadsHome (clock : Int) (sub : UserSubscription) : Prop where
  upgrades : sub.upgradeGroup ≠ ""
  trimmed : Text.trimSpace sub.upgradeGroup = sub.upgradeGroup
  leaves : sub.upgradeGroup ≠ home
  back : sub.prevUserGroup = home
  plain : sub.downgradeGroup = ""
  lasts : sub.startTime < sub.endTime
  positive : 0 < sub.endTime
  status : sub.status = .active ∨ (sub.status = .expired ∧ sub.endTime ≤ clock)

/-- The user is at home and nothing is active. -/
structure AtHome (store : Store) : Prop where
  group : store.getUserGroupById userId = home
  expired : ∀ sub ∈ store.subsOf userId, sub.status = .expired

/-- A subscription of the chain that began at `since`: the first one, or one that starts
where another one ends. -/
structure Link (store : Store) (since planId : Int) (group : String)
    (sub : UserSubscription) : Prop where
  plan : sub.planId = planId
  upgrade : sub.upgradeGroup = group
  after : since < sub.endTime
  follows : sub.startTime = since ∨ ∃ earlier ∈ store.subsOf userId,
    since < earlier.endTime ∧ earlier.endTime = sub.startTime

/-- The user is in the group of one plan, in a chain of renewals that began at `since`.
What was bought before has expired by then. -/
structure InChain (store : Store) (clock since planId : Int) (group : String) :
    Prop where
  begun : since ≤ clock
  current : store.getUserGroupById userId = group
  nonempty : group ≠ ""
  upgrade : ∀ plan, store.getSubscriptionPlanById planId = .ok plan →
    Text.trimSpace plan.upgradeGroup = group
  running : ∃ sub ∈ store.subsOf userId, sub.status = .active
  rows : ∀ sub ∈ store.subsOf userId, (sub.status = .expired ∧ sub.endTime ≤ since) ∨
      Link userId store since planId group sub

/-- The user is at home or in a chain that leads there. -/
structure FindsHome (clock : Int) (store : Store) : Prop where
  positive : 0 ≤ clock
  plans : ∀ plan ∈ store.plans.rows, LeavesHome home plan
  rows : ∀ sub ∈ store.subsOf userId, LeadsHome home clock sub
  phase : AtHome userId home store ∨
    ∃ since planId group, InChain userId store clock since planId group

end Invariant

variable {userId : Int} {home : String} {store next : Store} {clock now : Int}

/-! ## Chains -/

theorem LeadsHome.later (leads : LeadsHome home clock sub) (le : clock ≤ now) :
    LeadsHome home now sub := by
  have status := leads.status
  exact { leads with status := status.imp_right fun ended => ⟨ended.1, ended.2.trans le⟩ }

theorem FindsHome.later (finds : FindsHome userId home clock store) (le : clock ≤ now) :
    FindsHome userId home now store where
  positive := finds.positive.trans le
  plans := finds.plans
  rows := fun sub own => (finds.rows sub own).later le
  phase := by
    rcases finds.phase with atHome | ⟨since, planId, group, chain⟩
    · exact .inl atHome
    · exact .inr ⟨since, planId, group, { chain with begun := chain.begun.trans le }⟩

theorem FindsHome.congr (finds : FindsHome userId home clock store)
    (subs : next.subsOf userId = store.subsOf userId)
    (group : next.getUserGroupById userId = store.getUserGroupById userId)
    (plans : next.plans = store.plans) : FindsHome userId home clock next where
  positive := finds.positive
  plans := by
    rw [plans]
    exact finds.plans
  rows := by
    rw [subs]
    exact finds.rows
  phase := by
    rcases finds.phase with atHome | ⟨since, planId, name, chain⟩
    · refine .inl ⟨group.trans atHome.group, ?_⟩
      rw [subs]
      exact atHome.expired
    · refine .inr ⟨since, planId, name, chain.begun, group.trans chain.current,
        chain.nonempty, ?_, ?_, ?_⟩
      · simpa only [getSubscriptionPlanById, plans] using chain.upgrade
      · rw [subs]
        exact chain.running
      · intro sub own
        rw [subs] at own
        refine (chain.rows sub own).imp_right fun link => ?_
        refine { link with follows := ?_ }
        rw [subs]
        exact link.follows

theorem InChain.link (chain : InChain userId store clock since planId group)
    (own : sub ∈ store.subsOf userId) (active : sub.status = .active) :
    Link userId store since planId group sub := by
  rcases chain.rows sub own with ⟨expired, -⟩ | link
  · rw [active] at expired
    cases expired
  · exact link

theorem InChain.exists_started (chain : InChain userId store clock since planId group)
    (rows : ∀ sub ∈ store.subsOf userId, LeadsHome home clock sub) :
    ∃ sub ∈ store.subsOf userId, sub.status = .active ∧ sub.startTime ≤ clock := by
  obtain ⟨sub, own, active⟩ := chain.running
  induction distance : (sub.startTime - since).toNat using Nat.strong_induction_on
      generalizing sub with
  | _ bound ih =>
    by_cases started : sub.startTime ≤ clock
    · exact ⟨sub, own, active, started⟩
    rcases (chain.link own active).follows with first | ⟨earlier, earlierOwn, after, ends⟩
    · exact absurd (first ▸ chain.begun) started
    · have leads := rows earlier earlierOwn
      have shorter := leads.lasts
      have earlierActive : earlier.status = .active := by
        rcases leads.status with yes | ⟨-, ended⟩
        · exact yes
        · omega
      exact ih _ (by omega) earlier earlierOwn earlierActive rfl

theorem present_of_group (nonempty : group ≠ "") (current : store.getUserGroupById userId = group) :
    (store.users.find? userId).isSome := by
  by_contra missing
  rw [getUserGroupById, Option.not_isSome_iff_eq_none.mp missing] at current
  exact nonempty current.symm

theorem Link.mono (link : Link userId store since planId group sub)
    (kept : store.subsOf userId ⊆ next.subsOf userId) :
    Link userId next since planId group sub := by
  refine { link with follows := link.follows.imp_right ?_ }
  rintro ⟨earlier, own, facts⟩
  exact ⟨earlier, kept own, facts⟩

/-! ## Purchases -/

section Purchases

variable {loc : Location} {plan : SubscriptionPlan} {source : Source} {endTime : Int}

theorem nextStart_cases (store : Store) (userId planId now : Int) :
    (store.nextSubscriptionStartTime userId planId now = (now, none) ∧
      ∀ sub ∈ store.subsOf userId, sub.planId = planId → sub.status = .active → sub.endTime ≤ now) ∨
      ∃ latest ∈ store.subsOf userId, latest.planId = planId ∧
        latest.status = .active ∧ now < latest.endTime ∧
        store.nextSubscriptionStartTime userId planId now = (latest.endTime, some latest) := by
  unfold nextSubscriptionStartTime
  split
  next latest found =>
    obtain ⟨member, passes⟩ := selectFirst_mem found
    simp only [Bool.and_eq_true, decide_eq_true_eq] at passes
    obtain ⟨⟨⟨ownUser, ownPlan⟩, active⟩, ends⟩ := passes
    exact .inr ⟨latest, ⟨member, ownUser⟩, ownPlan, active, ends, rfl⟩
  rename_i none
  refine .inl ⟨rfl, ?_⟩
  rintro sub ⟨member, ownUser⟩ ownPlan active
  have fails := selectFirst_eq_none.mp none sub member
  simpa [ownUser, ownPlan, active] using fails

theorem mem_subsOf_created
    (subs : next.subs = store.subs.create (newSubscription loc store userId plan source now endTime)
      (newSubscription_id loc store userId plan source now endTime)) (sub : UserSubscription) :
    sub ∈ next.subsOf userId ↔ sub ∈ store.subsOf userId ∨
      sub = newSubscription loc store userId plan source now endTime store.subs.next := by
  simp only [subsOf, Set.mem_ofPred_eq, subs, Serial.mem_create]
  constructor
  · rintro ⟨old | new, own⟩
    · exact .inl ⟨old, own⟩
    · exact .inr new
  · rintro (⟨old, own⟩ | rfl)
    · exact ⟨.inl old, own⟩
    · exact ⟨.inr rfl, rfl⟩

theorem LeadsHome.new {start id : Int} {previous : Option UserSubscription}
    (leaves : LeavesHome home plan) (positive : 0 ≤ start) (lasts : start < endTime)
    (starts : store.nextSubscriptionStartTime userId plan.id now = (start, previous))
    (remembers : prevGroupFor previous (store.getUserGroupById userId)
      (Text.trimSpace plan.upgradeGroup) = home) :
    LeadsHome home clock
      (newSubscription loc store userId plan source now endTime id) where
  upgrades := leaves.upgrades
  trimmed := Text.trimSpace_trimSpace plan.upgradeGroup
  leaves := leaves.leaves
  back := by simp [newSubscription, starts, leaves.upgrades, remembers]
  plain := leaves.plain
  lasts := by simpa [newSubscription, starts] using lasts
  positive := lt_of_le_of_lt positive lasts
  status := .inl rfl

variable (finds : FindsHome userId home now store) (nonempty : home ≠ "")
  (planned : store.getSubscriptionPlanById planId = .ok plan)
  (created : Created loc store next userId plan source now)

include finds nonempty planned created

theorem AtHome.bought (atHome : AtHome userId home store) (leaves : LeavesHome home plan) :
    FindsHome userId home now next := by
  obtain ⟨-, planKey, -⟩ := getSubscriptionPlanById_ok planned
  have idle : store.nextSubscriptionStartTime userId plan.id now = (now, none) := by
    rcases nextStart_cases store userId plan.id now with ⟨starts, -⟩ |
      ⟨latest, own, -, active, -⟩
    · exact starts
    · rw [atHome.expired latest own] at active
      cases active
  have present := present_of_group nonempty atHome.group
  obtain ⟨endTime, ends, subs⟩ := created.subs
  rw [idle] at ends
  have lasts := calcPlanEndTime_gt leaves.fits ends
  have leads : LeadsHome home now
      (newSubscription loc store userId plan source now endTime store.subs.next) := by
    apply LeadsHome.new leaves finds.positive lasts idle
    simp [prevGroupFor, atHome.group, leaves.leaves.symm]
  have rows := mem_subsOf_created subs
  refine ⟨finds.positive, created.plans ▸ finds.plans, ?_, .inr
    ⟨now, planId, Text.trimSpace plan.upgradeGroup, le_rfl, ?_, leaves.upgrades, ?_,
      ⟨_, (rows _).mpr (.inr rfl), rfl⟩, ?_⟩⟩
  · intro sub own
    rcases (rows sub).mp own with old | rfl
    · exact finds.rows sub old
    · exact leads
  · have group := created.group userId
    simpa [present, leaves.upgrades, idle] using group
  · intro again planned'
    have same : store.getSubscriptionPlanById planId = .ok again := by
      simpa only [getSubscriptionPlanById, created.plans] using planned'
    rw [planned] at same
    cases same
    rfl
  · intro sub own
    rcases (rows sub).mp own with old | rfl
    · rcases (finds.rows sub old).status with active | ended
      · rw [atHome.expired sub old] at active
        cases active
      · exact .inl ended
    · exact .inr ⟨planKey, rfl, lasts, .inl (by simp [newSubscription, idle])⟩

theorem InChain.bought {chainPlan : Int} (chain : InChain userId store now since chainPlan group)
    (trimmed : Text.trimSpace home = home) (leaves : LeavesHome home plan)
    (renews : ∃ sub ∈ store.subsOf userId, sub.planId = planId ∧
      sub.status = .active ∧ now < sub.endTime) : FindsHome userId home now next := by
  obtain ⟨-, planKey, -⟩ := getSubscriptionPlanById_ok planned
  obtain ⟨latest, latestOwn, latestPlan, latestActive, latestEnds, starts⟩ :
      ∃ latest ∈ store.subsOf userId, latest.planId = plan.id ∧
        latest.status = .active ∧ now < latest.endTime ∧
        store.nextSubscriptionStartTime userId plan.id now = (latest.endTime, some latest) := by
    rcases nextStart_cases store userId plan.id now with ⟨-, none⟩ | found
    · obtain ⟨sub, own, ownPlan, active, ends⟩ := renews
      exact absurd (none sub own (ownPlan.trans planKey.symm) active) (not_le.mpr ends)
    · exact found
  have latestLink := chain.link latestOwn latestActive
  have samePlan : planId = chainPlan := planKey.symm.trans (latestPlan.symm.trans latestLink.plan)
  have sameGroup : Text.trimSpace plan.upgradeGroup = group :=
    chain.upgrade plan (samePlan ▸ planned)
  obtain ⟨endTime, ends, subs⟩ := created.subs
  rw [starts] at ends
  have lasts := calcPlanEndTime_gt leaves.fits ends
  have leads : LeadsHome home now
      (newSubscription loc store userId plan source now endTime store.subs.next) := by
    apply LeadsHome.new leaves (finds.rows latest latestOwn).positive.le lasts starts
    simp [prevGroupFor, (finds.rows latest latestOwn).back, trimmed, nonempty]
  have rows := mem_subsOf_created subs
  have kept : store.subsOf userId ⊆ next.subsOf userId :=
    fun sub own => (rows sub).mpr (.inl own)
  refine ⟨finds.positive, created.plans ▸ finds.plans, ?_, .inr
    ⟨since, chainPlan, group, chain.begun, ?_, chain.nonempty, ?_,
      ⟨latest, kept latestOwn, latestActive⟩, ?_⟩⟩
  · intro sub own
    rcases (rows sub).mp own with old | rfl
    · exact finds.rows sub old
    · exact leads
  · have stays := created.group userId
    rw [starts, if_neg (by simp only; omega)] at stays
    exact stays.trans chain.current
  · simpa only [getSubscriptionPlanById, created.plans] using chain.upgrade
  · intro sub own
    rcases (rows sub).mp own with old | rfl
    · exact (chain.rows sub old).imp_right fun link => link.mono kept
    · have after := latestLink.after
      refine .inr ⟨planKey.trans samePlan, sameGroup, by exact after.trans lasts, .inr ?_⟩
      exact ⟨latest, kept latestOwn, after, by simp [newSubscription, starts]⟩

theorem FindsHome.bought (trimmed : Text.trimSpace home = home)
    (inTime : store.getUserGroupById userId = home ∨
      ∃ sub ∈ store.subsOf userId, sub.planId = planId ∧ sub.status = .active ∧ now < sub.endTime) :
    FindsHome userId home now next := by
  obtain ⟨-, -, row, found, rfl⟩ := getSubscriptionPlanById_ok planned
  have leaves : LeavesHome home row.normalizeDefaults :=
    { finds.plans row (Table.find?_mem found) with }
  rcases finds.phase with atHome | ⟨since, chainPlan, group, chain⟩
  · exact atHome.bought finds nonempty planned created leaves
  · apply chain.bought finds nonempty planned created trimmed leaves
    refine inTime.resolve_left fun isHome => ?_
    obtain ⟨sub, own, active⟩ := chain.running
    apply (finds.rows sub own).leaves
    rw [(chain.link own active).upgrade, ← chain.current, isHome]

end Purchases

/-! ## Started upgrades -/

/-- The user is already in the group of whatever runs. -/
theorem FindsHome.startedTarget (finds : FindsHome userId home clock store) (now : Int) :
    store.startedTarget userId now = none := by
  unfold Store.startedTarget
  split
  · rfl
  rename_i selected found
  obtain ⟨member, passes⟩ := selectFirst_mem found
  simp only [upgradesAt, runsAt, Bool.and_eq_true, decide_eq_true_eq] at passes
  have own : selected ∈ store.subsOf userId := ⟨member, passes.1⟩
  have active : selected.status = .active := passes.2.1.1.1
  rcases finds.phase with atHome | ⟨since, planId, group, chain⟩
  · rw [atHome.expired selected own] at active
    cases active
  · apply if_pos
    right
    rw [(finds.rows selected own).trimmed, (chain.link own active).upgrade]
    exact chain.current

theorem applyStarted_group {userIds : List Int} {state : Nat × Store}
    (settled : state.2.startedTarget userId now = none) :
    (userIds.foldl (applyStarted now) state).2.getUserGroupById userId =
      state.2.getUserGroupById userId := by
  induction userIds generalizing state with
  | nil => rfl
  | cons user userIds ih =>
    rw [List.foldl_cons]
    by_cases moves : 0 < user ∧ (state.2.startedTarget user now).isSome
    · obtain ⟨group, target⟩ := Option.isSome_iff_exists.mp moves.2
      have other : userId ≠ user := by
        rintro rfl
        rw [settled] at target
        cases target
      have moved : applyStarted now state user =
          (state.1 + 1, state.2.setUserGroup user group) := by
        rw [applyStarted, if_neg (by omega), target]
      have same : (state.2.setUserGroup user group).getUserGroupById userId =
          state.2.getUserGroupById userId := by
        rw [getUserGroupById_setUserGroup, if_neg (by simp [other])]
      rw [moved, ih, same]
      simp only [startedTarget, same]
      exact settled
    · have stays : applyStarted now state user = state := by
        unfold applyStarted
        split
        · rfl
        have none : state.2.startedTarget user now = none := by
          rw [← Option.not_isSome_iff_eq_none]
          exact fun some => moves ⟨by omega, some⟩
        rw [none]
      rw [stays]
      exact ih settled

theorem FindsHome.applyStarted (finds : FindsHome userId home clock store)
    (limit now : Int) : FindsHome userId home clock
      (applyStartedSubscriptionUpgradeGroups store limit now).2 := by
  obtain ⟨_, moved⟩ := applyStarted_ok now (store.startedUsers limit now) (0, store)
  apply finds.congr
  · simp only [subsOf, applyStarted_subs]
  · exact applyStarted_group (finds.startedTarget now)
  · rw [applyStartedSubscriptionUpgradeGroups, moved]

/-! ## Expiries -/

theorem mem_subsOf_expireRows :
    sub ∈ (store.expireRows user now).subsOf userId ↔
      ∃ old ∈ store.subsOf userId, old.expire user now = sub := by
  have keepsUser : ∀ old : UserSubscription, (old.expire user now).userId = old.userId := by
    intro old
    obtain ⟨_, changed⟩ := old.exists_expire_eq user now
    rw [changed]
  constructor
  · rintro ⟨member, own⟩
    obtain ⟨old, oldMem, rfl⟩ := List.mem_map.mp member
    exact ⟨old, ⟨oldMem, (keepsUser old).symm.trans own⟩, rfl⟩
  · rintro ⟨old, ⟨oldMem, own⟩, rfl⟩
    exact ⟨List.mem_map.mpr ⟨old, oldMem, rfl⟩, (keepsUser old).trans own⟩

theorem getUserGroupById_moveUser_other (target : Option String) (other : userId ≠ user) :
    (store.moveUser user target).getUserGroupById userId = store.getUserGroupById userId := by
  cases target with
  | none => rfl
  | some => rw [moveUser, getUserGroupById_setUserGroup, if_neg (by simp [other])]

theorem subsOf_moveUser (userId : Int) (store : Store) (user : Int) (target : Option String) :
    (store.moveUser user target).subsOf userId = store.subsOf userId := by
  obtain ⟨_, moved⟩ := moveUser_ok store user target
  rw [moved]
  rfl

/-- An expiry of another user changes nothing. -/
theorem FindsHome.expireUser_other (other : userId ≠ user)
    (finds : FindsHome userId home clock store) (now : Int) :
    FindsHome userId home clock (store.expireUser user now) := by
  apply finds.congr
  · rw [expireUser, subsOf_moveUser]
    ext sub
    rw [mem_subsOf_expireRows]
    have same : ∀ old ∈ store.subsOf userId, old.expire user now = old := by
      intro old own
      rcases old.expire_eq user now with same | ⟨-, ownUser, -⟩
      · exact same
      · exact absurd (own.2.symm.trans ownUser) other
    constructor
    · rintro ⟨old, own, rfl⟩
      rw [same old own]
      exact own
    · intro own
      exact ⟨sub, own, same sub own⟩
  · exact getUserGroupById_moveUser_other _ other
  · exact plans_expireUser store user now

theorem LeadsHome.expire (leads : LeadsHome home now sub) (user : Int) :
    LeadsHome home now (sub.expire user now) := by
  rcases sub.expire_eq user now with same | ⟨changed, -, due⟩
  · rw [same]
    exact leads
  · rw [changed]
    simp only [expiryDue, Bool.and_eq_true, decide_eq_true_eq] at due
    obtain ⟨upgrades, trimmed, leaves, back, plain, lasts, positive, -⟩ := leads
    exact ⟨upgrades, trimmed, leaves, back, plain, lasts, positive, .inr ⟨rfl, due.2⟩⟩

theorem Link.expire (link : Link userId store since planId group sub) (now : Int) :
    Link userId (store.expireRows userId now) since planId group (sub.expire userId now) := by
  have keeps : ∀ old : UserSubscription, (old.expire userId now).endTime = old.endTime := by
    intro old
    obtain ⟨_, changed⟩ := old.exists_expire_eq userId now
    rw [changed]
  have follows : sub.startTime = since ∨ ∃ earlier ∈ (store.expireRows userId now).subsOf userId,
        since < earlier.endTime ∧ earlier.endTime = sub.startTime := by
    refine link.follows.imp_right ?_
    rintro ⟨earlier, own, after, ends⟩
    refine ⟨earlier.expire userId now, mem_subsOf_expireRows.mpr ⟨earlier, own, rfl⟩, ?_⟩
    rw [keeps]
    exact ⟨after, ends⟩
  obtain ⟨_, changed⟩ := sub.exists_expire_eq userId now
  rw [changed]
  exact { link with follows }

theorem trimSpace_empty : Text.trimSpace "" = "" := by decide

theorem AtHome.expiryTarget (atHome : AtHome userId home store)
    (rows : ∀ sub ∈ store.subsOf userId, LeadsHome home clock sub) (now : Int) :
    store.expiryTarget userId now = none := by
  unfold Store.expiryTarget
  split
  · rfl
  split
  · rfl
  rename_i last found
  obtain ⟨member, passes⟩ := selectFirst_mem found
  simp only [Bool.and_eq_true, decide_eq_true_eq] at passes
  have leads := rows last ⟨member, passes.1.1⟩
  apply if_pos
  rw [leads.plain, leads.trimmed, atHome.group]
  exact ⟨trimSpace_empty, .inr (.inr leads.leaves.symm)⟩

theorem expiryTarget_home (nonempty : home ≠ "") (trimmed : Text.trimSpace home = home)
    (rows : ∀ sub ∈ store.subsOf userId, LeadsHome home clock sub)
    (links : ∀ sub ∈ store.subsOf userId, (sub.status = .expired ∧ sub.endTime ≤ since) ∨
      Link userId store since planId group sub) (current : store.getUserGroupById userId = group)
    (expired : ∀ sub ∈ store.subsOf userId, sub.status = .expired)
    (some : ∃ sub ∈ store.subsOf userId, since < sub.endTime) (now : Int) :
    store.expiryTarget userId now = .some home := by
  have noTop : (store.topUpgrade userId now).isSome = false := by
    rw [← Bool.not_eq_true, Option.not_isSome_iff_eq_none]
    apply selectFirst_eq_none.mpr
    intro sub member
    by_cases own : sub.userId = userId
    · simp [upgradesAt, runsAt, expired sub ⟨member, own⟩]
    · simp [own]
  obtain ⟨sub, own, after⟩ := some
  have passes : (decide (sub.userId = userId) && decide (sub.status = .expired) &&
      (decide (sub.downgradeGroup ≠ "") || decide (sub.upgradeGroup ≠ ""))) = true := by
    simp [own.2, expired sub own, (rows sub own).upgrades]
  unfold expiryTarget
  rw [noTop, if_neg (by simp)]
  split
  next none =>
    have fails := selectFirst_eq_none.mp none sub own.1
    rw [passes] at fails
    cases fails
  rename_i last found
  obtain ⟨member, lastPasses⟩ := selectFirst_mem found
  simp only [Bool.and_eq_true, decide_eq_true_eq] at lastPasses
  have lastOwn : last ∈ store.subsOf userId := ⟨member, lastPasses.1.1⟩
  have late : sub.endTime ≤ last.endTime := by
    rcases selectFirst_before found own.1 passes with rfl | before
    · exact le_rfl
    · simp only [Descending, Ascending] at before
      omega
  have link : Link userId store since planId group last := by
    rcases links last lastOwn with ⟨-, early⟩ | link
    · omega
    · exact link
  have leads := rows last lastOwn
  have away : home ≠ group := link.upgrade ▸ leads.leaves.symm
  have left : group ≠ "" := link.upgrade ▸ leads.upgrades
  have trimmedGroup : Text.trimSpace group = group := link.upgrade ▸ leads.trimmed
  simp [leads.plain, leads.back, link.upgrade, current, trimmed, nonempty,
    trimSpace_empty, trimmedGroup, away, left]

theorem leads_expireRows (leads : ∀ sub ∈ store.subsOf userId, LeadsHome home now sub) :
    ∀ sub ∈ (store.expireRows userId now).subsOf userId, LeadsHome home now sub := by
  intro sub own
  obtain ⟨old, oldOwn, rfl⟩ := mem_subsOf_expireRows.mp own
  exact (leads old oldOwn).expire userId

theorem InChain.links_expireRows (chain : InChain userId store clock since planId group)
    (now : Int) : ∀ sub ∈ (store.expireRows userId now).subsOf userId,
      (sub.status = .expired ∧ sub.endTime ≤ since) ∨
        Link userId (store.expireRows userId now) since planId group sub := by
  intro sub own
  obtain ⟨old, oldOwn, rfl⟩ := mem_subsOf_expireRows.mp own
  rcases chain.rows old oldOwn with ⟨expired, early⟩ | link
  · rw [expire, if_neg (by simp [expiryDue, expired])]
    exact .inl ⟨expired, early⟩
  · exact .inr (link.expire now)

theorem InChain.expireUser (chain : InChain userId store now since planId group)
    (remains : ∃ sub ∈ (store.expireRows userId now).subsOf userId, sub.status = .active)
    (leads : ∀ sub ∈ store.subsOf userId, LeadsHome home now sub) :
    InChain userId (store.expireUser userId now) now since planId group := by
  have shorter : InChain userId (store.expireRows userId now) now since planId group :=
    { chain with running := remains, rows := chain.links_expireRows now }
  obtain ⟨sub, own, active, started⟩ := shorter.exists_started (leads_expireRows leads)
  have top : ((store.expireRows userId now).topUpgrade userId now).isSome := by
    rw [Option.isSome_iff_ne_none]
    intro none
    have fails := selectFirst_eq_none.mp none sub own.1
    obtain ⟨old, oldOwn, rfl⟩ := mem_subsOf_expireRows.mp own
    have later : now < old.endTime := by
      by_contra ended
      have due : old.expiryDue now = true := by
        have wasActive : old.status = .active := expire_of_active active ▸ active
        simp [expiryDue, wasActive, (leads old oldOwn).positive, not_lt.mp ended]
      rw [expire, if_pos (by simp [oldOwn.2, due])] at active
      cases active
    have same := expire_of_active active
    rw [same] at active started fails
    simp [upgradesAt, runsAt, oldOwn.2, active, started,
      later, (leads old oldOwn).upgrades] at fails
  have stays : store.expireUser userId now = store.expireRows userId now := by
    rw [Store.expireUser, Store.expiryTarget, if_pos top, Store.moveUser]
  rw [stays]
  exact shorter

/-- An expiry of the user ends the chain at home, or goes on with it. -/
theorem FindsHome.expireUser (finds : FindsHome userId home now store)
    (nonempty : home ≠ "") (trimmed : Text.trimSpace home = home) :
    FindsHome userId home now (store.expireUser userId now) := by
  have rows := leads_expireRows finds.rows
  have kept := subsOf_moveUser userId (store.expireRows userId now) userId
    ((store.expireRows userId now).expiryTarget userId now)
  refine ⟨finds.positive, plans_expireUser store userId now ▸ finds.plans, ?_, ?_⟩
  · rw [Store.expireUser, kept]
    exact rows
  rcases finds.phase with atHome | ⟨since, planId, group, chain⟩
  · have same : ∀ old ∈ store.subsOf userId, old.expire userId now = old := by
      intro old own
      rw [expire, if_neg (by
        simp [expiryDue, atHome.expired old own])]
    have still : AtHome userId home (store.expireRows userId now) := by
      refine ⟨atHome.group, ?_⟩
      intro sub own
      obtain ⟨old, oldOwn, rfl⟩ := mem_subsOf_expireRows.mp own
      rw [same old oldOwn]
      exact atHome.expired old oldOwn
    rw [Store.expireUser, still.expiryTarget rows now]
    exact .inl still
  · by_cases remains : ∃ sub ∈ (store.expireRows userId now).subsOf userId, sub.status = .active
    · exact .inr ⟨since, planId, group, chain.expireUser remains finds.rows⟩
    · have expired : ∀ sub ∈ (store.expireRows userId now).subsOf userId,
          sub.status = .expired := by
        intro sub own
        rcases (rows sub own).status with active | ended
        · exact absurd ⟨sub, own, active⟩ remains
        · exact ended.1
      have late : ∃ sub ∈ (store.expireRows userId now).subsOf userId, since < sub.endTime := by
        obtain ⟨sub, own, active⟩ := chain.running
        have link := (chain.link own active).expire now
        exact ⟨_, mem_subsOf_expireRows.mpr ⟨sub, own, rfl⟩, link.after⟩
      have target := expiryTarget_home nonempty trimmed rows (chain.links_expireRows now)
        chain.current expired late now
      have present := present_of_group chain.nonempty chain.current
      refine .inl ⟨?_, ?_⟩
      · rw [Store.expireUser, target, Store.moveUser, Store.getUserGroupById_setUserGroup]
        exact if_pos ⟨rfl, present⟩
      · rw [Store.expireUser, kept]
        exact expired

/-! ## Whole runs -/

theorem FindsHome.step {shop : Shop} (nonempty : home ≠ "")
    (trimmed : Text.trimSpace home = home) (state : GroupState) (op : GroupOp)
    (finds : FindsHome userId home state.clock state.store)
    (inTime : RenewsInTime userId home state op) :
    FindsHome userId home (groupStep shop state op).clock (groupStep shop state op).store := by
  obtain ⟨le, renews⟩ := inTime
  have finds := finds.later le
  cases op with
  | purchase op =>
    simp only [groupStep, lifecycleStep, GroupOp.lifecycle, LifecycleOp.commit]
    cases committed : op.commit shop state.store with
    | error => exact finds
    | ok =>
      rcases purchase_ok committed with ⟨subs, users, plans⟩ |
        ⟨buyer, planId, plan, source, buys, planned, created⟩
      · apply finds.congr
        · simp only [subsOf, subs]
        · simp only [getUserGroupById, users]
        · exact plans
      · by_cases own : buyer = userId
        · subst own
          exact finds.bought nonempty planned created trimmed (renews planId buys)
        · apply finds.congr
          · obtain ⟨_, -, subs⟩ := created.subs
            ext sub
            simp only [subsOf, Set.mem_ofPred_eq, subs, Serial.mem_create]
            constructor
            · rintro ⟨old | rfl, mine⟩
              · exact ⟨old, mine⟩
              · exact absurd mine own
            · rintro ⟨old, mine⟩
              exact ⟨.inl old, mine⟩
          · rw [created.group, if_neg (by simp [Ne.symm own])]
          · exact created.plans
  | applyStarted limit now => exact finds.applyStarted limit now
  | expireDue limit now =>
    refine List.foldlRecOn (motive := fun next : Nat × Store => FindsHome userId home now next.2)
      _ _ finds fun next finds user _ => ?_
    by_cases own : userId = user
    · subst own
      exact finds.expireUser nonempty trimmed
    · exact finds.expireUser_other own now

/-- Start a user without subscriptions in the group `home`, which no plan sells.  In
every run in which the user buys only at home or while an active subscription of the
same plan has not ended, the user is back at home whenever no active subscription with
an upgrade group has started. -/
theorem paid_groups_given_back (shop : Shop) (userId : Int) (home : String)
    (nonempty : home ≠ "") (trimmed : Text.trimSpace home = home)
    (initial : GroupState) (positive : 0 ≤ initial.clock)
    (plans : ∀ plan ∈ initial.store.plans.rows, LeavesHome home plan)
    (group : initial.store.getUserGroupById userId = home)
    (fresh : ∀ sub ∈ initial.store.subs.rows, sub.userId ≠ userId) (ops : List GroupOp)
    (inTime : Along (RenewsInTime userId home) (groupStep shop) initial ops)
    (ended : ∀ sub ∈ (run (groupStep shop) initial ops).store.subs.rows,
      sub.userId = userId → sub.status = .active →
        sub.startTime ≤ (run (groupStep shop) initial ops).clock → sub.upgradeGroup = "") :
    (run (groupStep shop) initial ops).store.getUserGroupById userId = home := by
  have initially : FindsHome userId home initial.clock initial.store := by
    have none : ∀ sub ∈ initial.store.subsOf userId, False :=
      fun sub own => fresh sub own.1 own.2
    refine ⟨positive, plans, fun sub own => (none sub own).elim, .inl ⟨group, ?_⟩⟩
    exact fun sub own => (none sub own).elim
  have finds : FindsHome userId home (run (groupStep shop) initial ops).clock
      (run (groupStep shop) initial ops).store :=
    @run_invariant _ _ (RenewsInTime userId home) (groupStep shop)
      (fun state => FindsHome userId home state.clock state.store)
      (FindsHome.step nonempty trimmed) initial ops initially inTime
  rcases finds.phase with atHome | ⟨since, planId, name, chain⟩
  · exact atHome.group
  · obtain ⟨sub, own, active, started⟩ := chain.exists_started finds.rows
    exact absurd (ended sub own.1 own.2 active started) (finds.rows sub own).upgrades

/-- A user in the default group and two plans with groups of their own, of one and of
two days. -/
def groupStart : GroupState where
  clock := 0
  store :=
    { users := .single { id := 7 }
      plans := ⟨[{ id := 1, durationUnit := .day, upgradeGroup := "silver" },
        { id := 2, durationUnit := .day, durationValue := 2, upgradeGroup := "gold" }], by decide⟩ }

/-- The second plan is bought while the first one runs, and both run out. -/
def twoPlans : List GroupOp :=
  [.purchase (.adminBind 7 1 10), .purchase (.adminBind 7 2 20),
    .expireDue 300 86410 .inserted, .applyStarted 300 86410, .expireDue 300 172820 .inserted]

/-- The first plan is renewed in time, and runs out. -/
def renewedPlan : List GroupOp :=
  [.purchase (.adminBind 7 1 10), .purchase (.adminBind 7 1 20),
    .expireDue 300 86410 .inserted, .applyStarted 300 86410, .expireDue 300 172810 .inserted]

/-- A longer plan that is bought while another one runs remembers the paid group of that
one, and leaves the user there for good. -/
theorem second_plan_keeps_paid_group :
    groupStart.store.getUserGroupById 7 = "default" ∧
      (run (groupStep plainShop) groupStart twoPlans).store.getUserGroupById 7 = "silver" ∧
      ∀ sub ∈ (run (groupStep plainShop) groupStart twoPlans).store.subs.rows,
        sub.status = .expired := by
  decide +kernel

/-- A renewal in time gives the group back. -/
theorem renewal_gives_group_back :
    (run (groupStep plainShop) groupStart renewedPlan).store.getUserGroupById 7 = "default" := by
  apply paid_groups_given_back plainShop 7 "default" (by decide) (by decide +kernel)
    groupStart (by decide)
  · simp only [leavesHome_iff]
    decide +kernel
  · decide
  · decide
  · refine ⟨⟨by decide, ?_⟩, ⟨by decide, ?_⟩, ⟨by decide, trivial⟩, ⟨by decide, trivial⟩,
      ⟨by decide, trivial⟩, trivial⟩
    · intro _ _
      exact .inl (by decide)
    · intro planId buys
      cases buys
      have renewed : ∃ sub ∈ (run (groupStep plainShop) groupStart
          (renewedPlan.take 1)).store.subs.rows, sub.userId = 7 ∧ sub.planId = 1 ∧
            sub.status = .active ∧ 20 < sub.endTime := by
        decide +kernel
      obtain ⟨sub, member, own, facts⟩ := renewed
      exact .inr ⟨sub, ⟨member, own⟩, facts⟩
  · decide +kernel

end StuHelper.Subscription

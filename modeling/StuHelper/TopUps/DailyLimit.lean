import StuHelper.Lib.Run
import StuHelper.Subscription.PurchaseSteps
import StuHelper.TopUps.SelfServe

/-!
# The daily limit of self-serve orders

A call reads the sum that its user has declared today, compares it with the limit and
inserts its audit later.  Nothing is locked in between: a creation takes no lock, and a
purchase locks the user only after it has read the sum.  A call is therefore two steps, and
the steps of different calls interleave in any order.

The check that a creation makes before its transaction can only turn the call away; it is
part of the first step.
-/

namespace StuHelper.TopUps

open Lib Subscription List

/-! ## Calls in two steps -/

/-- A call that has passed its check. -/
inductive Admitted where
  | create (call : SelfServeCreate) (paymentMethod : String) (money : ℚ) (quotaToAdd : Int)
  | purchase (call : SelfServePurchase) (plan : SubscriptionPlan) (paymentMethod : String)
      (money : ℚ)

namespace Admitted

def userId : Admitted → Int
  | .create call _ _ _ => call.userId
  | .purchase call _ _ _ => call.userId

/-- The money that the call declares. -/
def money : Admitted → ℚ
  | .create _ _ money _ => money
  | .purchase _ _ _ money => money

/-- The time stamp of the audit. -/
def now : Admitted → Int
  | .create call _ _ _ => call.now
  | .purchase call _ _ _ => call.now

/-- The second step. -/
def insert (settings : SelfServeSettings) (codec : PayloadCodec) (books : Books) :
    Admitted → Except TopUpError Books
  | .create call paymentMethod money quotaToAdd =>
    call.insert settings books paymentMethod money quotaToAdd
  | .purchase call plan paymentMethod money =>
    match insertSelfServePurchase settings codec books.store call plan paymentMethod money with
    | .error error => .error (.subscription error)
    | .ok store => .ok { books with store := store }

end Admitted

def userAudits (store : Store) (userId : Int) : List SelfServeTopUpAudit :=
  store.audits.rows.filter fun audit => audit.userId = userId

/-- The database and the calls between their steps, each with the audits of its user at the
time of its check. -/
structure LimitState where
  books : Books
  calls : List (Admitted × List SelfServeTopUpAudit) := []

/-- The steps; a check happens at a time of its own. -/
inductive LimitOp where
  | checkCreate (clock : Int) (call : SelfServeCreate)
  | checkPurchase (clock : Int) (call : SelfServePurchase)
  | commit (index : Nat)

/-- A call passes its check. -/
def LimitState.enter (state : LimitState) (call : Admitted) : LimitState :=
  { state with calls := state.calls ++ [(call, userAudits state.books.store call.userId)] }

/-- One step; a transaction that fails is rolled back. -/
def limitStep (settings : SelfServeSettings) (codec : PayloadCodec) (state : LimitState) :
    LimitOp → LimitState
  | .checkCreate clock call =>
    match call.check settings state.books.store clock with
    | .error _ => state
    | .ok (paymentMethod, money, quotaToAdd) =>
      state.enter (.create call paymentMethod money quotaToAdd)
  | .checkPurchase clock call =>
    match checkSelfServePurchase settings state.books.store { call with now := clock } with
    | .error _ => state
    | .ok (plan, paymentMethod, money) => state.enter (.purchase call plan paymentMethod money)
  | .commit index =>
    match state.calls[index]? with
    | none => state
    | some (call, _) =>
      { books := match call.insert settings codec state.books with
          | .error _ => state.books
          | .ok next => next
        calls := state.calls.eraseIdx index }

/-! ## Sums of a day -/

def declaredOn (loc : Location) (day : Int) (audits : List SelfServeTopUpAudit) : ℚ :=
  ((audits.filter fun audit => loc.dayOf audit.createTime = day && audit.status ≠ .rejected).map
    SelfServeTopUpAudit.declaredMoney).sum

def declaredSince (today : Int) (audits : List SelfServeTopUpAudit) : ℚ :=
  ((audits.filter fun audit => audit.createTime ≥ today && audit.status ≠ .rejected).map
    SelfServeTopUpAudit.declaredMoney).sum

/-- Every audit declares a nonnegative amount of whole cents. -/
def InCents (audits : List SelfServeTopUpAudit) : Prop :=
  ∀ audit ∈ audits, 0 ≤ audit.declaredMoney ∧ Decimal.HasPlaces 2 audit.declaredMoney

variable {audits : List SelfServeTopUpAudit} {codec : PayloadCodec} {next : Books} {call : Admitted}

/-- A check counts all of its day, and what carries a later date. -/
theorem declaredOn_le_since (loc : Location) (day : Int) (inCents : InCents audits) :
    declaredOn loc day audits ≤ declaredSince (loc.date day 0) audits := by
  have counted : ∀ audit : SelfServeTopUpAudit,
      (loc.dayOf audit.createTime = day && audit.status ≠ .rejected) = true →
        (audit.createTime ≥ loc.date day 0 && audit.status ≠ .rejected) = true := by
    intro audit today
    simp only [Bool.and_eq_true, decide_eq_true_eq] at today ⊢
    refine ⟨?_, today.2⟩
    rw [← today.1, Location.date, Location.dayOf]
    omega
  apply List.Sublist.sum_le_sum
  · exact (monotone_filter_right audits counted).map _
  · intro money listed
    obtain ⟨audit, member, rfl⟩ := mem_map.mp listed
    exact (inCents audit (mem_filter.mp member).1).1

theorem declaredSince_round {today : Int} (inCents : InCents audits) :
    Decimal.round 2 (declaredSince today audits) = declaredSince today audits := by
  apply Decimal.round_of_hasPlaces
  apply Decimal.HasPlaces.sum
  intro money listed
  obtain ⟨audit, member, rfl⟩ := mem_map.mp listed
  exact (inCents audit (mem_filter.mp member).1).2

/-! ## The steps -/

theorem Admitted.insert_audits {settings : SelfServeSettings} {books : Books}
    (done : call.insert settings codec books = .ok next) :
    ∃ audit : SelfServeTopUpAudit, audit.userId = call.userId ∧ audit.declaredMoney = call.money ∧
      next.store.audits.rows = books.store.audits.rows ++ [audit] := by
  cases call with
  | create =>
    simp only [insert, SelfServeCreate.insert] at done
    split at done
    · cases done
    split at done
    · cases done
    split at done
    next topUps audits insertedTopUp insertedAudit =>
      cases done
      exact ⟨_, rfl, rfl, (Table.insert?_some insertedAudit).2⟩
    · cases done
  | purchase =>
    simp only [insert, insertSelfServePurchase] at done
    split at done
    · cases done
    rename_i store inserting
    cases done
    split at inserting
    · cases inserting
    simp only [createSelfServe, check_ok] at inserting
    obtain ⟨-, -, inserting⟩ := inserting
    split at inserting
    · cases inserting
    rename_i paid paying
    split at inserting
    · cases inserting
    rename_i audits insertedAudit
    cases inserting
    have added := (Table.insert?_some insertedAudit).2
    unfold createPaid at paying
    split at paying
    · cases paying
    rename_i created creating
    obtain ⟨-, ⟨_, _, frame⟩, -⟩ := createLocked_ok creating
    obtain ⟨_, _, -, rfl⟩ := createOrder_ok paying
    rw [frame] at added
    exact ⟨_, rfl, rfl, added⟩

def LimitOp.OnDay (loc : Location) (userId day : Int) : LimitOp → Prop
  | .checkCreate clock call => call.userId = userId → loc.dayOf clock = day
  | .checkPurchase clock call => call.userId = userId → loc.dayOf clock = day
  | .commit _ => True

instance (loc : Location) (userId day : Int) :
    (op : LimitOp) → Decidable (op.OnDay loc userId day)
  | .checkCreate _ _ => inferInstanceAs (Decidable (_ → _))
  | .checkPurchase _ _ => inferInstanceAs (Decidable (_ → _))
  | .commit _ => inferInstanceAs (Decidable True)

/-- A call of the user commits only while its user has the audits that its check has read. -/
def LimitOp.Undisturbed (userId : Int) (state : LimitState) : LimitOp → Prop
  | .commit index => ∀ entry ∈ state.calls[index]?, entry.1.userId = userId →
      userAudits state.books.store userId = entry.2
  | _ => True

instance (userId : Int) (state : LimitState) :
    (op : LimitOp) → Decidable (op.Undisturbed userId state)
  | .checkCreate _ _ => inferInstanceAs (Decidable True)
  | .checkPurchase _ _ => inferInstanceAs (Decidable True)
  | .commit _ => inferInstanceAs (Decidable (∀ entry ∈ _, _))

/-- The limit, with what the calls between their steps have been admitted for. -/
structure WithinLimit (settings : SelfServeSettings) (userId day : Int) (state : LimitState) :
    Prop where
  inCents : InCents (userAudits state.books.store userId)
  within : declaredOn settings.loc day (userAudits state.books.store userId) ≤
    settings.payments.selfServeTopUpDailyMaxAmount
  calls : ∀ entry ∈ state.calls, entry.1.userId = userId →
    0 ≤ entry.1.money ∧ Decimal.HasPlaces 2 entry.1.money ∧
      declaredOn settings.loc day entry.2 + entry.1.money ≤
        settings.payments.selfServeTopUpDailyMaxAmount

variable {settings : SelfServeSettings} {userId day : Int} {state : LimitState}

theorem WithinLimit.enter (inv : WithinLimit settings userId day state)
    {clock : Int} (onDay : call.userId = userId → settings.loc.dayOf clock = day)
    (cents : Decimal.HasPlaces 2 call.money)
    (admitted : validateSelfServeTopUpMoney settings.loc settings.payments state.books.store
      call.userId clock call.money = .ok ()) :
    WithinLimit settings userId day (state.enter call) where
  inCents := inv.inCents
  within := inv.within
  calls := by
    intro entry listed same
    rw [LimitState.enter, mem_append, mem_singleton] at listed
    cases listed with
    | inl earlier => exact inv.calls entry earlier same
    | inr added =>
      subst added
      have used : selfServeDailyUsedMoney settings.loc state.books.store call.userId clock =
          Decimal.round 2 (declaredSince (settings.loc.date (settings.loc.dayOf clock) 0)
            (userAudits state.books.store call.userId)) := by
        simp only [selfServeDailyUsedMoney, declaredSince, userAudits, filter_filter]
        congr 4
        funext audit
        rw [Bool.and_comm _ (decide (audit.userId = call.userId)), Bool.and_assoc]
      simp only [validateSelfServeTopUpMoney] at admitted
      split at admitted
      · cases admitted
      split at admitted
      · cases admitted
      rename_i positive
      iterate 4
        split at admitted
        · cases admitted
      rename_i limit
      rw [used, same, declaredSince_round inv.inCents, onDay same] at limit
      refine ⟨(not_le.mp positive).le, cents, ?_⟩
      rw [same]
      exact (add_le_add (declaredOn_le_since settings.loc day inv.inCents) le_rfl).trans
        (not_lt.mp limit)

theorem WithinLimit.insert (inv : WithinLimit settings userId day state) {index : Nat}
    {seen : List SelfServeTopUpAudit} (waiting : state.calls[index]? = some (call, seen))
    (undisturbed : LimitOp.Undisturbed userId state (.commit index))
    (done : call.insert settings codec state.books = .ok next) :
    WithinLimit settings userId day ⟨next, state.calls.eraseIdx index⟩ := by
  obtain ⟨audit, ofUser, ofMoney, added⟩ := Admitted.insert_audits done
  have calls := fun entry (listed : entry ∈ state.calls.eraseIdx index) =>
    inv.calls entry (mem_of_mem_eraseIdx listed)
  by_cases same : call.userId = userId
  · have audits : userAudits next.store userId =
        userAudits state.books.store userId ++ [audit] := by
      rw [userAudits, added, filter_append]
      simp [userAudits, ofUser, same]
    obtain ⟨nonneg, cents, limit⟩ := inv.calls _ (mem_of_getElem? waiting) same
    rw [← undisturbed _ waiting same] at limit
    rw [← ofMoney] at nonneg cents limit
    refine ⟨?_, ?_, calls⟩
    · intro other listed
      rw [audits, mem_append, mem_singleton] at listed
      cases listed with
      | inl earlier => exact inv.inCents other earlier
      | inr new =>
        subst new
        exact ⟨nonneg, cents⟩
    · rw [audits]
      refine le_trans ?_ limit
      simp only [declaredOn, filter_append, map_append, sum_append]
      apply add_le_add le_rfl
      rw [filter_cons]
      split
      · simp
      · simpa using nonneg
  · have audits : userAudits next.store userId = userAudits state.books.store userId := by
      rw [userAudits, added, filter_append]
      simp [userAudits, ofUser, same]
    refine ⟨?_, ?_, calls⟩
    · rw [audits]
      exact inv.inCents
    · rw [audits]
      exact inv.within

theorem WithinLimit.step {op : LimitOp} (inv : WithinLimit settings userId day state)
    (onDay : op.OnDay settings.loc userId day) (undisturbed : op.Undisturbed userId state) :
    WithinLimit settings userId day (limitStep settings codec state op) := by
  cases op with
  | checkCreate clock call =>
    simp only [limitStep]
    split
    · exact inv
    rename_i paymentMethod money quotaToAdd checked
    simp only [SelfServeCreate.check] at checked
    split at checked
    · cases checked
    split at checked
    · cases checked
    rename_i admitted
    split at checked
    · cases checked
    · cases checked
      exact @WithinLimit.enter (.create call paymentMethod _ quotaToAdd) _ _ _ _ inv clock
        onDay (Decimal.round_hasPlaces 2 _) admitted
  | checkPurchase clock call =>
    simp only [limitStep]
    split
    · exact inv
    rename_i plan paymentMethod money checked
    obtain ⟨-, rounded, admitted⟩ := checkSelfServePurchase_ok checked
    have cents : Decimal.HasPlaces 2 money := rounded ▸ Decimal.round_hasPlaces 2 _
    exact @WithinLimit.enter (.purchase call plan paymentMethod money) _ _ _ _ inv clock
      onDay cents admitted
  | commit =>
    simp only [limitStep]
    split
    · exact inv
    rename_i call seen waiting
    cases done : call.insert settings codec state.books with
    | error =>
      exact ⟨inv.inCents, inv.within, fun entry listed =>
        inv.calls entry (mem_of_mem_eraseIdx listed)⟩
    | ok => exact inv.insert waiting undisturbed done

/-! ## Runs -/

/-- The limit holds throughout every run of calls of one day in which no other audit of the user
is inserted between the check and the commit of a call. -/
theorem daily_limit_kept (settings : SelfServeSettings) (codec : PayloadCodec)
    (userId day : Int) (books : Books) (ops : List LimitOp)
    (inCents : InCents (userAudits books.store userId))
    (within : declaredOn settings.loc day (userAudits books.store userId) ≤
      settings.payments.selfServeTopUpDailyMaxAmount)
    (onDay : ∀ op ∈ ops, op.OnDay settings.loc userId day)
    (undisturbed : Along (fun state op => op.Undisturbed userId state)
      (limitStep settings codec) ⟨books, []⟩ ops) :
    declaredOn settings.loc day
        (userAudits (run (limitStep settings codec) ⟨books, []⟩ ops).books.store userId) ≤
      settings.payments.selfServeTopUpDailyMaxAmount := by
  have initially : WithinLimit settings userId day ⟨books, []⟩ :=
    ⟨inCents, within, fun entry listed => absurd listed not_mem_nil⟩
  have kept := run_invariant (fun state op inv ok => WithinLimit.step inv ok.2 ok.1) initially
    (along_and_mem undisturbed onDay)
  exact kept.within

/-- A creation with this money. -/
def declaration (money : ℚ) (tradeNo transactionNo : String) : SelfServeCreate :=
  { userId := 2, paymentMethod := "alipay_self_serve", declaredMoney := money
    transactionNo := transactionNo, tradeNo := tradeNo, generatedTransactionNo := "", now := 1 }

def planBooks : Books where
  store :=
    { users := .single { id := 2 }
      plans := .single { id := 1, priceAmount := 60, durationUnit := .day } }

def sixtyPurchase : SelfServePurchase :=
  { userId := 2, planId := 1, paymentMethod := "alipay_self_serve", declaredMoney := 60
    transactionNo := "2026010187654321", tradeNo := "T2", generatedTransactionNo := "", now := 1 }

/-- A top-up and a purchase of 60.00 each are checked before either commits: with a limit of
100.00 the user declares 120.00. -/
theorem daily_limit_exceeded :
    selfServePlain.payments.selfServeTopUpDailyMaxAmount = 100 ∧ declaredOn selfServePlain.loc 0
      (userAudits (run (limitStep selfServePlain plainShop.codec) ⟨planBooks, []⟩
        [.checkCreate 1 (declaration 60 "T1" "2026010112345678"), .checkPurchase 1 sixtyPurchase,
          .commit 0, .commit 0]).books.store 2) = 120 := by
  decide +kernel

/-- One after the other, the purchase passes and a top-up of 60.00 is turned away; one of 40.00
fits. -/
def serialCalls : List LimitOp :=
  [.checkPurchase 1 sixtyPurchase, .commit 0,
    .checkCreate 1 (declaration 60 "T1" "2026010112345678"),
    .checkCreate 1 (declaration 40 "T3" "2026010112345678"), .commit 0]

theorem daily_limit_used_up :
    declaredOn selfServePlain.loc 0
        (userAudits (run (limitStep selfServePlain plainShop.codec) ⟨planBooks, []⟩
          serialCalls).books.store 2) = 100 ∧ declaredOn selfServePlain.loc 0
        (userAudits (run (limitStep selfServePlain plainShop.codec) ⟨planBooks, []⟩
          serialCalls).books.store 2) ≤ selfServePlain.payments.selfServeTopUpDailyMaxAmount :=
  ⟨by decide +kernel, daily_limit_kept selfServePlain plainShop.codec 2 0 planBooks serialCalls
      (by intro audit listed; cases listed) (by decide +kernel) (by decide +kernel)
      (by decide +kernel)⟩

end StuHelper.TopUps

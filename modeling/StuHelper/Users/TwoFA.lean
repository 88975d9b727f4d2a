import StuHelper.Lib.Run

/-!
# Wrong second factors

A verification loads the row of the user, checks the lock, checks the code and, when the code is
wrong, stores the whole row with one more failed attempt.  Verifications of one user overlap in any
way; the count is kept in the copy that was loaded.
-/

namespace StuHelper.Users

open Lib

def maxFailAttempts : Nat := 5

/-- In seconds. -/
def lockoutDuration : Int := 300

structure TwoFA where
  failedAttempts : Nat := 0
  lockedUntil : Option Int := none
  deriving DecidableEq, Repr

namespace TwoFA

def isLocked (row : TwoFA) (now : Int) : Bool := row.lockedUntil.any (now < ·)

/-- `IncrementFailedAttempts`, before its `Update`. -/
def incrementFailedAttempts (row : TwoFA) (now : Int) : TwoFA :=
  { failedAttempts := row.failedAttempts + 1
    lockedUntil :=
      if row.failedAttempts + 1 ≥ maxFailAttempts then some (now + lockoutDuration)
      else row.lockedUntil }

end TwoFA

/-- Where a verification is, with the row that it has loaded and when. -/
inductive Attempt where
  | idle
  | loaded (since : Int) (copy : TwoFA)
  | unlocked (since : Int) (copy : TwoFA)
  | wrong (copy : TwoFA)

/-- The stored row, the verifications, and for each code that was checked the row that its
verification had loaded and when. -/
structure TwoFAState where
  row : TwoFA
  attempts : Nat → Attempt := fun _ => .idle
  checks : List (Int × TwoFA) := []

/-- The steps of a verification of a wrong code: `GetTwoFAByUserId`, `IsLocked`, the check of the
TOTP or backup code, and the update, whose failure is only logged. -/
inductive TwoFAOp where
  | load (attempt : Nat) (now : Int)
  | checkLock (attempt : Nat) (now : Int)
  | checkCode (attempt : Nat)
  | store (attempt : Nat) (now : Int) (fails : Bool)

namespace TwoFAState

/-- A verification goes on. -/
def move (state : TwoFAState) (attempt : Nat) (phase : Attempt) : TwoFAState :=
  { state with attempts := Function.update state.attempts attempt phase }

def step (state : TwoFAState) : TwoFAOp → TwoFAState
  | .load attempt now =>
    match state.attempts attempt with
    | .idle => state.move attempt (.loaded now state.row)
    | _ => state
  | .checkLock attempt now =>
    match state.attempts attempt with
    | .loaded since copy =>
      state.move attempt (if copy.isLocked now then .idle else .unlocked since copy)
    | _ => state
  | .checkCode attempt =>
    match state.attempts attempt with
    | .unlocked since copy =>
      { state.move attempt (.wrong copy) with checks := state.checks ++ [(since, copy)] }
    | _ => state
  | .store attempt now fails =>
    match state.attempts attempt with
    | .wrong copy =>
      { state.move attempt .idle with
        row := if fails then state.row else copy.incrementFailedAttempts now }
    | _ => state

/-- A verification begins when the others are done, checks a lock that was in force when it loaded
the row while it still is, and stores its failure. -/
def Undisturbed (state : TwoFAState) : TwoFAOp → Prop
  | .load _ _ => ∀ attempt, state.attempts attempt = .idle
  | .checkLock attempt now => ∀ since copy, state.attempts attempt = .loaded since copy →
    copy.isLocked since = true → copy.isLocked now = true
  | .checkCode _ => True
  | .store _ _ fails => fails = false

/-- What is known of the verification that is going on. -/
def Counts (row : TwoFA) (checked : Nat) : Attempt → Prop
  | .idle => checked = row.failedAttempts
  | .loaded _ copy => copy = row ∧ checked = row.failedAttempts
  | .unlocked since copy =>
    copy = row ∧ copy.isLocked since = false ∧ checked = row.failedAttempts
  | .wrong copy => copy = row ∧ checked = row.failedAttempts + 1

/-- At most one verification is going on, and all codes that were checked are counted. -/
structure Inv (state : TwoFAState) (current : Nat) : Prop where
  alone : ∀ attempt, attempt ≠ current → state.attempts attempt = .idle
  counts : Counts state.row state.checks.length (state.attempts current)
  locks : maxFailAttempts ≤ state.row.failedAttempts → state.row.lockedUntil ≠ none
  unlocked : ∀ check ∈ state.checks, check.2.isLocked check.1 = false

variable {state : TwoFAState} {current : Nat} {phase : Attempt}

theorem Inv.eq_current (inv : state.Inv current) {attempt : Nat}
    (there : state.attempts attempt = phase) (busy : phase ≠ .idle) :
    attempt = current ∧ Counts state.row state.checks.length phase := by
  obtain rfl : attempt = current := by
    by_contra other
    exact busy (there.symm.trans (inv.alone attempt other))
  exact ⟨rfl, there ▸ inv.counts⟩

/-- A move of the verification that is going on. -/
theorem Inv.move (inv : state.Inv current) {row : TwoFA} {checks : List (Int × TwoFA)}
    (counts : Counts row checks.length phase)
    (locks : maxFailAttempts ≤ row.failedAttempts → row.lockedUntil ≠ none)
    (unlocked : ∀ check ∈ checks, check.2.isLocked check.1 = false) :
    Inv { state.move current phase with row := row, checks := checks } current where
  alone attempt other := (Function.update_of_ne other ..).trans (inv.alone attempt other)
  counts := by
    simp only [TwoFAState.move, Function.update_self]
    exact counts
  locks := locks
  unlocked := unlocked

theorem Inv.step (inv : state.Inv current) (op : TwoFAOp) (undisturbed : state.Undisturbed op) :
    ∃ next, (state.step op).Inv next := by
  cases op with
  | load attempt now =>
    have idle : Counts state.row state.checks.length .idle := undisturbed current ▸ inv.counts
    have here : state.Inv attempt :=
      ⟨fun other _ => undisturbed other, undisturbed attempt ▸ idle, inv.locks, inv.unlocked⟩
    simp only [TwoFAState.step, undisturbed attempt]
    exact ⟨attempt, here.move ⟨rfl, idle⟩ inv.locks inv.unlocked⟩
  | checkLock attempt now =>
    refine ⟨current, ?_⟩
    rw [TwoFAState.step]
    split
    next since copy there =>
      obtain ⟨rfl, counts⟩ := inv.eq_current there nofun
      refine inv.move ?_ inv.locks inv.unlocked
      split
      · exact counts.2
      next admitted =>
        have before : ¬ copy.isLocked since = true := mt (undisturbed since copy there) admitted
        exact ⟨counts.1, Bool.eq_false_iff.mpr before, counts.2⟩
    next => exact inv
  | checkCode attempt =>
    refine ⟨current, ?_⟩
    rw [TwoFAState.step]
    split
    next since copy there =>
      obtain ⟨rfl, own, admitted, counted⟩ := inv.eq_current there nofun
      apply inv.move _ inv.locks
      · exact List.forall_mem_append.mpr ⟨inv.unlocked, List.forall_mem_singleton.mpr admitted⟩
      · exact ⟨own, by simp [counted]⟩
    next => exact inv
  | store attempt now fails =>
    obtain rfl : fails = false := undisturbed
    refine ⟨current, ?_⟩
    rw [TwoFAState.step]
    split
    next copy there =>
      obtain ⟨rfl, rfl, counted⟩ := inv.eq_current there nofun
      refine inv.move counted (fun many => ?_) inv.unlocked
      simp only [Bool.false_eq_true, if_false, TwoFA.incrementFailedAttempts] at many ⊢
      rw [if_pos many]
      exact Option.some_ne_none _
    next => exact inv

end TwoFAState

open TwoFAState

/-- From a row without failed attempts on, at most five wrong codes are checked before the row is
locked, and none by a verification that has loaded a row whose lock was in force, if the
verifications do not disturb each other. -/
theorem wrong_codes_limited (row : TwoFA) (none : row.failedAttempts = 0) (ops : List TwoFAOp)
    (undisturbed : Along Undisturbed step { row } ops) :
    ((run step { row } ops).row.lockedUntil = .none →
      (run step { row } ops).checks.length ≤ maxFailAttempts) ∧
    ∀ check ∈ (run step { row } ops).checks, check.2.isLocked check.1 = false := by
  obtain ⟨current, inv⟩ := run_invariant
    (fun state op (inv : ∃ current, state.Inv current) ok =>
      let ⟨_, inv⟩ := inv
      inv.step op ok)
    ⟨0, fun _ _ => rfl, none.symm, by simp [none, maxFailAttempts], by simp⟩ undisturbed
  refine ⟨fun unlocked => ?_, inv.unlocked⟩
  have few : (run step { row } ops).row.failedAttempts < maxFailAttempts :=
    not_le.mp fun many => inv.locks many unlocked
  have counts := inv.counts
  cases phase : (run step { row } ops).attempts current with
  | idle | loaded | unlocked | wrong =>
    rw [phase] at counts
    simp only [Counts] at counts
    omega

/-- The steps of a verification. -/
def attemptOps (attempt : Nat) (now : Int) : List TwoFAOp :=
  [.load attempt now, .checkLock attempt now, .checkCode attempt, .store attempt now false]

theorem undisturbed_attempts {state : TwoFAState} (idle : ∀ other, state.attempts other = .idle)
    (attempts : List Nat) (now : Int) :
    Along Undisturbed step state (attempts.flatMap (attemptOps · now)) := by
  induction attempts generalizing state with
  | nil => trivial
  | cons attempt attempts ih =>
    rw [List.flatMap_cons, along_append]
    refine ⟨⟨idle, ?_, trivial, rfl, trivial⟩, ih fun other => ?_⟩
    · intro since copy loaded
      simp only [step, idle, move, Function.update_self, Attempt.loaded.injEq] at loaded
      rw [loaded.1]
      exact id
    · by_cases same : other = attempt <;> cases locked : state.row.isLocked now <;>
        simp [attemptOps, step, move, idle, same, locked]

/-- Of six wrong codes in turn the last is not checked. -/
theorem wrong_codes_limited_six :
    let final := run step { row := {} } ((List.range 6).flatMap (attemptOps · 0))
    final.checks.length = maxFailAttempts ∧
      ∀ check ∈ final.checks, check.2.isLocked check.1 = false :=
  ⟨by decide, (wrong_codes_limited {} rfl _ (undisturbed_attempts (fun _ => rfl) _ 0)).2⟩

/-- Six verifications that load the row before any of them stores it. -/
theorem wrong_codes_not_limited :
    let ops := (List.range 6).map (.load · 0) ++
      (List.range 6).flatMap fun attempt => (attemptOps attempt 0).tail
    (run step { row := {} } ops).row = { failedAttempts := 1 } ∧
      (run step { row := {} } ops).checks.length = 6 := by
  decide

end StuHelper.Users

import Mathlib.Data.Nat.Basic
import Mathlib.Data.List.Basic

/-!
# Runs and loops of a transition system

A system is a state type with a total step function on labels; a failing
operation is a label whose step leaves the state alone.  `run` executes a list
of labels, `Along` says that a side condition holds before every step of a run,
and the invariant rules turn a one-step preservation lemma into a statement
about every state reached.

The second half is about loops that may not end.  `runLoop` executes a loop body
with a bound on the number of rounds, so that ending is the existence of a
sufficient bound and not a property built into the definition.
-/

namespace Lib

open List

universe u v w

variable {σ : Type u} {ι : Type v}
variable {state : σ} {labels : List ι} {rounds : Nat}

/-! ## Runs -/

/-- Execute a list of labels, first label first. -/
def run (step : σ → ι → σ) (state : σ) (labels : List ι) : σ :=
  labels.foldl step state

variable (step : σ → ι → σ)

@[simp] theorem run_nil (state : σ) : run step state [] = state := rfl

@[simp] theorem run_cons (state : σ) (label : ι) (labels : List ι) :
    run step state (label :: labels) = run step (step state label) labels := rfl

theorem run_append (state : σ) (front back : List ι) :
    run step state (front ++ back) = run step (run step state front) back := by
  simp [run, foldl_append]

/-- The condition `ok` holds of the state and the label before every step of the
run. -/
def Along (ok : σ → ι → Prop) (step : σ → ι → σ) : σ → List ι → Prop
  | _, [] => True
  | state, label :: labels => ok state label ∧ Along ok step (step state label) labels

@[simp] theorem along_nil (ok : σ → ι → Prop) (step : σ → ι → σ) (state : σ) :
    Along ok step state [] := trivial

variable {ok : σ → ι → Prop} {step : σ → ι → σ} {Inv : σ → Prop}

theorem along_cons {label : ι} :
    Along ok step state (label :: labels) ↔
      ok state label ∧ Along ok step (step state label) labels := Iff.rfl

/-- A run meets a condition exactly when both parts of any split of it do. -/
theorem along_append {front back : List ι} :
    Along ok step state (front ++ back) ↔
      Along ok step state front ∧ Along ok step (run step state front) back := by
  induction front generalizing state with
  | nil => simp
  | cons label front ih =>
    simp only [cons_append, along_cons, run_cons, ih]
    exact and_assoc.symm

/-- Two conditions that a run meets are one. -/
theorem along_and {also : σ → ι → Prop} (left : Along ok step state labels)
    (right : Along also step state labels) :
    Along (fun state label => ok state label ∧ also state label) step state labels := by
  induction labels generalizing state with
  | nil => trivial
  | cons label labels ih =>
    obtain ⟨here, later⟩ := along_cons.mp left
    obtain ⟨alsoHere, alsoLater⟩ := along_cons.mp right
    exact along_cons.mpr ⟨⟨here, alsoHere⟩, ih later alsoLater⟩

variable {also : ι → Prop} {start : σ}

/-- A condition on the labels alone. -/
theorem along_iff_forall_mem :
    Along (fun _ label => also label) step state labels ↔ ∀ label ∈ labels, also label := by
  induction labels generalizing state with
  | nil => simp
  | cons label labels ih => rw [along_cons, ih, forall_mem_cons]

/-- A condition on the labels alone can be added to that of a run. -/
theorem along_and_mem (meets : Along ok step state labels)
    (all : ∀ label ∈ labels, also label) :
    Along (fun state label => ok state label ∧ also label) step state labels :=
  along_and meets (along_iff_forall_mem.mpr all)

instance decidableAlong (ok : σ → ι → Prop) (step : σ → ι → σ)
    [∀ state label, Decidable (ok state label)] :
    (state : σ) → (labels : List ι) → Decidable (Along ok step state labels)
  | _, [] => isTrue trivial
  | state, label :: labels =>
    have := decidableAlong ok step (step state label) labels
    inferInstanceAs (Decidable (_ ∧ _))

/-- An invariant kept by every step that meets the condition holds in the last
state, hence in every state, of a run that meets it throughout. -/
theorem run_invariant
    (keeps : ∀ state label, Inv state → ok state label → Inv (step state label))
    {state : σ} {labels : List ι} (initially : Inv state)
    (meets : Along ok step state labels) : Inv (run step state labels) := by
  induction labels generalizing state with
  | nil => exact initially
  | cons label labels ih =>
    obtain ⟨here, later⟩ := along_cons.mp meets
    exact ih (keeps state label initially here) later

/-- The form of `run_invariant` for a run whose labels are known. -/
theorem run_invariant_of_mem {labels : List ι}
    (keeps : ∀ state, ∀ label ∈ labels, Inv state → Inv (step state label))
    {state : σ} (initially : Inv state) : Inv (run step state labels) :=
  run_invariant (fun state label inv member => keeps state label member inv) initially
    (along_iff_forall_mem.mpr fun _ member => member)

/-- The unconditional form of `run_invariant`. -/
theorem run_invariant_of_all
    (keeps : ∀ state label, Inv state → Inv (step state label))
    {state : σ} (labels : List ι) (initially : Inv state) : Inv (run step state labels) :=
  run_invariant_of_mem (fun state label _ => keeps state label) initially

section Once

variable {κ : Type*} [DecidableEq κ] {Fresh Done : σ → Prop} (keyOf : ι → κ) {key : κ}
  {labels : List ι}
  (quietFresh : ∀ state, ∀ label ∈ labels, keyOf label ≠ key → Fresh state →
    Fresh (step state label))
  (quietDone : ∀ state, ∀ label ∈ labels, keyOf label ≠ key → Done state →
    Done (step state label))
  (strikes : ∀ state, ∀ label ∈ labels, keyOf label = key → Fresh state → Done (step state label))

include quietFresh quietDone strikes

/-- When exactly one label has the key, and a label with the key takes what was fresh to what is
done, a run does so; the other labels keep both. -/
theorem run_exactly_once (once : (labels.map keyOf).count key = 1) {state : σ}
    (initially : Fresh state) : Done (run step state labels) := by
  induction labels generalizing state with
  | nil => cases once
  | cons label labels ih =>
    rw [run_cons]
    rw [map_cons] at once
    by_cases heard : keyOf label = key
    · rw [heard, count_cons_self] at once
      have silent := count_eq_zero.mp (Nat.succ.inj once)
      refine run_invariant_of_mem (fun state other member done => ?_)
        (strikes state label (.head _) heard initially)
      exact quietDone state other (.tail _ member)
        (fun same => silent (mem_map.mpr ⟨other, member, same⟩)) done
    · rw [count_cons_of_ne heard] at once
      exact ih (fun state other member => quietFresh state other (.tail _ member))
        (fun state other member => quietDone state other (.tail _ member))
        (fun state other member => strikes state other (.tail _ member)) once
        (quietFresh state label (.head _) heard initially)

/-- The form of `run_exactly_once` for at most one label, when what is fresh is done. -/
theorem run_once (weaken : ∀ state, Fresh state → Done state)
    (once : (labels.map keyOf).count key ≤ 1) {state : σ} (initially : Fresh state) :
    Done (run step state labels) := by
  cases Nat.le_one_iff_eq_zero_or_eq_one.mp once with
  | inl never =>
    have silent := count_eq_zero.mp never
    apply weaken
    refine run_invariant_of_mem (fun state label member fresh => ?_) initially
    exact quietFresh state label member
      (fun same => silent (mem_map.mpr ⟨label, member, same⟩)) fresh
  | inr exactly => exact run_exactly_once keyOf quietFresh quietDone strikes exactly initially

end Once

/-- How many steps of a run pass the test. -/
def occurrences (test : σ → ι → Bool) (step : σ → ι → σ) : σ → List ι → Nat
  | _, [] => 0
  | state, label :: labels =>
    (test state label).toNat + occurrences test step (step state label) labels

/-- When every step that passes the test uses up some potential and no step adds to it, a
run passes the test no more often than the potential allows. -/
theorem occurrences_le {test : σ → ι → Bool} {potential : σ → Nat}
    (pays : ∀ state label,
      (test state label).toNat + potential (step state label) ≤ potential state)
    (state : σ) (labels : List ι) : occurrences test step state labels ≤ potential state := by
  induction labels generalizing state with
  | nil => exact Nat.zero_le _
  | cons label labels ih =>
    calc (test state label).toNat + occurrences test step (step state label) labels
        ≤ (test state label).toNat + potential (step state label) :=
          Nat.add_le_add_left (ih (step state label)) _
      _ ≤ potential state := pays state label

/-! ## Loops -/

variable {ρ : Type w}

/-- What one round of a loop decides. -/
inductive Round (σ : Type u) (ρ : Type w) where
  | again (state : σ)
  | stop (result : ρ)

/-- At most `rounds` rounds of a loop; `none` when the loop is still running. -/
def runLoop (body : σ → Round σ ρ) : Nat → σ → Option ρ
  | 0, _ => none
  | rounds + 1, state =>
    match body state with
    | .again next => runLoop body rounds next
    | .stop result => some result

/-- The loop ends from this state. -/
def Ends (body : σ → Round σ ρ) (state : σ) : Prop :=
  ∃ rounds result, runLoop body rounds state = some result

variable {body : σ → Round σ ρ} {Inv : σ → Prop} {result : ρ}

theorem runLoop_succ (body : σ → Round σ ρ) (rounds : Nat) (state : σ)
    (result : ρ) (ended : runLoop body rounds state = some result) :
    runLoop body (rounds + 1) state = some result := by
  induction rounds generalizing state with
  | zero => simp [runLoop] at ended
  | succ rounds ih =>
    rw [runLoop] at ended ⊢
    cases decided : body state with
    | again next =>
      simp only [decided] at ended
      exact ih next ended
    | stop =>
      simp only [decided] at ended
      exact ended

/-- Allowing more rounds does not change the result of a loop that has ended. -/
theorem runLoop_mono (body : σ → Round σ ρ) {few many : Nat} (le : few ≤ many)
    (ended : runLoop body few state = some result) : runLoop body many state = some result := by
  induction le with
  | refl => exact ended
  | step _ ih => exact runLoop_succ body _ state result ih

/-- What a loop returns was decided in a state that still meets the invariant. -/
theorem runLoop_stopped
    (keeps : ∀ state next, Inv state → body state = .again next → Inv next)
    {rounds : Nat} {state : σ} {result : ρ} (initially : Inv state)
    (ended : runLoop body rounds state = some result) :
    ∃ last, Inv last ∧ body last = .stop result := by
  induction rounds generalizing state with
  | zero => simp [runLoop] at ended
  | succ rounds ih =>
    cases decided : body state with
    | again next =>
      simp only [runLoop, decided] at ended
      exact ih (keeps state next initially decided) ended
    | stop =>
      simp only [runLoop, decided, Option.some.injEq] at ended
      exact ⟨state, initially, ended ▸ decided⟩

/-- A loop whose rounds decrease a measure under an invariant ends within as many
rounds as the measure says, and one more, in a state that still meets the invariant. -/
theorem runLoop_of_measure (measure : σ → Nat)
    (progress : ∀ state next, Inv state → body state = .again next →
      Inv next ∧ measure next < measure state) {state : σ} (initially : Inv state) :
    ∃ result, runLoop body (measure state + 1) state = some result ∧
      ∃ last, Inv last ∧ body last = .stop result := by
  induction size : measure state using Nat.strong_induction_on
      generalizing state with
  | _ bound ih =>
    cases decided : body state with
    | stop result => exact ⟨result, by simp [runLoop, decided], state, initially, decided⟩
    | again next =>
      obtain ⟨kept, smaller⟩ := progress state next initially decided
      obtain ⟨result, ended, stopped⟩ := ih _ (size ▸ smaller) kept rfl
      refine ⟨result, ?_, stopped⟩
      simp only [runLoop, decided]
      exact runLoop_mono body (by omega) ended

theorem ends_of_measure (measure : σ → Nat)
    (progress : ∀ state next, Inv state → body state = .again next →
      Inv next ∧ measure next < measure state)
    {state : σ} (initially : Inv state) : Ends body state :=
  ⟨_, (runLoop_of_measure measure progress initially).imp fun _ => And.left⟩

/-- A loop that keeps asking for another round inside an invariant never ends. -/
theorem not_ends_of_invariant
    (stays : ∀ state, Inv state → ∃ next, body state = .again next ∧ Inv next)
    {state : σ} (initially : Inv state) : ¬ Ends body state := by
  rintro ⟨rounds, result, ended⟩
  induction rounds generalizing state with
  | zero => simp [runLoop] at ended
  | succ rounds ih =>
    obtain ⟨_, decided, kept⟩ := stays state initially
    simp only [runLoop, decided] at ended
    exact ih kept ended

/-! ## The states of a loop -/

/-- A loop that is in the first state comes to the second. -/
inductive Reaches (body : σ → Round σ ρ) (start : σ) : σ → Prop where
  | refl : Reaches body start start
  | again {state next : σ} (reaches : Reaches body start state)
      (decided : body state = .again next) : Reaches body start next

/-- What rounds keep holds in every state that the loop comes to. -/
theorem Reaches.invariant {start state : σ}
    (reaches : Reaches body start state)
    (keeps : ∀ state next, Inv state → body state = .again next → Inv next)
    (initially : Inv start) : Inv state := by
  induction reaches with
  | refl => exact initially
  | again _ decided ih => exact keeps _ _ ih decided

/-- A loop that has ended has stopped in a state that it came to. -/
theorem exists_reaches_stop (ended : runLoop body rounds start = some result) :
    ∃ last, Reaches body start last ∧ body last = .stop result :=
  runLoop_stopped (fun _ _ reaches decided => .again reaches decided) .refl ended

/-! ## Traces of a loop -/

/-- The states that a loop goes on to, within a bound on the rounds. -/
def loopStates (body : σ → Round σ ρ) : Nat → σ → List σ
  | 0, _ => []
  | rounds + 1, state =>
    match body state with
    | .again next => next :: loopStates body rounds next
    | .stop _ => []

/-- The states a loop goes on to stay inside an invariant. -/
theorem loopStates_invariant
    (keeps : ∀ state next, Inv state → body state = .again next → Inv next) {visited : σ}
    (initially : Inv state) (member : visited ∈ loopStates body rounds state) : Inv visited := by
  induction rounds generalizing state with
  | zero => cases member
  | succ rounds ih =>
    rw [loopStates] at member
    cases decided : body state with
    | again next =>
      simp only [decided, mem_cons] at member
      have kept := keeps state next initially decided
      rcases member with rfl | later
      · exact kept
      · exact ih kept later
    | stop => simp [decided] at member

theorem mem_loopStates_of_again {next : σ}
    (ended : runLoop body rounds start = some result)
    (member : state ∈ start :: loopStates body rounds start) (decided : body state = .again next) :
    next ∈ loopStates body rounds start := by
  induction rounds generalizing start with
  | zero => cases ended
  | succ rounds ih =>
    rw [runLoop] at ended
    rw [loopStates] at member ⊢
    cases first : body start with
    | stop =>
      simp only [first, mem_singleton] at member
      rw [member, first] at decided
      cases decided
    | again =>
      simp only [first] at ended member ⊢
      cases member with
      | head =>
        cases first.symm.trans decided
        exact mem_cons_self
      | tail _ later => exact mem_cons_of_mem _ (ih ended later)

/-- A loop that has ended has gone through all states that it comes to. -/
theorem Reaches.mem_loopStates (reaches : Reaches body start state)
    (ended : runLoop body rounds start = some result) :
    state ∈ start :: loopStates body rounds start := by
  induction reaches with
  | refl => exact mem_cons_self
  | again _ decided ih => exact mem_cons_of_mem _ (mem_loopStates_of_again ended ih decided)

/-- The loop runs through a sequence of states and stops in its `count`-th one. -/
structure Traces (body : σ → Round σ ρ) (states : Nat → σ) (count : Nat)
    (result : ρ) : Prop where
  again : ∀ step < count, body (states step) = .again (states (step + 1))
  stop : body (states count) = .stop result

namespace Traces

variable {states : Nat → σ} {count rounds : Nat}

/-- The trace from its second state on. -/
theorem tail (traces : Traces body states (count + 1) result) :
    Traces body (fun step => states (step + 1)) count result :=
  ⟨fun step before => traces.again (step + 1) (by omega), traces.stop⟩

theorem runLoop_eq (traces : Traces body states count result) (enough : count < rounds) :
    runLoop body rounds (states 0) = some result := by
  induction count generalizing states rounds with
  | zero =>
    cases rounds with
    | zero => omega
    | succ => simp only [runLoop, traces.stop]
  | succ count ih =>
    cases rounds with
    | zero => omega
    | succ =>
      simp only [runLoop, traces.again 0 (by omega)]
      exact ih traces.tail (by omega)

theorem loopStates_eq (traces : Traces body states count result) (enough : count ≤ rounds) :
    loopStates body rounds (states 0) = (range count).map fun step => states (step + 1) := by
  induction count generalizing states rounds with
  | zero =>
    cases rounds with
    | zero => rfl
    | succ => simp only [loopStates, traces.stop, range_zero, map_nil]
  | succ count ih =>
    cases rounds with
    | zero => omega
    | succ =>
      simp only [loopStates, traces.again 0 (by omega)]
      rw [ih traces.tail (by omega), range_succ_eq_map, map_cons, map_map]
      rfl

end Traces

end Lib

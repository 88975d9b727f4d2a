import Mathlib.Data.List.AList
import StuHelper.Lib.Run

/-!
# The cache of compiled expressions

`UsedVars` and `CompileFromCache` share a cache behind a lock, and each section under the lock is a
step.  `UsedVars` compiles an expression that it misses and then reads the cache once more, where
the entry may be gone again.
-/

namespace StuHelper.Billing

open Lib

def maxCacheSize : Nat := 256

/-- The program of an expression, and the identifiers of a program. -/
structure ExprCompiler (π ω : Type) where
  compile : String → Option π
  extractUsedVars : π → ω
  compile_empty : compile "" = none

/-- Where a call is.  A compilation may be that of a `UsedVars` call. -/
inductive ExprCall (π ω : Type) where
  | idle
  | looking (expr : String)
  | compiling (expr : String) (forVars : Bool)
  | storing (expr : String) (forVars : Bool) (prog : π)
  | reading (expr : String)
  | usedVars (expr : String) (vars : Option ω)
  | compiled (expr : String) (prog : Option π)
  deriving DecidableEq

/-- The programs in the cache, where an expression stands for its hash. -/
abbrev ExprCache (π : Type) := AList fun _ : String => π

structure ExprState (π ω : Type) where
  cache : ExprCache π := ∅
  calls : Nat → ExprCall π ω := fun _ => .idle

inductive ExprOp where
  | usedVars (call : Nat) (expr : String)
  | compileFromCache (call : Nat) (expr : String)
  /-- The next section of a call. -/
  | proceed (call : Nat)
  | invalidateCache
  deriving DecidableEq, Repr

variable {π ω : Type}

namespace ExprCompiler

variable (compiler : ExprCompiler π ω)

/-- A compilation that has the program. -/
def withProgram (expr : String) (forVars : Bool) (prog : π) : ExprCall π ω :=
  if forVars then .reading expr else .compiled expr (some prog)

/-- The next section of a call. -/
def proceed (cache : ExprCache π) : ExprCall π ω → ExprCall π ω × ExprCache π
  | .looking expr =>
    match cache.lookup expr with
    | some prog => (.usedVars expr (some (compiler.extractUsedVars prog)), cache)
    | none => (.compiling expr true, cache)
  | .compiling expr forVars =>
    match cache.lookup expr, compiler.compile expr with
    | some prog, _ => (withProgram expr forVars prog, cache)
    | none, some prog => (.storing expr forVars prog, cache)
    | none, none => (if forVars then .usedVars expr none else .compiled expr none, cache)
  | .storing expr forVars prog =>
    (withProgram expr forVars prog,
      (if cache.entries.length ≥ maxCacheSize then ∅ else cache).insert expr prog)
  | .reading expr =>
    (.usedVars expr ((cache.lookup expr).map compiler.extractUsedVars), cache)
  | call => (call, cache)

def step (state : ExprState π ω) : ExprOp → ExprState π ω
  | .usedVars call expr =>
    match state.calls call with
    | .idle =>
      let first := if expr = "" then .usedVars expr none else .looking expr
      { state with calls := Function.update state.calls call first }
    | _ => state
  | .compileFromCache call expr =>
    match state.calls call with
    | .idle => { state with calls := Function.update state.calls call (.compiling expr false) }
    | _ => state
  | .proceed call =>
    let next := compiler.proceed state.cache (state.calls call)
    ⟨next.2, Function.update state.calls call next.1⟩
  | .invalidateCache => { state with cache := ∅ }

/-- The step empties the cache. -/
def Clears (state : ExprState π ω) : ExprOp → Prop
  | .invalidateCache => True
  | .proceed call => state.cache.entries.length ≥ maxCacheSize ∧
    ∃ expr forVars prog, state.calls call = .storing expr forVars prog
  | _ => False

/-- A step empties the cache only when no `UsedVars` call is about to read it again. -/
def Undisturbed (state : ExprState π ω) (op : ExprOp) : Prop :=
  Clears state op → ∀ call expr, state.calls call ≠ .reading expr

/-! ## What the calls know -/

/-- A program is that of its expression; if the cache is not emptied at the wrong time, what is
read again is there and the variables are those of their expression. -/
def Knows (undisturbed : Prop) (cache : ExprCache π) : ExprCall π ω → Prop
  | .storing expr _ prog => compiler.compile expr = some prog
  | .compiled expr prog => prog = compiler.compile expr
  | .reading expr => undisturbed → (cache.lookup expr).isSome
  | .usedVars expr vars =>
    undisturbed → vars = (compiler.compile expr).map compiler.extractUsedVars
  | _ => True

def Entries (cache : ExprCache π) : Prop :=
  ∀ expr prog, cache.lookup expr = some prog → compiler.compile expr = some prog

structure Inv (undisturbed : Prop) (state : ExprState π ω) : Prop where
  entries : compiler.Entries state.cache
  calls : ∀ call, compiler.Knows undisturbed state.cache (state.calls call)

variable {compiler} {undisturbed : Prop} {cache next : ExprCache π} {call : ExprCall π ω}

theorem knows_withProgram {expr : String} {forVars : Bool} {prog : π}
    (compiles : compiler.compile expr = some prog) (there : (cache.lookup expr).isSome) :
    compiler.Knows undisturbed cache (withProgram expr forVars prog) := by
  cases forVars with
  | true => exact fun _ => there
  | false => exact compiles.symm

theorem proceed_knows (entries : compiler.Entries cache)
    (knows : compiler.Knows undisturbed cache call) :
    compiler.Knows undisturbed (compiler.proceed cache call).2 (compiler.proceed cache call).1 ∧
      compiler.Entries (compiler.proceed cache call).2 := by
  cases call with
  | looking expr =>
    simp only [proceed]
    split
    next prog found => exact ⟨fun _ => by rw [entries expr prog found]; rfl, entries⟩
    · exact ⟨trivial, entries⟩
  | compiling expr forVars =>
    simp only [proceed]
    split
    next found =>
      exact ⟨knows_withProgram (entries expr _ found) (Option.isSome_of_eq_some found), entries⟩
    next compiles => exact ⟨compiles, entries⟩
    next refused =>
      cases forVars with
      | true => exact ⟨fun _ => by rw [refused]; rfl, entries⟩
      | false => exact ⟨refused.symm, entries⟩
  | storing expr forVars prog =>
    refine ⟨knows_withProgram knows (by simp [proceed]), fun other found there => ?_⟩
    by_cases same : other = expr
    · subst same
      rw [proceed, AList.lookup_insert] at there
      exact there ▸ knows
    · rw [proceed, AList.lookup_insert_ne same] at there
      split at there
      · simp at there
      · exact entries other found there
  | reading expr =>
    refine ⟨fun kept => ?_, entries⟩
    obtain ⟨prog, found⟩ := Option.isSome_iff_exists.mp (knows kept)
    rw [found, entries expr prog found]
  | idle | usedVars | compiled => exact ⟨knows, entries⟩

theorem Knows.of_kept (knows : compiler.Knows undisturbed cache call)
    (kept : undisturbed → ∀ expr, call = .reading expr → (cache.lookup expr).isSome →
      (next.lookup expr).isSome) : compiler.Knows undisturbed next call := by
  cases call with
  | reading expr => exact fun calm => kept calm expr rfl (knows calm)
  | idle | looking | compiling | storing | usedVars | compiled => exact knows

theorem Inv.step {state : ExprState π ω} (inv : compiler.Inv undisturbed state) (op : ExprOp)
    (calm : undisturbed → Undisturbed state op) :
    compiler.Inv undisturbed (compiler.step state op) := by
  have begin_ : ∀ call phase, compiler.Knows undisturbed state.cache phase →
      compiler.Inv undisturbed { state with calls := Function.update state.calls call phase } := by
    intro call phase knows
    refine ⟨inv.entries, fun other => ?_⟩
    by_cases same : other = call
    · simpa [same] using knows
    · simpa [same] using inv.calls other
  cases op with
  | usedVars call expr =>
    simp only [ExprCompiler.step]
    split
    · apply begin_
      split
      next empty => exact fun _ => by rw [empty, compiler.compile_empty]; rfl
      · trivial
    · exact inv
  | compileFromCache call expr =>
    simp only [ExprCompiler.step]
    split
    · exact begin_ call _ trivial
    · exact inv
  | proceed call =>
    obtain ⟨knows, entries⟩ := proceed_knows inv.entries (inv.calls call)
    refine ⟨entries, fun other => ?_⟩
    by_cases same : other = call
    · simpa [ExprCompiler.step, same] using knows
    simp only [ExprCompiler.step, Function.update_of_ne same]
    refine (inv.calls other).of_kept fun quiet expr reads there => ?_
    cases phase : state.calls call with
    | storing stored forVars prog =>
      have room : ¬ state.cache.entries.length ≥ maxCacheSize := fun full =>
        calm quiet ⟨full, stored, forVars, prog, phase⟩ other expr reads
      rw [proceed, if_neg room]
      by_cases own : expr = stored
      · rw [own, AList.lookup_insert]
        rfl
      · rwa [AList.lookup_insert_ne own]
    | looking | compiling =>
      rw [proceed]
      split <;> exact there
    | idle | reading | usedVars | compiled => exact there
  | invalidateCache =>
    refine ⟨fun _ _ found => by simp [ExprCompiler.step] at found, fun call => ?_⟩
    exact (inv.calls call).of_kept fun quiet expr reads _ =>
      absurd reads (calm quiet trivial call expr)

/-- How many sections a call has before it returns, at most. -/
def sections : ExprCall π ω → Nat
  | .looking _ => 4
  | .compiling _ forVars => 2 + forVars.toNat
  | .storing _ forVars _ => 1 + forVars.toNat
  | .reading _ => 1
  | .idle | .usedVars _ _ | .compiled _ _ => 0

theorem sections_proceed (compiler : ExprCompiler π ω) (cache : ExprCache π) (call : ExprCall π ω)
    (left : 0 < sections call) : sections (compiler.proceed cache call).1 < sections call := by
  cases call with
  | looking expr =>
    simp only [proceed]
    split
    · exact left
    · exact Nat.lt_succ_self 3
  | compiling expr forVars =>
    simp only [proceed]
    cases forVars <;> split <;> simp [sections, withProgram]
  | storing expr forVars prog => cases forVars <;> simp [proceed, sections, withProgram]
  | reading => exact left
  | idle | usedVars | compiled => cases left

end ExprCompiler

open ExprCompiler

/-- If the cache is never emptied while a `UsedVars` call is about to read it again, such a call
returns the identifiers of its expression.  `CompileFromCache` returns its program anyway.  Both
return, as every section brings them closer to it. -/
theorem used_vars_kept (compiler : ExprCompiler π ω) (ops : List ExprOp) :
    (Along Undisturbed compiler.step {} ops → ∀ call expr vars,
      (run compiler.step {} ops).calls call = .usedVars expr vars →
        vars = (compiler.compile expr).map compiler.extractUsedVars) ∧
    (∀ call expr prog, (run compiler.step {} ops).calls call = .compiled expr prog →
      prog = compiler.compile expr) ∧
    ∀ cache call, 0 < sections call → sections (compiler.proceed cache call).1 < sections call := by
  have start : ∀ undisturbed, compiler.Inv undisturbed {} :=
    fun _ => ⟨fun _ _ found => by simp at found, fun _ => trivial⟩
  refine ⟨fun undisturbed call expr vars returned => ?_, fun call expr prog returned => ?_,
    sections_proceed compiler⟩
  · have inv := run_invariant (fun _ op inv calm => inv.step op fun _ => calm) (start True)
      undisturbed
    have knows := inv.calls call
    rw [returned] at knows
    exact knows trivial
  · have inv := @run_invariant_of_all _ _ compiler.step (compiler.Inv False)
      (fun _ op inv => inv.step op False.elim) _ ops (start False)
    have knows := inv.calls call
    rw [returned] at knows
    exact knows

/-- Programs that are their expressions, with themselves for identifiers. -/
def echoCompiler : ExprCompiler String String where
  compile expr := if expr = "" then none else some expr
  extractUsedVars prog := prog
  compile_empty := rfl

/-- A `UsedVars` call up to its second read. -/
def beforeReading : List ExprOp := [.usedVars 0 "p", .proceed 0, .proceed 0, .proceed 0]

/-- Two calls between whose steps the cache is emptied once. -/
def twoCalls : List ExprOp :=
  [.usedVars 0 "p", .compileFromCache 1 "q", .proceed 0, .proceed 1, .proceed 1, .invalidateCache,
    .proceed 0, .proceed 0, .proceed 0]

theorem used_vars_kept_two :
    (run echoCompiler.step {} twoCalls).calls 0 =
        .usedVars "p" ((echoCompiler.compile "p").map echoCompiler.extractUsedVars) ∧
      (run echoCompiler.step {} twoCalls).calls 1 = .compiled "q" (echoCompiler.compile "q") := by
  have returned : (run echoCompiler.step {} twoCalls).calls 0 = .usedVars "p" (some "p") := by
    decide
  have compiled : (run echoCompiler.step {} twoCalls).calls 1 = .compiled "q" (some "q") := by
    decide
  have calm : Along Undisturbed echoCompiler.step {} twoCalls := by
    refine ⟨False.elim, False.elim, ?_, ?_, ?_, fun _ call expr => ?_, ?_, ?_, ?_, trivial⟩
    case refine_4 => rcases call with _ | _ | call <;> exact nofun
    all_goals exact fun clears => absurd clears.1 (by decide)
  rw [returned, compiled, ← (used_vars_kept echoCompiler _).1 calm 0 "p" _ returned,
    ← (used_vars_kept echoCompiler _).2.1 1 "q" _ compiled]
  exact ⟨rfl, rfl⟩

/-- The cache is emptied before the second read. -/
theorem used_vars_vanish :
    (run echoCompiler.step {} (beforeReading ++ [.invalidateCache, .proceed 0])).calls 0 =
      .usedVars "p" none ∧ echoCompiler.compile "p" = some "p" := by
  decide

/-- Whatever the calls do, each program in the cache is that of its expression. -/
theorem expr_cache_sound (compiler : ExprCompiler π ω) (ops : List ExprOp) :
    compiler.Entries (run compiler.step {} ops).cache := by
  have start : compiler.Inv False {} := ⟨fun _ _ found => by simp at found, fun _ => trivial⟩
  exact (run_invariant_of_all (fun _ op inv => inv.step op False.elim) ops start).entries

end StuHelper.Billing

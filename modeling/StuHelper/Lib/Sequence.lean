import Mathlib.Order.ConditionallyCompleteLattice.Basic
import Mathlib.Data.Int.ConditionallyCompleteOrder

/-!
# Increasing sequences of times

An increasing sequence of integers has, for every limit that it starts below, a last
entry up to the limit.  Clocks that strike at fixed marks are the instance used most: a
clock is a Galois connection between the numbers of its marks and times, `mark` with
`index` as its upper adjoint, and the sequence is a time followed by the marks after it.
-/

namespace Lib

variable {times : Nat → Int} {limit : Int}

section

variable (strict : StrictMono times)

include strict

theorem add_le_of_strictMono (step : Nat) : times 0 + step ≤ times step := by
  induction step with
  | zero => simp
  | succ step =>
    have next := strict (Nat.lt_add_one step)
    omega

/-- The entries up to a limit are those up to a last one. -/
theorem exists_last (starts : times 0 ≤ limit) :
    ∃ last, times last ≤ limit ∧ limit < times (last + 1) := by
  have passes : ∃ step, limit < times step :=
    ⟨(limit - times 0).toNat + 1, by
      have far := add_le_of_strictMono strict ((limit - times 0).toNat + 1)
      omega⟩
  cases least : Nat.find passes with
  | zero =>
    have first := Nat.find_spec passes
    rw [least] at first
    omega
  | succ last =>
    refine ⟨last, ?_, ?_⟩
    · have before := Nat.find_min passes (m := last) (by omega)
      exact not_lt.mp before
    · have found := Nat.find_spec passes
      rwa [least] at found

theorem le_of_last {last : Nat} (below : times last ≤ limit) : last ≤ (limit - times 0).toNat := by
  have far := add_le_of_strictMono strict last
  omega

/-- An entry is up to the limit exactly when it is not after the last one that is. -/
theorem le_last_iff {last step : Nat} (below : times last ≤ limit)
    (above : limit < times (last + 1)) : step ≤ last ↔ times step ≤ limit := by
  constructor
  · intro before
    exact (strict.monotone before).trans below
  · intro stepBelow
    exact Nat.lt_add_one_iff.mp (strict.lt_iff_lt.mp (stepBelow.trans_lt above))

end

/-! ## Clocks -/

section Clock

variable {mark index : Int → Int}

/-- A time, followed by the marks after it. -/
def marksFrom (mark index : Int → Int) (start : Int) : Nat → Int
  | 0 => start
  | step + 1 => mark (index start + (step + 1 : Nat))

section

variable (clock : GaloisConnection mark index)

include clock

theorem index_mark (strict : StrictMono mark) (number : Int) : index (mark number) = number := by
  apply le_antisymm
  · exact strict.le_iff_le.mp ((clock _ _).mpr le_rfl)
  · exact (clock _ _).mp le_rfl

theorem lt_mark_succ (time : Int) : time < mark (index time + 1) := by
  apply lt_of_not_ge
  intro passed
  have := (clock _ _).mp passed
  omega

theorem marksFrom_succ (strict : StrictMono mark) (start : Int) (step : Nat) :
    marksFrom mark index start (step + 1) = mark (index (marksFrom mark index start step) + 1) := by
  cases step with
  | zero => rfl
  | succ =>
    simp only [marksFrom, index_mark clock strict]
    congr 1
    omega

theorem marksFrom_strictMono (strict : StrictMono mark) (start : Int) :
    StrictMono (marksFrom mark index start) := by
  apply strictMono_nat_of_lt_succ
  intro step
  rw [marksFrom_succ clock strict]
  exact lt_mark_succ clock _

/-- Up to a limit there are as many marks as the clock's index has advanced. -/
theorem marksFrom_last {start : Int} (before : start ≤ limit) :
    marksFrom mark index start (index limit - index start).toNat ≤ limit ∧
      limit < marksFrom mark index start ((index limit - index start).toNat + 1) := by
  constructor
  · cases count : (index limit - index start).toNat with
    | zero => exact before
    | succ => exact (clock _ _).mpr (by omega)
  · apply lt_of_not_ge
    intro passed
    have := (clock _ _).mp passed
    omega

end

end Clock

end Lib

import Mathlib.Algebra.Order.Ring.Int
import Mathlib.Data.List.Dedup
import Mathlib.Data.List.Sort

/-!
# Weighted draws and tiers

A weighted draw walks through a list and takes the weight of each entry off a random value, until
the value passes a test.  Whatever the value was below the total weight, some entry is drawn.

The tiers of a list of priorities are its distinct values, the greatest first.
-/

namespace Lib

open List

variable {α : Type}

/-! ## Draws -/

/-- Take the weights off the value, entry by entry, until it passes the test. -/
def draw (stops : Int → Bool) (weight : α → Nat) : List α → Int → Option α
  | [], _ => none
  | entry :: rest, value =>
    if stops (value - weight entry) then some entry
    else draw stops weight rest (value - weight entry)

section Draw

variable {stops : Int → Bool} {weight : α → Nat} {entries : List α} {value : Int}

theorem mem_of_draw {entry : α} (drawn : draw stops weight entries value = some entry) :
    entry ∈ entries := by
  induction entries generalizing value with
  | nil => cases drawn
  | cons first rest ih =>
    rw [draw] at drawn
    split at drawn
    · cases drawn
      exact mem_cons_self
    · exact mem_cons_of_mem _ (ih drawn)

/-- A value below the total weight draws an entry. -/
theorem exists_draw (negative : ∀ value < 0, stops value = true) (nonneg : 0 ≤ value)
    (below : value < (entries.map weight).sum) :
    ∃ entry ∈ entries, draw stops weight entries value = some entry := by
  induction entries generalizing value with
  | nil => exact absurd below (Int.not_lt.mpr nonneg)
  | cons first rest ih =>
    rw [draw]
    split
    · exact ⟨first, mem_cons_self, rfl⟩
    rename_i goesOn
    have later : 0 ≤ value - weight first := Int.not_lt.mp fun isNegative =>
      goesOn (negative _ isNegative)
    obtain ⟨entry, member, drawn⟩ := ih later (Int.sub_left_lt_of_lt_add below)
    exact ⟨entry, mem_cons_of_mem _ member, drawn⟩

end Draw

/-! ## Tiers -/

/-- The distinct values of a list, the greatest first. -/
def tiers (values : List Int) : List Int :=
  values.dedup.insertionSort fun left right => right ≤ left

section Tiers

variable {values : List Int} {value : Int}

theorem mem_tiers : value ∈ tiers values ↔ value ∈ values := by
  rw [tiers, mem_insertionSort, mem_dedup]

theorem tiers_eq_nil_iff : tiers values = [] ↔ values = [] := by
  constructor
  · intro empty
    apply eq_nil_iff_forall_not_mem.mpr
    intro value member
    rw [← mem_tiers, empty] at member
    cases member
  · intro empty
    rw [empty]
    rfl

variable {top : Int} {rest : List Int} (listed : tiers values = top :: rest)

include listed

theorem mem_of_tiers_cons : top ∈ values := by
  rw [← mem_tiers, listed]
  exact mem_cons_self

/-- The first tier is the greatest value. -/
theorem le_of_tiers_cons (member : value ∈ values) : value ≤ top := by
  have sorted : (tiers values).Pairwise fun left right => right ≤ left :=
    pairwise_insertionSort (fun left right : Int => right ≤ left) _
  rw [listed, pairwise_cons] at sorted
  have there := mem_tiers.mpr member
  rw [listed] at there
  cases there with
  | head => exact Int.le_refl _
  | tail _ later => exact sorted.1 value later

end Tiers

end Lib

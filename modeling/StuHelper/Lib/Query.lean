import Mathlib.Data.List.Sort

/-!
# Ordered queries

`select` is a database query with a condition, an order and a limit.  The order is
given by two integer columns, the second one breaking ties, ascending or
descending in both.
-/

namespace Lib

open List

universe u

variable {ρ : Type u}

/-- Ascending order by two columns. -/
def Ascending (first second : ρ → Int) (left right : ρ) : Prop :=
  first left < first right ∨ (first left = first right ∧ second left ≤ second right)

/-- Descending order by two columns. -/
def Descending (first second : ρ → Int) (left right : ρ) : Prop :=
  Ascending first second right left

instance (first second : ρ → Int) : DecidableRel (Ascending first second) :=
  fun left right => inferInstanceAs (Decidable
    (first left < first right ∨ (first left = first right ∧ second left ≤ second right)))

instance (first second : ρ → Int) : DecidableRel (Descending first second) :=
  fun left right => inferInstanceAs (Decidable (Ascending first second right left))

instance (first second : ρ → Int) : Std.Total (Ascending first second) where
  total left right := by
    unfold Ascending
    omega

instance (first second : ρ → Int) : Std.Total (Descending first second) where
  total left right := Std.Total.total right left

instance (first second : ρ → Int) : IsTrans ρ (Ascending first second) where
  trans left middle right := by
    unfold Ascending
    omega

instance (first second : ρ → Int) : IsTrans ρ (Descending first second) where
  trans left middle right leftMiddle middleRight :=
    IsTrans.trans (r := Ascending first second) right middle left
      middleRight leftMiddle

/-- The rows that pass a test, in order. -/
def select (before : ρ → ρ → Prop) [DecidableRel before] (test : ρ → Bool)
    (rows : List ρ) : List ρ :=
  (rows.filter test).insertionSort before

/-- The first row that passes a test. -/
def selectFirst (before : ρ → ρ → Prop) [DecidableRel before] (test : ρ → Bool)
    (rows : List ρ) : Option ρ :=
  (select before test rows).head?

variable {before : ρ → ρ → Prop} [DecidableRel before] {test : ρ → Bool} {rows : List ρ} {row : ρ}

@[simp] theorem mem_select : row ∈ select before test rows ↔ row ∈ rows ∧ test row := by
  simp [select]

/-- A query keeps the keys of its rows apart. -/
theorem select_keys_nodup {κ : Type*} {key : ρ → κ} (nodup : (rows.map key).Nodup) :
    ((select before test rows).map key).Nodup := by
  have reordered := (perm_insertionSort before (rows.filter test)).map key
  apply reordered.nodup_iff.mpr
  exact nodup.sublist (filter_sublist.map key)

theorem selectFirst_mem (found : selectFirst before test rows = some row) :
    row ∈ rows ∧ test row :=
  mem_select.mp (mem_of_head? found)

theorem selectFirst_eq_none :
    selectFirst before test rows = none ↔ ∀ row ∈ rows, test row = false := by
  rw [selectFirst, head?_eq_none_iff, eq_nil_iff_forall_not_mem]
  simp

/-- The first row stands before every other row that passes the test. -/
theorem selectFirst_before [Std.Total before] [IsTrans ρ before] {other : ρ}
    (found : selectFirst before test rows = some row) (member : other ∈ rows)
    (passes : test other = true) : other = row ∨ before row other := by
  have sorted : (select before test rows).Pairwise before := pairwise_insertionSort before _
  have otherMem : other ∈ select before test rows := mem_select.mpr ⟨member, passes⟩
  rw [selectFirst] at found
  cases listed : select before test rows with
  | nil => simp [listed] at found
  | cons =>
    simp only [listed, head?_cons, Option.some.injEq] at found
    subst found
    rw [listed] at sorted otherMem
    rcases mem_cons.mp otherMem with same | later
    · exact .inl same
    · exact .inr ((pairwise_cons.mp sorted).1 other later)

end Lib

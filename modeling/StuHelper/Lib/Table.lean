import Mathlib.Data.List.Find
import Mathlib.Data.List.Count
import Mathlib.Data.List.Sort
import Mathlib.Algebra.BigOperators.Group.List.Basic
import Mathlib.Tactic.Abel

/-!
# Tables with a unique key

The rows of a table carry a unique key as an invariant of the table, so a lookup
by key is determined by membership.  Every write goes through one of four
operations (`update`, `save`, `insert?`, `discard`), and each has one lemma for
lookups, one for membership and, where a count is needed, one for counts.

`Serial` adds the automatic integer key of a database: keys are positive and
below a counter that never goes back, so a key is not handed out twice even
after its row has been deleted.
-/

namespace Lib

open List

universe u v

/-- Rows with pairwise different keys. -/
structure Table {κ : Type u} {ρ : Type v} (key : ρ → κ) where
  rows : List ρ
  nodup : (rows.map key).Nodup

namespace Table

variable {κ : Type u} {ρ : Type v} {key : ρ → κ}
variable {table : Table key} {row : ρ} {wanted : κ}

def empty : Table key := ⟨[], by simp⟩

/-- One row. -/
def single (row : ρ) : Table key := ⟨[row], nodup_singleton _⟩

/-- Two rows of a table with one key are the same row. -/
theorem eq_of_key_eq (table : Table key) {left right : ρ}
    (leftMem : left ∈ table.rows) (rightMem : right ∈ table.rows)
    (equal : key left = key right) : left = right :=
  inj_on_of_nodup_map table.nodup leftMem rightMem equal

/-- Apply a change that keeps the key to every row. -/
def update (table : Table key) (change : ρ → ρ)
    (keeps : ∀ row, key (change row) = key row) : Table key where
  rows := table.rows.map change
  nodup := by
    rw [map_map]
    have same : key ∘ change = key := funext keeps
    rw [same]
    exact table.nodup

/-- Delete the rows that fail a test. -/
def keep (table : Table key) (test : ρ → Bool) : Table key where
  rows := table.rows.filter test
  nodup := table.nodup.sublist (filter_sublist.map key)

theorem map_key_update (table : Table key) (change : ρ → ρ)
    (keeps : ∀ row, key (change row) = key row) :
    (table.update change keeps).rows.map key = table.rows.map key := by
  simp only [update, map_map]
  exact map_congr_left fun row _ => keeps row

variable {change : ρ → ρ} {test : ρ → Bool} {next : Table key} {old : ρ}

/-- A search that cannot tell a row from its change finds the change of what it found. -/
theorem find?_rows_update (table : Table key) {keeps : ∀ row, key (change row) = key row}
    (same : ∀ row ∈ table.rows, test (change row) = test row) :
    (table.update change keeps).rows.find? test = (table.rows.find? test).map change := by
  have found : table.rows.find? (test ∘ change) = table.rows.find? test := find?_congr same
  rw [update, find?_map, found]

theorem mem_update {keeps : ∀ row, key (change row) = key row} :
    row ∈ (table.update change keeps).rows ↔ ∃ old ∈ table.rows, change old = row := by
  simp [update]

theorem eq_of_rows {left right : Table key} (same : left.rows = right.rows) : left = right := by
  cases left
  cases right
  simpa using same

/-- A change that moves no row leaves the table as it was. -/
theorem update_id (table : Table key) (keeps : ∀ row, key (change row) = key row)
    (same : ∀ row, change row = row) :
    table.update change keeps = table := by
  obtain rfl : change = id := funext same
  exact eq_of_rows (map_id _)

/-- A change that is undone row by row leaves the table as it was. -/
theorem update_cancel (table : Table key) {undo : ρ → ρ} (keeps : ∀ row, key (change row) = key row)
    (keepsBack : ∀ row, key (undo row) = key row) (undone : ∀ row, undo (change row) = row) :
    (table.update change keeps).update undo keepsBack = table := by
  apply eq_of_rows
  have same : undo ∘ change = id := funext undone
  simp only [update, map_map, same, map_id]

variable [DecidableEq κ]

def find? (table : Table key) (wanted : κ) : Option ρ :=
  table.rows.find? fun row => key row = wanted

/-- Replace the row that has the key of `row`. -/
def save (table : Table key) (row : ρ) : Table key :=
  table.update (fun old => if key old = key row then row else old) (by
    intro old
    by_cases same : key old = key row <;> simp [same])

/-- Add a row, unless its key is taken. -/
def insert? (table : Table key) (row : ρ) : Option (Table key) :=
  if fresh : key row ∈ table.rows.map key then none
  else some ⟨table.rows ++ [row], by
    rw [map_append, map_singleton, nodup_append]
    refine ⟨table.nodup, nodup_singleton _, ?_⟩
    intro taken takenMem other otherMem equal
    rw [mem_singleton] at otherMem
    exact fresh (otherMem ▸ equal ▸ takenMem)⟩

def discard (table : Table key) (unwanted : κ) : Table key :=
  table.keep fun row => key row ≠ unwanted

/-! ## Lookups -/

theorem find?_eq_some : table.find? wanted = some row ↔ row ∈ table.rows ∧ key row = wanted := by
  constructor
  · intro found
    exact ⟨mem_of_find?_eq_some found, by
      simpa using find?_some found⟩
  · rintro ⟨member, rfl⟩
    cases found : table.find? (key row) with
    | none =>
      have absent := find?_eq_none.mp found row member
      simp at absent
    | some other =>
      have otherMem := mem_of_find?_eq_some found
      have otherKey : key other = key row := by simpa using find?_some found
      rw [table.eq_of_key_eq otherMem member otherKey]

theorem find?_eq_none : table.find? wanted = none ↔ ∀ row ∈ table.rows, key row ≠ wanted := by
  simp [find?]

theorem find?_key (found : table.find? wanted = some row) : key row = wanted :=
  (find?_eq_some.mp found).2

theorem find?_mem (found : table.find? wanted = some row) : row ∈ table.rows :=
  (find?_eq_some.mp found).1

theorem find?_of_mem (member : row ∈ table.rows) : table.find? (key row) = some row :=
  find?_eq_some.mpr ⟨member, rfl⟩

/-! ## Updates -/

theorem find?_update (table : Table key) (change : ρ → ρ)
    (keeps : ∀ row, key (change row) = key row) (wanted : κ) :
    (table.update change keeps).find? wanted = (table.find? wanted).map change := by
  cases found : table.find? wanted with
  | none =>
    rw [Option.map_none, find?_eq_none]
    intro row member
    obtain ⟨old, oldMem, rfl⟩ := mem_update.mp member
    rw [keeps]
    exact find?_eq_none.mp found old oldMem
  | some row =>
    rw [Option.map_some, find?_eq_some]
    obtain ⟨member, rfl⟩ := find?_eq_some.mp found
    exact ⟨mem_update.mpr ⟨row, member, rfl⟩, keeps row⟩

/-- A row that is saved is found where the row it replaces was. -/
theorem find?_save (found : table.find? wanted = some old) (same : key row = key old) :
    (table.save row).find? wanted = some row := by
  rw [save, find?_update, found, Option.map_some, if_pos same.symm]

theorem find?_save_other (table : Table key) (row : ρ) (different : wanted ≠ key row) :
    (table.save row).find? wanted = table.find? wanted := by
  rw [save, find?_update]
  cases found : table.find? wanted with
  | none => rfl
  | some old =>
    have unlike : key old ≠ key row := by
      rw [find?_key found]
      exact different
    rw [Option.map_some, if_neg unlike]

/-- The rows after a save: the saved row in the place of the one it replaces. -/
theorem mem_save {other : ρ} :
    other ∈ (table.save row).rows ↔ (other = row ∧ ∃ old ∈ table.rows, key old = key row) ∨
        (other ∈ table.rows ∧ key other ≠ key row) := by
  rw [save, mem_update]
  constructor
  · rintro ⟨old, oldMem, rfl⟩
    by_cases same : key old = key row
    · rw [if_pos same]
      exact .inl ⟨rfl, old, oldMem, same⟩
    · rw [if_neg same]
      exact .inr ⟨oldMem, same⟩
  · rintro (⟨rfl, old, oldMem, same⟩ | ⟨member, different⟩)
    · exact ⟨old, oldMem, if_pos same⟩
    · exact ⟨other, member, if_neg different⟩

/-- A row found after a save is the saved one or was there before. -/
theorem find?_save_cases {k : κ} {found : ρ} (finds : (table.save row).find? k = some found) :
    found = row ∨ table.find? k = some found := by
  rcases mem_save.mp (find?_mem finds) with ⟨same, -⟩ | ⟨member, -⟩
  · exact .inl same
  · right
    rw [← find?_key finds]
    exact find?_of_mem member

/-! ## Insertions and deletions -/

theorem mem_keys_iff :
    wanted ∈ table.rows.map key ↔ (table.find? wanted).isSome := by
  rw [mem_map, Option.isSome_iff_ne_none, Ne, find?_eq_none]
  push Not
  rfl

theorem insert?_some (inserted : table.insert? row = some next) :
    table.find? (key row) = none ∧ next.rows = table.rows ++ [row] := by
  unfold insert? at inserted
  split at inserted
  · cases inserted
  rename_i fresh
  cases inserted
  rw [mem_keys_iff, Option.not_isSome_iff_eq_none] at fresh
  exact ⟨fresh, rfl⟩

theorem insert?_eq_none : table.insert? row = none ↔ (table.find? (key row)).isSome := by
  rw [← mem_keys_iff]
  unfold insert?
  split
  next taken => exact iff_of_true rfl taken
  next fresh => exact iff_of_false nofun fresh

theorem find?_insert (inserted : table.insert? row = some next) (wanted : κ) :
    next.find? wanted = if wanted = key row then some row else table.find? wanted := by
  obtain ⟨absent, rowsEq⟩ := insert?_some inserted
  have split : next.find? wanted =
      (table.find? wanted).or (if key row = wanted then some row else none) := by
    simp only [find?, rowsEq, find?_append, find?_singleton, decide_eq_true_eq]
  rw [split]
  by_cases same : wanted = key row
  · subst same
    simp [absent]
  · simp [same, Ne.symm same]

theorem mem_discard {unwanted : κ} :
    row ∈ (table.discard unwanted).rows ↔ row ∈ table.rows ∧ key row ≠ unwanted := by
  simp [discard, keep]

/-! ## Sums and counts -/

/-- Saving over the only row that passes a test leaves the saved row as the only one. -/
theorem filter_save (only : table.rows.filter test = [old]) (same : key old = key row)
    (passes : test row) : (table.save row).rows.filter test = [row] := by
  have oldMem : old ∈ table.rows.filter test := by simp [only]
  obtain ⟨member, oldPasses⟩ := mem_filter.mp oldMem
  have kept : ∀ other ∈ table.rows,
      (test ∘ fun other => if key other = key row then row else other) other = test other := by
    intro other otherMem
    by_cases equal : key other = key row
    · have := table.eq_of_key_eq otherMem member (equal.trans same.symm)
      simp [this, passes, oldPasses, same]
    · simp [equal]
  rw [save, update, filter_map, filter_congr kept, only]
  simp [same]

/-- Deleting the only row that passes a test. -/
theorem filter_discard (only : table.rows.filter test = [old]) :
    (table.discard (key old)).rows.filter test = [] := by
  rw [filter_eq_nil_iff]
  intro row member passes
  obtain ⟨stored, other⟩ := mem_discard.mp member
  have listed : row ∈ table.rows.filter test := mem_filter.mpr ⟨stored, passes⟩
  rw [only, mem_singleton] at listed
  exact other (congrArg key listed)

theorem filter_insert {table next : Table key} {row : ρ}
    (inserted : table.insert? row = some next) {test : ρ → Bool} (passes : test row) :
    next.rows.filter test = table.rows.filter test ++ [row] := by
  rw [(insert?_some inserted).2, filter_append]
  simp [passes]

/-- A save rewrites one position of the list of rows. -/
theorem save_rows {table : Table key} {old row : ρ} (member : old ∈ table.rows)
    (same : key old = key row) :
    ∃ front back, table.rows = front ++ old :: back ∧
      (table.save row).rows = front ++ row :: back := by
  obtain ⟨front, back, rowsEq⟩ := append_of_mem member
  have unlike : ∀ other ∈ front ++ back, key other ≠ key row := by
    intro other otherMem equal
    have keys := table.nodup
    rw [rowsEq, map_append, map_cons, nodup_middle,
      nodup_cons, ← map_append] at keys
    exact keys.1 (mem_map.mpr ⟨other, otherMem, equal.trans same.symm⟩)
  have unchanged : ∀ part : List ρ, (∀ other ∈ part, other ∈ front ++ back) →
      part.map (fun other => if key other = key row then row else other) = part := by
    intro part inside
    conv_rhs => rw [← map_id part]
    exact map_congr_left fun other otherMem =>
      if_neg (unlike other (inside other otherMem))
  refine ⟨front, back, rowsEq, ?_⟩
  simp only [save, update, rowsEq, map_append, map_cons, if_pos same]
  rw [unchanged front (by simp +contextual), unchanged back (by simp +contextual)]

theorem save_eq_self (member : row ∈ table.rows) : table.save row = table := by
  obtain ⟨_, _, rowsEq, savedEq⟩ := save_rows member rfl
  cases table
  simp only at rowsEq savedEq
  rw [← rowsEq] at savedEq
  simpa [save, update] using savedEq

/-- Of two saves under one key the second counts. -/
theorem save_save (table : Table key) {first second : ρ} (same : key first = key second) :
    (table.save first).save second = table.save second := by
  apply eq_of_rows
  simp only [save, update, map_map]
  apply map_congr_left
  intro old _
  by_cases equal : key old = key second <;> simp [same, equal]

/-- Saving a row moves a sum by the weight of the new and of the replaced row. -/
theorem sum_save {M : Type*} [AddCommMonoid M] (member : old ∈ table.rows)
    (same : key old = key row) (weight : ρ → M) :
    ((table.save row).rows.map weight).sum + weight old =
      (table.rows.map weight).sum + weight row := by
  obtain ⟨_, _, rowsEq, savedEq⟩ := save_rows member same
  rw [rowsEq, savedEq]
  simp only [map_append, map_cons, sum_append, sum_cons]
  abel

/-- Saving a row moves a count by what the test says of the new and of the
replaced row. -/
theorem countP_save (member : old ∈ table.rows) (same : key old = key row) (test : ρ → Bool) :
    (table.save row).rows.countP test + (if test old then 1 else 0) =
      table.rows.countP test + (if test row then 1 else 0) := by
  obtain ⟨_, _, rowsEq, savedEq⟩ := save_rows member same
  rw [rowsEq, savedEq]
  simp only [countP_append, countP_cons]
  omega

theorem countP_insert (inserted : table.insert? row = some next) (test : ρ → Bool) :
    next.rows.countP test = table.rows.countP test + (if test row then 1 else 0) := by
  rw [(insert?_some inserted).2]
  simp [countP_append, countP_cons]

end Table

/-! ## Automatic keys -/

/-- A table keyed by positive integers that are handed out once. -/
structure Serial {ρ : Type v} (key : ρ → Int) extends Table key where
  next : Int
  next_pos : 0 < next
  issued : ∀ row ∈ rows, 0 < key row ∧ key row < next

namespace Serial

variable {ρ : Type v} {key : ρ → Int}

/-- The table without rows, whose first key is 1. -/
def empty : Serial key := ⟨Table.empty, 1, by decide, by simp [Table.empty]⟩

/-- Apply a change that keeps the key to every row. -/
def update (table : Serial key) (change : ρ → ρ)
    (keeps : ∀ row, key (change row) = key row) : Serial key where
  toTable := table.toTable.update change keeps
  next := table.next
  next_pos := table.next_pos
  issued := by
    intro row member
    obtain ⟨old, oldMem, rfl⟩ := Table.mem_update.mp member
    rw [keeps]
    exact table.issued old oldMem

/-- Replace the row that has the key of `row`. -/
def save (table : Serial key) (row : ρ) : Serial key where
  toTable := table.toTable.save row
  next := table.next
  next_pos := table.next_pos
  issued := by
    intro other member
    rcases Table.mem_save.mp member with ⟨rfl, old, oldMem, same⟩ | ⟨oldMem, -⟩
    · exact same ▸ table.issued old oldMem
    · exact table.issued other oldMem

def discard (table : Serial key) (unwanted : Int) : Serial key where
  toTable := table.toTable.discard unwanted
  next := table.next
  next_pos := table.next_pos
  issued := fun row member => table.issued row (Table.mem_discard.mp member).1

/-- Add the row that `make` builds for the next key. -/
def create (table : Serial key) (make : Int → ρ)
    (keyed : ∀ id, key (make id) = id) : Serial key where
  rows := table.rows ++ [make table.next]
  nodup := by
    rw [map_append, map_singleton, nodup_append]
    refine ⟨table.nodup, nodup_singleton _, ?_⟩
    intro taken takenMem other otherMem equal
    rw [mem_singleton, keyed] at otherMem
    obtain ⟨row, rowMem, rfl⟩ := mem_map.mp takenMem
    have below := (table.issued row rowMem).2
    omega
  next := table.next + 1
  next_pos := by have := table.next_pos; omega
  issued := by
    intro row member
    rw [mem_append, mem_singleton] at member
    have positive := table.next_pos
    rcases member with old | rfl
    · have := table.issued row old
      omega
    · rw [keyed]
      omega

variable (table : Serial key)

@[simp] theorem save_toTable (row : ρ) : (table.save row).toTable = table.toTable.save row := rfl

theorem save_eq_self {table : Serial key} {row : ρ} (member : row ∈ table.rows) :
    table.save row = table := by
  have same := Table.save_eq_self member
  cases table
  simp only [save, same]

theorem save_save {first second : ρ} (same : key first = key second) :
    (table.save first).save second = table.save second := by
  have equal := Table.save_save table.toTable same
  cases table
  simp only [save] at equal ⊢
  simp only [equal]

theorem mem_create {table : Serial key} {make : Int → ρ}
    {keyed : ∀ id, key (make id) = id} {row : ρ} :
    row ∈ (table.create make keyed).rows ↔ row ∈ table.rows ∨ row = make table.next := by
  simp [create]

theorem find?_create (make : Int → ρ) (keyed : ∀ id, key (make id) = id) :
    (table.create make keyed).find? table.next = some (make table.next) :=
  Table.find?_eq_some.mpr ⟨(@mem_create _ _ table make keyed _).mpr (.inr rfl), keyed _⟩

end Serial

/-! ## Checks before a write -/

/-- A transaction commits past a check exactly if the check does not fail. -/
theorem check_ok {ε : Type u} {α : Type v} {fails : Prop} [Decidable fails] {error : ε}
    {rest : Except ε α} {value : α} :
    (if fails then .error error else rest) = .ok value ↔ ¬ fails ∧ rest = .ok value := by
  split
  next failed => simp [failed]
  next passed => simp [passed]

end Lib

import Mathlib.Data.List.Nodup

/-!
# Lists with entries that grow

A list of entries is extended piece by piece.  A piece that belongs to an entry changes the
first such entry, and any other piece begins a new entry at the end.  Entries may be found by
a key that they carry or by their place in the list; with distinct keys both are the same.
-/

namespace Lib

open List

universe u v w

variable {α : Type u} {β : Type v}

/-- Change the first entry that is meant, or add a fresh one at the end. -/
def upsert (meant : α → Bool) (fresh : α) (change : α → α) : List α → List α
  | [] => [fresh]
  | entry :: entries =>
    if meant entry then change entry :: entries
    else entry :: upsert meant fresh change entries

section

variable {meant : α → Bool} {fresh : α} {change : α → α} {front entries : List α}

theorem upsert_append_of_not (none : ∀ entry ∈ front, meant entry = false) (back : List α) :
    upsert meant fresh change (front ++ back) = front ++ upsert meant fresh change back := by
  induction front with
  | nil => rfl
  | cons entry front ih =>
    obtain ⟨here, later⟩ := forall_mem_cons.mp none
    rw [cons_append, upsert, here, if_neg Bool.false_ne_true, ih later, cons_append]

/-- A piece of a new entry. -/
theorem upsert_of_not (none : ∀ entry ∈ entries, meant entry = false) :
    upsert meant fresh change entries = entries ++ [fresh] := by
  have split := @upsert_append_of_not _ meant fresh change entries none []
  rwa [append_nil] at split

/-- A piece of the last entry. -/
theorem upsert_last (none : ∀ entry ∈ front, meant entry = false) {last : α}
    (here : meant last = true) :
    upsert meant fresh change (front ++ [last]) = front ++ [change last] := by
  rw [upsert_append_of_not none, upsert, if_pos here]

/-- Only what is meant is changed, and the fresh entry counts where nothing is meant. -/
theorem upsert_congr {otherFresh : α} {other : α → α}
    (new : (∀ entry ∈ entries, meant entry = false) → fresh = otherFresh)
    (same : ∀ entry ∈ entries, meant entry = true → change entry = other entry) :
    upsert meant fresh change entries = upsert meant otherFresh other entries := by
  induction entries with
  | nil => rw [upsert, upsert, new nofun]
  | cons entry entries ih =>
    obtain ⟨here, later⟩ := forall_mem_cons.mp same
    rw [upsert, upsert]
    split
    next isMeant => rw [here isMeant]
    next notMeant =>
      rw [ih (fun none => new (forall_mem_cons.mpr ⟨?_, none⟩)) later]
      exact Bool.eq_false_iff.mpr notMeant

theorem length_upsert_le (entries : List α) :
    (upsert meant fresh change entries).length ≤ entries.length + 1 := by
  induction entries with
  | nil => exact Nat.le_refl _
  | cons entry entries ih =>
    rw [upsert]
    split
    · exact Nat.le_succ _
    · exact Nat.succ_le_succ ih

theorem upsert_ne_nil (entries : List α) : upsert meant fresh change entries ≠ [] := by
  cases entries with
  | nil => exact cons_ne_nil _ _
  | cons =>
    rw [upsert]
    split
    · exact cons_ne_nil _ _
    · exact cons_ne_nil _ _

end

/-! ## Keys -/

section Keys

variable [DecidableEq β] {key : α → β} {fresh : α} {change : α → α}

/-- The keys are those of before, and the new one where it was not among them. -/
theorem map_key_upsert (kept : ∀ entry, key entry = key fresh → key (change entry) = key fresh)
    (entries : List α) :
    (upsert (fun entry => key entry = key fresh) fresh change entries).map key =
      if key fresh ∈ entries.map key then entries.map key else entries.map key ++ [key fresh] := by
  induction entries with
  | nil => rfl
  | cons entry entries ih =>
    by_cases same : key entry = key fresh
    · simp [upsert, same, kept entry same]
    simp only [upsert, same, decide_false, Bool.false_eq_true, if_false, map_cons, ih,
      mem_cons, Ne.symm same, false_or]
    split
    · rfl
    · rfl

theorem nodup_upsert (kept : ∀ entry, key entry = key fresh → key (change entry) = key fresh)
    {entries : List α} (distinct : (entries.map key).Nodup) :
    ((upsert (fun entry => key entry = key fresh) fresh change entries).map key).Nodup := by
  rw [map_key_upsert kept]
  split
  next => exact distinct
  next absent =>
    rw [← concat_eq_append]
    exact (nodup_concat _ _).mpr ⟨absent, distinct⟩

/-- Every entry is an old one with another key, the changed one, or the fresh one where there
was none. -/
theorem forall_mem_upsert {entries : List α} {p : α → Prop} (distinct : (entries.map key).Nodup)
    (old : ∀ entry ∈ entries, key entry ≠ key fresh → p entry)
    (new : key fresh ∉ entries.map key → p fresh)
    (changed : ∀ entry ∈ entries, key entry = key fresh → p (change entry)) :
    ∀ entry ∈ upsert (fun entry => key entry = key fresh) fresh change entries, p entry := by
  induction entries with
  | nil => exact forall_mem_singleton.mpr (new not_mem_nil)
  | cons entry entries ih =>
    obtain ⟨oldHere, oldLater⟩ := forall_mem_cons.mp old
    obtain ⟨changedHere, changedLater⟩ := forall_mem_cons.mp changed
    rw [map_cons, nodup_cons] at distinct
    by_cases same : key entry = key fresh
    · rw [upsert, if_pos (decide_eq_true same)]
      rw [forall_mem_cons]
      refine ⟨changedHere same, fun other member => oldLater other member fun again => ?_⟩
      exact distinct.1 (mem_map.mpr ⟨other, member, again.trans same.symm⟩)
    · rw [upsert, if_neg (by simpa using same)]
      rw [forall_mem_cons]
      refine ⟨oldHere same, ih distinct.2 oldLater (fun absent => new ?_) changedLater⟩
      rw [map_cons, mem_cons, not_or]
      exact ⟨Ne.symm same, absent⟩

/-! ## Gathering -/

variable {γ : Type w} {begin : γ → α} {extend : γ → α → α} {pieces : List γ}

/-- Gather pieces into the entries: a piece begins an entry or extends the one with its key. -/
def gather (key : α → β) (begin : γ → α) (extend : γ → α → α) (entries : List α)
    (pieces : List γ) : List α :=
  pieces.foldl (fun entries piece =>
    upsert (fun entry => key entry = key (begin piece)) (begin piece) (extend piece) entries)
    entries

/-- Pieces with new and distinct keys each begin an entry. -/
theorem gather_of_distinct (distinct : (entries.map key ++ pieces.map (key ∘ begin)).Nodup) :
    gather key begin extend entries pieces = entries ++ pieces.map begin := by
  induction pieces generalizing entries with
  | nil => exact (append_nil _).symm
  | cons piece pieces ih =>
    rw [map_cons, append_cons] at distinct
    have absent : key (begin piece) ∉ entries.map key := by
      have front := (nodup_append.mp distinct).1
      rw [← concat_eq_append, nodup_concat] at front
      exact front.1
    have grown : upsert (fun entry => key entry = key (begin piece)) (begin piece)
        (extend piece) entries = entries ++ [begin piece] := by
      apply upsert_of_not
      intro entry member
      apply decide_eq_false
      exact fun same => absent (mem_map.mpr ⟨entry, member, same⟩)
    rw [gather, foldl_cons, grown, ← gather, ih]
    · rw [append_assoc, map_cons, singleton_append]
    · rw [map_append]
      exact distinct

theorem gather_ne_nil (some : pieces ≠ []) :
    gather key begin extend entries pieces ≠ [] := by
  cases eq_nil_or_concat pieces with
  | inl empty => exact absurd empty some
  | inr split =>
    obtain ⟨_, _, rfl⟩ := split
    rw [gather, concat_eq_append, foldl_append]
    exact upsert_ne_nil _

theorem length_gather_le (entries : List α) (pieces : List γ) :
    (gather key begin extend entries pieces).length ≤ entries.length + pieces.length := by
  induction pieces generalizing entries with
  | nil => exact Nat.le_refl _
  | cons piece pieces ih =>
    have here := @length_upsert_le _ (fun entry => key entry = key (begin piece)) (begin piece)
      (extend piece) entries
    have later := ih (upsert (fun entry => key entry = key (begin piece)) (begin piece)
      (extend piece) entries)
    rw [gather, foldl_cons, ← gather, length_cons]
    omega

/-- Where there are as many entries as pieces the keys are distinct. -/
theorem distinct_of_length_gather (kept : ∀ piece entry, key entry = key (begin piece) →
      key (extend piece entry) = key (begin piece))
    {entries : List α} (before : (entries.map key).Nodup) {pieces : List γ}
    (long : entries.length + pieces.length ≤ (gather key begin extend entries pieces).length) :
    (entries.map key ++ pieces.map (key ∘ begin)).Nodup := by
  induction pieces generalizing entries with
  | nil => rwa [map_nil, append_nil]
  | cons piece pieces ih =>
    have keys := map_key_upsert (kept piece) entries
    have later := @length_gather_le _ _ _ key _ begin extend
      (upsert (fun entry => key entry = key (begin piece)) (begin piece) (extend piece) entries)
      pieces
    rw [gather, foldl_cons, ← gather, length_cons] at long
    by_cases member : key (begin piece) ∈ entries.map key
    · -- the piece goes into an old entry, and there are too few entries in the end
      rw [if_pos member] at keys
      have same := congrArg length keys
      rw [length_map, length_map] at same
      omega
    · rw [if_neg member] at keys
      have same := congrArg length keys
      rw [length_map, length_append, length_map, length_singleton] at same
      have distinct := ih (nodup_upsert (kept piece) before) (by omega)
      rw [keys, append_assoc, singleton_append] at distinct
      exact distinct

/-! ## Places -/

/-- The entries with their places, counted from a number on. -/
def numbered : Int → List α → List (Int × α)
  | _, [] => []
  | first, entry :: entries => (first, entry) :: numbered (first + 1) entries

theorem map_snd_numbered (first : Int) (entries : List α) :
    (numbered first entries).map Prod.snd = entries := by
  induction entries generalizing first with
  | nil => rfl
  | cons entry entries ih => rw [numbered, map_cons, ih]

/-- An entry found by the place of its key is the entry found by its key. -/
theorem upsert_numbered (first : Int) (entries : List α) {place : Int}
    (at_key : place = first + ((entries.map key ++ [key fresh]).idxOf (key fresh) : Nat)) :
    upsert (fun entry => entry.1 = place) (place, fresh) (fun entry => (entry.1, change entry.2))
        (numbered first entries) =
      numbered first (upsert (fun entry => key entry = key fresh) fresh change entries) := by
  induction entries generalizing first with
  | nil =>
    rw [at_key]
    simp [numbered, upsert]
  | cons entry entries ih =>
    by_cases same : key entry = key fresh
    · rw [at_key]
      simp [numbered, upsert, same]
    · rw [map_cons, cons_append, idxOf_cons_ne _ same] at at_key
      have later : first ≠ place := by omega
      simp only [numbered, upsert, same, later, decide_false, Bool.false_eq_true, if_false]
      rw [ih (first + 1) (by omega)]

end Keys

end Lib

import StuHelper.Lib.Transducer

/-!
# Text on several channels

A stream carries pieces of text, each on a channel.  What matters to a reader is the text of
every channel, not how it is cut or how the channels are interleaved.

A machine that says on no channel more than its input carries says the same as the input
exactly when it does so at every step: what is lost at one step is not made up for later.
-/

namespace Lib

open List

universe u v w

variable {κ : Type u} {σ : Type v} {ι : Type w} [DecidableEq κ]

/-- The text of a channel. -/
def said (channel : κ) (pieces : List (κ × String)) : List Char :=
  pieces.flatMap fun piece => if piece.1 = channel then piece.2.toList else []

@[simp] theorem said_nil (channel : κ) : said channel [] = [] := rfl

@[simp] theorem said_append (channel : κ) (front back : List (κ × String)) :
    said channel (front ++ back) = said channel front ++ said channel back :=
  flatMap_append

theorem said_one (channel : κ) (piece : κ × String) :
    said channel [piece] = if piece.1 = channel then piece.2.toList else [] := by
  simp [said]

/-- Two lists of pieces have the same text on every channel. -/
def Same (yielded carried : List (κ × String)) : Prop :=
  ∀ channel, said channel yielded = said channel carried

/-- On no channel does the first list say more. -/
def Within (yielded carried : List (κ × String)) : Prop :=
  ∀ channel, (said channel yielded).length ≤ (said channel carried).length

section Pieces

variable {yielded carried yieldedAfter carriedAfter : List (κ × String)}

theorem Within.refl (pieces : List (κ × String)) : Within pieces pieces :=
  fun _ => Nat.le_refl _

theorem Within.nil (carried : List (κ × String)) : Within [] carried :=
  fun _ => Nat.zero_le _

theorem Within.append (front : Within yielded carried) (back : Within yieldedAfter carriedAfter) :
    Within (yielded ++ yieldedAfter) (carried ++ carriedAfter) := by
  intro channel
  rw [said_append, said_append, length_append, length_append]
  exact Nat.add_le_add (front channel) (back channel)

theorem Same.refl (pieces : List (κ × String)) : Same pieces pieces := fun _ => rfl

theorem same_append_iff (front : Within yielded carried) (back : Within yieldedAfter carriedAfter) :
    Same (yielded ++ yieldedAfter) (carried ++ carriedAfter) ↔
      Same yielded carried ∧ Same yieldedAfter carriedAfter := by
  constructor
  · intro same
    have split : ∀ channel, said channel yielded = said channel carried ∧
        said channel yieldedAfter = said channel carriedAfter := by
      intro channel
      have whole := same channel
      rw [said_append, said_append] at whole
      have total := congrArg length whole
      rw [length_append, length_append] at total
      have first := front channel
      have second := back channel
      exact append_inj whole (by omega)
    exact ⟨fun channel => (split channel).1, fun channel => (split channel).2⟩
  · rintro ⟨first, second⟩ channel
    rw [said_append, said_append, first channel, second channel]

/-- Nothing is said only where nothing is carried. -/
theorem same_nil_iff : Same [] carried ↔ ∀ piece ∈ carried, piece.2 = "" := by
  constructor
  · intro same piece member
    have empty := same piece.1
    rw [said_nil, eq_comm, said, flatMap_eq_nil_iff] at empty
    have here := empty piece member
    rw [if_pos rfl] at here
    exact String.toList_eq_nil_iff.mp here
  · intro empty channel
    rw [said_nil, eq_comm, said, flatMap_eq_nil_iff]
    intro piece member
    rw [empty piece member]
    exact ite_self _

theorem Within.append_right (within : Within yielded carried) (more : List (κ × String)) :
    Within yielded (carried ++ more) := by
  have longer := within.append (Within.nil more)
  rwa [append_nil] at longer

theorem same_append_right_iff (within : Within yielded carried) {more : List (κ × String)} :
    Same yielded (carried ++ more) ↔ Same yielded carried ∧ ∀ piece ∈ more, piece.2 = "" := by
  have split := same_append_iff within (Within.nil more)
  rwa [append_nil, same_nil_iff] at split

/-- What is lost on a channel is not made up for later. -/
theorem not_same_of_lost {channel : κ}
    (lost : (said channel yielded).length < (said channel carried).length)
    (back : Within yieldedAfter carriedAfter) :
    ¬ Same (yielded ++ yieldedAfter) (carried ++ carriedAfter) := by
  intro same
  have total := congrArg length (same channel)
  rw [said_append, said_append, length_append, length_append] at total
  have later := back channel
  omega

end Pieces

/-! ## Machines -/

/-- The rule for runs: the machine says the same as its inputs carry exactly when every step
does. -/
theorem transduce_same_iff {step : σ → ι → Out (κ × String) σ} {carried : ι → List (κ × String)}
    {Inv : σ → Prop} {ok : σ → ι → Prop}
    (kept : ∀ state input, Inv state → Inv (step state input).state)
    (within : ∀ state input, Inv state → Within (step state input).events (carried input))
    (same : ∀ state input, Inv state →
      (Same (step state input).events (carried input) ↔ ok state input))
    {state : σ} (initially : Inv state) (inputs : List ι) :
    Within (transduce step state inputs).events (inputs.flatMap carried) ∧
      (Same (transduce step state inputs).events (inputs.flatMap carried) ↔
        Along ok (fun state input => (step state input).state) state inputs) := by
  induction inputs generalizing state with
  | nil => exact ⟨Within.nil _, iff_of_true (Same.refl _) trivial⟩
  | cons input inputs ih =>
    obtain ⟨withinLater, sameLater⟩ := ih (kept state input initially)
    have withinHere := within state input initially
    rw [transduce_cons, Out.andThen_events, flatMap_cons]
    refine ⟨withinHere.append withinLater, ?_⟩
    rw [same_append_iff withinHere withinLater, same state input initially, sameLater, along_cons]

end Lib

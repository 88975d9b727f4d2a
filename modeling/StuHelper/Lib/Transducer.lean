import StuHelper.Lib.Run

/-!
# Machines that write

A machine answers every input with a list of events and a next state.  A protocol is a
partial step function on events: it says which event may come next.  The events follow the
protocol when it has a step for each of them.

The rule for runs is a simulation.  When the events of every step lead the protocol from the
image of one state to the image of the next, the events of a whole run do the same.
-/

namespace Lib

open List

universe u v w x

variable {ε : Type u} {σ : Type v} {ι : Type w} {τ : Type x}

/-! ## Output -/

/-- What a step writes, and the state after it. -/
structure Out (ε : Type u) (σ : Type v) where
  events : List ε
  state : σ

namespace Out

/-- A step that writes nothing. -/
def silent (state : σ) : Out ε σ := ⟨[], state⟩

/-- One step after the other. -/
def andThen (first : Out ε σ) (next : σ → Out ε τ) : Out ε τ :=
  ⟨first.events ++ (next first.state).events, (next first.state).state⟩

@[simp] theorem silent_events (state : σ) : (silent state : Out ε σ).events = [] := rfl

@[simp] theorem silent_state (state : σ) : (silent state : Out ε σ).state = state := rfl

variable (first : Out ε σ)

@[simp] theorem andThen_events (next : σ → Out ε τ) :
    (first.andThen next).events = first.events ++ (next first.state).events := rfl

@[simp] theorem andThen_state (next : σ → Out ε τ) :
    (first.andThen next).state = (next first.state).state := rfl

theorem andThen_silent : first.andThen silent = first := by
  rw [andThen, silent_events, silent_state, append_nil]

end Out

/-- Feed a list of inputs to a machine. -/
def transduce (step : σ → ι → Out ε σ) : σ → List ι → Out ε σ
  | state, [] => Out.silent state
  | state, input :: inputs => (step state input).andThen fun next => transduce step next inputs

variable (step : σ → ι → Out ε σ) {state : σ}

@[simp] theorem transduce_nil (state : σ) : transduce step state [] = Out.silent state := rfl

@[simp] theorem transduce_cons (state : σ) (input : ι) (inputs : List ι) :
    transduce step state (input :: inputs) =
      (step state input).andThen fun next => transduce step next inputs := rfl

theorem transduce_append (state : σ) (front back : List ι) :
    transduce step state (front ++ back) =
      (transduce step state front).andThen fun next => transduce step next back := by
  induction front generalizing state with
  | nil => rfl
  | cons input front ih =>
    rw [cons_append, transduce_cons, transduce_cons]
    simp only [ih, Out.andThen, append_assoc]

/-! ## Readers -/

section Readers

universe y z

variable {η : Type x} {ρ : Type y} {δ : Type z} {step : σ → ι → Out ε σ} {read : ρ → ε → Out η ρ}
  {abstract : δ → ι → Out η δ} {Related : σ → ρ → δ → Prop} {reader : ρ}

/-- The rule for a reader of the events: when it reads off every step what an abstract machine
writes, it does so for a whole run. -/
theorem transduce_refines
    (simulates : ∀ state reader model input, Related state reader model →
      (transduce read reader (step state input).events).events = (abstract model input).events ∧
        Related (step state input).state
          (transduce read reader (step state input).events).state (abstract model input).state)
    {model : δ} (initially : Related state reader model)
    (inputs : List ι) :
    (transduce read reader (transduce step state inputs).events).events =
      (transduce abstract model inputs).events := by
  induction inputs generalizing state reader model with
  | nil => rfl
  | cons input inputs ih =>
    obtain ⟨here, related⟩ := simulates state reader model input initially
    rw [transduce_cons, Out.andThen_events, transduce_append, Out.andThen_events, here,
      ih related, transduce_cons, Out.andThen_events]

/-- The rule for the states: a relation that every step keeps holds after a whole run. -/
theorem transduce_simulates {listen : ρ → ε → ρ} {model : δ → ι → δ}
    (simulates : ∀ state reader abstracted input, Related state reader abstracted →
      Related (step state input).state ((step state input).events.foldl listen reader)
        (model abstracted input))
    {abstracted : δ} (initially : Related state reader abstracted)
    (inputs : List ι) :
    Related (transduce step state inputs).state
      ((transduce step state inputs).events.foldl listen reader)
      (inputs.foldl model abstracted) := by
  induction inputs generalizing state reader abstracted with
  | nil => exact initially
  | cons input inputs ih =>
    rw [transduce_cons, Out.andThen_events, Out.andThen_state, foldl_append, foldl_cons]
    exact ih (simulates state reader abstracted input initially)

end Readers

/-! ## Protocols -/

/-- The protocol takes these events one after the other. -/
def Follows (accept : τ → ε → Option τ) (before : τ) (events : List ε) (after : τ) : Prop :=
  events.foldlM accept before = some after

instance [DecidableEq τ] (accept : τ → ε → Option τ) (before : τ) (events : List ε) (after : τ) :
    Decidable (Follows accept before events after) :=
  inferInstanceAs (Decidable (_ = _))

namespace Follows

variable {accept : τ → ε → Option τ} {before middle after : τ} {event : ε} {front back : List ε}

theorem nil : Follows accept before [] before := rfl

theorem cons (first : accept before event = some middle)
    (rest : Follows accept middle back after) : Follows accept before (event :: back) after := by
  rw [Follows, foldlM_cons, first]
  exact rest

theorem one (only : accept before event = some after) : Follows accept before [event] after :=
  cons only nil

theorem append (first : Follows accept before front middle)
    (rest : Follows accept middle back after) : Follows accept before (front ++ back) after := by
  rw [Follows, foldlM_append, first]
  exact rest

end Follows

variable {accept : τ → ε → Option τ} {step : σ → ι → Out ε σ} {image : σ → τ}

/-- The simulation rule, with an invariant and a condition on the steps. -/
theorem transduce_follows {Inv : σ → Prop} {ok : σ → ι → Prop}
    (simulates : ∀ state input, Inv state → ok state input → Inv (step state input).state ∧
        Follows accept (image state) (step state input).events (image (step state input).state))
    {inputs : List ι} (initially : Inv state)
    (meets : Along ok (fun state input => (step state input).state) state inputs) :
    Follows accept (image state) (transduce step state inputs).events
      (image (transduce step state inputs).state) := by
  induction inputs generalizing state with
  | nil => exact Follows.nil
  | cons input inputs ih =>
    obtain ⟨here, later⟩ := along_cons.mp meets
    obtain ⟨kept, first⟩ := simulates state input initially here
    exact first.append (ih kept later)

end Lib

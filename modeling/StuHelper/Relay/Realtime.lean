import Mathlib.Algebra.Ring.Int.Defs
import Mathlib.Algebra.Group.Pi.Basic
import Mathlib.Algebra.Order.Group.Int
import StuHelper.Lib.Run

/-!
# The usage of a realtime session

The local counts stand in for the usage report of a round, which ends with `response.done`.  Events
are handled one after the other, each with whether `PreWssConsumeQuota` succeeds.
-/

namespace StuHelper.Relay

open Lib

inductive UsageField where
  | totalTokens | inputTokens | outputTokens
  | inputCached | inputCachedCreation | inputText | inputAudio | inputImage
  | outputText | outputAudio | outputImage | outputReasoning
  deriving DecidableEq, Repr

abbrev RealtimeUsage := UsageField → Int

/-- The fields that the handler and `preConsumeUsage` add up. -/
def UsageField.isSummed : UsageField → Bool
  | .inputCachedCreation | .inputImage | .outputImage | .outputReasoning => false
  | _ => true

def addUsage (total usage : RealtimeUsage) : RealtimeUsage := fun field =>
  if field.isSummed then total field + usage field else total field

def countedUsage (input : Bool) (textToken audioToken : Nat) : RealtimeUsage
  | .totalTokens => textToken + audioToken
  | .inputTokens => if input then textToken + audioToken else 0
  | .outputTokens => if input then 0 else textToken + audioToken
  | .inputText => if input then textToken else 0
  | .inputAudio => if input then audioToken else 0
  | .outputText => if input then 0 else textToken
  | .outputAudio => if input then 0 else audioToken
  | _ => 0

inductive RealtimeEvent where
  | message (fromClient : Bool) (textToken audioToken : Nat)
  /-- `session.created` or `session.updated` -/
  | session
  | responseDone (report : Option RealtimeUsage) (textToken audioToken : Nat)

structure RealtimeState where
  usage : RealtimeUsage := 0
  localUsage : RealtimeUsage := 0
  sumUsage : RealtimeUsage := 0
  ended : Bool := false

def RealtimeState.step (state : RealtimeState) (event : RealtimeEvent × Bool) : RealtimeState :=
  if state.ended then state
  else match event with
    | (.message fromClient textToken audioToken, _) =>
      { state with localUsage := state.localUsage + countedUsage fromClient textToken audioToken }
    | (.session, _) => state
    | (.responseDone (some report) _ _, charged) =>
      let usage := addUsage state.usage report
      let sumUsage := addUsage state.sumUsage usage
      if charged then { sumUsage } else { state with usage, sumUsage, ended := true }
    | (.responseDone none textToken audioToken, charged) =>
      let localUsage := state.localUsage + countedUsage true textToken audioToken
      let sumUsage := addUsage state.sumUsage localUsage
      if charged then { state with localUsage := 0, sumUsage }
      else { state with localUsage, sumUsage, ended := true }

/-- What is left over is added at the end of the session. -/
def RealtimeState.finish (state : RealtimeState) : RealtimeUsage :=
  let sumUsage := if state.usage .totalTokens ≠ 0 then addUsage state.sumUsage state.usage
    else state.sumUsage
  if state.localUsage .totalTokens ≠ 0 then addUsage sumUsage state.localUsage else sumUsage

def openaiRealtimeHandler (events : List (RealtimeEvent × Bool)) : RealtimeUsage :=
  (run RealtimeState.step {} events).finish

/-- The reports, and the local counts of the rounds without one; `round` has the counts so far. -/
def countedOnce (round : RealtimeUsage) : List RealtimeEvent → RealtimeUsage
  | [] => round
  | .message fromClient textToken audioToken :: events =>
    countedOnce (round + countedUsage fromClient textToken audioToken) events
  | .session :: events => countedOnce round events
  | .responseDone (some report) _ _ :: events => report + countedOnce 0 events
  | .responseDone none textToken audioToken :: events =>
    round + countedUsage true textToken audioToken + countedOnce 0 events

/-- A usage with nothing in the fields that are not added up. -/
def IsPlain (usage : RealtimeUsage) : Prop :=
  ∀ field : UsageField, field.isSummed = false → usage field = 0

/-- Whether an event reports only what is added up. -/
def RealtimeEvent.Plain : RealtimeEvent → Prop
  | .responseDone (some report) _ _ => IsPlain report
  | _ => True

/-- Local counts have nothing that their total does not have. -/
def Counted (usage : RealtimeUsage) : Prop := ∀ field : UsageField,
  0 ≤ usage field ∧ usage field ≤ if field.isSummed then usage .totalTokens else 0

variable {total usage : RealtimeUsage} {state : RealtimeState}

theorem Counted.zero : Counted 0 := by
  intro field
  simp

theorem Counted.add (counted : Counted usage) (input : Bool) (textToken audioToken : Nat) :
    Counted (usage + countedUsage input textToken audioToken) := by
  intro field
  have here := counted field
  cases field with
  | _ =>
    simp only [UsageField.isSummed, Pi.add_apply, countedUsage] at here ⊢
    split_ifs at here ⊢ <;> omega

theorem IsPlain.addUsage_eq (plain : IsPlain usage) : addUsage total usage = total + usage := by
  funext field
  cases summed : field.isSummed with
  | true => simp [addUsage, summed]
  | false => simp [addUsage, summed, plain field summed]

theorem Counted.isPlain (counted : Counted usage) : IsPlain usage := by
  intro field left
  have here := counted field
  rw [left] at here
  exact le_antisymm here.2 here.1

/-- Local counts without tokens need not be added. -/
theorem Counted.finish (counted : Counted state.localUsage) (empty : state.usage = 0) :
    state.finish = state.sumUsage + state.localUsage := by
  simp only [RealtimeState.finish, empty, Pi.zero_apply, ne_eq, not_true_eq_false, if_false]
  split
  · exact counted.isPlain.addUsage_eq
  rename_i none
  have nothing : state.localUsage = 0 := by
    funext field
    have here := counted field
    rw [not_not.mp none, ite_self] at here
    exact le_antisymm here.2 here.1
  rw [nothing, add_zero]

/-- What a session adds to the sum from here on. -/
theorem finish_run (events : List (RealtimeEvent × Bool))
    (charged : ∀ event ∈ events, event.2 = true) (plain : ∀ event ∈ events, event.1.Plain)
    (counted : Counted state.localUsage) (empty : state.usage = 0) (going : state.ended = false) :
    (run RealtimeState.step state events).finish =
      state.sumUsage + countedOnce state.localUsage (events.map Prod.fst) := by
  induction events generalizing state with
  | nil => exact counted.finish empty
  | cons event events ih =>
    obtain ⟨here, charged'⟩ := List.forall_mem_cons.mp charged
    obtain ⟨reported, plain'⟩ := List.forall_mem_cons.mp plain
    obtain ⟨event, _⟩ := event
    obtain ⟨usage, localUsage, sumUsage, ended⟩ := state
    obtain rfl := here
    obtain rfl : usage = 0 := empty
    obtain rfl : ended = false := going
    match event with
    | .message _ _ _ => exact ih charged' plain' (counted.add _ _ _) rfl rfl
    | .session => exact ih charged' plain' counted rfl rfl
    | .responseDone (some report) _ _ =>
      have plainReport : IsPlain report := reported
      refine (ih charged' plain' .zero rfl rfl).trans ?_
      change addUsage _ (addUsage 0 report) + _ = sumUsage + (report + _)
      rw [plainReport.addUsage_eq, zero_add, plainReport.addUsage_eq, add_assoc]
      rfl
    | .responseDone none _ _ =>
      refine (ih charged' plain' .zero rfl rfl).trans ?_
      change addUsage _ (localUsage + _) + _ = sumUsage + (localUsage + _ + _)
      rw [(counted.add _ _ _).isPlain.addUsage_eq, add_assoc]
      rfl

/-- While every charge succeeds, each round is counted once. -/
theorem realtime_usage_counted_once (events : List (RealtimeEvent × Bool))
    (charged : ∀ event ∈ events, event.2 = true) (plain : ∀ event ∈ events, event.1.Plain) :
    openaiRealtimeHandler events = countedOnce 0 (events.map Prod.fst) := by
  rw [openaiRealtimeHandler, finish_run events charged plain .zero rfl rfl, zero_add]

/-- A round with a report, and one without. -/
theorem realtime_usage_counted_once_reported :
    openaiRealtimeHandler [(.message true 3 0, true),
        (.responseDone (some (countedUsage true 5 0)) 0 0, true), (.message false 2 1, true),
        (.responseDone none 4 0, true)] =
      countedUsage true 5 0 + (countedUsage false 2 1 + countedUsage true 4 0) := by
  have report : IsPlain (countedUsage true 5 0) := by
    intro field
    cases field <;> decide
  rw [realtime_usage_counted_once _ (by simp) (by simpa [RealtimeEvent.Plain] using report)]
  simp [countedOnce]

/-- After a failed charge the report and the local counts of its round are added once more, and
reasoning tokens are never added. -/
theorem realtime_usage_counted_twice :
    (let report := .responseDone (some (countedUsage true 5 0)) 0 0
     openaiRealtimeHandler [(.message true 3 0, true), (report, false)] .totalTokens = 13 ∧
       countedOnce 0 [.message true 3 0, report] .totalTokens = 5) ∧
    (let report := .responseDone (some fun field => if field = .outputReasoning then 7 else 0) 0 0
     openaiRealtimeHandler [(report, true)] .outputReasoning = 0 ∧
       countedOnce 0 [report] .outputReasoning = 7) := by
  decide

end StuHelper.Relay

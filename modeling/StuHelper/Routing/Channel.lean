import Mathlib.Data.List.Sort
import StuHelper.Lib.Text

/-!
# Channels

A channel is listed under its groups and its routable models: the names in `Models`, and the
sources of its model mapping.  The texts come from the administrator, with commas between the names
and with any white space.
-/

namespace StuHelper.Routing

open Lib List

/-- `common.ChannelStatusEnabled`. -/
abbrev channelStatusEnabled : Int := 1

/-- `common.ChannelStatusAutoDisabled`. -/
abbrev channelStatusAutoDisabled : Int := 3

/-- `constant.ChannelTypeAdvancedCustom`. -/
abbrev channelTypeAdvancedCustom : Int := 58

/-- `model.Channel`, with what routing reads. -/
structure Channel where
  id : Int
  type : Int := 1
  status : Int := channelStatusEnabled
  models : String := ""
  group : String := "default"
  /-- The entries of `ModelMapping`; none when it is missing or cannot be read. -/
  modelMapping : List (String × String) := []
  priority : Option Int := none
  weight : Option Nat := none
  /-- The incoming paths of `AdvancedCustom`. -/
  advancedCustom : Option (List String) := none
  deriving DecidableEq, Repr

/-! ## Names -/

/-- `strings.HasPrefix`. -/
def hasPrefix (name start : String) : Bool := start.toList.isPrefixOf name.toList

/-- `strings.Split` of a trimmed text at its commas. -/
def splitCommas (text : String) : List String :=
  (Text.split ',' (Text.trimChar ',' text.toList)).map String.ofList

def handleThinkingBudgetModel (name start wildcard : String) : String :=
  if hasPrefix name start ∧ Text.contains "-thinking-".toList name.toList then wildcard else name

def formatMatchingModelName (name : String) : String :=
  let gemini :=
    if hasPrefix name "gemini-2.5-flash-lite" then
      handleThinkingBudgetModel name "gemini-2.5-flash-lite" "gemini-2.5-flash-lite-thinking-*"
    else if hasPrefix name "gemini-2.5-flash" then
      handleThinkingBudgetModel name "gemini-2.5-flash" "gemini-2.5-flash-thinking-*"
    else if hasPrefix name "gemini-2.5-pro" then
      handleThinkingBudgetModel name "gemini-2.5-pro" "gemini-2.5-pro-thinking-*"
    else name
  let gizmo := if hasPrefix gemini "gpt-4-gizmo" then "gpt-4-gizmo-*" else gemini
  if hasPrefix gizmo "gpt-4o-gizmo" then "gpt-4o-gizmo-*" else gizmo

theorem ite_ne_empty {condition : Prop} [Decidable condition] {first second : String}
    (one : first ≠ "") (other : second ≠ "") : (if condition then first else second) ≠ "" := by
  split
  · exact one
  · exact other

theorem formatMatchingModelName_ne_empty {name : String} (named : name ≠ "") :
    formatMatchingModelName name ≠ "" := by
  have handled : ∀ start wildcard : String, wildcard ≠ "" →
      handleThinkingBudgetModel name start wildcard ≠ "" :=
    fun _ _ wild => ite_ne_empty wild named
  apply ite_ne_empty (by decide)
  apply ite_ne_empty (by decide)
  apply ite_ne_empty (handled _ _ (by decide))
  apply ite_ne_empty (handled _ _ (by decide))
  exact ite_ne_empty (handled _ _ (by decide)) named

/-! ## Request paths -/

def matchAdvancedCustomIncomingPathTemplate (configuredPath requestPath : List Char) : Bool :=
  if Text.contains "\x7bmodel\x7d".toList configuredPath then
    match Text.splitText "\x7bmodel\x7d".toList 0 configuredPath with
    | [before, after] =>
      if before.isPrefixOf requestPath ∧ after.isSuffixOf requestPath then
        -- the two may overlap, and the second is then no suffix of what is left
        let rest := requestPath.drop before.length
        let model := if after.isSuffixOf rest then rest.take (rest.length - after.length) else rest
        decide (model ≠ []) && !Text.contains ['/'] model
      else false
    | _ => false
  else decide (configuredPath = requestPath)

def matchAdvancedCustomIncomingPath (configuredPath requestPath : List Char) : Bool :=
  if matchAdvancedCustomIncomingPathTemplate configuredPath requestPath then true
  else if Text.contains ":generateContent".toList configuredPath then
    matchAdvancedCustomIncomingPathTemplate
      (Text.replaceFirst ":generateContent".toList ":streamGenerateContent".toList configuredPath)
      requestPath
  else false

namespace Channel

/-- `ChannelSupportsRequestPath`. -/
def supportsRequestPath (channel : Channel) (requestPath : String) : Bool :=
  if channel.type ≠ channelTypeAdvancedCustom then true
  else
    match channel.advancedCustom with
    | none => false
    | some routes => routes.any fun incomingPath =>
      matchAdvancedCustomIncomingPath (Text.trim incomingPath.toList) requestPath.toList

/-! ## Groups and models -/

def getModels (channel : Channel) : List String :=
  if channel.models = "" then [] else splitCommas channel.models

def appendUniqueModelName (models : List String) (model : String) : List String :=
  if Text.trimSpace model = "" ∨ Text.trimSpace model ∈ models then models
  else models ++ [Text.trimSpace model]

def getModelMappingSourceModels (channel : Channel) : List String :=
  (((channel.modelMapping.filter fun entry => Text.trimSpace entry.2 ≠ "").map Prod.fst).foldl
    appendUniqueModelName []).insertionSort (· ≤ ·)

def getRoutableModels (channel : Channel) : List String :=
  (channel.getModels ++ channel.getModelMappingSourceModels).foldl appendUniqueModelName []

def getGroups (channel : Channel) : List String :=
  if channel.group = "" then [] else (splitCommas channel.group).map Text.trimSpace

def getPriority (channel : Channel) : Int := channel.priority.getD 0

def getWeight (channel : Channel) : Nat := channel.weight.getD 0

def isEnabled (channel : Channel) : Bool := channel.status = channelStatusEnabled

/-- A path is served; the empty path asks for nothing. -/
def serves (channel : Channel) (requestPath : String) : Bool :=
  requestPath = "" ∨ channel.supportsRequestPath requestPath

theorem nodup_getRoutableModels (channel : Channel) : channel.getRoutableModels.Nodup := by
  refine foldlRecOn _ _ nodup_nil fun models nodup name _ => ?_
  rw [appendUniqueModelName]
  split
  · exact nodup
  next fresh =>
    rw [← concat_eq_append, nodup_concat]
    exact ⟨fun member => fresh (Or.inr member), nodup⟩

end Channel

end StuHelper.Routing

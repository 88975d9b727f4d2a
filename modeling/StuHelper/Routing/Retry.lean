import StuHelper.Routing.Channel

/-!
# Errors and their classes

An attempt fails with an error that has a code, a status and a mark for errors that are not to be
retried.  `ClassifyRelayError` sorts errors into classes by cascading tests, the first of which is
whether the code is that of a channel error.
-/

namespace StuHelper.Routing

open Lib

/-! ## Errors -/

/-- `types.StuHelperAIError`, with what the decisions read. -/
structure RelayError where
  errorCode : String
  statusCode : Int := 500
  skipRetry : Bool := false
  /-- `Error`. -/
  message : String := ""
  /-- `InternalError`. -/
  internalMessage : String := ""
  /-- The message and the code of `ToOpenAIError`. -/
  openAIMessage : String := ""
  openAICode : String := ""
  deriving DecidableEq, Repr

abbrev errorCodeChannelRelayLoop : String := "channel:relay_loop"

abbrev errorCodeGetChannelFailed : String := "get_channel_failed"

abbrev errorCodeViolationFeeGrokCSAM : String := "violation_fee.grok.csam"

namespace RelayError

def isChannelError (error : RelayError) : Bool :=
  error.errorCode ≠ errorCodeChannelRelayLoop ∧ hasPrefix error.errorCode "channel:"

def hasCSAMViolationMarker (error : RelayError) : Bool :=
  let found := fun (text marker : String) => Text.contains marker.toList text.toList
  found error.message "Failed check: SAFETY_CHECK_TYPE" ||
    found error.message "Content violates usage guidelines" ||
    found error.openAIMessage "Failed check: SAFETY_CHECK_TYPE"

def normalizeViolationFeeError (error : RelayError) : RelayError :=
  let wrapped :=
    { error with
      skipRetry := true
      message := error.openAIMessage
      internalMessage := error.openAIMessage }
  if error.hasCSAMViolationMarker then
    { wrapped with
      errorCode := errorCodeViolationFeeGrokCSAM
      openAICode := errorCodeViolationFeeGrokCSAM }
  else if hasPrefix error.errorCode "violation_fee." then
    { wrapped with errorCode := error.openAICode }
  else error

end RelayError

/-! ## Settings -/

structure StatusCodeRange where
  start : Int
  last : Int
  deriving DecidableEq, Repr

/-- `shouldMatchStatusCodeRanges`: the ranges are in ascending order. -/
def shouldMatchStatusCodeRanges (code : Int) : List StatusCodeRange → Bool
  | [] => false
  | range :: ranges =>
    if code < 100 ∨ code > 599 then false
    else if code < range.start then false
    else if code ≤ range.last then true
    else shouldMatchStatusCodeRanges code ranges

/-- The settings that the decisions read. -/
structure Settings where
  retryTimes : Int
  /-- `AutomaticDisableStatusCodeRanges`. -/
  disableRanges : List StatusCodeRange := [⟨401, 401⟩]
  /-- `AutomaticRetryStatusCodeRanges`. -/
  retryRanges : List StatusCodeRange :=
    [⟨100, 199⟩, ⟨300, 399⟩, ⟨401, 407⟩, ⟨409, 499⟩, ⟨500, 503⟩, ⟨505, 523⟩, ⟨525, 599⟩]
  /-- A message has one of `AutomaticDisableKeywords`. -/
  hasDisableKeyword : String → Bool := fun _ => false
  /-- The ranges of `TemporaryErrorStatusCodes`; none without `FallbackOnTemporaryError`. -/
  affinityFallback : Option (List StatusCodeRange) := none

def isAlwaysSkipRetryStatusCode (code : Int) : Bool := code = 504 ∨ code = 524

/-- `IsAlwaysSkipRetryCode`: the map of such codes is empty. -/
def isAlwaysSkipRetryCode (_ : String) : Bool := false

namespace Settings

variable (settings : Settings)

def shouldRetryByStatusCode (code : Int) : Bool :=
  !isAlwaysSkipRetryStatusCode code && shouldMatchStatusCodeRanges code settings.retryRanges

def isRetryableStatus (code : Int) : Bool :=
  decide (code < 100 ∨ code > 599) || settings.shouldRetryByStatusCode code

def isAutomaticDisableError (error : RelayError) : Bool :=
  shouldMatchStatusCodeRanges error.statusCode settings.disableRanges ||
    settings.hasDisableKeyword error.internalMessage

def shouldFallbackChannelAffinityOnTemporaryError (code : Int) : Bool :=
  !isAlwaysSkipRetryStatusCode code &&
    settings.affinityFallback.any (shouldMatchStatusCodeRanges code)

end Settings

/-! ## Classes -/

inductive RetryClass where
  | none
  | skip
  | client
  | channel
  | transient
  deriving DecidableEq, Repr

structure RetryClassification where
  retryClass : RetryClass
  retryable : Bool := false
  forceRetry : Bool := false
  channelSide : Bool := false
  transient : Bool := false
  deriving DecidableEq, Repr

def Settings.classifyRelayError (settings : Settings) (error : RelayError) : RetryClassification :=
  if error.isChannelError then
    { retryClass := .channel, retryable := true, forceRetry := true, channelSide := true }
  else if error.skipRetry ∨ isAlwaysSkipRetryCode error.errorCode ∨
      isAlwaysSkipRetryStatusCode error.statusCode then
    { retryClass := .skip }
  else if settings.isAutomaticDisableError error then
    { retryClass := .channel
      retryable := settings.isRetryableStatus error.statusCode
      channelSide := true }
  else if 200 ≤ error.statusCode ∧ error.statusCode < 300 then { retryClass := .skip }
  else if settings.isRetryableStatus error.statusCode then
    { retryClass := .transient, retryable := true, transient := true }
  else { retryClass := .client }

def Settings.shouldRetryChannelSetupError (settings : Settings) (error : RelayError) : Bool :=
  !error.skipRetry && (settings.classifyRelayError error).retryable

section Classes

variable {settings : Settings} {error : RelayError}

theorem forceRetry_eq : (settings.classifyRelayError error).forceRetry = error.isChannelError := by
  rw [Settings.classifyRelayError]
  cases error.isChannelError with
  | true => rfl
  | false =>
    rw [if_neg Bool.false_ne_true]
    split
    · rfl
    split
    · rfl
    split
    · rfl
    · split
      · rfl
      · rfl

end Classes

end StuHelper.Routing

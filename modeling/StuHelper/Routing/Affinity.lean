import StuHelper.Lib.Text

/-!
# Entries of the affinity cache

The key of an entry joins the fields that the rule includes and the affinity value with colons.  A
lookup gives the cache this text, and a record gives it the text after the namespace; the cache
puts its own prefix before a key that does not have it.  Two texts are equal when colons cut their
fields into the same pieces, and both keys name one entry unless the text looks like a full key.
-/

namespace StuHelper.Routing

open Lib List

/-- `ChannelAffinityRule`, as far as keys depend on it. -/
structure AffinityRule where
  name : String := ""
  includeRuleName : Bool := false
  includeModelName : Bool := false
  includeUsingGroup : Bool := false

/-- A request that a rule matches.  `extractChannelAffinityValue` trims the value, and an empty one
does not match. -/
structure AffinityRequest where
  rule : AffinityRule
  modelName : String
  usingGroup : String
  affinityValue : String
  trimmed : Text.trim affinityValue.toList = affinityValue.toList
  nonempty : affinityValue.toList ≠ []

abbrev channelAffinityCacheNamespace : String := "StuHelper AI:channel_affinity:v1"

/-- `Namespace.prefix`. -/
def namespaceStart (name : String) : List Char :=
  let trimmed := (Text.trim name.toList).rdropWhile (· = ':')
  if trimmed = [] then [] else trimmed ++ [':']

/-- `Namespace.FullKey`. -/
def fullKey (name : String) (key : List Char) : List Char :=
  let key := Text.trim key
  if key = [] then []
  else if namespaceStart name = [] then key.dropWhile (· = ':')
  else if (namespaceStart name).isPrefixOf key then key
  else namespaceStart name ++ key.dropWhile (· = ':')

namespace AffinityRequest

variable (request : AffinityRequest)

def fields : List String :=
  (if request.rule.includeRuleName then [request.rule.name] else []) ++
    (if request.rule.includeModelName then [request.modelName] else []) ++
    (if request.rule.includeUsingGroup then [request.usingGroup] else [])

def buildChannelAffinityCacheKeySuffix : List Char :=
  [':'].intercalate ((request.fields.filter (· ≠ "")).map String.toList ++
    [request.affinityValue.toList])

/-- The entry that `GetPreferredChannelByAffinity` reads. -/
def lookupKey : List Char :=
  fullKey channelAffinityCacheNamespace request.buildChannelAffinityCacheKeySuffix

/-- The entry that `RecordChannelAffinity` writes and `ClearCurrentChannelAffinityCache` deletes. -/
def recordKey : List Char :=
  fullKey channelAffinityCacheNamespace (channelAffinityCacheNamespace.toList ++ ':' ::
    request.buildChannelAffinityCacheKeySuffix)

def getPreferredChannelByAffinity (cache : List Char → Option Int) : Option Int :=
  if request.lookupKey = [] then none else cache request.lookupKey

/-- The channel that `RecordChannelAffinity` stores: with `SwitchOnSuccess` the channel that the
context names, if it names one. -/
def recordedChannel (switchOnSuccess : Bool) (contextChannel channelID : Int) : Int :=
  if switchOnSuccess ∧ 0 < contextChannel then contextChannel else channelID

def recordChannelAffinity (cache : List Char → Option Int) (switchOnSuccess : Bool)
    (contextChannel channelID : Int) : List Char → Option Int :=
  if channelID ≤ 0 ∨ request.recordKey = [] then cache
  else Function.update cache request.recordKey
    (some (recordedChannel switchOnSuccess contextChannel channelID))

/-- The text that the fields begin is not cut and not taken for a full key. -/
structure Uncut : Prop where
  start : ∀ char ∈ request.buildChannelAffinityCacheKeySuffix.head?,
    Text.isSpace char = false ∧ char ≠ ':'
  bare : (namespaceStart channelAffinityCacheNamespace).isPrefixOf
    request.buildChannelAffinityCacheKeySuffix = false

/-- What stands between the colons of the included fields and of the value.  An empty field leaves
no piece, and a field with a colon leaves two. -/
def pieces : List (List Char) :=
  ((request.fields.filter (· ≠ "")).map String.toList ++
    [request.affinityValue.toList]).flatMap (splitOn ':')

/-- The same fields are included, and they and the value are equal. -/
def Same (other : AffinityRequest) : Prop :=
  request.fields = other.fields ∧ request.affinityValue = other.affinityValue

/-- Two requests share an entry exactly when the fields and the value agree, each records where it
looks, and so a lookup sees the records of its own entry only. -/
structure Isolated (other : AffinityRequest) : Prop where
  recorded : request.recordKey = request.lookupKey
  recorded' : other.recordKey = other.lookupKey
  looked : request.lookupKey = other.lookupKey ↔ request.Same other
  seen : ∀ (cache : List Char → Option Int) (switch : Bool) (context channelID : Int),
    0 < channelID →
      (request.Same other → other.getPreferredChannelByAffinity
        (request.recordChannelAffinity cache switch context channelID) =
          some (recordedChannel switch context channelID)) ∧
      (¬ request.Same other → other.getPreferredChannelByAffinity
        (request.recordChannelAffinity cache switch context channelID) =
          other.getPreferredChannelByAffinity cache)

end AffinityRequest

/-! ## Keys -/

theorem intercalate_cons_concat (field value : List Char) (rest : List (List Char)) :
    [':'].intercalate (field :: rest ++ [value]) =
      field ++ ':' :: [':'].intercalate (rest ++ [value]) := by
  cases rest with
  | nil => simp [intercalate]
  | cons => simp [intercalate_cons_cons]

/-- A joined text is cut at the joints and where its parts are. -/
theorem splitOn_intercalate_concat (fields : List (List Char)) (value : List Char) :
    ([':'].intercalate (fields ++ [value])).splitOn ':' =
      (fields ++ [value]).flatMap (splitOn ':') := by
  induction fields with
  | nil => simp [intercalate]
  | cons field rest ih =>
    rw [intercalate_cons_concat, splitOn_append_cons_self, ih, cons_append, flatMap_cons]

theorem intercalate_ends (fields : List (List Char)) (value : List Char) :
    ∃ before, [':'].intercalate (fields ++ [value]) = before ++ value := by
  induction fields with
  | nil => exact ⟨[], by simp [intercalate]⟩
  | cons field rest ih =>
    obtain ⟨before, ends⟩ := ih
    exact ⟨field ++ ':' :: before, by rw [intercalate_cons_concat, ends]; simp⟩

section FullKey

variable {name : String} {key : List Char} (named : namespaceStart name ≠ []) (some : key ≠ [])

include named some

/-- A key gets the prefix and is kept otherwise exactly when nothing is cut off its start and it
does not have the prefix. -/
theorem fullKey_eq_append_iff (ending : ∀ char ∈ key.getLast?, Text.isSpace char = false) :
    fullKey name key = namespaceStart name ++ key ↔
      (∀ char ∈ key.head?, Text.isSpace char = false ∧ char ≠ ':') ∧
        (namespaceStart name).isPrefixOf key = false := by
  have heads : ∀ dropped : Char → Bool, key.dropWhile dropped = key ↔
      ∀ char ∈ key.head?, dropped char = false := by
    intro dropped
    cases key with
    | nil => simp
    | cons char rest => simp [dropWhile_eq_self_iff]
  constructor
  · intro kept
    have trimmed : Text.trim key <+: key.dropWhile Text.isSpace := rdropWhile_prefix _ _
    have first : key.dropWhile Text.isSpace <:+ key := dropWhile_suffix _
    have long : 0 < (namespaceStart name).length := length_pos_of_ne_nil named
    have bounds : (Text.trim key).length ≤ key.length := trimmed.length_le.trans first.length_le
    simp only [fullKey, named, if_false] at kept
    split at kept
    · exact absurd (append_eq_nil_iff.mp kept.symm).1 named
    split at kept
    · have := congrArg length kept
      rw [length_append] at this
      omega
    rename_i bare
    -- Whatever is cut makes the key shorter, so neither step cuts.
    rw [append_cancel_left_eq] at kept
    have uncut : key.length ≤ (Text.trim key).length :=
      (congrArg length kept).ge.trans (dropWhile_suffix _).length_le
    have spaces := first.eq_of_length_le (uncut.trans trimmed.length_le)
    have whole : Text.trim key = key := (spaces ▸ trimmed).eq_of_length_le uncut
    rw [whole] at kept bare
    exact ⟨fun char head => ⟨(heads _).mp spaces char head,
      of_decide_eq_false ((heads _).mp kept char head)⟩, Bool.eq_false_of_not_eq_true bare⟩
  · rintro ⟨start, bare⟩
    have colons : key.dropWhile (· = ':') = key :=
      (heads _).mpr fun char head => decide_eq_false (start char head).2
    rw [fullKey, Text.trim_eq_self (fun char head => (start char head).1) ending]
    simp only [some, named, bare, colons, if_false, Bool.false_eq_true]

/-- A key with the prefix is kept as it is. -/
theorem fullKey_full (start : ∀ char ∈ (namespaceStart name).head?, Text.isSpace char = false)
    (ending : ∀ char ∈ key.getLast?, Text.isSpace char = false) :
    fullKey name (namespaceStart name ++ key) = namespaceStart name ++ key := by
  have kept : Text.trim (namespaceStart name ++ key) = namespaceStart name ++ key := by
    apply Text.trim_eq_self
    · rwa [head?_append_of_ne_nil _ named]
    · rwa [getLast?_append_of_ne_nil _ some]
  have starts : (namespaceStart name).isPrefixOf (namespaceStart name ++ key) = true :=
    isPrefixOf_iff_prefix.mpr (prefix_append _ _)
  rw [fullKey, kept]
  simp only [append_eq_nil_iff, named, starts, false_and, if_false, if_true]

end FullKey

namespace AffinityRequest

variable {request other : AffinityRequest}

theorem getLast?_suffix : ∀ char ∈ request.buildChannelAffinityCacheKeySuffix.getLast?,
    Text.isSpace char = false := by
  intro char last
  obtain ⟨_, ends⟩ := intercalate_ends ((request.fields.filter (· ≠ "")).map String.toList)
    request.affinityValue.toList
  rw [buildChannelAffinityCacheKeySuffix, ends,
    getLast?_append_of_ne_nil _ request.nonempty, ← request.trimmed] at last
  exact Text.isSpace_of_getLast?_trim char last

theorem suffix_ne_nil : request.buildChannelAffinityCacheKeySuffix ≠ [] := by
  obtain ⟨_, ends⟩ := intercalate_ends ((request.fields.filter (· ≠ "")).map String.toList)
    request.affinityValue.toList
  rw [buildChannelAffinityCacheKeySuffix, ends]
  exact append_ne_nil_of_right_ne_nil _ request.nonempty

theorem recordKey_eq : request.recordKey = namespaceStart channelAffinityCacheNamespace ++
      request.buildChannelAffinityCacheKeySuffix := by
  exact fullKey_full (by decide +kernel) suffix_ne_nil
    (@of_decide_eq_true _ (Option.decidableForallMem _) (by decide +kernel)) getLast?_suffix

theorem recordKey_eq_lookupKey_iff : request.recordKey = request.lookupKey ↔ request.Uncut := by
  rw [recordKey_eq, eq_comm, lookupKey,
    fullKey_eq_append_iff (by decide +kernel) suffix_ne_nil getLast?_suffix]
  exact ⟨fun both => ⟨both.1, both.2⟩, fun uncut => ⟨uncut.start, uncut.bare⟩⟩

theorem recordKey_eq_iff : request.recordKey = other.recordKey ↔ request.pieces = other.pieces := by
  have joined : ∀ request : AffinityRequest,
      request.buildChannelAffinityCacheKeySuffix.splitOn ':' = request.pieces := fun request =>
    splitOn_intercalate_concat _ _
  rw [recordKey_eq, recordKey_eq, append_cancel_left_eq, ← joined, ← joined]
  refine ⟨fun equal => equal ▸ rfl, fun equal => ?_⟩
  rw [← @intercalate_splitOn _ request.buildChannelAffinityCacheKeySuffix _ _ ':', equal,
    intercalate_splitOn]

theorem Same.pieces_eq (same : request.Same other) : request.pieces = other.pieces := by
  rw [pieces, pieces, same.1, same.2]

/-- What a record does to a lookup, when the lookup reads the entry that its own records write. -/
theorem getPreferredChannelByAffinity_record (recorded : other.recordKey = other.lookupKey)
    (cache : List Char → Option Int) (switch : Bool) (context : Int) {channelID : Int}
    (positive : 0 < channelID) :
    other.getPreferredChannelByAffinity
        (request.recordChannelAffinity cache switch context channelID) =
      if request.recordKey = other.recordKey then some (recordedChannel switch context channelID)
      else other.getPreferredChannelByAffinity cache := by
  have filled : ∀ request : AffinityRequest, request.recordKey ≠ [] := fun request =>
    recordKey_eq ▸ append_ne_nil_of_left_ne_nil (by decide +kernel) _
  rw [getPreferredChannelByAffinity, getPreferredChannelByAffinity, ← recorded,
    if_neg (filled other), if_neg (filled other), recordChannelAffinity,
    if_neg (not_or.mpr ⟨not_le.mpr positive, filled request⟩), Function.update_apply]
  simp only [eq_comm]

/-- Two matched requests are isolated exactly when neither key is cut or taken for a full key, and
fields and values that differ do not fall into the same pieces. -/
theorem affinity_entries_isolated_iff (request other : AffinityRequest) :
    request.Isolated other ↔
      request.Uncut ∧ other.Uncut ∧ (request.pieces = other.pieces → request.Same other) := by
  constructor
  · intro isolated
    refine ⟨recordKey_eq_lookupKey_iff.mp isolated.recorded,
      recordKey_eq_lookupKey_iff.mp isolated.recorded', fun equal => isolated.looked.mp ?_⟩
    rw [← isolated.recorded, ← isolated.recorded', recordKey_eq_iff.mpr equal]
  · rintro ⟨uncut, uncut', differ⟩
    have recorded := recordKey_eq_lookupKey_iff.mpr uncut
    have recorded' := recordKey_eq_lookupKey_iff.mpr uncut'
    have keys : request.recordKey = other.recordKey ↔ request.Same other :=
      recordKey_eq_iff.trans ⟨differ, Same.pieces_eq⟩
    refine ⟨recorded, recorded', recorded ▸ recorded' ▸ keys, fun cache switch context channelID
      positive => ?_⟩
    rw [getPreferredChannelByAffinity_record recorded' cache switch context positive, ← keys]
    exact ⟨fun same => if_pos same, fun differ => if_neg differ⟩

/-- A request under a rule that includes the model, or nothing. -/
def ofModel (includeModelName : Bool) (modelName value : String)
    (trimmed : Text.trim value.toList = value.toList := by decide +kernel)
    (nonempty : value.toList ≠ [] := by decide +kernel) : AffinityRequest :=
  ⟨{ includeModelName }, modelName, "default", value, trimmed, nonempty⟩

/-- A colon in a model name moves the border between the model and the value, and a value that
begins with a colon is recorded where no lookup looks. -/
theorem affinity_entries_collide :
    (ofModel true "llama3:8b" "ann").recordKey = (ofModel true "llama3" "8b:ann").lookupKey ∧
      ¬ (ofModel true "llama3:8b" "ann").Same (ofModel true "llama3" "8b:ann") ∧
      (ofModel true "llama3" "8b:ann").getPreferredChannelByAffinity
        ((ofModel true "llama3:8b" "ann").recordChannelAffinity (fun _ => none) false 0 7) =
          some 7 ∧
      (ofModel false "gpt-4o" ":ann").recordKey ≠ (ofModel false "gpt-4o" ":ann").lookupKey ∧
      (ofModel false "gpt-4o" ":ann").getPreferredChannelByAffinity
        ((ofModel false "gpt-4o" ":ann").recordChannelAffinity (fun _ => none) false 0 7) =
          none := by
  refine ⟨by decide +kernel, fun same => absurd same.2 (by decide +kernel), by decide +kernel,
    by decide +kernel, by decide +kernel⟩

end AffinityRequest

end StuHelper.Routing

import StuHelper.Lib.Float64
import StuHelper.Subscription.Purchase

/-!
# The link from an order to its subscription

A purchase writes the id of the subscription that it created into the payload of its
order, and the refund of the order reads it back.  Of several ids in a payload the first
one counts, and a payload that already names one is stored as it is.  So the link leads
back exactly when the text that the id is added to does not name another id itself.
-/

namespace StuHelper.Subscription

open List

open Lib Text Float64

/-! ## Ids in plain text -/

def NamesNoOther (id : Int) : List (List Char) → Prop
  | [] => True
  | part :: rest =>
    match payloadPartId part with
    | none => NamesNoOther id rest
    | some named => named = id

instance decidableNamesNoOther (id : Int) :
    (parts : List (List Char)) → Decidable (NamesNoOther id parts)
  | [] => isTrue trivial
  | part :: rest =>
    match found : payloadPartId part with
    | none =>
      have := decidableNamesNoOther id rest
      decidable_of_iff (NamesNoOther id rest) (by rw [NamesNoOther, found])
    | some named => decidable_of_iff (named = id) (by rw [NamesNoOther, found])

/-- The parts of a payload, as `FieldsFunc` cuts it. -/
def payloadParts (payload : String) : List (List Char) :=
  fieldsFunc payloadSeparator (trimSpace payload).toList

theorem namesNoOther_iff {id : Int} {parts : List (List Char)} :
    NamesNoOther id parts ↔ (parts.findSome? payloadPartId).getD id = id := by
  induction parts with
  | nil => simp [NamesNoOther]
  | cons part rest ih =>
    rw [NamesNoOther, findSome?_cons]
    cases payloadPartId part with
    | none => exact ih
    | some => rfl

/-- The part that a purchase adds. -/
def idPart (id : Int) : List Char :=
  subscriptionProviderPayloadIDKey.toList ++ '=' :: itoa id

section Numbers

variable {id : Int} {char : Char}

theorem itoa_ne_nil (id : Int) : itoa id ≠ [] := by
  cases id with
  | ofNat => exact Nat.toDigits_ne_nil
  | negSucc => simp [itoa]

theorem isDigit_or_minus_of_mem_itoa (member : char ∈ itoa id) :
    char.isDigit ∨ char = '-' := by
  have digit : ∀ {value}, char ∈ Nat.toDigits 10 value → char.isDigit :=
    fun member => Nat.isDigit_of_mem_toDigits (by omega) (by omega) member
  cases id with
  | ofNat => exact .inl (digit member)
  | negSucc =>
    rcases mem_cons.mp member with minus | member
    · exact .inr minus
    · exact .inl (digit member)

/-- A written number contains neither spaces nor separators. -/
theorem solid_of_mem_itoa (member : char ∈ itoa id) :
    isSpace char = false ∧ payloadSeparator char = false := by
  rcases isDigit_or_minus_of_mem_itoa member with digit | rfl
  · simp only [Char.isDigit, Bool.and_eq_true, decide_eq_true_eq, UInt32.le_iff_toNat_le] at digit
    have low : 48 ≤ char.toNat := digit.1
    have high : char.toNat ≤ 57 := digit.2
    constructor
    · simp only [isSpace, Bool.or_eq_false_iff, Bool.and_eq_false_iff, decide_eq_false_iff_not]
      omega
    · simp only [payloadSeparator, Bool.or_eq_false_iff, decide_eq_false_iff_not]
      refine ⟨⟨⟨⟨?_, ?_⟩, ?_⟩, ?_⟩, ?_⟩
      all_goals
        rintro rfl
        revert low high
        decide
  · decide

theorem trim_itoa (id : Int) : trim (itoa id) = itoa id := by
  apply trim_eq_self
  · exact fun char head => (solid_of_mem_itoa (mem_of_mem_head? head)).1
  · exact fun char last => (solid_of_mem_itoa (mem_of_mem_getLast? last)).1

theorem trim_fields_numberPart {first : Char} {key : List Char}
    (solid : (first :: key).all fun char => !isSpace char && !payloadSeparator char) (id : Int) :
    trim (first :: key ++ '=' :: itoa id) = first :: key ++ '=' :: itoa id ∧
      fieldsFunc payloadSeparator (first :: key ++ '=' :: itoa id) =
        [first :: key ++ '=' :: itoa id] := by
  have all : ∀ char ∈ first :: key ++ '=' :: itoa id,
      isSpace char = false ∧ payloadSeparator char = false := by
    intro char member
    rcases mem_append.mp member with inKey | number
    · simpa using all_eq_true.mp solid char inKey
    · rcases mem_cons.mp number with rfl | digit
      · decide
      · exact solid_of_mem_itoa digit
  constructor
  · apply trim_eq_self
    · exact fun char head => (all char (mem_of_mem_head? head)).1
    · exact fun char last => (all char (mem_of_mem_getLast? last)).1
  · exact fieldsFunc_of_solid (fun char member => (all char member).2) (by simp)

theorem head?_idPart (id : Int) : (idPart id).head? = some 's' := by
  simp [idPart, subscriptionProviderPayloadIDKey]

theorem idPart_part (id : Int) :
    trim (idPart id) = idPart id ∧ fieldsFunc payloadSeparator (idPart id) = [idPart id] :=
  @trim_fields_numberPart 's' "ubscription_id".toList (by decide) id

theorem payloadPartId_idPart (positive : 0 < id) (fits : id < 2 ^ 63) :
    payloadPartId (idPart id) = some id := by
  have cut : cut '=' (idPart id) =
      some (subscriptionProviderPayloadIDKey.toList, itoa id) := by
    simp [idPart, subscriptionProviderPayloadIDKey, cut]
  have key : trim subscriptionProviderPayloadIDKey.toList =
      subscriptionProviderPayloadIDKey.toList := by decide
  have read : atoi (itoa id) = some id := by
    obtain ⟨_, rfl⟩ := Int.eq_ofNat_of_zero_le positive.le
    exact atoi_itoa (by omega)
  simp only [payloadPartId, (idPart_part id).1, cut, key, if_true, trim_itoa, read]
  simp [positive]

end Numbers

/-! ## Plain payloads -/

section Plain

variable {codec : PayloadCodec} {payload : String} {id : Int}

theorem providerPayloadSubscriptionID_plain (plain : payloadIsObject (trimSpace payload) = false) :
    providerPayloadSubscriptionID codec payload =
      (payloadParts payload).findSome? payloadPartId := by
  simp only [providerPayloadSubscriptionID, payloadParts, plain, Bool.false_eq_true, if_false,
    Option.none_or]
  split
  next empty => simp [empty, fieldsFunc]
  · rfl

theorem payloadParts_trimSpace (payload : String) :
    payloadParts (trimSpace payload) = payloadParts payload := by
  simp only [payloadParts, trimSpace_trimSpace]

theorem linked_parts {front : String} (id : Int)
    (trimmed : trimSpace front = front) (nonempty : front ≠ "") :
    trimSpace (front ++ ";" ++ String.ofList (idPart id)) =
        front ++ ";" ++ String.ofList (idPart id) ∧
      payloadParts (front ++ ";" ++ String.ofList (idPart id)) =
        payloadParts front ++ [idPart id] := by
  have chars : (front ++ ";" ++ String.ofList (idPart id)).toList =
      front.toList ++ ';' :: idPart id := by simp
  have frontChars : trim front.toList = front.toList := by
    rw [← trimmed, trimSpace, String.toList_ofList, trim_trim]
  have whole : trimSpace (front ++ ";" ++ String.ofList (idPart id)) =
      front ++ ";" ++ String.ofList (idPart id) := by
    rw [trimSpace, chars, trim_eq_self]
    · rw [← chars, String.ofList_toList]
    · intro char head
      rw [head?_append_of_ne_nil _ (by simpa using nonempty), ← frontChars] at head
      exact isSpace_of_head?_trim char head
    · intro char last
      rw [getLast?_append_cons, getLast?_cons_of_ne_nil (by simp [idPart]), idPart,
        getLast?_append_cons, getLast?_cons_of_ne_nil (itoa_ne_nil id)] at last
      exact (solid_of_mem_itoa (mem_of_mem_getLast? last)).1
  refine ⟨whole, ?_⟩
  rw [payloadParts, whole, chars, fieldsFunc_append rfl, (idPart_part id).2, payloadParts, trimmed]

/-- In plain text the first id named by the text itself wins, and the id added counts
only when there is none. -/
theorem link_plain (plain : payloadIsObject (trimSpace payload) = false)
    (positive : 0 < id) (fits : id < 2 ^ 63) :
    providerPayloadSubscriptionID codec (providerPayloadWithSubscriptionId codec payload id) =
      some (((payloadParts payload).findSome? payloadPartId).getD id) := by
  have readTrimmed : providerPayloadSubscriptionID codec (trimSpace payload) =
      (payloadParts payload).findSome? payloadPartId := by
    rw [providerPayloadSubscriptionID_plain (by rwa [trimSpace_trimSpace]), payloadParts_trimSpace]
  rw [providerPayloadWithSubscriptionId]
  simp only [if_neg (not_le.mpr positive), readTrimmed, plain, Bool.false_eq_true, if_false]
  cases named : (payloadParts payload).findSome? payloadPartId with
  | some => simp [readTrimmed, named]
  | none =>
    simp only [Option.isSome_none, Bool.false_eq_true, if_false, Option.getD_none]
    have added : subscriptionProviderPayloadIDKey ++ "=" ++ String.ofList (itoa id) =
        String.ofList (idPart id) := by
      apply String.toList_inj.mp
      simp [idPart]
    rw [added]
    split
    next empty =>
      have whole : trimSpace (String.ofList (idPart id)) = String.ofList (idPart id) := by
        rw [trimSpace, String.toList_ofList, (idPart_part id).1]
      have parts : payloadParts (String.ofList (idPart id)) = [idPart id] := by
        rw [payloadParts, whole, String.toList_ofList, (idPart_part id).2]
      rw [providerPayloadSubscriptionID_plain, parts]
      · simp [payloadPartId_idPart positive fits]
      · rw [whole]
        rw [payloadIsObject, String.toList_ofList, head?_idPart]
        decide
    rename_i nonempty
    obtain ⟨whole, parts⟩ := linked_parts id (trimSpace_trimSpace payload) nonempty
    rw [providerPayloadSubscriptionID_plain, parts, payloadParts_trimSpace]
    · simp [named, payloadPartId_idPart positive fits]
    · rw [whole]
      rw [String.append_assoc, payloadIsObject, String.toList_append,
        head?_append_of_ne_nil _ (by simpa using nonempty)]
      exact plain

end Plain

/-! ## JSON payloads -/

/-- A member of a `map[string]interface{}`.  Decoding never leaves an `int`; values that
are neither numbers nor strings are kept as their text. -/
inductive JsonValue where
  | int (value : Int)
  | float64 (value : ℚ)
  | string (text : String)
  | other (text : String)
  deriving DecidableEq, Repr

/-- The JSON package on objects. -/
structure JsonLibrary where
  unmarshal : String → Option (List (String × JsonValue))
  marshal : List (String × JsonValue) → Option String

/-- `data[key] = value`. -/
def setMember (data : List (String × JsonValue)) (key : String) (value : JsonValue) :
    List (String × JsonValue) :=
  (key, value) :: data.filter fun member => member.1 ≠ key

/-- The package can write every decoded object with an id added, and reads the result back
with the id as the nearest `float64`. -/
def JsonLibrary.WritesBack (json : JsonLibrary) : Prop :=
  ∀ payload data (id : Int), json.unmarshal payload = some data → 0 < id → id < 2 ^ 63 →
    ∃ text data',
      json.marshal (setMember data subscriptionProviderPayloadIDKey (.int id)) = some text ∧
        payloadIsObject text ∧ trimSpace text = text ∧ json.unmarshal text = some data' ∧
        data'.lookup subscriptionProviderPayloadIDKey = some (.float64 (ofNat id.toNat))

/-- `providerPayloadValueAsPositiveInt`.  A `float64` out of the range of `int` becomes the
least `int`, as on amd64. -/
def providerPayloadValueAsPositiveInt : Option JsonValue → Option Int
  | some (.int value) => if 0 < value then some value else none
  | some (.float64 value) =>
    let id := if value < 2 ^ 63 then ⌊value⌋ else -(2 ^ 63)
    -- A whole `float64` is its own conversion back.
    if 0 < value ∧ (id : ℚ) = value then some id else none
  | some (.string text) => (atoi (trimSpace text).toList).filter fun id => 0 < id
  | some (.other _) => none
  | none => none

/-- The reader and the writer of the member with the JSON package. -/
def JsonLibrary.codec (json : JsonLibrary) : PayloadCodec where
  readId payload := (json.unmarshal payload).bind fun data =>
    providerPayloadValueAsPositiveInt (data.lookup subscriptionProviderPayloadIDKey)
  writeId payload id := (json.unmarshal payload).bind fun data =>
    json.marshal (setMember data subscriptionProviderPayloadIDKey (.int id))

section Json

variable {json : JsonLibrary} {payload : String} {id : Int}
  {data : List (String × JsonValue)}

theorem ne_empty_of_object (object : payloadIsObject payload) : payload ≠ "" := by
  rintro rfl
  simp [payloadIsObject] at object

theorem providerPayloadSubscriptionID_object (object : payloadIsObject (trimSpace payload))
    (decodes : json.unmarshal (trimSpace payload) = some data) :
    providerPayloadSubscriptionID json.codec payload =
      (providerPayloadValueAsPositiveInt (data.lookup subscriptionProviderPayloadIDKey)).or
        ((payloadParts payload).findSome? payloadPartId) := by
  rw [providerPayloadSubscriptionID]
  simp only [if_neg (ne_empty_of_object object), object, if_true, JsonLibrary.codec, decodes,
    Option.bind_some, payloadParts]

theorem readBack_of_fits (positive : 0 < id) (inRange : ofNat id.toNat < 2 ^ 63) :
    providerPayloadValueAsPositiveInt (some (.float64 (ofNat id.toNat))) =
      some (ofNat id.toNat : Int) := by
  have nonzero : 0 < ofNat id.toNat := ofNat_pos (by omega)
  have small : (ofNat id.toNat : ℚ) < 2 ^ 63 := by exact_mod_cast inRange
  have whole : ⌊(ofNat id.toNat : ℚ)⌋ = (ofNat id.toNat : Int) := Int.floor_natCast _
  simp only [providerPayloadValueAsPositiveInt, if_pos small, whole]
  exact if_pos ⟨by exact_mod_cast nonzero, by push_cast; rfl⟩

/-- A JSON object without the member either names an id in its text, which then counts, or
gets the member, which is read back as a `float64`. -/
theorem link_object (writes : json.WritesBack) (positive : 0 < id) (fits : id < 2 ^ 63)
    (object : payloadIsObject (trimSpace payload))
    (decodes : json.unmarshal (trimSpace payload) = some data)
    (absent : data.lookup subscriptionProviderPayloadIDKey = none) :
    (∀ other, (payloadParts payload).findSome? payloadPartId = some other →
      providerPayloadSubscriptionID json.codec
        (providerPayloadWithSubscriptionId json.codec payload id) = some other) ∧
    ((payloadParts payload).findSome? payloadPartId = none → ofNat id.toNat < 2 ^ 63 →
      providerPayloadSubscriptionID json.codec
        (providerPayloadWithSubscriptionId json.codec payload id) =
          some (ofNat id.toNat : Int)) := by
  have readTrimmed : providerPayloadSubscriptionID json.codec (trimSpace payload) =
      (payloadParts payload).findSome? payloadPartId := by
    have settled := trimSpace_trimSpace payload
    rw [providerPayloadSubscriptionID_object (settled.symm ▸ object) (settled.symm ▸ decodes),
      absent, payloadParts_trimSpace]
    exact Option.none_or
  rw [providerPayloadWithSubscriptionId]
  simp only [if_neg (not_le.mpr positive), readTrimmed, object, if_true]
  constructor
  · intro other named
    simp only [named, Option.isSome_some, if_true]
    exact readTrimmed.trans named
  · intro none inRange
    obtain ⟨text, data', encodes, isObject, trimmed, reads, member⟩ :=
      writes _ _ id decodes positive fits
    have written : json.codec.writeId (trimSpace payload) id = some text := by
      simp only [JsonLibrary.codec, decodes, Option.bind_some, encodes]
    simp only [none, Option.isSome_none, Bool.false_eq_true, if_false, written]
    rw [providerPayloadSubscriptionID_object (trimmed.symm ▸ isObject) (trimmed.symm ▸ reads),
      member, readBack_of_fits positive inRange, Option.some_or]

end Json

/-! ## The payloads of the purchases -/

/-- The payloads that an order is stored with: a wallet purchase writes the quota that it
charged, a provider sends its own text, and a self-serve purchase writes the transaction
number that the user typed. -/
inductive PurchasePayload where
  | chargedQuota (quota : Int)
  | provider (text : String)
  | transactionNo (number : String)
  deriving DecidableEq, Repr

namespace PurchasePayload

def text : PurchasePayload → String
  | .chargedQuota quota => "charged_quota=" ++ String.ofList (itoa quota)
  | .provider text => text
  | .transactionNo number => "transaction_no=" ++ number

/-- The provider sends a JSON object without the member, and the transaction number is one
that the purchase accepts. -/
def Built (json : JsonLibrary) (settings : PaymentSettings) : PurchasePayload → Prop
  | .chargedQuota _ => True
  | .provider text =>
    payloadIsObject (trimSpace text) ∧
      ∃ data, json.unmarshal (trimSpace text) = some data ∧
        data.lookup subscriptionProviderPayloadIDKey = none
  | .transactionNo number =>
    ∃ paymentMethod typed generated,
      selfServeResolveAuditTransactionNo settings paymentMethod typed generated = .ok number

/-- The text does not name another subscription first, and an id that becomes the member of
a JSON object is a `float64`. -/
def Unforged (id : Int) : PurchasePayload → Prop
  | .chargedQuota _ => True
  | .provider text =>
    NamesNoOther id (payloadParts text) ∧
      ((payloadParts text).any (fun part => (payloadPartId part).isSome) ∨
        (ofNat id.toNat : Int) = id)
  | .transactionNo number => NamesNoOther id (payloadParts ("transaction_no=" ++ number))

/-- The member of a JSON object with this id can be converted to an `int` again. -/
def InRange (id : Int) : PurchasePayload → Prop
  | .provider _ => ofNat id.toNat < 2 ^ 63
  | _ => True

end PurchasePayload

/-- A text that starts with another character than a brace or a space is no object. -/
theorem plain_of_cons {payload : String} (char : Char) (rest : List Char)
    (chars : payload.toList = char :: rest) (solid : isSpace char = false)
    (other : char ≠ Char.ofNat 0x7b) : payloadIsObject (trimSpace payload) = false := by
  rw [payloadIsObject, trimSpace, String.toList_ofList, chars, head?_trim_cons _ solid]
  simpa using other

theorem namesNothing_chargedQuota (quota : Int) :
    (payloadParts ("charged_quota=" ++ String.ofList (itoa quota))).findSome?
      payloadPartId = none := by
  have chars : ("charged_quota=" ++ String.ofList (itoa quota)).toList =
      "charged_quota".toList ++ '=' :: itoa quota := by simp
  obtain ⟨trimmed, fields⟩ := @trim_fields_numberPart 'c' "harged_quota".toList (by decide) quota
  have whole : trim ("charged_quota".toList ++ '=' :: itoa quota) =
      "charged_quota".toList ++ '=' :: itoa quota := trimmed
  have cut : cut '=' ("charged_quota".toList ++ '=' :: itoa quota) =
      some ("charged_quota".toList, itoa quota) := by simp [cut]
  have other : trim "charged_quota".toList ≠ subscriptionProviderPayloadIDKey.toList := by decide
  have parts : payloadParts ("charged_quota=" ++ String.ofList (itoa quota)) =
      ["charged_quota".toList ++ '=' :: itoa quota] := by
    rw [payloadParts, trimSpace, String.toList_ofList, chars, whole]
    exact fields
  rw [parts, findSome?_cons, payloadPartId, whole, cut]
  simp only [if_neg other, findSome?_nil]

/-- The id of the subscription comes back out of the payload exactly when the text is not
forged: always for a wallet purchase, and otherwise as long as the text names no other
subscription first. -/
theorem order_link_recovered_iff (json : JsonLibrary) (writes : json.WritesBack)
    (settings : PaymentSettings) (payload : PurchasePayload)
    (built : payload.Built json settings) (id : Int) (positive : 0 < id) (fits : id < 2 ^ 63) :
    (payload.Unforged id → providerPayloadSubscriptionID json.codec
        (providerPayloadWithSubscriptionId json.codec payload.text id) = some id) ∧
    (payload.InRange id → providerPayloadSubscriptionID json.codec
        (providerPayloadWithSubscriptionId json.codec payload.text id) = some id →
      payload.Unforged id) := by
  cases payload with
  | chargedQuota quota =>
    refine ⟨fun _ => ?_, fun _ _ => trivial⟩
    have plain : payloadIsObject (Text.trimSpace
        ("charged_quota=" ++ String.ofList (Text.itoa quota))) = false :=
      plain_of_cons 'c' ("harged_quota=".toList ++ Text.itoa quota) (by simp) (by decide)
        (by decide)
    rw [PurchasePayload.text, link_plain plain positive fits,
      namesNothing_chargedQuota, Option.getD_none]
  | provider text =>
    obtain ⟨object, _, decodes, absent⟩ := built
    obtain ⟨names, adds⟩ := link_object writes positive fits object decodes absent
    simp only [PurchasePayload.text, PurchasePayload.Unforged, namesNoOther_iff,
      PurchasePayload.InRange]
    cases named : (payloadParts text).findSome? payloadPartId with
    | some other =>
      have some : (payloadParts text).any (fun part => (payloadPartId part).isSome) := by
        obtain ⟨part, member, found⟩ := exists_of_findSome?_eq_some named
        exact any_eq_true.mpr ⟨part, member, by simp [found]⟩
      rw [names other named]
      simp only [some, Option.some.injEq, Option.getD_some, true_or, and_true]
      exact ⟨fun same => same, fun _ same => same⟩
    | none =>
      have nothing : (payloadParts text).any (fun part => (payloadPartId part).isSome) =
          false := by
        simpa [any_eq_false] using named
      simp only [nothing, Option.getD_none, Bool.false_eq_true, false_or, true_and]
      constructor
      · intro exact
        rw [adds named (by omega), exact]
      · intro inRange recovered
        rw [adds named inRange, Option.some.injEq] at recovered
        exact recovered
  | transactionNo number =>
    have plain : payloadIsObject (Text.trimSpace ("transaction_no=" ++ number)) = false :=
      plain_of_cons 't' ("ransaction_no=".toList ++ number.toList) (by simp) (by decide)
        (by decide)
    have link := @link_plain json.codec _ id plain positive fits
    simp only [PurchasePayload.text, PurchasePayload.Unforged, namesNoOther_iff,
      link, Option.some.injEq]
    exact ⟨fun same => same, fun _ same => same⟩

/-- A JSON package that knows the empty object and the object with the one member. -/
def tinyJson : JsonLibrary where
  unmarshal text :=
    if text = "\x7b\x7d" then some []
    else
      match cut ':' text.toList with
      | some (before, after) =>
        if before = "\x7b\"subscription_id\"".toList ∧ after.getLast? = some (Char.ofNat 0x7d) then
          (atoi after.dropLast).map fun id =>
            [(subscriptionProviderPayloadIDKey, .float64 (ofNat id.toNat))]
        else none
      | none => none
  marshal
    | [(key, .int id)] =>
      if key = subscriptionProviderPayloadIDKey then
        some (String.ofList ("\x7b\"subscription_id\":".toList ++ itoa id ++ [Char.ofNat 0x7d]))
      else none
    | _ => none

theorem tinyJson_writesBack : tinyJson.WritesBack := by
  intro payload data id decodes positive fits
  have set : setMember data subscriptionProviderPayloadIDKey (.int id) =
      [(subscriptionProviderPayloadIDKey, .int id)] := by
    simp only [tinyJson] at decodes
    split at decodes
    · obtain rfl := Option.some.inj decodes
      simp [setMember]
    split at decodes
    · split at decodes
      · obtain ⟨_, -, rfl⟩ := Option.map_eq_some_iff.mp decodes
        simp [setMember]
      · cases decodes
    · cases decodes
  generalize textEq : String.ofList
    ("\x7b\"subscription_id\":".toList ++ itoa id ++ [Char.ofNat 0x7d]) = text
  have chars : text.toList = "\x7b\"subscription_id\":".toList ++ itoa id ++ [Char.ofNat 0x7d] := by
    rw [← textEq, String.toList_ofList]
  refine ⟨text, [(subscriptionProviderPayloadIDKey, .float64 (ofNat id.toNat))], ?_, ?_, ?_, ?_, ?_⟩
  · rw [set, ← textEq]
    rfl
  · rw [payloadIsObject, chars]
    rfl
  · rw [trimSpace, trim_eq_self, String.ofList_toList]
    · intro char head
      rw [chars] at head
      obtain rfl : Char.ofNat 0x7b = char := by simpa using head
      decide
    · intro char last
      rw [chars, getLast?_concat, Option.mem_some_iff] at last
      rw [← last]
      decide
  · have cut : cut ':' text.toList =
        some ("\x7b\"subscription_id\"".toList, itoa id ++ [Char.ofNat 0x7d]) := by
      rw [chars]
      simp [cut]
    have read : atoi (itoa id) = some id := by
      obtain ⟨_, rfl⟩ := Int.eq_ofNat_of_zero_le positive.le
      exact atoi_itoa (by omega)
    have nonempty : text ≠ "\x7b\x7d" := by
      rintro rfl
      simp at chars
    simp only [tinyJson, if_neg nonempty, cut]
    rw [if_pos ⟨trivial, getLast?_concat⟩, dropLast_concat, read]
    rfl
  · simp

/-- A transaction number that names subscription 5 is accepted, and the order of
subscription 7 then leads to subscription 5. -/
theorem typed_number_forges_link :
    selfServeResolveAuditTransactionNo ⟨1, 1, 100, 100, false⟩ alipaySelfServe
        "pay;subscription_id=5" "" = .ok "pay;subscription_id=5" ∧
      providerPayloadSubscriptionID tinyJson.codec
        (providerPayloadWithSubscriptionId tinyJson.codec
          ("transaction_no=" ++ "pay;subscription_id=5") 7) = some 5 := by
  decide +kernel

/-- An ordinary transaction number keeps the link. -/
theorem plain_number_keeps_link :
    providerPayloadSubscriptionID tinyJson.codec
      (providerPayloadWithSubscriptionId tinyJson.codec
        ("transaction_no=" ++ "2026010112345678") 7) = some 7 :=
  (order_link_recovered_iff tinyJson tinyJson_writesBack ⟨1, 1, 100, 100, false⟩
    (.transactionNo "2026010112345678")
    ⟨alipaySelfServe, "2026010112345678", "", by decide +kernel⟩ 7 (by decide)
    (by decide)).1 (by decide +kernel : NamesNoOther 7 _)

end StuHelper.Subscription

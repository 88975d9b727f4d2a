import StuHelper.Lib.Text

/-!
# The provider payload of an order

A completed order remembers the subscription that it paid for inside its free-form
payload: as a member of a JSON object, or as a `key=value` part of plain text.  The
JSON reader and writer are a parameter; nothing is assumed about them.
-/

namespace StuHelper.Subscription

open Lib

/-- How the JSON library reads and writes the `subscription_id` member of an object. -/
structure PayloadCodec where
  readId : String → Option Int
  writeId : String → Int → Option String

def subscriptionProviderPayloadIDKey : String := "subscription_id"

/-- The separators between the parts of a plain payload. -/
def payloadSeparator (char : Char) : Bool :=
  char = '&' || char = ';' || char = ',' || char = '\n' || char = '\r'

/-- The positive id of a `subscription_id=id` part. -/
def payloadPartId (part : List Char) : Option Int :=
  match Text.cut '=' (Text.trim part) with
  | none => none
  | some (key, value) =>
    if Text.trim key = subscriptionProviderPayloadIDKey.toList then
      (Text.atoi (Text.trim value)).filter fun id => 0 < id
    else none

/-- The payload looks like a JSON object. -/
def payloadIsObject (payload : String) : Bool :=
  payload.toList.head? = some (Char.ofNat 0x7b)

def providerPayloadSubscriptionID (codec : PayloadCodec) (payload : String) : Option Int :=
  let payload := Text.trimSpace payload
  if payload = "" then none
  else
    (if payloadIsObject payload then codec.readId payload else none).or
      ((Text.fieldsFunc payloadSeparator payload.toList).findSome? payloadPartId)

def providerPayloadWithSubscriptionId (codec : PayloadCodec) (payload : String)
    (subscriptionId : Int) : String :=
  let payload := Text.trimSpace payload
  if subscriptionId ≤ 0 then payload
  else if (providerPayloadSubscriptionID codec payload).isSome then payload
  else
    match (if payloadIsObject payload then codec.writeId payload subscriptionId
        else none) with
    | some encoded => encoded
    | none =>
      let idPart := subscriptionProviderPayloadIDKey ++ "=" ++
        String.ofList (Text.itoa subscriptionId)
      if payload = "" then idPart else payload ++ ";" ++ idPart

end StuHelper.Subscription

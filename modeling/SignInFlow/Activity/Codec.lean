import SignInFlow.Activity
import SignInFlow.Json.Decoding
import SignInFlow.Instant.Reader
import SignInFlow.Instant.Printer

/-!
# Activities as JSON

Fields without a value are left out.  Reading what was written gives the activity back, settled.
-/

namespace SignInFlow

namespace ActivityKind

/-- The name of a kind. -/
def name : ActivityKind → String
  | message => "message"
  | event => "event"
  | invoke => "invoke"
  | conversationUpdate => "conversationUpdate"
  | unknown => "unknown"

/-- The kinds that have a name of their own; every other name is an unknown kind. -/
def named : List (String × ActivityKind) :=
  [message, event, invoke, conversationUpdate].map fun kind => (kind.name, kind)

/-- The kind that a value names. -/
def ofJson (value : Json) : Decoded ActivityKind := value.choice named (some unknown)

end ActivityKind

namespace Instant

/-- The instant that a timestamp writes. -/
def ofJson (value : Json) : Decoded Instant := do
  match parse? (← value.text) with
  | some instant => pure instant
  | none => .error (.malformed "input contains invalid characters")

end Instant

namespace Account

/-- The account as an object. -/
def toJson (account : Account) : Json :=
  .object [("id", some (.str account.id)), ("name", account.name.map .str)]

/-- The account that a value holds. -/
def ofJson (value : Json) : Decoded Account := do
  let record ← value.record "an account" ["id", "name"]
  pure ⟨← record.required Json.text "id", ← record.optional Json.text "name"⟩

end Account

namespace Activity

/-- A conversation as an object. -/
def conversationToJson (id : String) : Json := .obj [("id", .str id)]

/-- The id of the conversation that a value holds. -/
def conversationOfJson (value : Json) : Decoded String := do
  let record ← value.record "a conversation" ["id"]
  record.required Json.text "id"

/-- The activity as an object, with its timestamp as the given text. -/
def toJsonStamped (activity : Activity) (timestamp : Option String) : Json :=
  .object [
    ("channelId", some (.str activity.channel)),
    ("conversation", some (conversationToJson activity.conversation)),
    ("from", some activity.sender.toJson),
    ("id", activity.id.map .str),
    ("name", activity.name.map .str),
    ("recipient", activity.recipient.map Account.toJson),
    ("text", activity.text.map .str),
    ("timestamp", timestamp.map .str),
    ("type", some (.str activity.kind.name)),
    ("value", activity.value)]

/-- The activity as an object. -/
def toJson (activity : Activity) : Json :=
  activity.toJsonStamped (activity.timestamp.map Instant.render)

/-- The order in which an array lists the fields of an activity. -/
def fieldOrder : List String :=
  ["id", "type", "name", "text", "value", "channelId", "from", "recipient", "conversation",
    "timestamp"]

/-- The activity that a value holds. -/
def ofJson (value : Json) : Decoded Activity := do
  let record ← value.record "an activity" fieldOrder
  pure {
    id := ← record.optional Json.text "id"
    kind := ← record.required ActivityKind.ofJson "type"
    name := ← record.optional Json.text "name"
    text := ← record.optional Json.text "text"
    value := ← record.optional .ok "value"
    channel := ← record.required Json.text "channelId"
    sender := ← record.required Account.ofJson "from"
    recipient := ← record.optional Account.ofJson "recipient"
    conversation := ← record.required conversationOfJson "conversation"
    timestamp := ← record.optional Instant.ofJson "timestamp" }

end Activity
end SignInFlow

import SignInFlow.Activity.Codec
import SignInFlow.Response

/-!
# Completion events and banked activities

What a flow keeps until it concludes: the activity that started it, or, for an explicit sign-in, a
completion event that later carries the outcome back as the payload of an event activity.
-/

namespace SignInFlow

/-- The outcome of an explicit sign-in on its way back to where it began. -/
structure Completion where
  /-- The handler that ran the flow. -/
  handler : String
  /-- The final response, once there is one. -/
  response : Option Response
  /-- The activity that asked for the sign-in. -/
  initiating : Activity
  /-- The exchange connection to forward on every call. -/
  connection : Option String
  /-- The exchange scopes to forward on every call. -/
  scopes : Option (List String)
deriving Repr, BEq

/-- What is kept until a flow concludes. -/
inductive Banked where
  /-- The activity that triggered an automatic sign-in. -/
  | activity (trigger : Activity)
  /-- The completion event of an explicit sign-in. -/
  | completion (event : Completion)
deriving Repr, BEq

namespace Completion

/-- The event of a flow that has just become pending. -/
def start (handler : String) (exchange : Option Exchange) (initiating : Activity) : Completion where
  handler := handler
  response := none
  initiating := initiating
  connection := exchange.bind Exchange.connection
  scopes := exchange.bind fun exchange =>
    if exchange.scopes.isEmpty then none else some exchange.scopes

/-- The exchange parameters to forward, if any were given. -/
def exchange (completion : Completion) : Option Exchange :=
  let exchange : Exchange := ⟨completion.connection, completion.scopes.getD []⟩
  if exchange.isEmpty then none else some exchange

/-- The event with the outcome of its flow. -/
def withResult (completion : Completion) (handler : String) (response : Response) : Completion :=
  { completion with handler := handler, response := some response }

/-- The event as an object. -/
def toJson (completion : Completion) : Json :=
  .object [
    ("exchangeConnectionName", completion.connection.map .str),
    ("exchangeScopes", completion.scopes.map .texts),
    ("handlerName", some (.str completion.handler)),
    ("initiatingActivity", some completion.initiating.toJson),
    ("response", completion.response.map Response.toJson)]

/-- The order in which an array lists the fields of an event. -/
def fieldOrder : List String :=
  ["handlerName", "response", "initiatingActivity", "exchangeConnectionName", "exchangeScopes"]

/-- The event that a value holds. -/
def ofJson (value : Json) : Decoded Completion := do
  let record ← value.record "a completion event" fieldOrder
  pure {
    handler := ← record.required Json.text "handlerName"
    response := ← record.optional Response.ofJson "response"
    initiating := ← record.required Activity.ofJson "initiatingActivity"
    connection := ← record.optional Json.text "exchangeConnectionName"
    scopes := ← record.optional Json.textList "exchangeScopes" }

/-- The event as an activity, addressed like the activity that asked for the sign-in. -/
def toActivity (completion : Completion) (eventName : String) : Activity :=
  let initiating := completion.initiating
  { Activity.event initiating.channel initiating.sender.id initiating.conversation eventName
      completion.toJson with
    sender := initiating.sender
    recipient := initiating.recipient }

end Completion

namespace Banked

/-- The activity that started the flow. -/
def initiating : Banked → Activity
  | .activity trigger => trigger
  | .completion event => event.initiating

/-- What is banked, tagged with its kind. -/
def toJson : Banked → Json
  | .activity trigger => .obj [("kind", .str "activity"), ("payload", trigger.toJson)]
  | .completion event => .obj [("kind", .str "completion"), ("payload", event.toJson)]

/-- Whether a value names an activity rather than a completion event. -/
def isActivityOfJson (value : Json) : Decoded Bool :=
  value.choice [("activity", true), ("completion", false)] none

/-- What a value says is banked: an object with a kind and a payload, or an array of just these. -/
def ofJson (value : Json) : Decoded Banked := do
  let record ← value.record "a banked activity" ["kind", "payload"]
  if ← record.required isActivityOfJson "kind" then
    pure (.activity (← record.required Activity.ofJson "payload"))
  else
    pure (.completion (← record.required Completion.ofJson "payload"))

end Banked
end SignInFlow

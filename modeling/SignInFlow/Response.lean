import SignInFlow.Json.Decoding

/-!
# Responses and requests

What a sign-in handler is asked and what it answers: the flow needs more from the user, has a token,
or has failed for a cause.
-/

namespace SignInFlow

/-- The outcome of one call of a handler. -/
inductive Status where
  /-- The user has to do something first. -/
  | pending
  /-- A token was acquired. -/
  | complete
  /-- The flow ended without a token. -/
  | error
deriving DecidableEq, Repr

/-- Why a flow ended without a token. -/
inductive Cause where
  /-- The activity at hand is none that the flow can use. -/
  | invalidActivity
  /-- Anything else. -/
  | other
deriving DecidableEq, Repr

/-- The answer of a handler. -/
structure Response where
  /-- The outcome. -/
  status : Status
  /-- The token of a completed flow. -/
  token : Option String
  /-- The cause of a failure. -/
  cause : Option Cause
  /-- The detail of a failure. -/
  error : Option String
deriving DecidableEq, Repr

/-- Parameters for exchanging a token for one on another connection. -/
structure Exchange where
  /-- The connection to exchange against. -/
  connection : Option String
  /-- The scopes asked for. -/
  scopes : List String
deriving DecidableEq, Repr

/-- One call of a handler. -/
structure Request where
  /-- The handler to call. -/
  handler : String
  /-- Whether to start over instead of continuing. -/
  force : Bool
  /-- The exchange parameters, if any. -/
  exchange : Option Exchange
deriving DecidableEq, Repr

namespace Status

/-- The name of a status. -/
def name : Status → String
  | pending => "pending"
  | complete => "complete"
  | error => "error"

/-- Every status by its name. -/
def named : List (String × Status) :=
  [pending, complete, error].map fun status => (status.name, status)

/-- The status that a value names. -/
def ofJson (value : Json) : Decoded Status := value.choice named none

end Status

namespace Cause

/-- The name of a cause. -/
def name : Cause → String
  | invalidActivity => "InvalidActivity"
  | other => "Other"

/-- Every cause by its name. -/
def named : List (String × Cause) :=
  [invalidActivity, other].map fun cause => (cause.name, cause)

/-- The cause that a value names. -/
def ofJson (value : Json) : Decoded Cause := value.choice named none

end Cause

namespace Response

/-- The answer that more is needed from the user. -/
def pending : Response := ⟨.pending, none, none, none⟩

/-- The answer with a token. -/
def complete (token : String) : Response := ⟨.complete, some token, none, none⟩

/-- The answer that the flow has failed. -/
def failed (cause : Cause) (detail : String) : Response := ⟨.error, none, some cause, some detail⟩

/-- The cause to report, `other` where none is given. -/
def causeOrOther (response : Response) : Cause := response.cause.getD .other

/-- The response as an object. -/
def toJson (response : Response) : Json :=
  .object [
    ("cause", response.cause.map fun cause => .str cause.name),
    ("error", response.error.map .str),
    ("status", some (.str response.status.name)),
    ("token", response.token.map .str)]

/-- The order in which an array lists the fields of a response. -/
def fieldOrder : List String := ["status", "token", "cause", "error"]

/-- The response that a record holds, its fields in the order of an array. -/
def ofOrderedRecord (record : Record) : Decoded Response := do
  pure {
    status := ← record.required Status.ofJson "status"
    token := ← record.optional Json.text "token"
    cause := ← record.optional Cause.ofJson "cause"
    error := ← record.optional Json.text "error" }

/-- The response that a record holds, its fields in the order of their names, a missing one after
all others. -/
def ofNamedRecord (record : Record) : Decoded Response := do
  let cause ← record.optional Cause.ofJson "cause"
  let error ← record.optional Json.text "error"
  discard (record.present Status.ofJson "status")
  let token ← record.optional Json.text "token"
  pure ⟨← record.required Status.ofJson "status", token, cause, error⟩

/-- The response that a value holds.  Of several faults the first one counts, and surplus elements
of an array come last. -/
def ofJson (value : Json) : Decoded Response := do
  let wanted := "struct SignInResponse"
  match value with
  | .arr elements =>
      let response ← ofOrderedRecord
        (← (Json.arr (elements.take fieldOrder.length)).record wanted fieldOrder)
      discard (value.record wanted fieldOrder)
      pure response
  | _ => ofNamedRecord (← value.record wanted fieldOrder)

end Response

namespace Exchange

/-- Nothing to forward. -/
def isEmpty (exchange : Exchange) : Bool := exchange.connection.isNone && exchange.scopes.isEmpty

/-- The exchange as an object, without scopes where there are none. -/
def toJson (exchange : Exchange) : Json :=
  .object [
    ("connectionName", exchange.connection.map .str),
    ("scopes", if exchange.scopes.isEmpty then none else some (.texts exchange.scopes))]

/-- The exchange that a value holds. -/
def ofJson (value : Json) : Decoded Exchange := do
  let record ← value.record "exchange parameters" ["connectionName", "scopes"]
  pure ⟨← record.optional Json.text "connectionName",
    (← record.present Json.textList "scopes").getD []⟩

end Exchange
end SignInFlow

import SignInFlow.Instant
import SignInFlow.Json

/-!
# Activities

An activity is one message or event of a conversation: who sent it, where, and what it carries.  The
payload of an event rides along as a JSON value, and an explicit `null` differs from no payload.
-/

namespace SignInFlow

/-- The kind of an activity. -/
inductive ActivityKind where
  | message
  | event
  | invoke
  | conversationUpdate
  | unknown
deriving DecidableEq, Repr

/-- A participant of a conversation. -/
structure Account where
  /-- The id that the channel gave it. -/
  id : String
  /-- The name to display. -/
  name : Option String
deriving DecidableEq, Repr

namespace Account

/-- The account with only an id. -/
def ofId (id : String) : Account := ⟨id, none⟩

end Account

/-- One message or event of a conversation. -/
structure Activity where
  /-- The id that the channel gave it. -/
  id : Option String
  /-- The kind. -/
  kind : ActivityKind
  /-- The name of an event or invoke. -/
  name : Option String
  /-- The text of a message. -/
  text : Option String
  /-- The payload. -/
  value : Option Json
  /-- The channel it arrived on. -/
  channel : String
  /-- The sender. -/
  sender : Account
  /-- The receiver. -/
  recipient : Option Account
  /-- The id of the conversation. -/
  conversation : String
  /-- When the channel saw it. -/
  timestamp : Option Instant
deriving Repr, BEq

namespace Activity

/-- An activity of a kind, from a sender, in a conversation of a channel, and nothing else. -/
def base (kind : ActivityKind) (channel sender conversation : String) : Activity where
  id := none
  kind := kind
  name := none
  text := none
  value := none
  channel := channel
  sender := .ofId sender
  recipient := none
  conversation := conversation
  timestamp := none

/-- A message. -/
def message (channel sender conversation text : String) : Activity :=
  { base .message channel sender conversation with text := some text }

/-- A named event with a payload. -/
def event (channel sender conversation name : String) (value : Json) : Activity :=
  { base .event channel sender conversation with name := some name, value := some value }

/-- The activity with an id. -/
def withId (activity : Activity) (id : String) : Activity := { activity with id := some id }

/-- The text message that answers an activity: from its recipient to its sender, in its
conversation, stamped with the time of sending. -/
def reply (activity : Activity) (text : String) (sentAt : Instant) : Activity where
  id := none
  kind := .message
  name := none
  text := some text
  value := none
  channel := activity.channel
  sender := activity.recipient.getD (.ofId "")
  recipient := some activity.sender
  conversation := activity.conversation
  timestamp := some sentAt

/-- Whether it is an event of the given name. -/
def isEventNamed (activity : Activity) (name : String) : Bool :=
  activity.kind == .event && activity.name == some name

/-- The activity as it comes back from a store, where an explicit `null` payload is not kept. -/
def settled (activity : Activity) : Activity :=
  match activity.value with
  | some .null => { activity with value := none }
  | _ => activity

end Activity
end SignInFlow

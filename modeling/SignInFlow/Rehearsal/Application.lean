import SignInFlow.Gateway
import SignInFlow.Rehearsal.Stage

/-!
# The application of a rehearsal

It records that it was reached and then does what the text of the activity commands: signing in and
out, resetting, setting and removing properties, and talking back.
-/

namespace SignInFlow.Rehearsal

/-- What a text commands. -/
inductive Command where
  | login (handler : String) (exchange : Option Exchange)
  | logout (handler : Option String)
  | reset (handler : Option String)
  | set (name : String) (value : Option String)
  | remove (name : String)
  | setAndFail (name : String) (value : Option String)
  | say (text : String)
  | nothing

namespace Command

/-- Splits a text at every single space; `word` is what was read of the current piece, reversed. -/
def splitWords (word : List Char) : List Char → List String
  | [] => [String.ofList word.reverse]
  | ' ' :: rest => String.ofList word.reverse :: splitWords [] rest
  | character :: rest => splitWords (character :: word) rest

/-- The command that a text gives. -/
def ofText (text : String) : Command :=
  match splitWords [] text.toList with
  | "/login" :: arguments =>
      let exchange := match arguments.drop 1 with
        | connection :: scopes => some ⟨some connection, scopes⟩
        | [] => none
      login (arguments.head?.getD "") exchange
  | "/logout" :: arguments => logout arguments.head?
  | "/reset" :: arguments => reset arguments.head?
  | "/set" :: arguments => set (arguments.head?.getD "") (arguments.drop 1).head?
  | "/del" :: arguments => remove (arguments.head?.getD "")
  | "/setfail" :: arguments => setAndFail (arguments.head?.getD "") (arguments.drop 1).head?
  | "/say" :: _ => say (String.ofList (text.toList.drop 5))
  | _ => nothing

/-- Carries a command out. -/
def perform (auth : Authenticator Stage) (turn : Turn) : Command → TurnAction Stage Unit
  | login handler exchange => auth.signIn Stage.services turn handler exchange
  | logout handler => auth.signOut Stage.services turn handler
  | reset handler => auth.reset Stage.services turn handler
  | set name value =>
      TurnAction.modifyState fun state => state.set name ((value.map Json.str).getD .null)
  | remove name => TurnAction.modifyState fun state => state.remove name
  | setAndFail name value => do
      TurnAction.modifyState fun state => state.set name ((value.map Json.str).getD .null)
      throw (.handlerFailed "app failed")
  | say text => TurnAction.sendText Stage.services turn text
  | nothing => pure ()

end Command

/-- The application: it records the text and the user's token for the default handler, and obeys. -/
def application (auth : Authenticator Stage) (turn : Turn) : TurnAction Stage Unit := do
  let token := Authenticator.cachedToken (← get).world turn auth.defaultHandler
  TurnAction.ofHost (Stage.log (.application turn.activity.text token turn.redelivered))
  match turn.activity.text with
  | some text => (Command.ofText text).perform auth turn
  | none => pure ()

end SignInFlow.Rehearsal

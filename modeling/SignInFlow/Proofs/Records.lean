import SignInFlow.Authenticator.Explicit
import SignInFlow.Proofs.Codec

/-!
# Records survive a store

Every kind of record that is stored or sent is read back as it was written, activities settled.
What has been read once, from whatever value, is settled already, so that writing it and reading it
again changes nothing any more.
-/

namespace SignInFlow

variable {α β : Type}

/-- A kind of record survives a store: what is written is read back settled, and what has been read
from any value is read back as it is. -/
structure Restores (encode : α → Json) (decode : Json → Decoded α) (settle : α → α) : Prop where
  written : ∀ value, decode (encode value) = .ok (settle value)
  read : ∀ json value, decode json = .ok value → decode (encode value) = .ok value

theorem Restores.of_settled {encode : α → Json} {decode : Json → Decoded α} {settle : α → α}
    (written : ∀ value, decode (encode value) = .ok (settle value))
    (settled : ∀ json value, decode json = .ok value → settle value = value) :
    Restores encode decode settle where
  written := written
  read := by
    intro json value reads
    rw [written, settled json value reads]

/-- A record that is read back as it was written survives a store. -/
theorem Restores.of_exact {encode : α → Json} {decode : Json → Decoded α}
    (written : ∀ value, decode (encode value) = .ok value) : Restores encode decode id :=
  .of_settled written fun _ _ _ => rfl

theorem Decoded.of_bind {read : Decoded α} {next : α → Decoded β} {result : β}
    (reads : (read >>= next) = .ok result) :
    ∃ value, read = .ok value ∧ next value = .ok result := by
  cases read with
  | ok value => exact ⟨value, rfl, reads⟩
  | error mismatch => cases reads

/-! ## What is read is settled -/

/-- A `null` is read as no payload. -/
theorem Record.optional_ne_null {record : Record} {name : String} {content : Option Json}
    (reads : record.optional .ok name = .ok content) : content ≠ some .null := by
  rintro rfl
  unfold Record.optional at reads
  split at reads
  · cases reads
  · cases reads
  · rename_i value solid _
    cases reads
    exact solid rfl

theorem Record.of_required {record : Record} {decode : Json → Decoded α} {name : String} {value : α}
    (reads : record.required decode name = .ok value) : ∃ content, decode content = .ok value := by
  unfold Record.required at reads
  split at reads
  · exact ⟨_, reads⟩
  · cases reads

theorem Activity.settled_of_ne_null {activity : Activity} (solid : activity.value ≠ some .null) :
    activity.settled = activity := by
  unfold Activity.settled
  split
  · rename_i null
    exact absurd null solid
  · rfl

theorem Activity.settled_of_ofJson {json : Json} {activity : Activity}
    (reads : Activity.ofJson json = .ok activity) : activity.settled = activity := by
  obtain ⟨record, -, fields⟩ := Decoded.of_bind reads
  obtain ⟨id, -, fields⟩ := Decoded.of_bind fields
  obtain ⟨kind, -, fields⟩ := Decoded.of_bind fields
  obtain ⟨name, -, fields⟩ := Decoded.of_bind fields
  obtain ⟨text, -, fields⟩ := Decoded.of_bind fields
  obtain ⟨value, payload, fields⟩ := Decoded.of_bind fields
  obtain ⟨channel, -, fields⟩ := Decoded.of_bind fields
  obtain ⟨sender, -, fields⟩ := Decoded.of_bind fields
  obtain ⟨recipient, -, fields⟩ := Decoded.of_bind fields
  obtain ⟨conversation, -, fields⟩ := Decoded.of_bind fields
  obtain ⟨timestamp, -, fields⟩ := Decoded.of_bind fields
  cases fields
  exact Activity.settled_of_ne_null (Record.optional_ne_null payload)

/-- A completion event as it comes back from a store. -/
def Completion.settled (event : Completion) : Completion :=
  { event with initiating := event.initiating.settled }

theorem Completion.settled_of_ofJson {json : Json} {event : Completion}
    (reads : Completion.ofJson json = .ok event) : event.settled = event := by
  obtain ⟨record, -, fields⟩ := Decoded.of_bind reads
  obtain ⟨handler, -, fields⟩ := Decoded.of_bind fields
  obtain ⟨response, -, fields⟩ := Decoded.of_bind fields
  obtain ⟨initiating, activity, fields⟩ := Decoded.of_bind fields
  obtain ⟨connection, -, fields⟩ := Decoded.of_bind fields
  obtain ⟨scopes, -, fields⟩ := Decoded.of_bind fields
  cases fields
  obtain ⟨content, decodes⟩ := Record.of_required activity
  have same : initiating.settled = initiating := Activity.settled_of_ofJson decodes
  simp only [Completion.settled, same]

theorem Banked.settled_of_ofJson {json : Json} {banked : Banked}
    (reads : Banked.ofJson json = .ok banked) : banked.settled = banked := by
  obtain ⟨record, -, fields⟩ := Decoded.of_bind reads
  obtain ⟨isActivity, -, fields⟩ := Decoded.of_bind fields
  cases isActivity with
  | true =>
      obtain ⟨trigger, activity, fields⟩ := Decoded.of_bind fields
      cases fields
      obtain ⟨content, decodes⟩ := Record.of_required activity
      exact congrArg Banked.activity (Activity.settled_of_ofJson decodes)
  | false =>
      obtain ⟨event, completion, fields⟩ := Decoded.of_bind fields
      cases fields
      obtain ⟨content, decodes⟩ := Record.of_required completion
      exact congrArg Banked.completion (Completion.settled_of_ofJson decodes)

/-! ## What is written is read -/

/-- Scopes are left out where there are none, and read as none where they are left out. -/
theorem Exchange.ofJson_toJson (exchange : Exchange) :
    Exchange.ofJson exchange.toJson = .ok exchange := by
  have distinct : ["connectionName", "scopes"].Nodup := by decide
  obtain ⟨connection, scopes⟩ := exchange
  refine Decoded.bind_eq (Json.record_object _ _ _) ?_
  refine Decoded.bind_eq (Record.optional_object connection (by exact distinct) (by simp)
    Json.str_ne_null Json.text_str) ?_
  rw [Option.map_id']
  cases scopes with
  | nil => cases connection <;> rfl
  | cons scope rest =>
      refine Decoded.bind_eq (Record.present_object (by exact distinct) (by simp)
        (Json.textList_texts (scope :: rest))) ?_
      rfl

/-- The event that a completion event is sent as carries it. -/
theorem Authenticator.completionOf_toActivity (event : Completion) (eventName : String) :
    completionOf (event.toActivity eventName) = .ok event.settled := by
  change Except.mapError _ (Completion.ofJson event.toJson) = _
  rw [Completion.ofJson_toJson]
  rfl

/-- Every kind of record that is stored or sent survives it: activities, responses, exchange
parameters, completion events and what is banked are read back as they were written, but for an
explicit `null` payload, which is no payload afterwards.  What is read from any value at all, in
whatever form, is read back exactly.  And the event activity that a completion event is sent as
carries it, whatever the name of the event. -/
theorem records_survive :
    Restores Activity.toJson Activity.ofJson Activity.settled ∧
      Restores Response.toJson Response.ofJson id ∧
      Restores Exchange.toJson Exchange.ofJson id ∧
      Restores Completion.toJson Completion.ofJson Completion.settled ∧
      Restores Banked.toJson Banked.ofJson Banked.settled ∧
      ∀ (event : Completion) (eventName : String),
        Authenticator.completionOf (event.toActivity eventName) = .ok event.settled := by
  refine ⟨?_, ?_, ?_, ?_, ?_, ?_⟩
  · exact .of_settled Activity.ofJson_toJson fun _ _ => Activity.settled_of_ofJson
  · exact .of_exact Response.ofJson_toJson
  · exact .of_exact Exchange.ofJson_toJson
  · exact .of_settled Completion.ofJson_toJson fun _ _ => Completion.settled_of_ofJson
  · exact .of_settled Banked.ofJson_toJson fun _ _ => Banked.settled_of_ofJson
  · exact Authenticator.completionOf_toActivity

end SignInFlow

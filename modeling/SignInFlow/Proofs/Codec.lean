import SignInFlow.Completion
import SignInFlow.Proofs.Timestamp

/-!
# Records are read as they are written

An object leaves out the fields without a value, and a record finds the others by their names. So
each kind of record that is stored is read back as it was written, activities settled.
-/

namespace SignInFlow

variable {α β : Type}

/-! ## Fields -/

namespace Json

/-- A field of an object is found under its name, and one without a value is not. -/
theorem lookup_fields_object {fields : List (String × Option Json)}
    (distinct : (fields.map Prod.fst).Nodup) {name : String} {value : Option Json}
    (field : (name, value) ∈ fields) : List.lookup name (object fields).fields = value := by
  induction fields with
  | nil => cases field
  | cons first rest ih =>
      obtain ⟨other, content⟩ := first
      have fresh := (List.nodup_cons.mp distinct).1
      have restDistinct := (List.nodup_cons.mp distinct).2
      have absent : List.lookup other (object rest).fields = none := by
        rw [List.lookup_eq_none_iff]
        intro entry member
        obtain ⟨source, listed, given⟩ := List.mem_filterMap.mp member
        obtain ⟨_, -, rfl⟩ := Option.map_eq_some_iff.mp given
        simp only [bne_iff_ne, ne_eq]
        intro same
        exact fresh (List.mem_map.mpr ⟨source, listed, same.symm⟩)
      rcases List.mem_cons.mp field with same | later
      · cases same
        cases value with
        | none => exact absent
        | some value => simp [object, Json.fields]
      · have away : (name == other) = false := by
          simp only [beq_eq_false_iff_ne, ne_eq]
          intro same
          exact fresh (List.mem_map.mpr ⟨(name, value), later, same⟩)
        cases content with
        | none => exact ih restDistinct later
        | some content =>
            change List.lookup name ((other, content) :: (object rest).fields) = value
            rw [List.lookup_cons, away]
            exact ih restDistinct later

theorem record_object (expected : String) (order : List String)
    (fields : List (String × Option Json)) :
    (object fields).record expected order = .ok ⟨(object fields).fields, .missingField⟩ := rfl

end Json

namespace Record

variable {fields : List (String × Option Json)}

theorem required_object (distinct : (fields.map Prod.fst).Nodup) {name : String} {content : Json}
    (field : (name, some content) ∈ fields) {decode : Json → Decoded α} {value : α}
    (reads : decode content = .ok value) :
    required ⟨(Json.object fields).fields, .missingField⟩ decode name = .ok value := by
  simp only [required, Json.lookup_fields_object distinct field, reads]

theorem present_object (distinct : (fields.map Prod.fst).Nodup) {name : String} {content : Json}
    (field : (name, some content) ∈ fields) {decode : Json → Decoded α} {value : α}
    (reads : decode content = .ok value) :
    present ⟨(Json.object fields).fields, .missingField⟩ decode name = .ok (some value) := by
  simp only [present, Json.lookup_fields_object distinct field, reads]
  rfl

/-- An optional field reads as its content does, as long as no content is written as `null`. -/
theorem optional_object (content : Option α) (distinct : (fields.map Prod.fst).Nodup)
    {name : String}
    {encode : α → Json} (field : (name, content.map encode) ∈ fields) {decode : Json → Decoded β}
    {read : α → β} (solid : ∀ value, encode value ≠ .null)
    (reads : ∀ value, decode (encode value) = .ok (read value)) :
    optional ⟨(Json.object fields).fields, .missingField⟩ decode name = .ok (content.map read) := by
  simp only [optional, Json.lookup_fields_object distinct field]
  cases content with
  | none => rfl
  | some value =>
      simp only [Option.map_some]
      split
      · rename_i null
        exact absurd (Option.some.inj null) (solid value)
      · rename_i none
        cases none
      · rename_i stored other
        cases other
        rw [reads]
        rfl

end Record

/-! ## The records of a flow -/

theorem Decoded.bind_eq {read : Decoded α} {value : α} {next : α → Decoded β} {result : Decoded β}
    (reads : read = .ok value) (rest : next value = result) : (read >>= next) = result := by
  rw [reads]
  exact rest

theorem Decoded.discard_eq {read : Decoded α} {value : α} (reads : read = .ok value) :
    (discard read : Decoded PUnit) = .ok () := by
  rw [reads]
  rfl

@[simp] theorem Json.text_str (value : String) : Json.text (.str value) = .ok value := rfl

theorem Json.str_ne_null (value : String) : Json.str value ≠ .null := Json.noConfusion

theorem Json.object_ne_null (fields : List (String × Option Json)) : Json.object fields ≠ .null :=
  Json.noConfusion

theorem Json.textList_texts (values : List String) : (Json.texts values).textList = .ok values := by
  induction values with
  | nil => rfl
  | cons value rest ih =>
      simp only [Json.texts, Json.textList, List.map_cons, List.mapM_cons] at ih ⊢
      rw [Json.text_str]
      exact Decoded.bind_eq rfl (Decoded.bind_eq ih rfl)

theorem ActivityKind.ofJson_name (kind : ActivityKind) :
    ActivityKind.ofJson (.str kind.name) = .ok kind := by
  cases kind <;> rfl

theorem Status.ofJson_name (status : Status) : Status.ofJson (.str status.name) = .ok status := by
  cases status <;> rfl

theorem Cause.ofJson_name (cause : Cause) : Cause.ofJson (.str cause.name) = .ok cause := by
  cases cause <;> rfl

theorem Instant.ofJson_render (instant : Instant) :
    Instant.ofJson (.str instant.render) = .ok instant := by
  simp only [Instant.ofJson, Json.text_str, bind, Except.bind, Instant.parse?_render]
  rfl

theorem Account.ofJson_toJson (account : Account) :
    Account.ofJson account.toJson = .ok account := by
  have distinct : ["id", "name"].Nodup := by decide
  refine Decoded.bind_eq (Json.record_object _ _ _) ?_
  refine Decoded.bind_eq (Record.required_object (by exact distinct) (by simp)
    (Json.text_str account.id)) ?_
  refine Decoded.bind_eq (Record.optional_object account.name (by exact distinct) (by simp)
    Json.str_ne_null Json.text_str) ?_
  rw [Option.map_id']
  rfl

theorem Account.toJson_ne_null (account : Account) : account.toJson ≠ .null := Json.object_ne_null _

theorem Activity.conversationOfJson_toJson (id : String) :
    Activity.conversationOfJson (Activity.conversationToJson id) = .ok id := rfl

/-- An explicit `null` reads as no payload. -/
theorem Activity.optional_value {fields : List (String × Option Json)}
    (activity : Activity) (distinct : (fields.map Prod.fst).Nodup)
    (field : ("value", activity.value) ∈ fields) :
    Record.optional ⟨(Json.object fields).fields, .missingField⟩ .ok "value" =
      .ok activity.settled.value := by
  simp only [Record.optional, Json.lookup_fields_object distinct field, Activity.settled]
  cases stored : activity.value with
  | none => simp [stored]
  | some value => cases value <;> simp [stored] <;> rfl

/-- An activity is read back settled. -/
theorem Activity.ofJson_toJson (activity : Activity) :
    Activity.ofJson activity.toJson = .ok activity.settled := by
  have distinct : ["channelId", "conversation", "from", "id", "name", "recipient", "text",
    "timestamp", "type", "value"].Nodup := by decide
  refine Decoded.bind_eq (Json.record_object _ _ _) ?_
  refine Decoded.bind_eq (Record.optional_object activity.id (by exact distinct) (by simp)
    Json.str_ne_null Json.text_str) ?_
  refine Decoded.bind_eq (Record.required_object (by exact distinct) (by simp)
    (ActivityKind.ofJson_name activity.kind)) ?_
  refine Decoded.bind_eq (Record.optional_object activity.name (by exact distinct) (by simp)
    Json.str_ne_null Json.text_str) ?_
  refine Decoded.bind_eq (Record.optional_object activity.text (by exact distinct) (by simp)
    Json.str_ne_null Json.text_str) ?_
  refine Decoded.bind_eq (Activity.optional_value activity (by exact distinct) (by simp)) ?_
  refine Decoded.bind_eq (Record.required_object (by exact distinct) (by simp)
    (Json.text_str activity.channel)) ?_
  refine Decoded.bind_eq (Record.required_object (by exact distinct) (by simp)
    (Account.ofJson_toJson activity.sender)) ?_
  refine Decoded.bind_eq (Record.optional_object activity.recipient (by exact distinct) (by simp)
    Account.toJson_ne_null Account.ofJson_toJson) ?_
  refine Decoded.bind_eq (Record.required_object (by exact distinct) (by simp)
    (Activity.conversationOfJson_toJson activity.conversation)) ?_
  refine Decoded.bind_eq (Record.optional_object activity.timestamp (by exact distinct)
    (by simp [Function.comp_def]) (fun _ => Json.str_ne_null _) Instant.ofJson_render) ?_
  simp only [Option.map_id']
  unfold Activity.settled
  split <;> rfl

/-- An activity that was read back is read back unchanged. -/
@[simp] theorem Activity.settled_settled (activity : Activity) :
    activity.settled.settled = activity.settled := by
  obtain ⟨id, kind, name, text, value, channel, sender, recipient, conversation, timestamp⟩ :=
    activity
  cases value with
  | none => rfl
  | some value => cases value <;> rfl

theorem Response.toJson_ne_null (response : Response) : response.toJson ≠ .null :=
  Json.object_ne_null _

theorem Response.ofJson_toJson (response : Response) :
    Response.ofJson response.toJson = .ok response := by
  have distinct : ["cause", "error", "status", "token"].Nodup := by decide
  change Response.ofNamedRecord ⟨response.toJson.fields, .missingField⟩ = _
  refine Decoded.bind_eq (Record.optional_object response.cause (by exact distinct) (by simp)
    (fun _ => Json.str_ne_null _) Cause.ofJson_name) ?_
  refine Decoded.bind_eq (Record.optional_object response.error (by exact distinct) (by simp)
    Json.str_ne_null Json.text_str) ?_
  refine Decoded.bind_eq (Decoded.discard_eq (Record.present_object (by exact distinct) (by simp)
    (Status.ofJson_name response.status))) ?_
  refine Decoded.bind_eq (Record.optional_object response.token (by exact distinct) (by simp)
    Json.str_ne_null Json.text_str) ?_
  refine Decoded.bind_eq (Record.required_object (by exact distinct) (by simp)
    (Status.ofJson_name response.status)) ?_
  simp only [Option.map_id']
  rfl

theorem Completion.ofJson_toJson (event : Completion) :
    Completion.ofJson event.toJson = .ok { event with initiating := event.initiating.settled } := by
  have distinct : ["exchangeConnectionName", "exchangeScopes", "handlerName", "initiatingActivity",
    "response"].Nodup := by decide
  refine Decoded.bind_eq (Json.record_object _ _ _) ?_
  refine Decoded.bind_eq (Record.required_object (by exact distinct) (by simp)
    (Json.text_str event.handler)) ?_
  refine Decoded.bind_eq (Record.optional_object event.response (by exact distinct) (by simp)
    Response.toJson_ne_null Response.ofJson_toJson) ?_
  refine Decoded.bind_eq (Record.required_object (by exact distinct) (by simp)
    (Activity.ofJson_toJson event.initiating)) ?_
  refine Decoded.bind_eq (Record.optional_object event.connection (by exact distinct) (by simp)
    Json.str_ne_null Json.text_str) ?_
  refine Decoded.bind_eq (Record.optional_object event.scopes (by exact distinct) (by simp)
    (fun _ => Json.noConfusion) Json.textList_texts) ?_
  simp only [Option.map_id']
  rfl

/-- What is banked, as it comes back from a store. -/
def Banked.settled : Banked → Banked
  | .activity trigger => .activity trigger.settled
  | .completion event => .completion { event with initiating := event.initiating.settled }

theorem Banked.ofJson_toJson (banked : Banked) :
    Banked.ofJson banked.toJson = .ok banked.settled := by
  cases banked with
  | activity trigger =>
      refine Decoded.bind_eq rfl ?_
      refine Decoded.bind_eq rfl ?_
      exact Decoded.bind_eq (Activity.ofJson_toJson trigger) rfl
  | completion event =>
      refine Decoded.bind_eq rfl ?_
      refine Decoded.bind_eq rfl ?_
      exact Decoded.bind_eq (Completion.ofJson_toJson event) rfl

end SignInFlow

import GraphBind.Proofs.Answer.Wording
import GraphBind.Proofs.Session.Escaping
import GraphBind.Proofs.Session.SavedSchema

/-!
# Where errors come from

Making a provider and binding a query go through the same exchange, so what a service does with
their request comes to one of three replies (`Outcome.Replies`): nothing that can be used, a report
of errors, or an object without any. What is looked at first decides: the status before the body,
and `errors` before everything beside it. `Provider.Ends` and `BoundQuery.Ends` say what either
operation ends with for each reply, and in the case of an error, what it comes from and which
errors of the service it carries. `provenance` says that they do end so, after one request.
-/

namespace GraphBind

/-! ## Replies -/

/-- A reply, as far as replies are told apart. -/
inductive Reply where
  | unusable
  | reported (errors : Json)
  | answered (members : List (Text × Json))

/-- That the outcome of a request is a reply. -/
inductive Outcome.Replies : Outcome → Reply → Prop where
  | unanswered (reason : String) : Replies (.unanswered reason) .unusable
  | status {status : Nat} (body : List UInt8) (h : status < 200 ∨ 299 < status) :
    Replies (.response status body) .unusable
  | notADocument {status : Nat} {body : List UInt8} (hlow : 200 ≤ status) (hhigh : status ≤ 299)
    (hbody : Json.ofBytes? body = none) : Replies (.response status body) .unusable
  | notAnObject {status : Nat} {body : List UInt8} {d : Json} (hlow : 200 ≤ status)
    (hhigh : status ≤ 299) (hbody : Json.ofBytes? body = some d)
    (hd : ∀ members, d ≠ .object members) : Replies (.response status body) .unusable
  | reported {status : Nat} {body : List UInt8} {members : List (Text × Json)} {errors : Json}
    (hlow : 200 ≤ status) (hhigh : status ≤ 299)
    (hbody : Json.ofBytes? body = some (.object members))
    (herrors : Entries.get? (Text.ofString "errors") members = some errors) :
    Replies (.response status body) (.reported errors)
  | answered {status : Nat} {body : List UInt8} {members : List (Text × Json)}
    (hlow : 200 ≤ status) (hhigh : status ≤ 299)
    (hbody : Json.ofBytes? body = some (.object members))
    (herrors : Text.ofString "errors" ∉ Entries.keys members) :
    Replies (.response status body) (.answered members)

/-- That the request for a content is made and sent, and that the client comes back with a response
to it or with an error of the exchange. -/
structure Connection.Exchanges (c : Connection) (content : Content) (o : Outcome) (r : Request) :
    Prop where
  made : Request.make c content = .ok r
  ended : (∃ reason, o = .unanswered reason) ∨
    r.url.isAbsolute = true ∧ ∃ status body, o = .response status body

theorem isSuccess_iff {status : Nat} : isSuccess status = true ↔ 200 ≤ status ∧ status ≤ 299 := by
  simp [isSuccess]

namespace Outcome

variable {o : Outcome} {c : Connection} {content : Content} {r : Request} {reply : Reply}

/-- Every response replies in one of the ways, by its status first and its body second. -/
theorem exists_replies_response (status : Nat) (body : List UInt8) :
    ∃ reply, (response status body).Replies reply := by
  by_cases hstatus : status < 200 ∨ 299 < status
  · exact ⟨_, .status body hstatus⟩
  · have hlow : 200 ≤ status := by omega
    have hhigh : status ≤ 299 := by omega
    cases hbody : Json.ofBytes? body with
    | none => exact ⟨_, .notADocument hlow hhigh hbody⟩
    | some d =>
      cases d with
      | object members =>
        by_cases hkey : Text.ofString "errors" ∈ Entries.keys members
        · obtain ⟨errors, herrors⟩ := Entries.exists_get? hkey
          exact ⟨_, .reported hlow hhigh hbody herrors⟩
        · exact ⟨_, .answered hlow hhigh hbody hkey⟩
      | null => exact ⟨_, .notAnObject hlow hhigh hbody (by simp)⟩
      | scalar s => exact ⟨_, .notAnObject hlow hhigh hbody (by simp)⟩
      | array items => exact ⟨_, .notAnObject hlow hhigh hbody (by simp)⟩

theorem exists_replies (h : c.Exchanges content o r) : ∃ reply, o.Replies reply := by
  rcases h.ended with ⟨reason, rfl⟩ | ⟨-, status, body, rfl⟩
  · exact ⟨_, .unanswered reason⟩
  · exact exists_replies_response status body

theorem document_response {status : Nat} {body : List UInt8}
    (h : c.Exchanges content (response status body) r) :
    (response status body).document r = (r.document status body).mapError .failed := by
  rcases h.ended with ⟨reason, h⟩ | ⟨hurl, -⟩
  · cases h
  · rw [document, if_pos hurl]

theorem document_of_body {status : Nat} {body : List UInt8} {d : Json}
    (h : c.Exchanges content (response status body) r) (hlow : 200 ≤ status)
    (hhigh : status ≤ 299) (hbody : Json.ofBytes? body = some d) :
    (response status body).document r = .ok d := by
  rw [document_response h, Request.document, if_pos (isSuccess_iff.mpr ⟨hlow, hhigh⟩), hbody]
  rfl

/-- An unusable reply gives no document, or one that is no object. -/
theorem document_of_unusable (he : c.Exchanges content o r) (h : o.Replies .unusable) :
    (∃ t, o.document r = .error (.failed t)) ∨
      ∃ d, o.document r = .ok d ∧ ∀ members, d ≠ .object members := by
  cases h with
  | unanswered reason => exact .inl ⟨_, rfl⟩
  | status body hstatus =>
    rw [document_response he, Request.document, if_neg (mt isSuccess_iff.mp (by omega))]
    exact .inl ⟨_, rfl⟩
  | notADocument hlow hhigh hbody =>
    rw [document_response he, Request.document, if_pos (isSuccess_iff.mpr ⟨hlow, hhigh⟩), hbody]
    exact .inl ⟨_, rfl⟩
  | notAnObject hlow hhigh hbody hd =>
    exact .inr ⟨_, document_of_body he hlow hhigh hbody, hd⟩

theorem document_of_reported {errors : Json} (he : c.Exchanges content o r)
    (h : o.Replies (.reported errors)) : ∃ members, o.document r = .ok (.object members) ∧
      Entries.get? (Text.ofString "errors") members = some errors := by
  cases h with
  | reported hlow hhigh hbody herrors => exact ⟨_, document_of_body he hlow hhigh hbody, herrors⟩

theorem document_of_answered {members : List (Text × Json)} (he : c.Exchanges content o r)
    (h : o.Replies (.answered members)) : o.document r = .ok (.object members) ∧
      Entries.get? (Text.ofString "errors") members = none := by
  cases h with
  | answered hlow hhigh hbody herrors =>
    exact ⟨document_of_body he hlow hhigh hbody, Entries.get?_eq_none herrors⟩

end Outcome

/-! ## Errors -/

namespace CompilationError

/-- An error that comes from the failure to get a usable document. -/
structure FromTransport (e : CompilationError) : Prop where
  cause : ∃ t, e.cause? = some (.service (.transport t))
  reported : e.reported = .details []

/-- An error that comes from no other and carries no errors of the service. -/
structure OfItsOwn (e : CompilationError) : Prop where
  cause : e.cause? = none
  reported : e.reported = .details []

end CompilationError

/-! ## Making a provider -/

/-- That the answer to an introspection holds the members of a schema: in its data, or by itself if
it has none. -/
inductive Schema.HeldBy (members : List (Text × Json)) : List (Text × Json) → Prop where
  | data {data schema : List (Text × Json)}
    (hdata : Entries.get? (Text.ofString "data") members = some (.object data))
    (hschema : Entries.get? (Text.ofString "__schema") data = some (.object schema)) :
    HeldBy members schema
  | bare {schema : List (Text × Json)} (hdata : Text.ofString "data" ∉ Entries.keys members)
    (hschema : Entries.get? (Text.ofString "__schema") members = some (.object schema)) :
    HeldBy members schema

/-- What making a provider ends with. -/
inductive Provider.Ends (c : Connection) (known : NativeScalars) :
    Reply → Except (Failure CompilationError) Provider → Prop where
  | unusable {e : CompilationError} (he : e.FromTransport) :
    Ends c known .unusable (.error (.failed e))
  | reported {errors : Json} {e : CompilationError}
    (hcause : e.cause? = some (.service (.reported errors))) (herrors : e.reported = .raw errors) :
    Ends c known (.reported errors) (.error (.failed e))
  | noSchema {members : List (Text × Json)} {e : CompilationError}
    (hnone : ∀ schema, ¬Schema.HeldBy members schema) (he : e.FromTransport) :
    Ends c known (.answered members) (.error (.failed e))
  | malformed {members schema : List (Text × Json)} {fault : Introspection.SchemaFault}
    {e : CompilationError} (hschema : Schema.HeldBy members schema)
    (hfault : Schema.ofMembers schema = .error fault) (he : e.FromTransport) :
    Ends c known (.answered members) (.error (.failed e))
  | uncompiled {members schema : List (Text × Json)} {s : Schema} {fault : CompileError}
    {e : CompilationError} (hschema : Schema.HeldBy members schema)
    (hs : Schema.ofMembers schema = .ok s) (hfault : s.compile known false = .error fault)
    (he : e.OfItsOwn) : Ends c known (.answered members) (.error (.failed e))
  | made {members schema : List (Text × Json)} {s : Schema} {registry : Registry}
    (hschema : Schema.HeldBy members schema) (hs : Schema.ofMembers schema = .ok s)
    (hregistry : s.compile known false = .ok registry) :
    Ends c known (.answered members) (.ok ⟨registry, c⟩)

namespace Schema

variable {c : Connection} {σ : Service} {r : Request} {members schema : List (Text × Json)}

theorem object_of_match {found : Option Json}
    (h : (match found with
      | some (.object members) => some members
      | _ => none) = some schema) : found = some (.object schema) := by
  split at h
  · cases h
    rfl
  · cases h

/-- The schema of a response stands in `data`, or at the top where there is no `data`. -/
theorem membersOfResponse?_eq_some_iff :
    membersOfResponse? members = some schema ↔ HeldBy members schema := by
  constructor
  · intro h
    unfold membersOfResponse? at h
    cases hdata : Entries.get? (Text.ofString "data") members with
    | none =>
      rw [hdata] at h
      refine .bare ?_ (object_of_match h)
      intro hkey
      obtain ⟨d, hd⟩ := Entries.exists_get? hkey
      rw [hdata] at hd
      cases hd
    | some d =>
      rw [hdata] at h
      cases d with
      | object data => exact .data hdata (object_of_match h)
      | null => cases h
      | scalar s => cases h
      | array items => cases h
  · intro h
    unfold membersOfResponse?
    cases h with
    | data hdata hschema =>
      rw [hdata]
      dsimp only [Option.getD_some]
      rw [hschema]
    | bare hdata hschema =>
      rw [Entries.get?_eq_none hdata]
      dsimp only [Option.getD_none]
      rw [hschema]

/-- What an object without reported errors is read as, by the schema that it holds or not. -/
theorem ofResponse_object (herrors : Entries.get? (Text.ofString "errors") members = none) :
    ofResponse (.object members) =
      (membersOfResponse? members).elim (.error (.transport .noSchema)) fun schema =>
        (ofMembers schema).mapError fun fault => .transport (.malformed fault) := by
  unfold ofResponse
  simp only [herrors]
  cases membersOfResponse? members with
  | none => rfl
  | some schema => rfl

/-- Fetching reads the schema out of the document of the next outcome. -/
theorem runOn_fetch (hr : Request.make c .introspection = .ok r) :
    ((fetch c).runOn σ).1 = match (σ.outcomeAt 0).document r with
      | .ok d => (ofResponse d).mapError .failed
      | .error e => .error (e.map .transport) := by
  rw [fetch, Dialogue.runOn_bind, Dialogue.runOn_mapFailure, Connection.runOn_ask, hr]
  dsimp only
  cases (σ.outcomeAt 0).document r with
  | error e => rfl
  | ok d =>
    change ((Dialogue.ofExcept ((ofResponse d).mapError .failed)).runOn (σ.receive [r])).1 = _
    rw [Dialogue.runOn_ofExcept]

end Schema

namespace Provider

variable {c : Connection} {known : NativeScalars} {files : FileTree} {σ : Service} {r : Request}
  {reply : Reply}

/-- Creating a provider goes on with the schema that is fetched. -/
theorem runOn_create_fetched : ((create c known files none).runOn σ).1 =
    match ((Schema.fetch c).runOn σ).1 with
    | .error e => .error (e.map (.noSchema c.url))
    | .ok s => match s.compile known false with
      | .ok registry => .ok ⟨registry, c⟩
      | .error fault => .error (.failed (.schema fault)) := by
  rw [runOn_create_schema, schema]
  rcases (Schema.fetch c).runOn σ with ⟨e | s, σ'⟩
  · rfl
  · dsimp only
    cases s.compile known false with
    | ok registry => rfl
    | error fault => rfl

/-- How an operation ends is decided by how the service replies, one way after the other. -/
theorem ends_of_replies (he : c.Exchanges .introspection (σ.outcomeAt 0) r)
    (h : (σ.outcomeAt 0).Replies reply) :
    Ends c known reply ((create c known files none).runOn σ).1 := by
  rw [runOn_create_fetched, Schema.runOn_fetch he.made]
  have htransport : ∀ t, (CompilationError.noSchema c.url (.transport t)).FromTransport :=
    fun t => ⟨⟨t, rfl⟩, rfl⟩
  cases reply with
  | unusable =>
    rcases Outcome.document_of_unusable he h with ⟨t, ht⟩ | ⟨d, hd, hobject⟩
    · rw [ht]
      exact .unusable (htransport t)
    · rw [hd]
      dsimp only
      rw [Schema.ofResponse_of_ne_object hobject]
      exact .unusable (htransport _)
  | reported errors =>
    obtain ⟨members, hd, herrors⟩ := Outcome.document_of_reported he h
    have hreported := Schema.ofResponse_eq_reported_iff.mpr ⟨members, rfl, herrors⟩
    rw [hd]
    dsimp only
    rw [hreported]
    exact .reported rfl rfl
  | answered members =>
    obtain ⟨hd, herrors⟩ := Outcome.document_of_answered he h
    rw [hd]
    dsimp only
    rw [Schema.ofResponse_object herrors]
    cases hmembers : Schema.membersOfResponse? members with
    | none =>
      rw [Option.elim_none]
      refine .noSchema ?_ (htransport _)
      intro schema hschema
      rw [Schema.membersOfResponse?_eq_some_iff.mpr hschema] at hmembers
      cases hmembers
    | some schema =>
      have hschema := Schema.membersOfResponse?_eq_some_iff.mp hmembers
      rw [Option.elim_some]
      cases hs : Schema.ofMembers schema with
      | error fault => exact .malformed hschema hs (htransport _)
      | ok s =>
        dsimp only [Except.mapError]
        cases hregistry : s.compile known false with
        | ok registry => exact .made hschema hs hregistry
        | error fault => exact .uncompiled hschema hs hregistry ⟨rfl, rfl⟩

end Provider

/-! ## Binding a query -/

/-- What binding a text ends with. -/
inductive BoundQuery.Ends (c : Connection) (text : String) :
    Reply → Except (Failure CompilationError) BoundQuery → Prop where
  | unusable {e : CompilationError} (he : e.FromTransport) :
    Ends c text .unusable (.error (.failed e))
  | rejected {errors : Json} {e : CompilationError} (hcause : e.cause? = none)
    (herrors : e.reported = .details
      ((ServiceError.entriesOf errors).map fun entry => .ofValue (Value.ofJson entry))) :
    Ends c text (.reported errors) (.error (.failed e))
  | bound {members : List (Text × Json)} (name : Option String) :
    Ends c text (.answered members) (.ok ⟨text, c, name⟩)

namespace Connection

variable {c : Connection} {text : String} {given : Option String} {σ : Service} {r : Request}
  {reply : Reply}

/-- Binding a query with a name goes on with the answer to its preflight. -/
theorem runOn_bind_named {parsed : Option String}
    (hname : BoundQuery.checkedName text = .ok parsed) :
    ((c.bind text given).runOn σ).1 = match ((c.execute text).runOn σ).1 with
      | .error e => .error (e.map (.preflight (BoundQuery.chooseName given parsed)))
      | .ok answer => (BoundQuery.judge c text (BoundQuery.chooseName given parsed)
          answer).mapError .failed := by
  unfold bind
  rw [Dialogue.runOn_bind, Dialogue.runOn_ofExcept, hname]
  dsimp only
  rw [Dialogue.runOn_bind, Dialogue.runOn_mapFailure]
  cases ((c.execute text).runOn σ).1 with
  | error e => rfl
  | ok answer =>
    change ((Dialogue.ofExcept _).runOn _).1 = _
    rw [Dialogue.runOn_ofExcept]

theorem ends_of_replies (hdocument : Query.isDocument text = true)
    (he : c.Exchanges (.query text) (σ.outcomeAt 0) r) (h : (σ.outcomeAt 0).Replies reply) :
    BoundQuery.Ends c text reply ((c.bind text given).runOn σ).1 := by
  obtain ⟨parsed, hname⟩ := exists_checkedName_iff.mpr hdocument
  rw [runOn_bind_named hname, runOn_execute_of_make he.made]
  dsimp only
  have htransport : ∀ name t, (CompilationError.preflight name t).FromTransport :=
    fun name t => ⟨⟨t, rfl⟩, rfl⟩
  cases reply with
  | unusable =>
    rcases Outcome.document_of_unusable he h with ⟨t, ht⟩ | ⟨d, hd, hobject⟩
    · rw [Request.answer, ht]
      exact .unusable (htransport _ t)
    · rw [Request.answer_of_document hd, Answer.ofJson_of_ne_object hobject]
      exact .unusable (htransport _ _)
  | reported errors =>
    obtain ⟨members, hd, herrors⟩ := Outcome.document_of_reported he h
    rw [Request.answer_of_document hd, Answer.ofJson_object, herrors]
    exact .rejected rfl rfl
  | answered members =>
    obtain ⟨hd, herrors⟩ := Outcome.document_of_answered he h
    rw [Request.answer_of_document hd, Answer.ofJson_object, herrors]
    exact .bound _

end Connection

/-! ## Both operations -/

/-- **The provenance of errors.** Where the client comes back with a response or an error of the
exchange, making a provider from a service has sent one GET, and binding a document one POST. What
came back is a reply, and the operation ends as that says. -/
theorem provenance (c : Connection) (known : NativeScalars) (files : FileTree) (σ : Service) :
    (∀ r, c.Exchanges .introspection (σ.outcomeAt 0) r →
      ((Provider.create c known files none).runOn σ).2 = σ.receive [r] ∧ r.method = .get ∧
      (∃ reply, (σ.outcomeAt 0).Replies reply) ∧
      ∀ reply, (σ.outcomeAt 0).Replies reply →
        Provider.Ends c known reply ((Provider.create c known files none).runOn σ).1) ∧
    ∀ text given r, Query.isDocument text = true →
      c.Exchanges (.query text) (σ.outcomeAt 0) r →
      ((c.bind text given).runOn σ).2 = σ.receive [r] ∧ r.method = .post ∧
      (∃ reply, (σ.outcomeAt 0).Replies reply) ∧
      ∀ reply, (σ.outcomeAt 0).Replies reply →
        BoundQuery.Ends c text reply ((c.bind text given).runOn σ).1 := by
  constructor
  · intro r he
    obtain ⟨-, hcontent, -⟩ := Request.make_eq_ok he.made
    refine ⟨?_, by rw [Request.method, hcontent], Outcome.exists_replies he, ?_⟩
    · rw [Provider.runOn_create, Connection.introspections, Connection.requests_of_ok he.made]
    · intro reply h
      exact Provider.ends_of_replies he h
  · intro text given r hdocument he
    obtain ⟨-, hcontent, -⟩ := Request.make_eq_ok he.made
    refine ⟨?_, by rw [Request.method, hcontent], Outcome.exists_replies he, ?_⟩
    · rw [Connection.runOn_bind, Act.requests_bind hdocument, Connection.requests_of_ok he.made]
    · intro reply h
      exact Connection.ends_of_replies hdocument he h

/-- A failure whose body is an introspection all the same. -/
def failingService : Service := .ofOutcomes [.response 500 (Text.Utf8.encode Schema.mixedLines)]

/-- The status of a failure decides for either operation. -/
theorem provenance_failingService :
    (∃ e, ((Provider.create Connection.plainConnection [] ⟨[]⟩ none).runOn failingService).1 =
      .error (.failed e) ∧ e.FromTransport) ∧
    ∃ e, ((Connection.plainConnection.bind "\x7b a \x7d" none).runOn failingService).1 =
      .error (.failed e) ∧ e.FromTransport := by
  have hprovenance := provenance Connection.plainConnection [] ⟨[]⟩ failingService
  have hreply : (failingService.outcomeAt 0).Replies .unusable := .status _ (by decide)
  constructor
  · obtain ⟨r, hr, hurl⟩ := Connection.make_plainConnection_introspection
    obtain ⟨-, -, -, hends⟩ := hprovenance.1 r ⟨hr, .inr ⟨hurl, 500, _, rfl⟩⟩
    have hunusable := hends .unusable hreply
    generalize ((Provider.create _ _ _ none).runOn _).1 = result at hunusable
    cases hunusable with
    | unusable he => exact ⟨_, rfl, he⟩
  · have hdocument : Query.isDocument "\x7b a \x7d" = true := by cbv
    have habsolute : Connection.plainUrl.isAbsolute = true := by cbv
    have hr := Connection.make_plainConnection none "\x7b a \x7d"
    obtain ⟨-, -, -, hends⟩ := hprovenance.2 "\x7b a \x7d" none _ hdocument
      ⟨hr, .inr ⟨habsolute, 500, _, rfl⟩⟩
    have hunusable := hends .unusable hreply
    generalize ((Connection.bind _ _ _).runOn _).1 = result at hunusable
    cases hunusable with
    | unusable he => exact ⟨_, rfl, he⟩

end GraphBind

import GraphBind.Proofs.Entries
import GraphBind.Proofs.Exchange.Sending
import GraphBind.Session.Provider

/-!
# Preflights

What binding and asking queries sends, and what a bound query shows. Binding one sends its text if
that is a document, and nothing otherwise; the query is bound only if the answer accepts it
(`bind_eq_ok`). Binding several binds one after another up to the first that fails: `attempted` are
the texts that come to be bound, `runOn_bindAll` says what they send, and `bindAll_eq_ok` that every
query was accepted by an answer of its own.
-/

namespace GraphBind

/-- Whether a text is a GraphQL document. -/
def Query.isDocument (text : String) : Bool := (Query.parse text).isOk

/-- An outcome that accepts a query: a response of success with an object that has no `errors`. -/
def Outcome.Accepts (o : Outcome) : Prop :=
  ∃ status body members, o = .response status body ∧ 200 ≤ status ∧ status ≤ 299 ∧
    Json.ofBytes? body = some (.object members) ∧ Text.ofString "errors" ∉ Entries.keys members

/-- That a bound query is one of a connection, and that its text is a document, was sent as the
request in some place and was accepted there. -/
structure BoundQuery.AcceptedAt (c : Connection) (requests : List Request)
    (outcomeAt : Nat → Outcome) (place : Nat) (q : BoundQuery) : Prop where
  connection : q.connection = c
  document : Query.isDocument q.text = true
  sent : ∃ r, requests[place]? = some r ∧ r.content = .query q.text
  outcome : (outcomeAt place).Accepts

namespace BoundQuery.AcceptedAt

variable {c : Connection} {requests : List Request} {outcomeAt : Nat → Outcome} {place : Nat}
  {q : BoundQuery}

/-- Later requests do not take the acceptance back. -/
theorem append (h : q.AcceptedAt c requests outcomeAt place) (later : List Request) :
    q.AcceptedAt c (requests ++ later) outcomeAt place := by
  obtain ⟨r, hr, hcontent⟩ := h.sent
  refine ⟨h.connection, h.document, ⟨r, ?_, hcontent⟩, h.outcome⟩
  rw [List.getElem?_append_left (List.getElem?_eq_some_iff.mp hr).1, hr]

/-- Earlier requests move the place, and with it the outcomes. -/
theorem behind {σ : Service} {before : List Request}
    (h : q.AcceptedAt c requests (σ.receive before).outcomeAt place) :
    q.AcceptedAt c (before ++ requests) σ.outcomeAt (before.length + place) := by
  obtain ⟨r, hr, hcontent⟩ := h.sent
  have houtcome := h.outcome
  rw [Service.outcomeAt_receive] at houtcome
  refine ⟨h.connection, h.document, ⟨r, ?_, hcontent⟩, houtcome⟩
  rw [List.getElem?_append_right (Nat.le_add_right ..), Nat.add_sub_cancel_left, hr]

end BoundQuery.AcceptedAt

/-- What a session does with one query. -/
inductive Act where
  | bind (text : String)
  | ask (text : String)
  deriving DecidableEq, Repr

/-- The requests that an act sends. -/
def Act.requests (c : Connection) : Act → List Request
  | bind text => if Query.isDocument text then c.requests (.query text) else []
  | ask text => c.requests (.query text)

namespace Act

variable {c : Connection} {text : String}

theorem requests_bind (h : Query.isDocument text = true) :
    (bind text).requests c = c.requests (.query text) := if_pos h

theorem requests_bind_of_not_isDocument (h : Query.isDocument text = false) :
    (bind text).requests c = [] := if_neg (Bool.eq_false_iff.mp h)

theorem requests_bind_eq_singleton (h : Query.isDocument text = true) (hpost : c.CanPost) :
    ∃ r, (bind text).requests c = [r] ∧ r.content = .query text := by
  obtain ⟨r, hr, -, hcontent⟩ := Connection.requests_query hpost text
  rw [requests_bind h, hr]
  exact ⟨r, rfl, hcontent⟩

end Act

/-! ## Answers -/

/-- An answer with data is an object without a member `errors`. -/
theorem Answer.ofJson_eq_data {d : Json} {v : Value} (h : Answer.ofJson d = .ok (.data v)) :
    ∃ members, d = .object members ∧ Text.ofString "errors" ∉ Entries.keys members := by
  cases d with
  | object members =>
    refine ⟨members, rfl, fun hmem => ?_⟩
    have hkey : Text.ofString "errors" ∈ Entries.keys (Value.ofMembers members) := by
      rw [Value.ofMembers_eq_map]
      unfold Entries.keys at hmem ⊢
      rwa [List.map_map]
    obtain ⟨reported, hreported⟩ := Entries.exists_get? hkey
    unfold Answer.ofJson at h
    rw [Value.ofJson, Answer.ofValue] at h
    rw [hreported] at h
    cases h
  | null => cases h
  | scalar s => cases h
  | array items => cases h

/-- A document comes from a response with a status of success, whose body it is. -/
theorem Outcome.document_eq_ok {o : Outcome} {r : Request} {d : Json}
    (h : o.document r = .ok d) :
    ∃ status body, o = .response status body ∧ 200 ≤ status ∧ status ≤ 299 ∧
      Json.ofBytes? body = some d := by
  cases o with
  | response status body =>
    change (if r.url.isAbsolute then _ else _) = _ at h
    split at h
    · have hdocument := mapError_eq_ok_iff.mp h
      unfold Request.document at hdocument
      dsimp only at hdocument
      split at hdocument
      · next hsuccess =>
        simp only [isSuccess, Bool.and_eq_true, decide_eq_true_eq] at hsuccess
        split at hdocument
        · next d' hbody =>
          cases hdocument
          exact ⟨status, body, rfl, hsuccess.1, hsuccess.2, hbody⟩
        · cases hdocument
      · cases hdocument
    · cases h
  | unanswered reason => cases h
  | invalidUrl message => cases h

/-- The answer that the outcome of a request comes to. -/
def Request.answer (r : Request) (o : Outcome) : Except (Failure TransportError) Answer :=
  (o.document r).bind fun d => (Answer.ofJson d).mapError .failed

theorem Request.answer_of_document {r : Request} {o : Outcome} {d : Json}
    (h : o.document r = .ok d) : r.answer o = (Answer.ofJson d).mapError .failed := by
  rw [answer, h]
  rfl

namespace Connection

variable {c : Connection} {text : String} {given : Option String} {σ : Service}

/-! ## Asking one query -/

/-- A query that can be asked is sent as one request, and its outcome is the answer. -/
theorem runOn_execute_of_make {r : Request} (h : Request.make c (.query text) = .ok r)
    (σ : Service) : (c.execute text).runOn σ = (r.answer (σ.outcomeAt 0), σ.receive [r]) := by
  unfold execute Request.answer
  rw [Dialogue.runOn_bind, runOn_ask, h]
  dsimp only
  cases (σ.outcomeAt 0).document r with
  | error e => rfl
  | ok d => exact Dialogue.runOn_ofExcept _ _

/-- Executing a query sends its request, or none if none can be made. -/
theorem runOn_execute (c : Connection) (text : String) (σ : Service) :
    ((c.execute text).runOn σ).2 = σ.receive (c.requests (.query text)) := by
  unfold execute
  rw [Dialogue.runOn_bind, ← runOn_ask_service]
  rcases (c.ask (.query text)).runOn σ with ⟨_ | d, σ'⟩
  · rfl
  · dsimp only
    rw [Dialogue.runOn_ofExcept]

/-- Data is an answer of success that reports no errors, to a request that was sent. -/
theorem execute_eq_data {v : Value} (h : ((c.execute text).runOn σ).1 = .ok (.data v)) :
    c.CanPost ∧ (σ.outcomeAt 0).Accepts := by
  cases hr : Request.make c (.query text) with
  | error x =>
    rw [execute, Dialogue.runOn_bind, runOn_ask, hr] at h
    cases h
  | ok r =>
    rw [runOn_execute_of_make hr] at h
    dsimp only at h
    cases hd : (σ.outcomeAt 0).document r with
    | error e =>
      rw [Request.answer, hd] at h
      cases h
    | ok d =>
      rw [Request.answer_of_document hd, mapError_eq_ok_iff] at h
      obtain ⟨members, rfl, hmembers⟩ := Answer.ofJson_eq_data h
      obtain ⟨status, body, houtcome, hlow, hhigh, hbody⟩ := Outcome.document_eq_ok hd
      exact ⟨⟨text, r, hr⟩, status, body, members, houtcome, hlow, hhigh, hbody, hmembers⟩

/-! ## Binding one query -/

theorem isDocument_of_checkedName {name : Option String}
    (h : BoundQuery.checkedName text = .ok name) : Query.isDocument text = true := by
  unfold BoundQuery.checkedName Query.operationName at h
  unfold Query.isDocument
  cases hparse : Query.parse text with
  | ok ds => rfl
  | error e =>
    rw [hparse] at h
    cases e <;> cases h

theorem not_isDocument_of_checkedName {e : Failure CompilationError}
    (h : BoundQuery.checkedName text = .error e) : Query.isDocument text = false := by
  unfold BoundQuery.checkedName Query.operationName at h
  unfold Query.isDocument
  cases hparse : Query.parse text with
  | ok ds =>
    rw [hparse] at h
    cases h
  | error e => rfl

/-- Binding sends what the act sends, whatever comes of it. -/
theorem runOn_bind (c : Connection) (text : String) (given : Option String) (σ : Service) :
    ((c.bind text given).runOn σ).2 = σ.receive ((Act.bind text).requests c) := by
  unfold bind
  rw [Dialogue.runOn_bind, Dialogue.runOn_ofExcept]
  cases hname : BoundQuery.checkedName text with
  | error e =>
    rw [Act.requests_bind_of_not_isDocument (not_isDocument_of_checkedName hname),
      Service.receive_nil]
  | ok name =>
    dsimp only
    rw [Act.requests_bind (isDocument_of_checkedName hname), Dialogue.runOn_bind,
      Dialogue.runOn_mapFailure, ← runOn_execute]
    rcases (c.execute text).runOn σ with ⟨_ | answer, σ'⟩
    · rfl
    · change (Dialogue.runOn _ σ').2 = σ'
      rw [Dialogue.runOn_ofExcept]

/-- A query is bound if its text is checked and the answer to it is data, and only then. -/
theorem runOn_bind_eq_ok_iff {q : BoundQuery} : ((c.bind text given).runOn σ).1 = .ok q ↔
    ∃ parsed v, BoundQuery.checkedName text = .ok parsed ∧
      ((c.execute text).runOn σ).1 = .ok (.data v) ∧
      q = ⟨text, c, BoundQuery.chooseName given parsed⟩ := by
  unfold bind
  rw [Dialogue.runOn_bind, Dialogue.runOn_ofExcept]
  cases hname : BoundQuery.checkedName text with
  | error e => simp
  | ok parsed =>
    dsimp only
    rw [Dialogue.runOn_bind, Dialogue.runOn_mapFailure]
    cases hanswer : ((c.execute text).runOn σ).1 with
    | error e => simp [Except.mapError]
    | ok answer =>
      change ((Dialogue.ofExcept _).runOn _).1 = _ ↔ _
      rw [Dialogue.runOn_ofExcept, mapError_eq_ok_iff]
      cases answer with
      | errors details => simp [BoundQuery.judge]
      | data v => simp [BoundQuery.judge, eq_comm]

/-- A query is bound only if its text is a document and the answer to it accepts it. -/
theorem bind_eq_ok {q : BoundQuery} (h : ((c.bind text given).runOn σ).1 = .ok q) :
    c.CanPost ∧ q.text = text ∧ q.AcceptedAt c ((Act.bind text).requests c) σ.outcomeAt 0 := by
  obtain ⟨parsed, v, hname, hanswer, rfl⟩ := runOn_bind_eq_ok_iff.mp h
  obtain ⟨hpost, haccepts⟩ := execute_eq_data hanswer
  have hdocument := isDocument_of_checkedName hname
  obtain ⟨r, hrequests, hcontent⟩ := Act.requests_bind_eq_singleton hdocument hpost
  refine ⟨hpost, rfl, rfl, hdocument, ⟨r, ?_, hcontent⟩, haccepts⟩
  rw [hrequests]
  rfl

/-! ## Binding several queries -/

/-- The texts that come to be bound when queries are bound in order: up to the first that fails. -/
def attempted (c : Connection) : List (String × String) → Service → List String
  | [], _ => []
  | (name, text) :: queries, σ =>
    match (c.bind text (some name)).runOn σ with
    | (.ok _, σ') => text :: c.attempted queries σ'
    | (.error _, _) => [text]

/-- The first query is bound, then the others, and a failure leaves nothing. -/
theorem runOn_bindAll_cons (c : Connection) (name text : String)
    (queries : List (String × String)) (σ : Service) :
    (c.bindAll ((name, text) :: queries)).runOn σ =
      match (c.bind text (some name)).runOn σ with
      | (.error e, σ') => (.error e, σ')
      | (.ok q, σ') =>
        match (c.bindAll queries).runOn σ' with
        | (.error e, σ'') => (.error e, σ'')
        | (.ok bound, σ'') => (.ok ((name, q) :: bound), σ'') := by
  rw [bindAll, Dialogue.runOn_bind]
  rcases (c.bind text (some name)).runOn σ with ⟨e | q, σ'⟩
  · rfl
  · dsimp only
    rw [Dialogue.runOn_bind]
    rcases (c.bindAll queries).runOn σ' with ⟨e | bound, σ''⟩
    · rfl
    · rfl

/-- Where several queries are bound, the first is, and the others are behind it. -/
theorem bindAll_cons_eq_ok {name : String} {queries : List (String × String)}
    {bound : List (String × BoundQuery)} {σ' : Service}
    (h : (c.bindAll ((name, text) :: queries)).runOn σ = (.ok bound, σ')) :
    ∃ q σ₁ rest, (c.bind text (some name)).runOn σ = (.ok q, σ₁) ∧
      (c.bindAll queries).runOn σ₁ = (.ok rest, σ') ∧ bound = (name, q) :: rest := by
  rw [runOn_bindAll_cons] at h
  rcases hfirst : (c.bind text (some name)).runOn σ with ⟨e | q, σ₁⟩
  · rw [hfirst] at h
    cases h
  · rw [hfirst] at h
    dsimp only at h
    rcases hrest : (c.bindAll queries).runOn σ₁ with ⟨e | rest, σ₂⟩
    · rw [hrest] at h
      cases h
    · rw [hrest] at h
      cases h
      exact ⟨q, σ₁, rest, rfl, hrest, rfl⟩

/-- Binding several queries sends what binding the attempted ones does. -/
theorem runOn_bindAll (c : Connection) (queries : List (String × String)) (σ : Service) :
    ((c.bindAll queries).runOn σ).2 =
      σ.receive (((c.attempted queries σ).map Act.bind).flatMap (Act.requests c)) := by
  induction queries generalizing σ with
  | nil => exact (Service.receive_nil σ).symm
  | cons query queries ih =>
    obtain ⟨name, text⟩ := query
    have hsent := runOn_bind c text (some name) σ
    rw [runOn_bindAll_cons, attempted]
    rcases hrun : (c.bind text (some name)).runOn σ with ⟨e | q, σ'⟩
    · rw [hrun] at hsent
      dsimp only at hsent ⊢
      rw [hsent, List.map_singleton, List.flatMap_singleton]
    · rw [hrun] at hsent
      dsimp only at hsent ⊢
      rw [List.map_cons, List.flatMap_cons, ← Service.receive_receive, ← hsent, ← ih]
      rcases (c.bindAll queries).runOn σ' with ⟨e | bound, σ''⟩
      · rfl
      · rfl

/-- Several queries are bound only if each was accepted by the answer in its own place. -/
theorem bindAll_eq_ok {queries : List (String × String)} {bound : List (String × BoundQuery)}
    (h : ((c.bindAll queries).runOn σ).1 = .ok bound) :
    c.attempted queries σ = queries.map (·.2) ∧ bound.map (·.2.text) = queries.map (·.2) ∧
      ∀ (place : Nat) (name : String) (q : BoundQuery), bound[place]? = some (name, q) → c.CanPost ∧
        q.AcceptedAt c (((queries.map (·.2)).map Act.bind).flatMap (Act.requests c))
          σ.outcomeAt place := by
  induction queries generalizing σ bound with
  | nil =>
    cases h
    refine ⟨rfl, rfl, fun place name q hq => ?_⟩
    cases hq
  | cons query queries ih =>
    obtain ⟨name, text⟩ := query
    obtain ⟨q, σ₁, rest, hfirst, hrest, rfl⟩ := bindAll_cons_eq_ok (Prod.ext h rfl)
    obtain ⟨hpost, rfl, haccepted⟩ := bind_eq_ok (congrArg Prod.fst hfirst)
    obtain ⟨hattempted, htexts, hplaces⟩ := ih (congrArg Prod.fst hrest)
    have hsent := runOn_bind c q.text (some name) σ
    rw [hfirst] at hsent
    dsimp only at hsent
    rw [attempted, hfirst]
    refine ⟨by rw [List.map_cons, ← hattempted], by rw [List.map_cons, htexts, List.map_cons], ?_⟩
    intro place name' q' hq'
    rw [List.map_cons, List.map_cons, List.flatMap_cons]
    cases place with
    | zero =>
      cases hq'
      exact ⟨hpost, haccepted.append _⟩
    | succ place =>
      -- the first query took one outcome, so that the others count on from there
      obtain ⟨r, hr, -⟩ := Act.requests_bind_eq_singleton haccepted.document hpost
      obtain ⟨-, hlater⟩ := hplaces place name' q' hq'
      rw [hsent] at hlater
      have hplace : ((Act.bind q.text).requests c).length + place = place + 1 := by
        rw [hr, List.length_singleton, Nat.add_comm]
      exact ⟨hpost, hplace ▸ hlater.behind⟩

end Connection

end GraphBind

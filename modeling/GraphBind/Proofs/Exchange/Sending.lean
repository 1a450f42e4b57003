import GraphBind.Exchange.Request
import GraphBind.Exchange.Service
import GraphBind.Proofs.Url.Rereading

/-!
# Making and sending requests

Which requests can be made over a connection. Queries are sent alike, whatever their texts
(`make_query`), so that either all of them can be sent or none (`Connection.CanPost`). Where the
introspection can be sent, queries can be (`canPost_of_make_introspection`): it goes to their URL
with another query, which keeps the host.

Every request that can be made over a connection carries the headers that identify it: the own ones,
but for a user that the URL names in place of any other (`Request.identification_of_make`). It does
not matter what the request asks, though a query adds the type of its body and an introspection
replaces the query of the URL.

An operation changes a service in one way only: it sends requests. `Service.receive` is the service
after it has got them, `Service.outcomeAt` what becomes of each. The laws of `Dialogue.runOn` take
runs of operations apart; `runOn_ask` says what asking sends and answers. Asking sends one request,
or none if none can be made, whatever comes of it (`runOn_ask_service`).
-/

/-! ## Requests that can be made -/

namespace GraphBind

/-- Whether queries can be sent over a connection. -/
def Connection.CanPost (c : Connection) : Prop := ∃ text r, Request.make c (.query text) = .ok r

namespace Request

variable {c : Connection} {content : Content} {r : Request}

/-- A request that is made keeps its connection and its content, and goes to their target. -/
theorem make_eq_ok (h : make c content = .ok r) :
    r.connection = c ∧ r.content = content ∧ target c content = .ok r.url := by
  unfold make at h
  split at h
  · cases h
  · obtain ⟨url, hurl, h⟩ := bind_eq_ok_iff.mp h
    obtain ⟨-, h⟩ := check_bind_eq_ok_iff.mp h
    obtain ⟨address, -, h⟩ := bind_eq_ok_iff.mp h
    cases h
    exact ⟨rfl, rfl, mapError_eq_ok_iff.mp hurl⟩

/-- Queries are sent alike: the text of a query shows in the content of its request only. -/
theorem make_query (c : Connection) (text text' : String) :
    make c (.query text') =
      (make c (.query text)).map fun r => { r with content := .query text' } := by
  have htarget : target c (.query text') = target c (.query text) := rfl
  unfold make
  rw [htarget]
  cases (ownHeaders c).fault? with
  | some fault => rfl
  | none =>
    cases (target c (.query text)).mapError Escape.noUrl with
    | error x => rfl
    | ok url =>
      change (if (!url.host.isEmpty && !(ownHeaders c).has "host") = true then _ else _) =
        Except.map _ (if (!url.host.isEmpty && !(ownHeaders c).has "host") = true then _ else _)
      split
      · cases checkHost url with
        | error x => rfl
        | ok u => cases (url.withQuery none).mapError Escape.noUrl <;> rfl
      · cases (url.withQuery none).mapError Escape.noUrl <;> rfl

/-- Whether queries can be sent does not depend on their texts. -/
theorem make_query_of_canPost (h : c.CanPost) (text : String) :
    ∃ r, make c (.query text) = .ok r := by
  obtain ⟨text', r, hr⟩ := h
  rw [make_query c text' text, hr]
  exact ⟨_, rfl⟩

/-! ## URLs -/

/-- A URL can be named if its host can be read, in case it is written encoded, and is ASCII. -/
theorem checkHost_eq_ok_iff {u : Url} :
    checkHost u = .ok () ↔
      ("xn--".toList <+: u.host.toList → ∃ t, Url.DomainName.ofAscii u.host.toList = .ok t) ∧
        ∀ c ∈ u.host.toList, c.toNat < 128 := by
  have hread : (discard ((Url.DomainName.ofAscii u.host.toList).mapError Escape.noDomainName) :
      Except Escape Unit) = .ok () ↔ ∃ t, Url.DomainName.ofAscii u.host.toList = .ok t := by
    cases Url.DomainName.ofAscii u.host.toList with
    | ok t => exact ⟨fun _ => ⟨t, rfl⟩, fun _ => rfl⟩
    | error e =>
      constructor
      · intro h
        cases h
      · rintro ⟨t, h⟩
        cases h
  rw [← Url.location_ascii_iff, ← Text.find?_ascii_eq_none_iff, ← hread,
    ← List.isPrefixOf_iff_prefix]
  unfold checkHost
  refine check_bind_eq_ok_iff.trans (and_congr_right fun _ => ?_)
  cases Text.Unencodable.find? .ascii u.location with
  | none => exact ⟨fun _ => rfl, fun _ => rfl⟩
  | some fault =>
    constructor
    · intro h
      cases h
    · intro h
      cases h

/-- Setting the query of a URL leaves its host, so it passes the check if the other does. -/
theorem checkHost_of_withQuery {p : Url.Parts} {u v : Url} {query : Option (List Char)}
    (hu : Url.ofParts p = .ok u) (hv : u.withQuery query = .ok v) (h : checkHost v = .ok ()) :
    checkHost u = .ok () := by
  rcases Url.host_withQuery hu hv with hhost | ⟨hchars, hhost⟩
  · rw [checkHost_eq_ok_iff] at h ⊢
    rwa [← hhost]
  · have hascii : ∀ c ∈ u.host.toList, c.toNat < 128 := fun c hc =>
      Url.toNat_lt_of_isHostChar (hchars c hc)
    rw [checkHost_eq_ok_iff] at h ⊢
    refine ⟨fun hencoded => ?_, hascii⟩
    rw [hhost, Url.DomainName.ofAscii_toLower hascii] at h
    exact h.1 (hencoded.map Char.toLower)

/-- An introspection is sent to the URL of queries with another query. -/
theorem target_introspection_eq_ok {u : Url} (h : target c .introspection = .ok u) :
    ∃ v p query, target c (.query "") = .ok v ∧ Url.ofParts p = .ok v ∧
      v.withQuery query = .ok u := by
  obtain ⟨written, hwritten, h⟩ := bind_eq_ok_iff.mp h
  obtain ⟨v, hv, h⟩ := bind_eq_ok_iff.mp h
  obtain ⟨p, hp⟩ := Url.ofParts_of_parse hwritten
  obtain ⟨p', hp'⟩ := Url.ofParts_of_absolute hp hv
  exact ⟨v, p', _, bind_eq_ok_iff.mpr ⟨written, hwritten, hv⟩, hp', h⟩

theorem isEmpty_host_of_withQuery {p : Url.Parts} {u v : Url} {query : Option (List Char)}
    (hu : Url.ofParts p = .ok u) (hv : u.withQuery query = .ok v) (h : v.host.isEmpty = true) :
    u.host.isEmpty = true := by
  rw [String.isEmpty_iff, ← String.toList_eq_nil_iff] at h ⊢
  rcases Url.host_withQuery hu hv with hhost | ⟨-, hhost⟩
  · rwa [← hhost]
  · rw [hhost] at h
    exact List.map_eq_nil_iff.mp h

/-- Where the introspection can be sent, queries can be. -/
theorem canPost_of_make_introspection (h : make c .introspection = .ok r) : c.CanPost := by
  unfold make at h
  cases hfault : (ownHeaders c).fault? with
  | some fault =>
    rw [hfault] at h
    cases h
  | none =>
    rw [hfault] at h
    obtain ⟨u, hu, h⟩ := bind_eq_ok_iff.mp h
    obtain ⟨hcheck, -⟩ := check_bind_eq_ok_iff.mp h
    obtain ⟨v, p, query, hv, hp, hquery⟩ := target_introspection_eq_ok (mapError_eq_ok_iff.mp hu)
    obtain ⟨address, haddress⟩ := Url.exists_withQuery_none hquery
    have hnamed : (!v.host.isEmpty && !(ownHeaders c).has "host") = true →
        checkHost v = .ok () := by
      intro hneeded
      obtain ⟨hhost, hown⟩ := Bool.and_eq_true_iff.mp hneeded
      apply checkHost_of_withQuery hp hquery
      apply hcheck
      rw [hown, Bool.and_true]
      cases hempty : u.host.isEmpty with
      | false => rfl
      | true =>
        rw [isEmpty_host_of_withQuery hp hquery hempty] at hhost
        cases hhost
    refine ⟨"", ⟨c, .query "", v, address⟩, ?_⟩
    unfold make
    rw [hfault]
    exact bind_eq_ok_iff.mpr ⟨v, mapError_eq_ok_iff.mpr hv, check_bind_eq_ok_iff.mpr
      ⟨hnamed, bind_eq_ok_iff.mpr ⟨address, mapError_eq_ok_iff.mpr haddress, rfl⟩⟩⟩

/-- The URL of a request names the same user as the one that queries are sent to. -/
theorem userinfo_of_target {u : Url} (h : target c content = .ok u) :
    ∃ v, target c (.query "") = .ok v ∧ u.userinfo = v.userinfo := by
  cases content with
  | query text => exact ⟨u, h, rfl⟩
  | introspection =>
    obtain ⟨v, p, query, hv, hp, hquery⟩ := target_introspection_eq_ok h
    exact ⟨v, hv, Url.userinfo_withQuery hp hquery⟩

end Request

/-! ## Headers -/

namespace Headers

variable {field name value : String} {hs : Headers}

/-- Leaves the headers of a field out. -/
def without (field : String) (hs : Headers) : Headers := hs.filter fun h => fieldName h.1 != field

theorem without_of_not_has (h : hs.has field = false) : hs.without field = hs := by
  unfold without
  rw [List.filter_eq_self]
  intro header hheader
  have hne := List.any_eq_false.mp h header hheader
  simpa using hne

theorem without_append (hs hs' : Headers) :
    Headers.without field (hs ++ hs') = hs.without field ++ Headers.without field hs' :=
  List.filter_append ..

theorem without_cons (header : String × String) :
    Headers.without field (header :: hs) =
      if fieldName header.1 = field then hs.without field else header :: hs.without field := by
  unfold without
  rw [List.filter_cons]
  by_cases h : fieldName header.1 = field
  · rw [if_pos h, if_neg (by simp [h])]
  · rw [if_neg h, if_pos (by simp [h])]

theorem set_cons (header : String × String) :
    Headers.set name value (header :: hs) =
      if fieldName header.1 = fieldName name then (name, value) :: hs.without (fieldName name)
      else header :: hs.set name value := by
  rw [set]
  by_cases h : fieldName header.1 = fieldName name
  · rw [if_pos h, if_pos (by simp [h])]
    rfl
  · rw [if_neg h, if_neg (by simp [h])]

theorem without_comm (field field' : String) (hs : Headers) :
    (hs.without field).without field' = (hs.without field').without field := by
  unfold without
  rw [List.filter_filter, List.filter_filter]
  exact List.filter_congr fun _ _ => Bool.and_comm _ _

/-- Setting a header does not touch other fields. -/
theorem without_set (h : fieldName name ≠ field) :
    (hs.set name value).without field = (hs.without field).set name value := by
  induction hs with
  | nil =>
    change Headers.without field [(name, value)] = [(name, value)]
    rw [without_cons, if_neg h]
    rfl
  | cons header hs ih =>
    rw [set_cons, without_cons]
    by_cases hname : fieldName header.1 = fieldName name
    · rw [if_pos hname, if_neg (hname ▸ h), set_cons, if_pos hname, without_cons, if_neg h,
        without_comm]
    · rw [if_neg hname, without_cons, ih]
      by_cases hfield : fieldName header.1 = field
      · rw [if_pos hfield, if_pos hfield]
      · rw [if_neg hfield, if_neg hfield, set_cons, if_neg hname]

/-- Puts a user, if there is one, in the place of any other. -/
def identify (user : Option String) (hs : Headers) : Headers :=
  match user with
  | none => hs
  | some value => hs.set "Authorization" value

theorem without_identify (h : fieldName "Authorization" ≠ field) (user : Option String) :
    (hs.identify user).without field = (hs.without field).identify user := by
  cases user with
  | none => rfl
  | some value => exact without_set h

end Headers

/-! ## Connections -/

namespace Connection

/-- The user that the URL of a connection names, as a header value. -/
def user? (c : Connection) : Option String :=
  (Request.target c (.query "")).toOption.bind Url.authorization?

/-- The headers that identify a connection: the own ones, but for the user that its URL names. -/
def identification (c : Connection) : Headers := (Request.ownHeaders c).identify c.user?

end Connection

/-! ## Requests -/

namespace Request

variable {c : Connection} {content : Content} {r : Request}

/-- The headers of a request that do not depend on what it asks. -/
def identification (r : Request) : Headers :=
  if (ownHeaders r.connection).has "content-type" then r.headers
  else r.headers.without "content-type"

/-- Every request names the user that the URL of its connection names. -/
theorem authorization?_of_make (h : make c content = .ok r) : r.url.authorization? = c.user? := by
  obtain ⟨-, -, hurl⟩ := make_eq_ok h
  obtain ⟨v, hv, huser⟩ := userinfo_of_target hurl
  unfold Connection.user?
  rw [hv]
  change r.url.authorization? = v.authorization?
  unfold Url.authorization? Url.credentials?
  rw [huser]

/-- A request carries the identification, with the type of its body behind the own headers if they
do not say it. -/
theorem headers_of_make (h : make c content = .ok r) :
    r.headers = c.identification ∨
      (ownHeaders c).has "content-type" = false ∧
        r.headers = (ownHeaders c ++ [("Content-Type", "application/json")]).identify c.user? := by
  obtain ⟨hc, hcontent, -⟩ := make_eq_ok h
  have huser := authorization?_of_make h
  unfold headers
  rw [hc, hcontent, huser]
  cases content with
  | introspection => exact .inl rfl
  | query text =>
    dsimp only
    by_cases htype : (ownHeaders c).has "content-type" = true
    · rw [if_pos htype]
      exact .inl rfl
    · rw [if_neg htype]
      exact .inr ⟨Bool.eq_false_iff.mpr htype, rfl⟩

/-- Every request carries the headers that identify its connection. -/
theorem identification_of_make (h : make c content = .ok r) :
    r.identification = c.identification := by
  obtain ⟨hc, -, -⟩ := make_eq_ok h
  unfold identification
  rw [hc]
  split
  · next htype =>
    rcases headers_of_make h with hheaders | ⟨hnone, -⟩
    · exact hheaders
    · rw [hnone] at htype
      cases htype
  · next htype =>
    have hown := Headers.without_of_not_has (Bool.eq_false_iff.mpr htype)
    have hsame : c.identification.without "content-type" = c.identification := by
      unfold Connection.identification
      rw [Headers.without_identify (by decide), hown]
    rcases headers_of_make h with hheaders | ⟨-, hheaders⟩
    · rw [hheaders, hsame]
    · rw [hheaders, Headers.without_identify (by decide), Headers.without_append, hown,
        Headers.without_cons, if_pos (by decide)]
      change (ownHeaders c ++ []).identify c.user? = _
      rw [List.append_nil]
      rfl

end Request

/-! ## Services -/

namespace Service

/-- The service after it has got requests, each of which takes one outcome. -/
def receive (σ : Service) (rs : List Request) : Service :=
  ⟨σ.pending.drop rs.length, σ.log ++ rs⟩

/-- What becomes of a coming request, counted from the next one. -/
def outcomeAt (σ : Service) (n : Nat) : Outcome := σ.pending.getD n exhausted

theorem send_eq (σ : Service) (r : Request) : σ.send r = (σ.outcomeAt 0, σ.receive [r]) := by
  obtain ⟨pending, log⟩ := σ
  cases pending with
  | nil => rfl
  | cons outcome rest => rfl

@[simp] theorem receive_nil (σ : Service) : σ.receive [] = σ := by
  simp [receive]

theorem receive_receive (σ : Service) (rs rs' : List Request) :
    (σ.receive rs).receive rs' = σ.receive (rs ++ rs') := by
  simp [receive, List.append_assoc]

theorem outcomeAt_receive (σ : Service) (rs : List Request) (n : Nat) :
    (σ.receive rs).outcomeAt n = σ.outcomeAt (rs.length + n) := by
  simp [receive, outcomeAt, List.getD_eq_getElem?_getD]

end Service

/-! ## Runs of operations -/

namespace Dialogue

variable {ε δ α β : Type} (σ : Service)

theorem runOn_ofExcept (r : Except (Failure ε) α) : (ofExcept r).runOn σ = (r, σ) := by
  cases r with
  | ok a => rfl
  | error e => rfl

/-- A sequence of operations goes on with the service that the first one leaves. -/
theorem runOn_bind (d : Dialogue ε α) (f : α → Dialogue ε β) :
    (d >>= f).runOn σ =
      match d.runOn σ with
      | (.ok a, σ') => (f a).runOn σ'
      | (.error e, σ') => (.error e, σ') := by
  change (ExceptT.bind d f) σ = _
  unfold ExceptT.bind
  change (match d σ with | (a, σ') => ExceptT.bindCont f a σ') = _
  change _ = match d σ with
    | (.ok a, σ') => f a σ'
    | (.error e, σ') => (.error e, σ')
  rcases d σ with ⟨_ | _, σ'⟩ <;> rfl

theorem runOn_mapFailure (f : ε → δ) (d : Dialogue ε α) :
    (d.mapFailure f).runOn σ = ((d.runOn σ).1.mapError (Failure.map f), (d.runOn σ).2) := rfl

end Dialogue

/-! ## Asking -/

theorem runOn_exchange (r : Request) (σ : Service) :
    (exchange r).runOn σ = ((σ.outcomeAt 0).document r, σ.receive [r]) := by
  have hsend : (modifyGet (·.send r) : Dialogue TransportError Outcome).runOn σ =
      (.ok (σ.send r).1, (σ.send r).2) := rfl
  unfold exchange
  rw [Dialogue.runOn_bind, hsend, Service.send_eq]
  exact Dialogue.runOn_ofExcept _ _

namespace Connection

/-- The requests that asking a content sends: one if it can be made, and none otherwise. -/
def requests (c : Connection) (content : Content) : List Request :=
  (Request.make c content).toOption.toList

theorem requests_of_ok {c : Connection} {content : Content} {r : Request}
    (h : Request.make c content = .ok r) : c.requests content = [r] := by
  rw [requests, h]
  rfl

theorem requests_of_error {c : Connection} {content : Content} {x : Escape}
    (h : Request.make c content = .error x) : c.requests content = [] := by
  rw [requests, h]
  rfl

theorem mem_requests_iff {c : Connection} {content : Content} {r : Request} :
    r ∈ c.requests content ↔ Request.make c content = .ok r := by
  cases h : Request.make c content with
  | ok r' => simp [requests_of_ok h, eq_comm]
  | error x => simp [requests_of_error h]

theorem connection_of_mem_requests {c : Connection} {content : Content} {r : Request}
    (h : r ∈ c.requests content) : r.connection = c ∧ r.content = content := by
  obtain ⟨hc, hcontent, -⟩ := Request.make_eq_ok (mem_requests_iff.mp h)
  exact ⟨hc, hcontent⟩

/-- A query is asked by one POST of its text, where queries can be sent. -/
theorem requests_query {c : Connection} (h : c.CanPost) (text : String) :
    ∃ r, c.requests (.query text) = [r] ∧ r.method = .post ∧ r.content = .query text := by
  obtain ⟨r, hr⟩ := Request.make_query_of_canPost h text
  have hcontent := (Request.make_eq_ok hr).2.1
  exact ⟨r, requests_of_ok hr, by rw [Request.method, hcontent], hcontent⟩

theorem requests_query_of_not_canPost {c : Connection} (h : ¬c.CanPost) (text : String) :
    c.requests (.query text) = [] := by
  cases hr : Request.make c (.query text) with
  | ok r => exact absurd ⟨text, r, hr⟩ h
  | error x => exact requests_of_error hr

/-- Asking ends before anything is sent if no request can be made, and else with the outcome that is
next. -/
theorem runOn_ask (c : Connection) (content : Content) (σ : Service) :
    (c.ask content).runOn σ =
      match Request.make c content with
      | .ok r => ((σ.outcomeAt 0).document r, σ.receive [r])
      | .error x => (.error (.escaped x), σ) := by
  unfold ask
  rw [Dialogue.runOn_bind, Dialogue.runOn_ofExcept]
  cases Request.make c content with
  | ok r => exact runOn_exchange r σ
  | error x => rfl

/-- Asking sends what it has to send, whatever becomes of it. -/
theorem runOn_ask_service (c : Connection) (content : Content) (σ : Service) :
    ((c.ask content).runOn σ).2 = σ.receive (c.requests content) := by
  rw [runOn_ask]
  cases h : Request.make c content with
  | ok r => rw [requests_of_ok h]
  | error x => rw [requests_of_error h, Service.receive_nil]

end Connection

end GraphBind

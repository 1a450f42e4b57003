import GraphBind.Proofs.Session.Steps

/-!
# Preflight gating

What a session does from its beginning. `Session.Backed` is the invariant: the log holds requests
over the connection of the session, every one took the outcome in its place, and every bound query
is backed by one of them that was accepted. `Session.Gated` says what this comes to over a whole
run; it holds of every run that begins by making a provider.

Where no query can be sent at all, because the URL or a header of the connection cannot be used,
nothing is sent for queries, and none is ever bound. The schema comes from a file then, since it
could not have been asked either.
-/

namespace GraphBind

/-! ## Making a provider -/

/-- The requests that making a provider sends: the introspection, unless a file holds the schema. -/
def Connection.introspections (c : Connection) : Option Path → List Request
  | none => c.requests .introspection
  | some _ => []

namespace Provider

variable {c : Connection} {known : NativeScalars} {files : FileTree} {file : Option Path}
  {σ : Service}

/-- Getting a schema sends the introspection, or nothing if a file is given, whatever comes of it.
-/
theorem runOn_schema (c : Connection) (files : FileTree) (file : Option Path) (σ : Service) :
    ((schema c files file).runOn σ).2 = σ.receive (c.introspections file) := by
  cases file with
  | some path =>
    unfold schema
    rw [Dialogue.runOn_ofExcept]
    exact (Service.receive_nil σ).symm
  | none =>
    have hsent := Connection.runOn_ask_service c .introspection σ
    unfold schema Schema.fetch
    rw [Dialogue.runOn_bind, Dialogue.runOn_mapFailure]
    rcases hrun : (c.ask .introspection).runOn σ with ⟨e | d, σ'⟩
    · rw [hrun] at hsent
      exact hsent
    · rw [hrun] at hsent
      change ((Dialogue.ofExcept _).runOn σ').2 = _
      rw [Dialogue.runOn_ofExcept]
      exact hsent

theorem make_of_fetch {s : Schema} (h : ((Schema.fetch c).runOn σ).1 = .ok s) :
    ∃ r, Request.make c .introspection = .ok r := by
  cases hr : Request.make c .introspection with
  | ok r => exact ⟨r, rfl⟩
  | error x =>
    unfold Schema.fetch at h
    rw [Dialogue.runOn_bind, Dialogue.runOn_mapFailure, Connection.runOn_ask, hr] at h
    cases h

/-- Making a provider is getting the schema, and compiling it asks nothing. -/
theorem runOn_create_schema (c : Connection) (known : NativeScalars) (files : FileTree)
    (file : Option Path) (σ : Service) : (create c known files file).runOn σ =
      match (schema c files file).runOn σ with
      | (.error e, σ') => (.error (e.map (.noSchema c.url)), σ')
      | (.ok s, σ') =>
        match s.compile known false with
        | .ok registry => (.ok ⟨registry, c⟩, σ')
        | .error fault => (.error (.failed (.schema fault)), σ') := by
  unfold create
  rw [Dialogue.runOn_bind, Dialogue.runOn_mapFailure]
  rcases (schema c files file).runOn σ with ⟨e | s, σ'⟩
  · rfl
  · dsimp only [Except.mapError]
    cases s.compile known false with
    | ok registry => rfl
    | error fault => rfl

/-- Creating a provider sends what getting its schema does: compiling sends nothing. -/
theorem runOn_create (c : Connection) (known : NativeScalars) (files : FileTree)
    (file : Option Path) (σ : Service) :
    ((create c known files file).runOn σ).2 = σ.receive (c.introspections file) := by
  rw [runOn_create_schema, ← runOn_schema]
  rcases (schema c files file).runOn σ with ⟨e | s, σ'⟩
  · rfl
  · dsimp only
    cases s.compile known false with
    | ok registry => rfl
    | error fault => rfl

/-- A schema that compiles makes a provider. -/
theorem runOn_create_of_schema {s : Schema} {registry : Registry} {σ' : Service}
    (hs : (schema c files file).runOn σ = (.ok s, σ'))
    (hregistry : s.compile known false = .ok registry) :
    (create c known files file).runOn σ = (.ok ⟨registry, c⟩, σ') := by
  rw [runOn_create_schema, hs]
  dsimp only
  rw [hregistry]

/-- Nothing is asked for a provider whose schema is loaded. -/
theorem runOn_create_of_load {path : Path} {s : Schema} {registry : Registry}
    (hload : Schema.load files path = .ok s) (hregistry : s.compile known false = .ok registry) :
    (create c known files (some path)).runOn σ = (.ok ⟨registry, c⟩, σ) := by
  refine runOn_create_of_schema ?_ hregistry
  rw [schema, Dialogue.runOn_ofExcept, hload]

/-- A provider is made over the connection, from a schema that compiles, and by a request unless a
file holds the schema. -/
theorem create_eq_ok {p : Provider} (h : ((create c known files file).runOn σ).1 = .ok p) :
    p.connection = c ∧ (∃ s : Schema, s.compile known false = .ok p.registry) ∧
      (file = none → ∃ r, Request.make c .introspection = .ok r) := by
  rw [runOn_create_schema] at h
  rcases hrun : (schema c files file).runOn σ with ⟨e | s, σ'⟩
  · rw [hrun] at h
    cases h
  · rw [hrun] at h
    dsimp only at h
    cases hregistry : s.compile known false with
    | error fault =>
      rw [hregistry] at h
      cases h
    | ok registry =>
      rw [hregistry] at h
      cases h
      refine ⟨rfl, ⟨s, hregistry⟩, ?_⟩
      rintro rfl
      exact make_of_fetch (congrArg Prod.fst hrun)

end Provider

namespace Session

/-! ## Runs -/

/-- The session of a provider that no step has been taken with. -/
def start (p : Provider) (σ : Service) : Session := { provider := p, bound := [], service := σ }

/-- The session behind steps. -/
def after (s : Session) (files : FileTree) : List Step → Session
  | [] => s
  | st :: steps => (s.step files st).1.after files steps

/-- What steps do with queries, in order. -/
def actsOf (s : Session) (files : FileTree) : List Step → List Act
  | [] => []
  | st :: steps => s.acts st ++ (s.step files st).1.actsOf files steps

theorem run_cons (s : Session) (files : FileTree) (st : Step) (steps : List Step) :
    s.run files (st :: steps) =
      ((s.step files st).2, (s.step files st).1.service.log.drop s.service.log.length) ::
        (s.step files st).1.run files steps := rfl

theorem run_append (s : Session) (files : FileTree) (steps later : List Step) :
    s.run files (steps ++ later) = s.run files steps ++ (s.after files steps).run files later := by
  induction steps generalizing s with
  | nil => rfl
  | cons st steps ih =>
    rw [List.cons_append, run_cons, run_cons, ih, List.cons_append]
    rfl

/-! ## The invariant -/

/-- What holds of a session over a connection, to a service with outcomes, at any time. -/
structure Backed (c : Connection) (outcomes : List Outcome) (s : Session) : Prop where
  connection : s.provider.connection = c
  /-- Every request took the outcome in its place. -/
  service : s.service = (Service.ofOutcomes outcomes).receive s.service.log
  /-- Every request is the one that asks its content over the connection. -/
  made : ∀ r ∈ s.service.log, Request.make c r.content = .ok r
  /-- Every bound query was accepted by the answer to a request of its text. -/
  bound : ∀ e ∈ s.bound, ∃ place,
    e.2.AcceptedAt c s.service.log (Service.ofOutcomes outcomes).outcomeAt place

namespace Backed

variable {c : Connection} {outcomes : List Outcome} {s : Session} {st : Step}

theorem requests_eq (h : s.Backed c outcomes) (st : Step) :
    s.requests st = (s.acts st).flatMap (Act.requests c) := by
  rw [requests, h.connection]

theorem moves (h : s.Backed c outcomes) (files : FileTree) (st : Step) :
    s.Moves st (s.step files st).1 (s.step files st).2 := by
  refine moves_step files (fun e he => ?_) st
  obtain ⟨place, haccepted⟩ := h.bound e he
  rw [haccepted.connection, h.connection]

/-- What a request asks can be asked over the connection. -/
theorem made_of_mem_requests {c : Connection} {r : Request} {a : Act} (h : r ∈ a.requests c) :
    Request.make c r.content = .ok r := by
  have hmade : ∀ text, r ∈ c.requests (.query text) → Request.make c r.content = .ok r := by
    intro text hr
    rw [(Connection.connection_of_mem_requests hr).2]
    exact Connection.mem_requests_iff.mp hr
  cases a with
  | ask text => exact hmade text h
  | bind text =>
    unfold Act.requests at h
    dsimp only at h
    split at h
    · exact hmade text h
    · cases h

theorem log_step (h : s.Backed c outcomes) (files : FileTree) (st : Step) :
    (s.step files st).1.service.log = s.service.log ++ (s.acts st).flatMap (Act.requests c) := by
  rw [(h.moves files st).service, ← h.requests_eq]
  rfl

/-- A query that a step hands out was accepted by the answer to its own request. -/
theorem accepted_of_handedOut (h : s.Backed c outcomes) {files : FileTree} {place : Nat}
    {q : BoundQuery} (hq : (s.step files st).2.handedOut[place]? = some q) :
    c.CanPost ∧ q.AcceptedAt c (s.service.log ++ (s.acts st).flatMap (Act.requests c))
      (Service.ofOutcomes outcomes).outcomeAt (s.service.log.length + place) := by
  obtain ⟨hpost, haccepted⟩ := (h.moves files st).handedOut place q hq
  rw [h.service, h.requests_eq, h.connection] at haccepted
  rw [h.connection] at hpost
  exact ⟨hpost, haccepted.behind⟩

/-- Every step keeps the bound queries backed by the requests of the log. -/
theorem step (h : s.Backed c outcomes) (files : FileTree) (st : Step) :
    (s.step files st).1.Backed c outcomes where
  connection := by rw [(h.moves files st).provider, h.connection]
  service := by
    calc (s.step files st).1.service
        = s.service.receive (s.requests st) := (h.moves files st).service
      _ = ((Service.ofOutcomes outcomes).receive s.service.log).receive (s.requests st) := by
          rw [← h.service]
      _ = (Service.ofOutcomes outcomes).receive (s.service.log ++ s.requests st) :=
          Service.receive_receive _ _ _
      _ = _ := by rw [h.log_step, h.requests_eq]
  made := by
    intro r hr
    rw [h.log_step] at hr
    rcases List.mem_append.mp hr with hr | hr
    · exact h.made r hr
    · obtain ⟨a, -, hr⟩ := List.mem_flatMap.mp hr
      exact made_of_mem_requests hr
  bound := by
    intro e he
    rw [h.log_step]
    rcases (h.moves files st).bound e he with he | he
    · obtain ⟨place, haccepted⟩ := h.bound e he
      exact ⟨place, haccepted.append _⟩
    · obtain ⟨place, hplace⟩ := List.getElem?_of_mem he
      exact ⟨_, (h.accepted_of_handedOut hplace).2⟩

theorem after (h : s.Backed c outcomes) (files : FileTree) (steps : List Step) :
    (s.after files steps).Backed c outcomes := by
  induction steps generalizing s with
  | nil => exact h
  | cons st steps ih => exact ih (h.step files st)

/-- The log after steps is the log before, followed by the requests of what the steps did, in order.
-/
theorem log_after (h : s.Backed c outcomes) (files : FileTree) (steps : List Step) :
    (s.after files steps).service.log =
      s.service.log ++ (s.actsOf files steps).flatMap (Act.requests c) := by
  induction steps generalizing s with
  | nil =>
    rw [actsOf, List.flatMap_nil, List.append_nil]
    rfl
  | cons st steps ih =>
    rw [Session.after, actsOf, ih (h.step files st), h.log_step, List.flatMap_append,
      List.append_assoc]

end Backed

/-- A session starts backed, with no request but the introspection. -/
theorem Backed.start {c : Connection} {known : NativeScalars} {files : FileTree}
    {file : Option Path} {outcomes : List Outcome} {p : Provider} {σ : Service}
    (h : (Provider.create c known files file).runOn (.ofOutcomes outcomes) = (.ok p, σ)) :
    (Session.start p σ).Backed c outcomes ∧ σ.log = c.introspections file := by
  have hp := Provider.create_eq_ok (congrArg Prod.fst h)
  have hσ := Provider.runOn_create c known files file (.ofOutcomes outcomes)
  rw [h] at hσ
  have hlog : σ.log = c.introspections file := congrArg Service.log hσ
  refine ⟨⟨hp.1, ?_, ?_, ?_⟩, hlog⟩
  · change σ = (Service.ofOutcomes outcomes).receive σ.log
    rw [hlog]
    exact hσ
  · intro r hr
    change r ∈ σ.log at hr
    rw [hlog] at hr
    cases file with
    | some path => cases hr
    | none =>
      rw [(Connection.connection_of_mem_requests hr).2]
      exact Connection.mem_requests_iff.mp hr
  · intro e he
    cases he

/-! ## Whole runs -/

/-- What a run comes to that begins with a session over a connection, whose schema is asked from the
service or comes from a file, and takes steps. -/
structure Gated (c : Connection) (file : Option Path) (outcomes : List Outcome) (files : FileTree)
    (s : Session) (steps : List Step) : Prop where
  /-- The log holds what making the provider sent and then what the acts of the steps did. -/
  log : (s.after files steps).service.log =
    c.introspections file ++ (s.actsOf files steps).flatMap (Act.requests c)
  /-- The schema is asked by one GET, and then queries can be sent. -/
  fetched : file = none → (∃ r, c.introspections file = [r] ∧ r.method = .get) ∧ c.CanPost
  /-- A query is asked by one POST of its text, if any can be sent at all. -/
  posted : c.CanPost → ∀ text, ∃ r, c.requests (.query text) = [r] ∧ r.method = .post ∧
    r.content = .query text
  /-- Otherwise nothing is sent for queries, and none is bound. -/
  silent : ¬c.CanPost → (∀ text, c.requests (.query text) = []) ∧
    (s.after files steps).bound = []
  /-- All requests are over the connection, with its headers, and every POST goes to its URL. -/
  identified : ∀ r ∈ (s.after files steps).service.log, r.connection = c ∧
    r.identification = c.identification ∧
      (r.method = .post → (Url.parse c.url >>= Url.absolute) = .ok r.url)
  /-- Every request took the outcome in its place, and every bound query was accepted by one. -/
  backed : (s.after files steps).Backed c outcomes
  /-- A further step sends what its acts do. -/
  sent : ∀ st, s.run files (steps ++ [st]) = s.run files steps ++
    [(((s.after files steps).step files st).2,
      ((s.after files steps).acts st).flatMap (Act.requests c))]
  /-- A query is handed out only if its text is a document and was sent in this very step, by a
  request that an answer accepted. -/
  accepted : ∀ (st : Step) (place : Nat) (q : BoundQuery),
    ((s.after files steps).step files st).2.handedOut[place]? = some q →
      q.AcceptedAt c ((s.after files steps).service.log ++
          ((s.after files steps).acts st).flatMap (Act.requests c))
        (Service.ofOutcomes outcomes).outcomeAt
        ((s.after files steps).service.log.length + place)

namespace Backed

variable {c : Connection} {outcomes : List Outcome} {s : Session}

/-- What is bound shows that queries can be sent. -/
theorem canPost (h : s.Backed c outcomes) {e : String × BoundQuery} (he : e ∈ s.bound) :
    c.CanPost := by
  obtain ⟨place, haccepted⟩ := h.bound e he
  obtain ⟨r, hr, hcontent⟩ := haccepted.sent
  have hmade := h.made r (List.mem_of_getElem? hr)
  rw [hcontent] at hmade
  exact ⟨_, r, hmade⟩

/-- Every request of the log identifies the caller, and every post goes to the URL of the
connection. -/
theorem identified (h : s.Backed c outcomes) {r : Request} (hr : r ∈ s.service.log) :
    r.connection = c ∧ r.identification = c.identification ∧
      (r.method = .post → (Url.parse c.url >>= Url.absolute) = .ok r.url) := by
  have hmade := h.made r hr
  obtain ⟨hc, -, htarget⟩ := Request.make_eq_ok hmade
  refine ⟨hc, Request.identification_of_make hmade, fun hpost => ?_⟩
  cases hcontent : r.content with
  | introspection =>
    rw [Request.method, hcontent] at hpost
    cases hpost
  | query text =>
    rw [hcontent] at htarget
    exact htarget

theorem run_snoc (h : s.Backed c outcomes) (files : FileTree) (steps : List Step) (st : Step) :
    s.run files (steps ++ [st]) = s.run files steps ++
      [(((s.after files steps).step files st).2,
        ((s.after files steps).acts st).flatMap (Act.requests c))] := by
  rw [run_append, run_cons, (h.after files steps).log_step, List.drop_left]
  rfl

end Backed

/-- Queries are bound behind preflights only, and the log holds what was asked and nothing else. -/
theorem gated {c : Connection} {known : NativeScalars} {files : FileTree} {file : Option Path}
    {outcomes : List Outcome} {p : Provider} {σ : Service}
    (h : (Provider.create c known files file).runOn (.ofOutcomes outcomes) = (.ok p, σ))
    (steps : List Step) : (start p σ).Gated c file outcomes files steps := by
  obtain ⟨hstart, hlog⟩ := Backed.start h
  have hafter := hstart.after files steps
  refine ⟨?_, ?_, Connection.requests_query, ?_, ?_, hafter, hstart.run_snoc files steps, ?_⟩
  · rw [hstart.log_after, ← hlog]
    rfl
  · rintro rfl
    obtain ⟨r, hr⟩ := (Provider.create_eq_ok (congrArg Prod.fst h)).2.2 rfl
    refine ⟨⟨r, Connection.requests_of_ok hr, ?_⟩, Request.canPost_of_make_introspection hr⟩
    rw [Request.method, (Request.make_eq_ok hr).2.1]
  · intro hpost
    refine ⟨Connection.requests_query_of_not_canPost hpost, ?_⟩
    rw [List.eq_nil_iff_forall_not_mem]
    intro e he
    exact hpost (hafter.canPost he)
  · intro r hr
    exact hafter.identified hr
  · intro st place q hq
    exact (hafter.accepted_of_handedOut hq).2

/-- A file with the schema of a service that lists no types. -/
def plainSchema : FileTree where
  entries := [(["s.json"], .file [0x7B, 0x22, 0x5F, 0x5F, 0x73, 0x63, 0x68, 0x65, 0x6D, 0x61, 0x22,
    0x3A, 0x20, 0x7B, 0x7D, 0x7D])]

/-- A service that answers its first request with an object that holds empty data. -/
def plainOutcomes : List Outcome :=
  [.response 200 [0x7B, 0x22, 0x64, 0x61, 0x74, 0x61, 0x22, 0x3A, 0x7B, 0x7D, 0x7D]]

/-- From that file a provider is made over any connection. -/
theorem create_plainSchema (c : Connection) (σ : Service) :
    (Provider.create c [] plainSchema (some ⟨["s.json"]⟩)).runOn σ =
      (.ok ⟨⟨[], ⟨none, none, none⟩⟩, c⟩, σ) := by
  have hload : Schema.load plainSchema ⟨["s.json"]⟩ = .ok ⟨[], ⟨none, none, none⟩⟩ :=
    toOption_eq_some_iff.mp (by decide +kernel)
  exact Provider.runOn_create_of_load hload rfl

/-- A session that binds a query and calls it. -/
theorem gated_bind_call : ∃ p σ,
    (Provider.create ⟨"http://api.test/graphql", .bearer "t", none⟩ [] plainSchema
      (some ⟨["s.json"]⟩)).runOn (.ofOutcomes plainOutcomes) = (.ok p, σ) ∧
    (start p σ).Gated ⟨"http://api.test/graphql", .bearer "t", none⟩ (some ⟨["s.json"]⟩)
      plainOutcomes plainSchema [.bind "q" "\x7b a \x7d" none, .call "q"] :=
  have hrun := create_plainSchema _ _
  ⟨_, _, hrun, gated hrun _⟩

/-- No query can be sent to a URL with a line feed. -/
theorem not_canPost_lineFeed : ¬Connection.CanPost ⟨"http://api.test/graphql\n", .none, none⟩ := by
  have hrefused : (Request.make ⟨"http://api.test/graphql\n", .none, none⟩
      (.query "")).toOption = none := by
    decide +kernel
  intro hpost
  obtain ⟨r, hr⟩ := Request.make_query_of_canPost hpost ""
  rw [hr] at hrefused
  cases hrefused

/-- Where the URL of the connection cannot be used, binding sends nothing, not even a document. -/
theorem unsent_bind_refused_url : ∃ p σ,
    (Provider.create ⟨"http://api.test/graphql\n", .none, none⟩ [] plainSchema
      (some ⟨["s.json"]⟩)).runOn (.ofOutcomes plainOutcomes) = (.ok p, σ) ∧
    Query.isDocument "\x7b a \x7d" = true ∧
    ((start p σ).run plainSchema [.bind "q" "\x7b a \x7d" none]).map (·.2) = [[]] := by
  have hdocument : Query.isDocument "\x7b a \x7d" = true := by cbv
  have hrun := create_plainSchema ⟨"http://api.test/graphql\n", .none, none⟩
    (.ofOutcomes plainOutcomes)
  obtain ⟨hstart, -⟩ := Backed.start hrun
  have hsent := hstart.run_snoc plainSchema [] (.bind "q" "\x7b a \x7d" none)
  rw [List.nil_append] at hsent
  refine ⟨_, _, hrun, hdocument, ?_⟩
  rw [hsent]
  change [(Act.bind "\x7b a \x7d").requests _ ++ []] = [[]]
  rw [Act.requests_bind hdocument, Connection.requests_query_of_not_canPost not_canPost_lineFeed]
  rfl

end Session

end GraphBind

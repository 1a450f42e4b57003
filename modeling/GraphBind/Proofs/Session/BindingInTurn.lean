import GraphBind.Proofs.Session.Gating
import Mathlib

/-!
# Binding several queries

Binding a mapping of queries is binding its entries in turn (`bindInTurn`), as a caller would who
keeps what is bound under its name and stops at the first failure. It is all or nothing
(`bindAll_allOrNothing`): either every entry is bound, or there is one at which it fails, and then
nothing is bound, the error is the one of that entry, and what stands behind it is not looked at.

What an entry sends depends on why it fails: a text that is no document is not sent, and no text is
where queries cannot be sent at all. `Posted` keeps the log and the outcomes that are left together,
so that the induction carries both.
-/

namespace GraphBind

namespace Connection

/-- Binds named queries one at a time: what has been bound is kept under its name, and the first
failure ends it. -/
def bindInTurn (c : Connection) (bound : List (String × BoundQuery)) :
    List (String × String) → Service →
      Except (Failure CompilationError) (List (String × BoundQuery)) × Service
  | [], σ => (.ok bound, σ)
  | (name, text) :: queries, σ =>
    match (c.bind text (some name)).runOn σ with
    | (.ok q, σ') => c.bindInTurn (Entries.put name q bound) queries σ'
    | (.error e, σ') => (.error e, σ')

/-- Binding in turn gets past the entries in front of `(name, text)` and fails there. -/
structure FailsAt (c : Connection) (queries : List (String × String)) (σ : Service)
    (before : List (String × String)) (name text : String) (e : Failure CompilationError)
    (σ' : Service) : Prop where
  entry : ∃ after, queries = before ++ (name, text) :: after
  earlier : ∃ bound σ₁, c.bindInTurn [] before σ = (.ok bound, σ₁) ∧
    (c.bind text (some name)).runOn σ₁ = (.error e, σ')

/-- The service has got one POST for each of some texts, in order, and nothing else, and each took
an outcome. -/
def Posted (c : Connection) (texts : List String) (σ σ' : Service) : Prop :=
  ∃ rs, σ' = σ.receive rs ∧ rs.map (·.content) = texts.map Content.query ∧
    ∀ r ∈ rs, r.method = .post ∧ r.connection = c

/-- What an entry of a mapping is bound as: under its key, with its text, and with its key as name;
where that is empty, with the name of the only operation of the document, if it has one. -/
structure BindsAs (c : Connection) (query : String × String) (e : String × BoundQuery) : Prop where
  key : e.1 = query.1
  text : e.2.text = query.2
  connection : e.2.connection = c
  name : query.1 ≠ "" → e.2.name = some query.1
  unnamed : query.1 = "" → ∃ ds, Query.parse query.2 = .ok ds ∧
    ∀ n, e.2.name = some n ↔ Query.operationNames ds = [some n]

variable {c : Connection} {queries before : List (String × String)} {name text : String}
  {given : Option String} {bound : List (String × BoundQuery)} {q : BoundQuery}
  {e : Failure CompilationError} {σ σ' σ₁ : Service}

/-! ## What is posted -/

theorem Posted.refl (c : Connection) (σ : Service) : c.Posted [] σ σ :=
  ⟨[], (Service.receive_nil σ).symm, rfl, fun _ hr => absurd hr List.not_mem_nil⟩

/-- Posts of two lists of texts, one after the other, are those of both. -/
theorem Posted.trans {texts texts' : List String} (h : c.Posted texts σ σ₁)
    (h' : c.Posted texts' σ₁ σ') : c.Posted (texts ++ texts') σ σ' := by
  obtain ⟨rs, rfl, hcontents, hrs⟩ := h
  obtain ⟨rs', rfl, hcontents', hrs'⟩ := h'
  refine ⟨rs ++ rs', Service.receive_receive σ rs rs', ?_, ?_⟩
  · rw [List.map_append, List.map_append, hcontents, hcontents']
  · intro r hr
    rcases List.mem_append.mp hr with hr | hr
    · exact hrs r hr
    · exact hrs' r hr

/-- Where queries can be sent, binding one posts its text if that is a document. -/
theorem posted_bind (hpost : c.CanPost) (text : String) (given : Option String) (σ : Service) :
    c.Posted (if Query.isDocument text then [text] else []) σ
      ((c.bind text given).runOn σ).2 := by
  rw [runOn_bind]
  by_cases hdocument : Query.isDocument text = true
  · obtain ⟨r, hr, hmethod, hcontent⟩ := requests_query hpost text
    rw [Act.requests_bind hdocument, if_pos hdocument, hr]
    have hmem : r ∈ c.requests (.query text) := by
      rw [hr]
      exact List.mem_cons_self
    refine ⟨[r], rfl, by rw [List.map_singleton, List.map_singleton, hcontent], fun r' hr' => ?_⟩
    rw [List.mem_singleton.mp hr']
    exact ⟨hmethod, (connection_of_mem_requests hmem).1⟩
  · rw [Act.requests_bind_of_not_isDocument (Bool.eq_false_iff.mpr hdocument), if_neg hdocument,
      Service.receive_nil]
    exact .refl c σ

/-- Where queries cannot be sent, binding one does nothing. -/
theorem runOn_bind_of_not_canPost (hpost : ¬c.CanPost) (text : String) (given : Option String)
    (σ : Service) : ((c.bind text given).runOn σ).2 = σ := by
  have hsilent : (Act.bind text).requests c = [] := by
    cases hdocument : Query.isDocument text with
    | true => rw [Act.requests_bind hdocument, requests_query_of_not_canPost hpost]
    | false => exact Act.requests_bind_of_not_isDocument hdocument
  rw [runOn_bind, hsilent, Service.receive_nil]

/-! ## What is bound -/

/-- The name of a query is that of its only operation. -/
theorem operationName_of_checkedName {parsed : Option String}
    (h : BoundQuery.checkedName text = .ok parsed) : ∃ ds, Query.parse text = .ok ds ∧
      ∀ n, parsed = some n ↔ Query.operationNames ds = [some n] := by
  unfold BoundQuery.checkedName Query.operationName at h
  cases hparse : Query.parse text with
  | error e =>
    rw [hparse] at h
    cases e <;> cases h
  | ok ds =>
    rw [hparse] at h
    cases h
    refine ⟨ds, rfl, fun n => ?_⟩
    dsimp only
    split
    · next name hnames => simp [hnames]
    · next hnames => simpa using hnames (some n)

/-- What is bound as an entry of a mapping. -/
theorem bindsAs_of_bind (h : ((c.bind text (some name)).runOn σ).1 = .ok q) :
    c.BindsAs (name, text) (name, q) := by
  obtain ⟨parsed, v, hname, -, rfl⟩ := runOn_bind_eq_ok_iff.mp h
  refine ⟨rfl, rfl, rfl, fun hne => ?_, ?_⟩
  · have hne : (name == "") = false := beq_eq_false_iff_ne.mpr hne
    simp [BoundQuery.chooseName, hne]
  · rintro rfl
    exact operationName_of_checkedName hname

/-! ## In turn -/

/-- In turn, the entries are bound behind what is bound already, if no key is repeated. -/
theorem bindInTurn_eq (c : Connection) (bound : List (String × BoundQuery))
    (queries : List (String × String)) (σ : Service)
    (hn : (Entries.keys bound ++ Entries.keys queries).Nodup) :
    c.bindInTurn bound queries σ =
      (((c.bindAll queries).runOn σ).1.map (bound ++ ·), ((c.bindAll queries).runOn σ).2) := by
  induction queries generalizing bound σ with
  | nil =>
    change (Except.ok bound, σ) = (Except.ok (bound ++ []), σ)
    rw [List.append_nil]
  | cons query queries ih =>
    obtain ⟨name, text⟩ := query
    rw [bindInTurn, runOn_bindAll_cons]
    rcases (c.bind text (some name)).runOn σ with ⟨e | q, σ'⟩
    · rfl
    · have hn' : (Entries.keys (bound ++ [(name, q)]) ++ Entries.keys queries).Nodup := by
        rw [Entries.keys, List.map_append, List.append_assoc]
        exact hn
      have hfresh : name ∉ Entries.keys bound := fun hmem =>
        (List.nodup_append.mp hn).2.2 name hmem name List.mem_cons_self rfl
      dsimp only
      rw [Entries.put_of_notMem hfresh, ih _ _ hn']
      rcases (c.bindAll queries).runOn σ' with ⟨e | bound', σ''⟩
      · rfl
      · dsimp only
        rw [Except.map, Except.map, List.append_assoc]
        rfl

theorem bindAll_eq_bindInTurn (hn : (Entries.keys queries).Nodup) :
    (c.bindAll queries).runOn σ = c.bindInTurn [] queries σ := by
  rw [bindInTurn_eq c [] queries σ hn]
  rcases (c.bindAll queries).runOn σ with ⟨e | bound, σ'⟩
  · rfl
  · rfl

/-- Binding in turn goes on where it has got to. -/
theorem bindInTurn_append (c : Connection) (bound : List (String × BoundQuery))
    (before queries : List (String × String)) (σ : Service) :
    c.bindInTurn bound (before ++ queries) σ =
      match c.bindInTurn bound before σ with
      | (.error e, σ') => (.error e, σ')
      | (.ok bound', σ') => c.bindInTurn bound' queries σ' := by
  induction before generalizing bound σ with
  | nil => rfl
  | cons query before ih =>
    obtain ⟨name, text⟩ := query
    rw [List.cons_append, bindInTurn, bindInTurn]
    rcases (c.bind text (some name)).runOn σ with ⟨e | q, σ'⟩
    · rfl
    · exact ih _ σ'

/-- An error of binding in turn is the error of one of the entries, in front of which all are
bound. -/
theorem exists_failsAt (h : c.bindInTurn bound queries σ = (.error e, σ')) :
    ∃ before name text after bound' σ₁, queries = before ++ (name, text) :: after ∧
      c.bindInTurn bound before σ = (.ok bound', σ₁) ∧
      (c.bind text (some name)).runOn σ₁ = (.error e, σ') := by
  induction queries generalizing bound σ with
  | nil => cases h
  | cons query queries ih =>
    obtain ⟨name, text⟩ := query
    rw [bindInTurn] at h
    rcases hfirst : (c.bind text (some name)).runOn σ with ⟨e' | q, σ''⟩
    · rw [hfirst] at h
      cases h
      exact ⟨[], name, text, queries, bound, σ, rfl, rfl, hfirst⟩
    · rw [hfirst] at h
      obtain ⟨before, name', text', after, bound', σ₁, rfl, hbefore, hlast⟩ := ih h
      refine ⟨(name, text) :: before, name', text', after, bound', σ₁, rfl, ?_, hlast⟩
      rw [bindInTurn, hfirst]
      exact hbefore

/-- Nothing is bound without a failure unless it is bound as its entry says and posted. -/
theorem bindsAs_of_bindAll (h : (c.bindAll queries).runOn σ = (.ok bound, σ')) :
    List.Forall₂ c.BindsAs queries bound ∧ c.Posted (queries.map (·.2)) σ σ' ∧
      (queries ≠ [] → c.CanPost) := by
  induction queries generalizing bound σ with
  | nil =>
    cases h
    exact ⟨.nil, .refl c _, fun hne => absurd rfl hne⟩
  | cons query queries ih =>
    obtain ⟨name, text⟩ := query
    obtain ⟨q, σ₁, rest, hfirst, hrest, rfl⟩ := bindAll_cons_eq_ok h
    obtain ⟨hbound, hposted, -⟩ := ih hrest
    obtain ⟨hpost, htext, haccepted⟩ := bind_eq_ok (congrArg Prod.fst hfirst)
    have hone := posted_bind hpost text (some name) σ
    rw [hfirst, if_pos (htext ▸ haccepted.document)] at hone
    exact ⟨.cons (bindsAs_of_bind (congrArg Prod.fst hfirst)) hbound, hone.trans hposted,
      fun _ => hpost⟩

namespace FailsAt

/-- Whatever stands behind the entry at which binding fails, the run is the same. -/
theorem runOn_bindInTurn (h : c.FailsAt queries σ before name text e σ')
    (later : List (String × String)) :
    c.bindInTurn [] (before ++ (name, text) :: later) σ = (.error e, σ') := by
  obtain ⟨bound, σ₁, hbefore, hlast⟩ := h.earlier
  rw [bindInTurn_append, hbefore]
  dsimp only
  rw [bindInTurn, hlast]

/-- The entries in front of the failure are posted, and the text at it if that is a document; but
nothing is where queries cannot be sent. -/
theorem posted (h : c.FailsAt queries σ before name text e σ')
    (hn : (Entries.keys queries).Nodup) :
    (c.CanPost →
      c.Posted (before.map (·.2) ++ if Query.isDocument text then [text] else []) σ σ') ∧
    (¬c.CanPost → before = [] ∧ σ' = σ) := by
  obtain ⟨after, rfl⟩ := h.entry
  obtain ⟨bound, σ₁, hbefore, hlast⟩ := h.earlier
  have hn' : (Entries.keys before).Nodup :=
    hn.sublist ((List.sublist_append_left before _).map _)
  rw [← bindAll_eq_bindInTurn hn'] at hbefore
  obtain ⟨-, hposted, hcan⟩ := bindsAs_of_bindAll hbefore
  refine ⟨fun hpost => ?_, fun hpost => ?_⟩
  · have hone := posted_bind hpost text (some name) σ₁
    rw [hlast] at hone
    exact hposted.trans hone
  · have hnone : before = [] := Classical.byContradiction fun hne => hpost (hcan hne)
    subst hnone
    cases hbefore
    have hsame := runOn_bind_of_not_canPost hpost text (some name) σ
    rw [hlast] at hsame
    exact ⟨rfl, hsame⟩

end FailsAt

/-- **Binding a mapping of queries is all or nothing.** It is binding the entries in turn. It fails
if and only if one of them does, in front of which all are bound: then with the error of that entry,
whatever stands behind it, and what has been posted are the texts in front and the text itself if it
is a document; nothing at all where queries cannot be sent, and the first entry fails there. If it
succeeds, every entry is bound under its key, with its own text and name, and its text is posted. -/
theorem bindAll_allOrNothing (c : Connection) (hn : (Entries.keys queries).Nodup) (σ : Service) :
    (c.bindAll queries).runOn σ = c.bindInTurn [] queries σ ∧
    (∀ e σ', (c.bindAll queries).runOn σ = (.error e, σ') ↔
      ∃ before name text, c.FailsAt queries σ before name text e σ') ∧
    (∀ before name text e σ', c.FailsAt queries σ before name text e σ' →
      (∀ later, (Entries.keys (before ++ (name, text) :: later)).Nodup →
        (c.bindAll (before ++ (name, text) :: later)).runOn σ = (.error e, σ')) ∧
      (c.CanPost →
        c.Posted (before.map (·.2) ++ if Query.isDocument text then [text] else []) σ σ') ∧
      (¬c.CanPost → before = [] ∧ σ' = σ)) ∧
    ∀ bound σ', (c.bindAll queries).runOn σ = (.ok bound, σ') →
      List.Forall₂ c.BindsAs queries bound ∧ c.Posted (queries.map (·.2)) σ σ' := by
  refine ⟨bindAll_eq_bindInTurn hn, fun e σ' => ⟨fun h => ?_, ?_⟩, ?_, fun bound σ' h => ?_⟩
  · rw [bindAll_eq_bindInTurn hn] at h
    obtain ⟨before, name, text, after, bound, σ₁, hsplit, hbefore, hlast⟩ := exists_failsAt h
    exact ⟨before, name, text, ⟨after, hsplit⟩, bound, σ₁, hbefore, hlast⟩
  · rintro ⟨before, name, text, h⟩
    obtain ⟨after, hsplit⟩ := h.entry
    rw [bindAll_eq_bindInTurn hn, hsplit]
    exact h.runOn_bindInTurn after
  · intro before name text e σ' h
    refine ⟨fun later hlater => ?_, h.posted hn⟩
    rw [bindAll_eq_bindInTurn hlater]
    exact h.runOn_bindInTurn later
  · obtain ⟨hbound, hposted, -⟩ := bindsAs_of_bindAll h
    exact ⟨hbound, hposted⟩

/-- A connection over which queries can be sent, and the URL that they go to. -/
def plainConnection : Connection := ⟨"http://h", .none, none⟩

@[inherit_doc plainConnection]
def plainUrl : Url where
  scheme := "http"
  userinfo := ""
  host := "h"
  port := none
  path := ""
  query := none
  fragment := none

theorem make_plainConnection (timeout : Option Decimal.Binary64) (text : String) :
    Request.make { plainConnection with timeout } (.query text) =
      .ok ⟨{ plainConnection with timeout }, .query text, plainUrl, plainUrl⟩ := by
  have hheaders : (Request.ownHeaders { plainConnection with timeout }).fault? = none := by cbv
  have hurl : Request.target { plainConnection with timeout } (.query text) = .ok plainUrl := by
    cbv
  have hnamed : (!plainUrl.host.isEmpty &&
      !(Request.ownHeaders { plainConnection with timeout }).has "host") = true := by cbv
  have hhost : Request.checkHost plainUrl = .ok () := by cbv
  have haddress : plainUrl.withQuery none = .ok plainUrl := by cbv
  unfold Request.make
  rw [hheaders, hurl]
  simp only [Except.mapError, Bind.bind, Except.bind, pure, Except.pure, hnamed, hhost, haddress,
    if_true]

/-- A service that answers with data accepts whatever it is asked over that connection. -/
theorem execute_plainConnection (timeout : Option Decimal.Binary64) (text : String) :
    ((Connection.execute { plainConnection with timeout } text).runOn
      (.ofOutcomes Session.plainOutcomes)).1 = .ok (.data (.object [])) := by
  have hjson : Json.ofBytes? [0x7B, 0x22, 0x64, 0x61, 0x74, 0x61, 0x22, 0x3A, 0x7B, 0x7D, 0x7D] =
      some (.object [(Text.ofString "data", .object [])]) := by with_unfolding_all rfl
  have habsolute : plainUrl.isAbsolute = true := by cbv
  have hdocument : ((Service.ofOutcomes Session.plainOutcomes).outcomeAt 0).document
      ⟨{ plainConnection with timeout }, .query text, plainUrl, plainUrl⟩ =
        .ok (.object [(Text.ofString "data", .object [])]) := by
    show Outcome.document _ (.response 200 _) = _
    rw [Outcome.document, if_pos habsolute, Request.document, hjson]
    rfl
  rw [runOn_execute_of_make (make_plainConnection timeout text)]
  exact Request.answer_of_document hdocument

/-- A document is bound over that connection under the name that it is given. -/
theorem bind_plainConnection (timeout : Option Decimal.Binary64) (name : String) :
    ((Connection.bind { plainConnection with timeout } "\x7b a \x7d" (some name)).runOn
      (.ofOutcomes Session.plainOutcomes)).1 =
        .ok ⟨"\x7b a \x7d", { plainConnection with timeout },
          BoundQuery.chooseName (some name) none⟩ := by
  have hparse : Query.parse "\x7b a \x7d" = .ok [.operation none] := by cbv
  have hname : BoundQuery.checkedName "\x7b a \x7d" = .ok none := by
    rw [BoundQuery.checkedName, Query.operationName, hparse]
    rfl
  exact runOn_bind_eq_ok_iff.mpr
    ⟨none, _, hname, execute_plainConnection timeout "\x7b a \x7d", rfl⟩

/-- A mapping whose second text is no document. -/
def brokenSecond : List (String × String) :=
  [("a", "\x7b a \x7d"), ("b", "\x7b"), ("c", "\x7b c \x7d")]

/-- The first text is posted and accepted, the second is at fault, the third is not looked at. -/
theorem bindAll_allOrNothing_brokenSecond : (Entries.keys brokenSecond).Nodup ∧ ∃ e σ',
    (plainConnection.bindAll brokenSecond).runOn (.ofOutcomes Session.plainOutcomes) =
      (.error e, σ') ∧
    plainConnection.Posted ["\x7b a \x7d"] (.ofOutcomes Session.plainOutcomes) σ' := by
  have hn : (Entries.keys brokenSecond).Nodup := by decide
  have hbroken : Query.isDocument "\x7b" = false := by cbv
  have hfirst : ((plainConnection.bind "\x7b a \x7d" (some "a")).runOn
      (.ofOutcomes Session.plainOutcomes)).1 = .ok ⟨"\x7b a \x7d", plainConnection, some "a"⟩ :=
    bind_plainConnection none "a"
  rcases hrun : (plainConnection.bind "\x7b a \x7d" (some "a")).runOn
    (.ofOutcomes Session.plainOutcomes) with ⟨e | q, σ₁⟩
  · rw [hrun] at hfirst
    cases hfirst
  rcases hlast : (plainConnection.bind "\x7b" (some "b")).runOn σ₁ with ⟨e | q', σ'⟩
  · have hfails : plainConnection.FailsAt brokenSecond (.ofOutcomes Session.plainOutcomes)
        [("a", "\x7b a \x7d")] "b" "\x7b" e σ' := by
      refine ⟨⟨[("c", "\x7b c \x7d")], rfl⟩, [("a", q)], σ₁, ?_, hlast⟩
      rw [bindInTurn, hrun]
      rfl
    obtain ⟨-, herror, hat, -⟩ :=
      bindAll_allOrNothing plainConnection hn (.ofOutcomes Session.plainOutcomes)
    have hposted := (hat _ _ _ _ _ hfails).2.1 ⟨"", _, make_plainConnection none ""⟩
    rw [hbroken] at hposted
    exact ⟨hn, e, σ', (herror e σ').mpr ⟨_, _, _, hfails⟩, hposted⟩
  · obtain ⟨-, htext, haccepted⟩ := bind_eq_ok (congrArg Prod.fst hlast)
    have hdocument := haccepted.document
    rw [htext, hbroken] at hdocument
    cases hdocument

/-- Where the URL of a provider cannot be used, binding fails at the first document, and its text is
not posted. -/
theorem unsent_bindAll_refused_url : ∃ p σ e,
    (Provider.create ⟨"http://api.test/graphql\n", .none, none⟩ [] Session.plainSchema
      (some ⟨["s.json"]⟩)).runOn (.ofOutcomes Session.plainOutcomes) = (.ok p, σ) ∧
    Query.isDocument "\x7b a \x7d" = true ∧
    p.connection.FailsAt [("q", "\x7b a \x7d")] σ [] "q" "\x7b a \x7d" e σ ∧
    ¬p.connection.Posted ["\x7b a \x7d"] σ σ := by
  have hdocument : Query.isDocument "\x7b a \x7d" = true := by cbv
  have hsame := runOn_bind_of_not_canPost Session.not_canPost_lineFeed "\x7b a \x7d" (some "q")
    (.ofOutcomes Session.plainOutcomes)
  rcases hbind : (Connection.bind ⟨"http://api.test/graphql\n", .none, none⟩ "\x7b a \x7d"
    (some "q")).runOn (.ofOutcomes Session.plainOutcomes) with ⟨e | q, σ⟩
  · rw [hbind] at hsame
    cases hsame
    refine ⟨_, _, e, Session.create_plainSchema _ _, hdocument,
      ⟨⟨[], rfl⟩, [], _, rfl, hbind⟩, ?_⟩
    -- what has been posted would be behind the log that is there already
    rintro ⟨rs, hrs, hcontents, -⟩
    rw [List.self_eq_append_right.mp (congrArg Service.log hrs)] at hcontents
    cases hcontents
  · exact absurd (bind_eq_ok (congrArg Prod.fst hbind)).1 Session.not_canPost_lineFeed

end Connection

end GraphBind

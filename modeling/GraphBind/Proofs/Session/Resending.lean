import GraphBind.Proofs.Answer.Contents
import GraphBind.Proofs.Exchange.QueryBody
import GraphBind.Proofs.Session.BindingInTurn

/-!
# Calling bound queries

A bound query keeps the text that it was given and the connection that it was accepted over, and no
more, so that every call of it repeats the request of its preflight, whatever else the service has
been asked since (`BoundQuery.Repeats`). A handle keeps its query in every step that does not bind
it anew (`get?_bound_step`), and so in every run of such steps. `repeats_preflight` puts this
together for all calls of a run.
-/

namespace GraphBind

/-! ## Calls -/

/-- That calls of a bound query repeat a request: a POST over its connection, with a body that is a
document with one member, the text of the query. A call sends the request once more, and nothing
else, and is answered by what becomes of it; an object is an answer in any case, and that answer
reports the errors in it. -/
structure BoundQuery.Repeats (q : BoundQuery) (r : Request) : Prop where
  method : r.method = .post
  connection : r.connection = q.connection
  decoded : Json.ofBytes? (Text.Utf8.encode r.body.toList) =
    some (.object [(Text.ofString "query", .scalar (.str (Text.ofString q.text)))])
  call : ∀ σ : Service, q.call.runOn σ = (r.answer (σ.outcomeAt 0), σ.receive [r])
  answered : ∀ o members, Outcome.document r o = .ok (.object members) →
    ∃ a, Answer.ofJson (.object members) = .ok a ∧ r.answer o = .ok a ∧
      (Text.ofString "errors" ∈ Entries.keys members → ∃ details, a = .errors details)

/-- The request that a bound query makes is the one that it repeats. -/
theorem BoundQuery.repeats_of_make {q : BoundQuery} {r : Request}
    (h : Request.make q.connection (.query q.text) = .ok r) : q.Repeats r := by
  obtain ⟨hconnection, hcontent, -⟩ := Request.make_eq_ok h
  refine ⟨by rw [Request.method, hcontent], hconnection, ?_,
    Connection.runOn_execute_of_make h, fun o members hdocument => ?_⟩
  · rw [Request.body, hcontent]
    exact Request.ofBytes?_queryBody q.text
  · have hresult : ∀ {a}, Answer.ofJson (.object members) = .ok a → r.answer o = .ok a := by
      intro a hanswer
      rw [Request.answer_of_document hdocument, hanswer]
      rfl
    cases herrors : Entries.get? (Text.ofString "errors") members with
    | some errors =>
      have hanswer := Answer.ofJson_of_get?_errors herrors
      exact ⟨_, hanswer, hresult hanswer, fun _ => ⟨_, rfl⟩⟩
    | none =>
      have hanswer := Answer.ofJson_of_get?_errors_eq_none herrors
      refine ⟨_, hanswer, hresult hanswer, fun hmem => ?_⟩
      obtain ⟨errors, herrors'⟩ := Entries.exists_get? hmem
      cases herrors.symm.trans herrors'

/-- Different texts are never sent as the same body. -/
theorem BoundQuery.Repeats.content_of_body {q : BoundQuery} {r r' : Request} (h : q.Repeats r)
    (hmethod : r'.method = .post) (hbody : r'.body = r.body) : r'.content = .query q.text := by
  have hdecoded := h.decoded
  rw [← hbody, Request.body] at hdecoded
  rw [Request.method] at hmethod
  cases hcontent : r'.content with
  | introspection =>
    rw [hcontent] at hmethod
    cases hmethod
  | query text =>
    rw [hcontent] at hdecoded
    rw [Request.eq_of_ofBytes?_queryBody hdecoded]

namespace Step

/-- The texts that a step is given to bind. -/
def texts : Step → List String
  | bind _ text _ => [text]
  | bindMany queries => (Entries.ofList queries).map (·.2)
  | _ => []

/-- That a step is given a query to bind with a handle. -/
def Binds (handle : String) : Step → Prop
  | bind handle' _ _ => handle' = handle
  | bindMany queries => handle ∈ Entries.keys queries
  | _ => False

end Step

namespace Session

variable {s : Session} {files : FileTree} {st : Step} {place : Nat} {q : BoundQuery}
  {handle : String}

/-! ## Preflights -/

/-- Only a step that binds hands out queries, and only if all goes well. -/
inductive HandsOut (s : Session) : Step → Nat → BoundQuery → Prop where
  | bind {handle text : String} {name : Option String} {q : BoundQuery} {σ : Service}
      (h : (s.provider.connection.bind text name).runOn s.service = (.ok q, σ)) :
    HandsOut s (.bind handle text name) 0 q
  | bindMany {queries : List (String × String)} {qs : List (String × BoundQuery)} {place : Nat}
      {q : BoundQuery} {σ : Service}
      (h : (s.provider.connection.bindAll (Entries.ofList queries)).runOn s.service = (.ok qs, σ))
      (hq : (qs.map (·.2))[place]? = some q) : HandsOut s (.bindMany queries) place q

/-- What a step hands out it has sent once before. -/
theorem handsOut_of_handedOut (hq : (s.step files st).2.handedOut[place]? = some q) :
    s.HandsOut st place q := by
  have hnone : (s.step files st).2.handedOut ≠ [] := by
    rintro hnil
    rw [hnil] at hq
    cases hq
  cases st with
  | bind handle text name =>
    rcases hrun : (s.provider.connection.bind text name).runOn s.service with ⟨e | q', σ⟩
    · rw [step, hrun] at hnone
      exact absurd (handedOut_failureResult e) hnone
    · rw [step, hrun] at hq
      cases place with
      | zero =>
        cases hq
        exact .bind hrun
      | succ place => cases hq
  | bindMany queries =>
    rcases hrun : (s.provider.connection.bindAll (Entries.ofList queries)).runOn s.service with
      ⟨e | qs, σ⟩
    · rw [step, hrun] at hnone
      exact absurd (handedOut_failureResult e) hnone
    · rw [step, hrun] at hq
      exact .bindMany hrun hq
  | call handle =>
    unfold step at hnone
    dsimp only at hnone
    split at hnone
    · exact absurd rfl hnone
    · exact absurd (handedOut_answerResult _) hnone
  | execute text => exact absurd (handedOut_answerResult _) hnone
  | generate handles =>
    unfold step at hnone
    dsimp only at hnone
    split at hnone
    · exact absurd rfl hnone
    · split at hnone <;> exact absurd rfl hnone

namespace HandsOut

/-- Queries are handed out with the texts that the step is given. -/
theorem text (h : s.HandsOut st place q) : st.texts[place]? = some q.text := by
  cases h with
  | bind h => exact congrArg some (Connection.bind_eq_ok (congrArg Prod.fst h)).2.1.symm
  | @bindMany queries qs _ _ _ h hq =>
    have htexts := (Connection.bindAll_eq_ok (congrArg Prod.fst h)).2.1
    change ((Entries.ofList queries).map (·.2))[place]? = some q.text
    rw [← htexts, ← Function.comp_def, ← List.map_map, List.getElem?_map, hq]
    rfl

/-- A step that hands out a query does what its acts say, whatever has been bound before. -/
theorem moves (h : s.HandsOut st place q) (files : FileTree) :
    s.Moves st (s.step files st).1 (s.step files st).2 := by
  cases h with
  | bind h => exact moves_bind s files ..
  | bindMany h hq => exact moves_bindMany s files _

end HandsOut

/-- The preflight of a query that a step hands out is a request that calls repeat. -/
theorem exists_preflight (hq : (s.step files st).2.handedOut[place]? = some q) :
    ∃ r, (s.requests st)[place]? = some r ∧ q.Repeats r := by
  have haccepted := (((handsOut_of_handedOut hq).moves files).handedOut place q hq).2
  obtain ⟨r, hr, hcontent⟩ := haccepted.sent
  obtain ⟨a, -, hmem⟩ := List.mem_flatMap.mp (List.mem_of_getElem? hr)
  have hmade := Backed.made_of_mem_requests hmem
  rw [hcontent, ← haccepted.connection] at hmade
  exact ⟨r, hr, BoundQuery.repeats_of_make hmade⟩

/-! ## Handles -/

/-- Queries that are bound one after the other keep their names, in order. -/
theorem keys_of_bindAll {c : Connection} {queries : List (String × String)}
    {bound : List (String × BoundQuery)} {σ σ' : Service}
    (h : (c.bindAll queries).runOn σ = (.ok bound, σ')) :
    Entries.keys bound = Entries.keys queries := by
  have hbinds := (Connection.bindsAs_of_bindAll h).1
  clear h
  induction hbinds with
  | nil => rfl
  | cons hbinds _ ih => exact congrArg₂ List.cons hbinds.key ih

/-- What is bound under a name stays, if a step does not bind that name. -/
theorem get?_bound_step (h : ¬st.Binds handle) :
    Entries.get? handle (s.step files st).1.bound = Entries.get? handle s.bound := by
  cases st with
  | bind handle' text name =>
    unfold step
    dsimp only
    rcases (s.provider.connection.bind text name).runOn s.service with ⟨e | q, σ⟩
    · rfl
    · change Entries.get? handle (Entries.put handle' q s.bound) = _
      have hne : ¬handle' = handle := h
      rw [Entries.get?_put, if_neg hne]
  | bindMany queries =>
    unfold step
    dsimp only
    rcases hrun : (s.provider.connection.bindAll (Entries.ofList queries)).runOn s.service with
      ⟨e | qs, σ⟩
    · rfl
    · have hnotMem : handle ∉ Entries.keys qs := by
        rw [keys_of_bindAll hrun, Entries.ofList, Entries.mem_keys_putAll, not_or]
        exact ⟨List.not_mem_nil, h⟩
      have hnone : Entries.get? handle qs.reverse = none := by
        refine Entries.get?_eq_none fun hmem => hnotMem ?_
        rwa [Entries.keys, List.map_reverse, List.mem_reverse] at hmem
      change Entries.get? handle (Entries.putAll s.bound qs) = _
      rw [Entries.get?_putAll, hnone, Option.none_or]
  | call handle' =>
    unfold step
    dsimp only
    split <;> rfl
  | execute text => rfl
  | generate handles =>
    unfold step
    dsimp only
    split
    · rfl
    · split <;> rfl

/-- Steps that do not bind a handle leave its query alone. -/
theorem get?_bound_after {steps : List Step} (h : ∀ st ∈ steps, ¬st.Binds handle) :
    Entries.get? handle (s.after files steps).bound = Entries.get? handle s.bound := by
  induction steps generalizing s with
  | nil => rfl
  | cons st steps ih =>
    obtain ⟨hst, hsteps⟩ := List.forall_mem_cons.mp h
    rw [after, ih hsteps, get?_bound_step hst]

/-! ## Runs -/

/-- What a step of a run comes to is what it comes to in the session before it. -/
theorem getElem?_run (s : Session) (files : FileTree) (steps : List Step) (i : Nat) :
    (s.run files steps)[i]? = steps[i]?.map fun st =>
      (((s.after files (steps.take i)).step files st).2,
        ((s.after files (steps.take i)).step files st).1.service.log.drop
          (s.after files (steps.take i)).service.log.length) := by
  induction steps generalizing s i with
  | nil => rfl
  | cons st steps ih =>
    cases i with
    | zero => rfl
    | succ i =>
      rw [run_cons, List.getElem?_cons_succ, List.getElem?_cons_succ, List.take_succ_cons, ih]
      rfl

/-- A call sends the request that the query repeats, and leaves the session otherwise. -/
theorem step_call (h : Entries.get? handle s.bound = some q) {r : Request} (hr : q.Repeats r) :
    s.step files (.call handle) = ({ s with service := s.service.receive [r] },
      answerResult (r.answer (s.service.outcomeAt 0))) := by
  unfold step
  dsimp only
  rw [h]
  dsimp only
  rw [hr.call]

/-- **Calls repeat the preflight.** A query that a step hands out holds the text in its place among
the texts that the step was given, and the request in that place among those that the step sends is
its preflight. Every later call of it in a run, after whatever steps leave its handle alone, sends
that request again and nothing else, and results in what the outcome of the call comes to. No query
of another text is sent with the same body. -/
theorem repeats_preflight
    (hq : (s.step files st).2.handedOut[place]? = some q) :
    st.texts[place]? = some q.text ∧
    (s.step files st).1.service = s.service.receive (s.requests st) ∧
    ∃ r, (s.requests st)[place]? = some r ∧ q.Repeats r ∧
      (∀ r' : Request, r'.method = .post → r'.body = r.body → r'.content = .query q.text) ∧
      ∀ handle later i, Entries.get? handle (s.step files st).1.bound = some q →
        (∀ st' ∈ later.take i, ¬st'.Binds handle) → later[i]? = some (.call handle) →
          ((s.step files st).1.run files later)[i]? =
            some (answerResult (r.answer
              (((s.step files st).1.after files (later.take i)).service.outcomeAt 0)), [r]) := by
  obtain ⟨r, hr, hrepeats⟩ := exists_preflight hq
  have hhands := handsOut_of_handedOut hq
  refine ⟨hhands.text, (hhands.moves files).service, r, hr, hrepeats,
    fun r' => hrepeats.content_of_body, fun handle later i hbound hlater hcall => ?_⟩
  rw [← get?_bound_after hlater] at hbound
  rw [getElem?_run, hcall, Option.map_some, step_call hbound hrepeats]
  simp only [Service.receive, List.drop_left]

/-- A session with nothing bound, over a connection that queries can be sent over. -/
def plainSession : Session where
  provider := ⟨default, Connection.plainConnection⟩
  bound := []
  service := .ofOutcomes plainOutcomes

/-- A query bound and called, with another request in between. -/
theorem repeats_preflight_plain : ∃ s q r o,
    plainSession.step plainSchema (.bind "q" "\x7b a \x7d" (some "a")) = (s, .bound q) ∧
    q.text = "\x7b a \x7d" ∧
    (plainSession.requests (.bind "q" "\x7b a \x7d" (some "a")))[0]? = some r ∧ q.Repeats r ∧
    (s.run plainSchema [.execute "\x7b b \x7d", .call "q"])[1]? =
      some (answerResult (r.answer o), [r]) := by
  have hbind := Connection.bind_plainConnection none "a"
  rcases hrun : (plainSession.provider.connection.bind "\x7b a \x7d" (some "a")).runOn
    plainSession.service with ⟨e | q, σ⟩
  · cases (congrArg Prod.fst hrun).symm.trans hbind
  have hstep : plainSession.step plainSchema (.bind "q" "\x7b a \x7d" (some "a")) =
      ({ plainSession with service := σ, bound := [("q", q)] }, .bound q) := by
    rw [step, hrun]
    rfl
  have hq : (plainSession.step plainSchema (.bind "q" "\x7b a \x7d" (some "a"))).2.handedOut[0]? =
      some q := by
    rw [hstep]
    rfl
  obtain ⟨htext, -, r, hr, hrepeats, -, hcalls⟩ := repeats_preflight hq
  rw [hstep] at hcalls
  refine ⟨_, q, r, _, hstep, (Option.some.inj htext).symm, hr, hrepeats,
    hcalls "q" [.execute "\x7b b \x7d", .call "q"] 1 rfl ?_ rfl⟩
  intro st hst
  rw [List.mem_singleton.mp hst]
  exact id

end Session

end GraphBind

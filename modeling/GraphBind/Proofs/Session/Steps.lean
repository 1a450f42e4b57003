import GraphBind.Proofs.Session.Preflight
import GraphBind.Session.Script

/-!
# What steps do

A step of a session comes down to acts on single queries (`Session.acts`). `Session.Moves` says all
that a step can do: it sends what its acts send and no more, keeps the provider, and adds to the
bound queries those only that it hands out, each accepted by the answer to its own request.
`moves_step` holds of every step, so that nothing else has to take steps apart.
-/

namespace GraphBind

/-- The queries that a step hands out. -/
def StepResult.handedOut : StepResult → List BoundQuery
  | bound q => [q]
  | boundMany qs => qs.map (·.2)
  | _ => []

namespace Session

/-- What a step does with queries, in order. -/
def acts (s : Session) : Step → List Act
  | .bind _ text _ => [.bind text]
  | .bindMany queries =>
    (s.provider.connection.attempted (Entries.ofList queries) s.service).map .bind
  | .call handle =>
    match Entries.get? handle s.bound with
    | none => []
    | some q => [.ask q.text]
  | .execute text => [.ask text]
  | .generate _ => []

/-- The requests that a step sends. -/
def requests (s : Session) (st : Step) : List Request :=
  (s.acts st).flatMap (Act.requests s.provider.connection)

/-- All that a step can do. -/
structure Moves (s : Session) (st : Step) (next : Session) (result : StepResult) : Prop where
  provider : next.provider = s.provider
  service : next.service = s.service.receive (s.requests st)
  bound : ∀ e ∈ next.bound, e ∈ s.bound ∨ e.2 ∈ result.handedOut
  handedOut : ∀ (place : Nat) (q : BoundQuery), result.handedOut[place]? = some q →
    s.provider.connection.CanPost ∧
      q.AcceptedAt s.provider.connection (s.requests st) s.service.outcomeAt place

/-- A step that hands out nothing and leaves the bound queries alone. -/
theorem Moves.of_same {s next : Session} {st : Step} {result : StepResult}
    (hprovider : next.provider = s.provider) (hbound : next.bound = s.bound)
    (hservice : next.service = s.service.receive (s.requests st))
    (hresult : result.handedOut = []) : s.Moves st next result where
  provider := hprovider
  service := hservice
  bound := by
    intro e he
    exact .inl (hbound ▸ he)
  handedOut := by
    intro place q hq
    rw [hresult] at hq
    cases hq

theorem handedOut_failureResult (e : Failure CompilationError) :
    (failureResult e).handedOut = [] := by
  cases e <;> rfl

theorem handedOut_answerResult (r : Except (Failure TransportError) Answer) :
    (answerResult r).handedOut = [] := by
  rcases r with (e | x) | a <;> rfl

theorem requests_bind (s : Session) (handle text : String) (name : Option String) :
    s.requests (.bind handle text name) = (Act.bind text).requests s.provider.connection := by
  rw [requests, acts, List.flatMap_singleton]

theorem requests_call {s : Session} {handle : String} {q : BoundQuery}
    (h : Entries.get? handle s.bound = some q) :
    s.requests (.call handle) = s.provider.connection.requests (.query q.text) := by
  rw [requests, acts, h]
  exact List.flatMap_singleton ..

theorem requests_call_of_unbound {s : Session} {handle : String}
    (h : Entries.get? handle s.bound = none) : s.requests (.call handle) = [] := by
  rw [requests, acts, h]
  rfl

variable (s : Session) (files : FileTree)

theorem moves_bind (handle text : String) (name : Option String) :
    s.Moves (.bind handle text name) (s.step files (.bind handle text name)).1
      (s.step files (.bind handle text name)).2 := by
  have hservice := Connection.runOn_bind s.provider.connection text name s.service
  rw [← requests_bind s handle text name] at hservice
  rcases hrun : (s.provider.connection.bind text name).runOn s.service with ⟨e | q, σ⟩
  · have hstep : s.step files (.bind handle text name) =
        ({ s with service := σ }, failureResult e) := by
      rw [step, hrun]
    rw [hrun] at hservice
    rw [hstep]
    exact .of_same rfl rfl hservice (handedOut_failureResult e)
  · have hstep : s.step files (.bind handle text name) =
        ({ s with service := σ, bound := Entries.put handle q s.bound }, .bound q) := by
      rw [step, hrun]
    obtain ⟨hpost, -, haccepted⟩ := Connection.bind_eq_ok (by rw [hrun] : _ = Except.ok q)
    rw [hrun] at hservice
    rw [hstep]
    refine ⟨rfl, hservice, ?_, ?_⟩
    · intro e he
      rcases Entries.mem_put he with rfl | he
      · exact .inr List.mem_cons_self
      · exact .inl he
    · intro place q' hq'
      cases place with
      | zero =>
        cases hq'
        rw [requests_bind]
        exact ⟨hpost, haccepted⟩
      | succ place => cases hq'

theorem moves_bindMany (queries : List (String × String)) :
    s.Moves (.bindMany queries) (s.step files (.bindMany queries)).1
      (s.step files (.bindMany queries)).2 := by
  have hservice :=
    Connection.runOn_bindAll s.provider.connection (Entries.ofList queries) s.service
  rcases hrun : (s.provider.connection.bindAll (Entries.ofList queries)).runOn s.service with
    ⟨e | qs, σ⟩
  · have hstep : s.step files (.bindMany queries) =
        ({ s with service := σ }, failureResult e) := by
      rw [step, hrun]
    rw [hrun] at hservice
    rw [hstep]
    exact .of_same rfl rfl hservice (handedOut_failureResult e)
  · have hstep : s.step files (.bindMany queries) =
        ({ s with service := σ, bound := Entries.putAll s.bound qs }, .boundMany qs) := by
      rw [step, hrun]
    obtain ⟨hattempted, -, haccepted⟩ := Connection.bindAll_eq_ok (by rw [hrun] : _ = Except.ok qs)
    rw [← hattempted] at haccepted
    rw [hrun] at hservice
    rw [hstep]
    refine ⟨rfl, hservice, ?_, ?_⟩
    · intro e he
      rcases Entries.mem_putAll he with he | he
      · exact .inl he
      · exact .inr (List.mem_map.mpr ⟨e, he, rfl⟩)
    · intro place q hq
      change (qs.map (·.2))[place]? = some q at hq
      rw [List.getElem?_map] at hq
      obtain ⟨⟨name, q'⟩, he, rfl⟩ := Option.map_eq_some_iff.mp hq
      exact haccepted place name q' he

variable {s} in
theorem moves_call (hbound : ∀ e ∈ s.bound, e.2.connection = s.provider.connection)
    (handle : String) :
    s.Moves (.call handle) (s.step files (.call handle)).1 (s.step files (.call handle)).2 := by
  cases hq : Entries.get? handle s.bound with
  | none =>
    have hstep : s.step files (.call handle) = (s, .unbound handle) := by
      rw [step, hq]
    rw [hstep]
    refine .of_same rfl rfl ?_ rfl
    rw [requests_call_of_unbound hq, Service.receive_nil]
  | some q =>
    have hstep : s.step files (.call handle) =
        ({ s with service := (q.call.runOn s.service).2 },
          answerResult (q.call.runOn s.service).1) := by
      rw [step, hq]
    have hc : q.connection = s.provider.connection := hbound _ (Entries.mem_of_get? hq)
    rw [hstep]
    refine .of_same rfl rfl ?_ (handedOut_answerResult _)
    rw [requests_call hq, ← hc]
    exact Connection.runOn_execute q.connection q.text s.service

theorem moves_execute (text : String) :
    s.Moves (.execute text) (s.step files (.execute text)).1 (s.step files (.execute text)).2 := by
  refine .of_same rfl rfl ?_ (handedOut_answerResult _)
  rw [requests, acts, List.flatMap_singleton]
  exact Connection.runOn_execute s.provider.connection text s.service

theorem moves_generate (handles : List String) :
    s.Moves (.generate handles) (s.step files (.generate handles)).1
      (s.step files (.generate handles)).2 := by
  have hservice : s.service = s.service.receive (s.requests (.generate handles)) :=
    (Service.receive_nil _).symm
  unfold step
  dsimp only
  split
  · exact .of_same rfl rfl hservice rfl
  · split
    · exact .of_same rfl rfl hservice rfl
    · exact .of_same rfl rfl hservice rfl

variable {s} in
/-- Every step does what its acts say and no more, if the bound queries are the provider's. -/
theorem moves_step (hbound : ∀ e ∈ s.bound, e.2.connection = s.provider.connection) (st : Step) :
    s.Moves st (s.step files st).1 (s.step files st).2 := by
  cases st with
  | bind handle text name => exact moves_bind s files handle text name
  | bindMany queries => exact moves_bindMany s files queries
  | call handle => exact moves_call files hbound handle
  | execute text => exact moves_execute s files text
  | generate handles => exact moves_generate s files handles

end Session

end GraphBind

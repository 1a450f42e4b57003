import GraphBind.Session.Provider

/-!
# Sessions

A session makes a provider and then takes steps with it: it binds queries, calls the bound ones,
asks queries that are not bound, and generates modules. A step that fails binds nothing and ends
nothing.
-/

namespace GraphBind

/-- A step of a session. -/
inductive Step where
  | bind (handle text : String) (name : Option String)
  | bindMany (queries : List (String × String))
  | call (handle : String)
  | execute (text : String)
  | generate (handles : List String)
  deriving DecidableEq, Repr

/-- What a step results in. -/
inductive StepResult where
  | bound (q : BoundQuery)
  | boundMany (qs : List (String × BoundQuery))
  | answer (a : Answer)
  | content (text : String)
  | transportError (e : TransportError)
  | compilationError (e : CompilationError)
  | renderError (e : RenderError)
  | escaped (x : Escape)
  | unbound (handle : String)
  deriving Repr

/-- A session: its provider, its bound queries and the service. -/
structure Session where
  provider : Provider
  bound : List (String × BoundQuery)
  service : Service
  deriving Repr

namespace Session

/-- The queries with handles, or the first handle that has none. -/
def select (bound : List (String × BoundQuery)) :
    List String → Except String (List (String × BoundQuery))
  | [] => .ok []
  | handle :: handles =>
    match Entries.get? handle bound with
    | none => .error handle
    | some q => (select bound handles).map ((handle, q) :: ·)

/-- The result of asking a query. -/
def answerResult : Except (Failure TransportError) Answer → StepResult
  | .ok a => .answer a
  | .error (.failed e) => .transportError e
  | .error (.escaped x) => .escaped x

/-- The result of a failed binding. -/
def failureResult : Failure CompilationError → StepResult
  | .failed e => .compilationError e
  | .escaped x => .escaped x

/-- Takes a step. -/
def step (s : Session) (files : FileTree) : Step → Session × StepResult
  | .bind handle text name =>
    match (s.provider.connection.bind text name).runOn s.service with
    | (.ok q, service) => ({ s with service, bound := Entries.put handle q s.bound }, .bound q)
    | (.error e, service) => ({ s with service }, failureResult e)
  | .bindMany queries =>
    match (s.provider.connection.bindAll (Entries.ofList queries)).runOn s.service with
    | (.ok qs, service) => ({ s with service, bound := Entries.putAll s.bound qs }, .boundMany qs)
    | (.error e, service) => ({ s with service }, failureResult e)
  | .call handle =>
    match Entries.get? handle s.bound with
    | none => (s, .unbound handle)
    | some q =>
      let (r, service) := q.call.runOn s.service
      ({ s with service }, answerResult r)
  | .execute text =>
    let (r, service) := (s.provider.connection.execute text).runOn s.service
    ({ s with service }, answerResult r)
  | .generate handles =>
    match select s.bound handles with
    | .error handle => (s, .unbound handle)
    | .ok queries =>
      let g := s.provider.generator (Entries.ofList queries) none
      match g.render files Template.builtinName with
      | .ok text => (s, .content text)
      | .error e => (s, .renderError e)

/-- Takes steps, and gives what each results in and the requests it sent. -/
def run (s : Session) (files : FileTree) : List Step → List (StepResult × List Request)
  | [] => []
  | st :: steps =>
    let (next, result) := s.step files st
    (result, next.service.log.drop s.service.log.length) :: next.run files steps

end Session

end GraphBind

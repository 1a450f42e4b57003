import GraphBind.Proofs.Session.Gating

/-!
# Errors that leave making and binding

Making a provider and binding a query are to end with a result or with a `CompilationError`
(`Settled`). What keeps them from it are errors that no part of them takes as a failure: faults of
the URL or the headers that show before anything is sent, answers that the client cannot place,
files that are no UTF-8, paths with a null character, and query texts that end inside an escape.
`settled_iff` says that these are all, for every connection, file and service; the predicates say
when each arises, in terms of the first outcome of the service and not of the operation.

`not_settled` shows one of them for either operation.
-/

namespace GraphBind

/-- That an operation gives a result or fails in its own way: no error leaves it. -/
def Settled {ε α : Type} (r : Except (Failure ε) α) : Prop :=
  (∃ a, r = .ok a) ∨ ∃ e, r = .error (.failed e)

/-- An operation is settled iff it did not end with an error that nothing catches. -/
theorem settled_iff_not_escaped {ε α : Type} {r : Except (Failure ε) α} :
    Settled r ↔ ∀ x, r ≠ .error (.escaped x) := by
  constructor
  · rintro (⟨a, rfl⟩ | ⟨e, rfl⟩) x h
    · cases h
    · cases h
  · intro h
    rcases r with (e | x) | a
    · exact .inr ⟨e, rfl⟩
    · exact absurd rfl (h x)
    · exact .inl ⟨a, rfl⟩

/-- The errors that leave asking a content which the service treats with an outcome. -/
inductive Connection.AskEscapes (c : Connection) (content : Content) (o : Outcome) :
    Escape → Prop where
  /-- No request can be made of the URL and the headers. -/
  | unmade {x : Escape} (h : Request.make c content = .error x) : AskEscapes c content o x
  /-- The service says that the URL is none. -/
  | refused {r : Request} {message : String} (h : Request.make c content = .ok r)
      (ho : o = .invalidUrl message) : AskEscapes c content o (.invalidUrl message)
  /-- The service answers, but the URL does not say from where. -/
  | nowhere {r : Request} {status : Nat} {body : List UInt8}
      (h : Request.make c content = .ok r) (ho : o = .response status body)
      (hurl : r.url.isAbsolute = false) : AskEscapes c content o (.unknownScheme r.url.target)

/-- The errors that leave reading a saved response. -/
inductive Schema.LoadEscapes (files : FileTree) (path : Path) : Escape → Prop where
  | nullInPath (h : path.holdsNull = true) : LoadEscapes files path .nullInPath
  | undecodable {bytes : List UInt8} {fault : Text.Utf8.Malformed}
      (h : files.read path = .ok bytes) (hbytes : Text.Utf8.decode bytes = .error fault) :
      LoadEscapes files path (.undecodable fault)

/-- The errors that leave making a provider, whose schema stands in a file or is asked from a
service that treats the request with an outcome. -/
inductive Provider.CreateEscapes (c : Connection) (files : FileTree) (o : Outcome) :
    Option Path → Escape → Prop where
  | load {path : Path} {x : Escape} (h : Schema.LoadEscapes files path x) :
      CreateEscapes c files o (some path) x
  | fetch {x : Escape} (h : c.AskEscapes .introspection o x) : CreateEscapes c files o none x

/-- The errors that leave binding a query whose preflight the service treats with an outcome. -/
inductive Connection.BindEscapes (c : Connection) (text : String) (o : Outcome) :
    Escape → Prop where
  /-- The text ends inside an escape. -/
  | truncated (h : Query.parse text = .error .truncatedEscape) :
      BindEscapes c text o .truncatedQuery
  | ask {x : Escape} (hdocument : Query.isDocument text = true)
      (h : c.AskEscapes (.query text) o x) : BindEscapes c text o x

namespace Dialogue

variable {ε δ α β : Type} {σ : Service} {x : Escape}

/-- An error leaves one operation behind another if it leaves the first, or the second where the
first gives a result. -/
theorem bind_eq_escaped_iff {d : Dialogue ε α} {f : α → Dialogue ε β} :
    ((d >>= f).runOn σ).1 = .error (.escaped x) ↔ (d.runOn σ).1 = .error (.escaped x) ∨
      ∃ a σ', d.runOn σ = (.ok a, σ') ∧ ((f a).runOn σ').1 = .error (.escaped x) := by
  rw [runOn_bind]
  rcases d.runOn σ with ⟨e | a, σ'⟩
  · simp
  · simp

theorem mapFailure_eq_escaped_iff {f : ε → δ} {d : Dialogue ε α} :
    ((d.mapFailure f).runOn σ).1 = .error (.escaped x) ↔
      (d.runOn σ).1 = .error (.escaped x) := by
  rw [runOn_mapFailure]
  rcases (d.runOn σ).1 with (e | y) | a
  · simp [Except.mapError, Failure.map]
  · simp [Except.mapError, Failure.map]
  · simp [Except.mapError]

/-- A check whose errors are failures lets nothing else out. -/
theorem ofExcept_failed_ne_escaped (r : Except ε α) :
    ((ofExcept (r.mapError .failed)).runOn σ).1 ≠ .error (.escaped x) := by
  rw [runOn_ofExcept]
  cases r with
  | error e => simp [Except.mapError]
  | ok a => simp [Except.mapError]

end Dialogue

namespace Connection

variable {c : Connection} {content : Content} {text : String} {given : Option String} {σ : Service}
  {x : Escape}

/-- An outcome lets escape what asking for it is said to let escape. -/
theorem document_eq_escaped_iff {r : Request} {o : Outcome} (hr : Request.make c content = .ok r) :
    o.document r = .error (.escaped x) ↔ c.AskEscapes content o x := by
  constructor
  · intro h
    cases o with
    | unanswered reason => cases h
    | invalidUrl message =>
      cases h
      exact .refused hr rfl
    | response status body =>
      rw [Outcome.document] at h
      split at h
      · cases hd : r.document status body with
        | error e =>
          rw [hd] at h
          cases h
        | ok d =>
          rw [hd] at h
          cases h
      · next hurl =>
        cases h
        exact .nowhere hr rfl (Bool.eq_false_iff.mpr hurl)
  · intro h
    cases h with
    | unmade h =>
      rw [hr] at h
      cases h
    | refused h ho =>
      subst ho
      rfl
    | nowhere h ho hurl =>
      subst ho
      rw [hr] at h
      cases h
      rw [Outcome.document, hurl, if_neg Bool.false_ne_true]

/-- Asking lets escape what keeps the request from being made, and what its outcome lets escape. -/
theorem ask_eq_escaped_iff :
    ((c.ask content).runOn σ).1 = .error (.escaped x) ↔
      c.AskEscapes content (σ.outcomeAt 0) x := by
  rw [runOn_ask]
  cases hr : Request.make c content with
  | ok r => exact document_eq_escaped_iff hr
  | error y =>
    constructor
    · intro h
      cases h
      exact .unmade hr
    · intro h
      cases h with
      | unmade h =>
        rw [hr] at h
        cases h
        rfl
      | refused h =>
        rw [hr] at h
        cases h
      | nowhere h =>
        rw [hr] at h
        cases h

theorem execute_eq_escaped_iff :
    ((c.execute text).runOn σ).1 = .error (.escaped x) ↔
      c.AskEscapes (.query text) (σ.outcomeAt 0) x := by
  rw [execute, Dialogue.bind_eq_escaped_iff, ask_eq_escaped_iff]
  simp [Dialogue.ofExcept_failed_ne_escaped]

theorem checkedName_eq_escaped_iff :
    BoundQuery.checkedName text = .error (.escaped x) ↔
      Query.parse text = .error .truncatedEscape ∧ x = .truncatedQuery := by
  unfold BoundQuery.checkedName Query.operationName
  cases Query.parse text with
  | ok ds => simp [Except.map]
  | error e => cases e <;> simp [Except.map, eq_comm]

/-- A query has a name, or none that counts, iff it parses. -/
theorem exists_checkedName_iff :
    (∃ name, BoundQuery.checkedName text = .ok name) ↔ Query.isDocument text = true := by
  constructor
  · rintro ⟨name, h⟩
    exact isDocument_of_checkedName h
  · intro h
    cases hname : BoundQuery.checkedName text with
    | ok name => exact ⟨name, rfl⟩
    | error e =>
      rw [not_isDocument_of_checkedName hname] at h
      cases h

/-- Binding lets escape a text that ends inside of an escape, and what asking lets escape. -/
theorem bind_eq_escaped_iff :
    ((c.bind text given).runOn σ).1 = .error (.escaped x) ↔
      c.BindEscapes text (σ.outcomeAt 0) x := by
  have hask : (∃ name, BoundQuery.checkedName text = .ok name ∧
      ((c.execute text).runOn σ).1 = .error (.escaped x)) ↔
      Query.isDocument text = true ∧ c.AskEscapes (.query text) (σ.outcomeAt 0) x := by
    rw [exists_and_right, exists_checkedName_iff, execute_eq_escaped_iff]
  rw [bind, Dialogue.bind_eq_escaped_iff, Dialogue.runOn_ofExcept, checkedName_eq_escaped_iff]
  simp only [Prod.mk.injEq, Dialogue.bind_eq_escaped_iff, Dialogue.mapFailure_eq_escaped_iff,
    Dialogue.ofExcept_failed_ne_escaped, and_false, exists_false, or_false]
  constructor
  · rintro (⟨hparse, rfl⟩ | ⟨name, σ', ⟨hname, rfl⟩, h⟩)
    · exact .truncated hparse
    · obtain ⟨hdocument, h⟩ := hask.mp ⟨name, hname, h⟩
      exact .ask hdocument h
  · intro h
    cases h with
    | truncated h => exact .inl ⟨h, rfl⟩
    | ask hdocument h =>
      obtain ⟨name, hname, h⟩ := hask.mpr ⟨hdocument, h⟩
      exact .inr ⟨name, σ, ⟨hname, rfl⟩, h⟩

end Connection

/-- Reading a file lets nothing escape but a null character in its path. -/
theorem FileTree.read_eq_escaped_iff {files : FileTree} {path : Path} {x : Escape} :
    files.read path = .error (.escaped x) ↔ path.holdsNull = true ∧ x = .nullInPath := by
  unfold read
  split
  · next hnull => simp [hnull, eq_comm]
  · next hnull =>
    simp only [hnull, Bool.false_eq_true, false_and, iff_false]
    split
    · simp
    · split <;> simp

namespace Schema

variable {c : Connection} {files : FileTree} {path : Path} {σ : Service} {x : Escape}

/-- Loading a schema lets escape what reading does, and bytes that are no UTF-8. -/
theorem load_eq_escaped_iff :
    load files path = .error (.escaped x) ↔ LoadEscapes files path x := by
  constructor
  · intro h
    unfold load at h
    split at h
    · next e hread =>
      rcases e with e | y
      · cases h
      · cases h
        obtain ⟨hnull, rfl⟩ := FileTree.read_eq_escaped_iff.mp hread
        exact .nullInPath hnull
    · next bytes hread =>
      unfold textOfFile at h
      cases hbytes : Text.Utf8.decode bytes with
      | error fault =>
        rw [hbytes] at h
        cases h
        exact .undecodable hread hbytes
      | ok text =>
        rw [hbytes] at h
        dsimp only at h
        split at h
        · cases h
        · next d _ =>
          cases hd : ofResponse d with
          | error e =>
            rw [hd] at h
            cases h
          | ok s =>
            rw [hd] at h
            cases h
  · intro h
    unfold load textOfFile
    cases h with
    | nullInPath h =>
      rw [FileTree.read_eq_escaped_iff.mpr ⟨h, rfl⟩]
      rfl
    | undecodable hread hbytes =>
      rw [hread]
      dsimp only
      rw [hbytes]

theorem fetch_eq_escaped_iff :
    ((fetch c).runOn σ).1 = .error (.escaped x) ↔
      c.AskEscapes .introspection (σ.outcomeAt 0) x := by
  rw [fetch, Dialogue.bind_eq_escaped_iff, Dialogue.mapFailure_eq_escaped_iff,
    Connection.ask_eq_escaped_iff]
  simp [Dialogue.ofExcept_failed_ne_escaped]

end Schema

namespace Provider

variable {c : Connection} {known : NativeScalars} {files : FileTree} {file : Option Path}
  {σ : Service} {x : Escape}

/-- Compiling lets nothing out, so that what leaves making a provider leaves getting the schema. -/
theorem create_eq_escaped_iff :
    ((create c known files file).runOn σ).1 = .error (.escaped x) ↔
      CreateEscapes c files (σ.outcomeAt 0) file x := by
  rw [create, Dialogue.bind_eq_escaped_iff, Dialogue.mapFailure_eq_escaped_iff, or_iff_left]
  rotate_left
  · rintro ⟨s, σ', -, h⟩
    split at h
    · cases h
    · cases h
  cases file with
  | some path =>
    rw [schema, Dialogue.runOn_ofExcept, Schema.load_eq_escaped_iff]
    refine ⟨.load, fun h => ?_⟩
    cases h with
    | load h => exact h
  | none =>
    rw [schema, Schema.fetch_eq_escaped_iff]
    refine ⟨.fetch, fun h => ?_⟩
    cases h with
    | fetch h => exact h

end Provider

/-- **What leaves making a provider and binding a query.** Each ends with its result or with a
`CompilationError`, unless one of the errors comes up that are no failures of either; and then it
ends with that error. -/
theorem settled_iff (c : Connection) (known : NativeScalars) (files : FileTree)
    (file : Option Path) (text : String) (given : Option String) (σ : Service) :
    (Settled ((Provider.create c known files file).runOn σ).1 ↔
      ∀ x, ¬Provider.CreateEscapes c files (σ.outcomeAt 0) file x) ∧
    (∀ x, ((Provider.create c known files file).runOn σ).1 = .error (.escaped x) ↔
      Provider.CreateEscapes c files (σ.outcomeAt 0) file x) ∧
    (Settled ((c.bind text given).runOn σ).1 ↔
      ∀ x, ¬c.BindEscapes text (σ.outcomeAt 0) x) ∧
    ∀ x, ((c.bind text given).runOn σ).1 = .error (.escaped x) ↔
      c.BindEscapes text (σ.outcomeAt 0) x := by
  refine ⟨?_, fun x => Provider.create_eq_escaped_iff, ?_,
    fun x => Connection.bind_eq_escaped_iff⟩
  · rw [settled_iff_not_escaped]
    exact forall_congr' fun x => not_congr Provider.create_eq_escaped_iff
  · rw [settled_iff_not_escaped]
    exact forall_congr' fun x => not_congr Connection.bind_eq_escaped_iff

/-- A file that is no UTF-8. -/
def undecodableSchema : FileTree := ⟨[(["s.json"], .file [0xFF])]⟩

/-- A saved response that is no UTF-8 is no failure of making a provider, and a text that ends
inside an escape is none of binding a query: the errors leave both. -/
theorem not_settled :
    ¬Settled ((Provider.create ⟨"http://api.test/graphql", .none, none⟩ .standard undecodableSchema
      (some ⟨["s.json"]⟩)).runOn (.ofOutcomes [])).1 ∧
    ¬Settled ((Connection.bind ⟨"http://api.test/graphql", .none, none⟩ "\x7ba(b:\"\\uZ" none).runOn
      (.ofOutcomes [])).1 := by
  constructor
  · rw [settled_iff_not_escaped, not_forall_not]
    have hread : undecodableSchema.read ⟨["s.json"]⟩ = .ok [0xFF] := by rfl
    have hbytes : Text.Utf8.decode [0xFF] = .error ⟨0, 1, 0xFF, .startByte⟩ := by cbv
    exact ⟨_, Provider.create_eq_escaped_iff.mpr (.load (.undecodable hread hbytes))⟩
  · rw [settled_iff_not_escaped, not_forall_not]
    refine ⟨.truncatedQuery, Connection.bind_eq_escaped_iff.mpr (.truncated ?_)⟩
    cbv

end GraphBind

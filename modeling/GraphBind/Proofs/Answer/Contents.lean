import GraphBind.Proofs.Answer.Wording
import Mathlib.Data.List.Forall2

/-!
# What answers keep of documents

An answer holds all that counts of the document that it was made of. `ReportedAs` says what a
reported error keeps of its entry: the whole entry, and for its text the message, if that is a
scalar, or the text of the entry. `answer_contents` says which documents are reports, that their
entries are kept one by one, that other documents keep their data, and that nothing else of a
document counts.
-/

namespace GraphBind

/-! ## Entries -/

/-- The text that an entry is reported with: its message, if the entry is an object that has a
scalar there, or else the text of all of the entry. -/
inductive Json.WordedAs : Json → Text → Prop where
  | message {members : List (Text × Json)} {s : Scalar}
      (h : Entries.get? (Text.ofString "message") members = some (.scalar s)) :
    WordedAs (.object members) s.toText
  | whole {entry : Json} (h : ∀ members s, entry = .object members →
      Entries.get? (Text.ofString "message") members ≠ some (.scalar s)) :
    WordedAs entry entry.toText

/-- What a reported error keeps of its entry. -/
structure Json.ReportedAs (entry : Json) (detail : ErrorDetail) : Prop where
  payload : detail.payload.toJson = entry
  worded : entry.WordedAs detail.message

namespace ErrorDetail

theorem payload_ofValue (entry : Value) : (ofValue entry).payload = entry := by
  unfold ofValue
  split
  · rfl
  · rfl

theorem message_ofValue_of_scalar {members : List (Text × Json)} {s : Scalar}
    (h : Entries.get? (Text.ofString "message") members = some (.scalar s)) :
    (ofValue (Value.ofJson (.object members))).message = s.toText := by
  unfold ofValue
  rw [Value.entry?_ofJson_object, h]
  rfl

/-- An entry without a scalar for its message is worded by the text of all of it. -/
theorem message_ofValue_of_ne_scalar {entry : Json} (hd : entry.Distinct)
    (h : ∀ members s, entry = .object members →
      Entries.get? (Text.ofString "message") members ≠ some (.scalar s)) :
    (ofValue (Value.ofJson entry)).message = entry.toText := by
  have hwhole : (Value.ofJson entry).toText = entry.toText := Value.toText_ofJson hd
  cases entry with
  | null => exact hwhole
  | scalar s => exact hwhole
  | array items => exact hwhole
  | object members =>
    unfold ofValue
    rw [Value.entry?_ofJson_object]
    cases hmessage : Entries.get? (Text.ofString "message") members with
    | none => exact hwhole
    | some message =>
      cases message with
      | scalar s => exact absurd hmessage (h members s rfl)
      | null => exact hwhole
      | array items => exact hwhole
      | object inner => exact hwhole

/-- The text of an error is what its entry is worded as, whichever way that goes. -/
theorem wordedAs_message_ofValue {entry : Json} (hd : entry.Distinct) :
    entry.WordedAs (ofValue (Value.ofJson entry)).message := by
  by_cases h : ∃ members s, entry = .object members ∧
      Entries.get? (Text.ofString "message") members = some (.scalar s)
  · obtain ⟨members, s, rfl, hmessage⟩ := h
    rw [message_ofValue_of_scalar hmessage]
    exact .message hmessage
  · have hwhole : ∀ members s, entry = .object members →
        Entries.get? (Text.ofString "message") members ≠ some (.scalar s) :=
      fun members s hentry hmessage => h ⟨members, s, hentry, hmessage⟩
    rw [message_ofValue_of_ne_scalar hd hwhole]
    exact .whole hwhole

theorem reportedAs_ofValue {entry : Json} (hd : entry.Distinct) :
    entry.ReportedAs (ofValue (Value.ofJson entry)) where
  payload := by rw [payload_ofValue, Value.toJson_ofJson hd]
  worded := wordedAs_message_ofValue hd

end ErrorDetail

/-! ## Documents -/

namespace Answer

variable {members : List (Text × Json)}

/-- Every entry of a report is kept, in order. -/
theorem forall₂_reportedAs {errors : Json} (hd : errors.Distinct) :
    List.Forall₂ Json.ReportedAs (ServiceError.entriesOf errors)
      ((ServiceError.entriesOf errors).map fun entry => .ofValue (Value.ofJson entry)) := by
  rw [List.forall₂_map_right_iff, List.forall₂_same]
  intro entry hentry
  exact ErrorDetail.reportedAs_ofValue (ServiceError.distinct_of_mem_entriesOf hd hentry)

theorem ofJson_of_get?_errors {errors : Json}
    (h : Entries.get? (Text.ofString "errors") members = some errors) :
    ofJson (.object members) = .ok (.errors ((ServiceError.entriesOf errors).map fun entry =>
      .ofValue (Value.ofJson entry))) := by
  rw [ofJson_object, h]

theorem ofJson_of_get?_errors_eq_none
    (h : Entries.get? (Text.ofString "errors") members = none) :
    ofJson (.object members) = .ok (.data (Value.ofJson
      ((Entries.get? (Text.ofString "data") members).getD .null))) := by
  rw [ofJson_object, h, Value.ofMembers_eq_map, Entries.get?_map]
  cases Entries.get? (Text.ofString "data") members with
  | none => rfl
  | some data => rfl

/-- **Answers keep what documents hold.** Every document that is an object is an answer. It is a
report exactly if it has a member `errors`, whatever that and its data are, with one error for each
entry, in order: it keeps the entry, and its text is the message of an entry that is an object with
a scalar there, and else the text of the whole entry. Otherwise it keeps the data of the document,
or null if there are none. Documents that agree on their errors, and on their data where there are
no errors, are the same answer. -/
theorem answer_contents (hd : (Json.object members).Distinct) :
    ((∃ details, ofJson (.object members) = .ok (.errors details)) ↔
      Text.ofString "errors" ∈ Entries.keys members) ∧
    (∀ errors, Entries.get? (Text.ofString "errors") members = some errors →
      ∃ details, ofJson (.object members) = .ok (.errors details) ∧
        List.Forall₂ Json.ReportedAs
          (match errors with
            | .array entries => entries
            | entry => [entry]) details) ∧
    (Text.ofString "errors" ∉ Entries.keys members →
      ∃ v, ofJson (.object members) = .ok (.data v) ∧
        v.toJson = (Entries.get? (Text.ofString "data") members).getD .null) ∧
    ∀ members', Entries.get? (Text.ofString "errors") members' =
        Entries.get? (Text.ofString "errors") members →
      (Entries.get? (Text.ofString "errors") members = none →
        Entries.get? (Text.ofString "data") members' =
          Entries.get? (Text.ofString "data") members) →
      ofJson (.object members') = ofJson (.object members) := by
  refine ⟨⟨?_, fun hmem => ?_⟩, fun errors herrors => ?_, fun hmem => ?_,
    fun members' herrors hdata => ?_⟩
  · rintro ⟨details, hdetails⟩
    by_contra hmem
    rw [ofJson_of_get?_errors_eq_none (Entries.get?_eq_none hmem)] at hdetails
    cases hdetails
  · obtain ⟨errors, herrors⟩ := Entries.exists_get? hmem
    exact ⟨_, ofJson_of_get?_errors herrors⟩
  · refine ⟨_, ofJson_of_get?_errors herrors, ?_⟩
    have hreported := forall₂_reportedAs (hd.of_mem_object (Entries.mem_of_get? herrors))
    cases errors with
    | array entries => exact hreported
    | null => exact hreported
    | scalar s => exact hreported
    | object inner => exact hreported
  · refine ⟨_, ofJson_of_get?_errors_eq_none (Entries.get?_eq_none hmem), ?_⟩
    refine Value.toJson_ofJson ?_
    cases hget : Entries.get? (Text.ofString "data") members with
    | none => exact .null
    | some data => exact hd.of_mem_object (Entries.mem_of_get? hget)
  · cases hget : Entries.get? (Text.ofString "errors") members with
    | some errors =>
      rw [ofJson_of_get?_errors hget, ofJson_of_get?_errors (herrors.trans hget)]
    | none =>
      rw [ofJson_of_get?_errors_eq_none hget, ofJson_of_get?_errors_eq_none (herrors.trans hget),
        hdata hget]

/-- A report that has data as well, with entries of every sort: one with a message, one whose
message is a number, one whose message is a list, and one that is no object. -/
def mixedMembers : List (Text × Json) :=
  [("data", .object []),
    ("errors", .array [.object [("message", .scalar (.str "m")), ("path", .array [])],
      .object [("message", .scalar (.int 7))], .object [("message", .array [])], .null])]

theorem answer_contents_mixed : (Json.object mixedMembers).Distinct ∧
    ∃ first second third fourth,
      ofJson (.object mixedMembers) = .ok (.errors [first, second, third, fourth]) ∧
      Json.ReportedAs (.object [("message", .scalar (.str "m")), ("path", .array [])]) first ∧
      Json.ReportedAs (.object [("message", .scalar (.int 7))]) second ∧
      Json.ReportedAs (.object [("message", .array [])]) third ∧ Json.ReportedAs .null fourth := by
  have hd : (Json.object mixedMembers).Distinct :=
    Value.distinct_toJson (Value.ofJson (.object mixedMembers))
  obtain ⟨-, hreport, -, -⟩ := answer_contents hd
  obtain ⟨details, hdetails, hreported⟩ := hreport _ rfl
  obtain _ | ⟨hfirst, _ | ⟨hsecond, _ | ⟨hthird, _ | ⟨hfourth, ⟨⟩⟩⟩⟩⟩ := hreported
  exact ⟨hd, _, _, _, _, hdetails, hfirst, hsecond, hthird, hfourth⟩

end Answer

end GraphBind

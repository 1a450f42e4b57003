import GraphBind.Answer
import GraphBind.Introspection.Response
import GraphBind.Proofs.Value.Image
import Mathlib.Algebra.Order.BigOperators.Group.List
import Mathlib.Algebra.Order.Group.Nat

/-!
# The wording of reported errors

A member `errors` makes a report of the answer to an introspection query and of the answer to any
other (`ofResponse_eq_reported_iff`, `ofJson_eq_errors_iff`). The first words the report by the
documents of its entries, the second by their values. They agree on every entry but one that hides
its message in an array or object (`message_ofValue`): there the first shows the message alone, and
the second the whole entry, which is longer (`length_reportedText_lt`). As no entry is shown shorter
by the second, one such entry is enough to tell the wordings of a report apart.
-/

namespace GraphBind

/-! ## Lengths -/

namespace Text

/-- Every part of a joined text counts once, and what stands between them once less. -/
theorem length_joined (between : Text) (ts : List Text) :
    (joined between ts).length = ts.flatten.length + (ts.length - 1) * between.length := by
  unfold joined
  induction ts with
  | nil => simp
  | cons t ts ih =>
    cases ts with
    | nil => simp
    | cons t' ts =>
      rw [List.intercalate_cons_cons, List.length_append, List.length_append, ih]
      simp only [List.flatten_cons, List.length_append, List.length_cons, Nat.add_sub_cancel,
        Nat.succ_mul]
      omega

/-- Joined texts are longer where none of them is shorter and one is longer. -/
theorem length_joined_lt {α : Type} (between : Text) {short long : α → Text} {as : List α}
    (hle : ∀ a ∈ as, (short a).length ≤ (long a).length)
    (hlt : ∃ a ∈ as, (short a).length < (long a).length) :
    (joined between (as.map short)).length < (joined between (as.map long)).length := by
  have hsum := List.sum_lt_sum (fun a => (short a).length) (fun a => (long a).length) hle hlt
  rw [length_joined, length_joined, List.length_flatten, List.length_flatten, List.map_map,
    List.map_map, List.length_map, List.length_map]
  exact Nat.add_lt_add_right hsum _

theorem length_ofString (s : String) : (ofString s).length = s.length := by
  rw [ofString, ofChars, List.length_map, String.length_toList]

end Text

/-- A part of a joined text is not longer than all of it. -/
theorem length_le_intercalate (between : String) {part : String} {parts : List String}
    (h : part ∈ parts) : part.length ≤ (between.intercalate parts).length := by
  induction parts with
  | nil => cases h
  | cons p parts ih =>
    cases parts with
    | nil =>
      obtain rfl := List.mem_singleton.mp h
      rw [String.intercalate_singleton]
    | cons p' parts =>
      rw [String.intercalate_cons_cons, String.length_append, String.length_append]
      rcases List.mem_cons.mp h with rfl | h
      · omega
      · have hle := ih h
        omega

namespace Json

/-- Every member of an object is displayed, with its key quoted. -/
theorem mem_displayMembers {members : List (Text × Json)} {key : Text} {d : Json}
    (h : (key, d) ∈ members) :
    Text.quoted key ++ ": " ++ d.display ∈ displayMembers members := by
  induction members with
  | nil => cases h
  | cons m members ih =>
    obtain ⟨k, e⟩ := m
    rw [displayMembers]
    rcases List.mem_cons.mp h with h | h
    · cases h
      exact List.mem_cons_self
    · exact List.mem_cons_of_mem _ (ih h)

/-- An object is shown longer than the value of any member. -/
theorem length_display_lt {members : List (Text × Json)} {key : Text} {d : Json}
    (h : (key, d) ∈ members) : d.display.length < (object members).display.length := by
  have hle := length_le_intercalate ", " (mem_displayMembers h)
  rw [String.length_append, String.length_append] at hle
  rw [display, String.length_append, String.length_append]
  have hbrace : "\x7b".length = 1 := by rfl
  omega

theorem member?_object (key : Text) (members : List (Text × Json)) :
    (object members).member? key = Entries.get? key members := by
  rw [member?]
  induction members with
  | nil => rfl
  | cons m members ih =>
    obtain ⟨k, d⟩ := m
    by_cases hk : k = key
    · simp [Entries.get?, hk]
    · simpa [Entries.get?, hk] using ih

end Json

/-! ## Entries -/

/-- That a document is an array or an object. -/
inductive Json.Composite : Json → Prop where
  | array (items : List Json) : Composite (.array items)
  | object (members : List (Text × Json)) : Composite (.object members)

/-- That an entry is an object whose message is an array or an object. -/
def Json.HidesMessage (entry : Json) : Prop :=
  ∃ members message, entry = .object members ∧
    Entries.get? (Text.ofString "message") members = some message ∧ message.Composite

theorem Value.entry?_ofJson_object (key : String) (members : List (Text × Json)) :
    entry? key (ofJson (.object members)) =
      (Entries.get? (Text.ofString key) members).map ofJson := by
  rw [ofJson, entry?, ofMembers_eq_map, Entries.get?_map]

theorem Value.toText_ofJson {d : Json} (hd : d.Distinct) : (ofJson d).toText = d.toText := by
  rw [toText, toJson_ofJson hd]

namespace ErrorDetail

variable {entry : Json}

theorem message_ofValue_of_hidesMessage (hd : entry.Distinct) (h : entry.HidesMessage) :
    (ofValue (Value.ofJson entry)).message = entry.toText := by
  obtain ⟨members, message, rfl, hmessage, hcomposite⟩ := h
  unfold ofValue
  rw [Value.entry?_ofJson_object, hmessage]
  cases hcomposite with
  | array items => exact Value.toText_ofJson hd
  | object members => exact Value.toText_ofJson hd

/-- An entry that does not hide its message is worded alike. -/
theorem message_ofValue (hd : entry.Distinct) (h : ¬entry.HidesMessage) :
    (ofValue (Value.ofJson entry)).message = reportedText entry := by
  cases entry with
  | null => rfl
  | scalar s => rfl
  | array items => exact Value.toText_ofJson hd
  | object members =>
    unfold ofValue reportedText
    rw [Value.entry?_ofJson_object, Json.member?_object]
    cases hmessage : Entries.get? (Text.ofString "message") members with
    | none => exact Value.toText_ofJson hd
    | some message =>
      cases message with
      | null => exact Value.toText_ofJson hd
      | scalar s => rfl
      | array items => exact absurd ⟨members, _, rfl, hmessage, .array items⟩ h
      | object inner => exact absurd ⟨members, _, rfl, hmessage, .object inner⟩ h

/-- A hidden message is shown alone on the one hand, and with all of its entry on the other. -/
theorem length_reportedText_lt (hd : entry.Distinct) (h : entry.HidesMessage) :
    (reportedText entry).length < (ofValue (Value.ofJson entry)).message.length := by
  rw [message_ofValue_of_hidesMessage hd h]
  obtain ⟨members, message, rfl, hmessage, hcomposite⟩ := h
  have hreported : reportedText (.object members) = message.display := by
    unfold reportedText
    rw [Json.member?_object, hmessage]
    cases hcomposite with
    | array items => rfl
    | object inner => rfl
  rw [hreported, Json.toText, Text.length_ofString, Text.length_ofString]
  · exact Json.length_display_lt (Entries.mem_of_get? hmessage)
  · intro s hs
    cases hs

theorem length_reportedText_le (hd : entry.Distinct) :
    (reportedText entry).length ≤ (ofValue (Value.ofJson entry)).message.length := by
  by_cases h : entry.HidesMessage
  · exact Nat.le_of_lt (length_reportedText_lt hd h)
  · rw [message_ofValue hd h]

/-- Reports are worded alike if and only if no entry hides its message. -/
theorem joined_eq_reportedTexts_iff {entries : List Json} (hd : ∀ entry ∈ entries, entry.Distinct) :
    reportedTexts entries = joined (entries.map fun entry => ofValue (Value.ofJson entry)) ↔
      ∀ entry ∈ entries, ¬entry.HidesMessage := by
  unfold reportedTexts joined
  rw [List.map_map]
  constructor
  · intro heq entry hentry hhides
    -- No entry makes up for the one that is shown longer.
    have hlt := Text.length_joined_lt "; "
      (fun entry hentry => length_reportedText_le (hd entry hentry))
      ⟨entry, hentry, length_reportedText_lt (hd entry hentry) hhides⟩
    have hlength := congrArg List.length heq
    exact absurd hlength (Nat.ne_of_lt hlt)
  · intro hall
    refine congrArg (Text.joined "; ") (List.map_congr_left ?_)
    intro entry hentry
    exact (message_ofValue (hd entry hentry) (hall entry hentry)).symm

end ErrorDetail

/-! ## Answers -/

theorem Answer.entriesOf_ofJson (d : Json) :
    entriesOf (Value.ofJson d) = (ServiceError.entriesOf d).map Value.ofJson := by
  cases d with
  | null => rfl
  | scalar s => rfl
  | array items => exact Value.ofItems_eq_map items
  | object members => rfl

theorem ServiceError.distinct_of_mem_entriesOf {d entry : Json} (hd : d.Distinct)
    (h : entry ∈ entriesOf d) : entry.Distinct := by
  cases d with
  | array items => exact hd.of_mem_array h
  | null => exact List.mem_singleton.mp h ▸ hd
  | scalar s => exact List.mem_singleton.mp h ▸ hd
  | object members => exact List.mem_singleton.mp h ▸ hd

theorem Schema.ofResponse_of_ne_object {d : Json} (h : ∀ members, d ≠ .object members) :
    ofResponse d = .error (.transport (.notAnObject d.typeName)) := by
  cases d with
  | object members => exact absurd rfl (h members)
  | _ => rfl

theorem Answer.ofJson_of_ne_object {d : Json} (h : ∀ members, d ≠ .object members) :
    ofJson d = .error (.notAnObject d.typeName) := by
  cases d with
  | object members => exact absurd rfl (h members)
  | _ => rfl

/-- Reading a schema reports the member `errors` of an object, whatever it is, and nothing else. -/
theorem Schema.ofResponse_eq_reported_iff {d errors : Json} :
    ofResponse d = .error (.reported errors) ↔
      ∃ members, d = .object members ∧
        Entries.get? (Text.ofString "errors") members = some errors := by
  constructor
  · intro h
    unfold ofResponse at h
    split at h
    · next members =>
      split at h
      · next reported hreported =>
        cases h
        exact ⟨members, rfl, hreported⟩
      · split at h
        · cases h
        · next schema _ =>
          cases hschema : ofMembers schema with
          | ok s =>
            rw [hschema] at h
            cases h
          | error fault =>
            rw [hschema] at h
            cases h
    · cases h
  · rintro ⟨members, rfl, hreported⟩
    unfold ofResponse
    simp only [hreported]

/-- The answer that an object is, by the two members that are looked at. -/
theorem Answer.ofJson_object (members : List (Text × Json)) :
    ofJson (.object members) = match Entries.get? (Text.ofString "errors") members with
      | some reported => .ok (.errors ((ServiceError.entriesOf reported).map fun e =>
          .ofValue (Value.ofJson e)))
      | none => .ok (.data ((Entries.get? (Text.ofString "data")
          (Value.ofMembers members)).getD .null)) := by
  have hvalue : Entries.get? (Text.ofString "errors") (Value.ofMembers members) =
      (Entries.get? (Text.ofString "errors") members).map Value.ofJson := by
    rw [Value.ofMembers_eq_map, Entries.get?_map]
  change ofValue _ (.object (Value.ofMembers members)) = _
  rw [ofValue, hvalue]
  cases Entries.get? (Text.ofString "errors") members with
  | none => rfl
  | some reported =>
    simp only [Option.map_some, entriesOf_ofJson, List.map_map]
    rfl

/-- An answer reports errors for the same documents as reading a schema does. -/
theorem Answer.ofJson_eq_errors_iff {d : Json} {details : List ErrorDetail} :
    ofJson d = .ok (.errors details) ↔
      ∃ members errors, d = .object members ∧
        Entries.get? (Text.ofString "errors") members = some errors ∧
        details = (ServiceError.entriesOf errors).map fun e => .ofValue (Value.ofJson e) := by
  cases d with
  | object members =>
    rw [ofJson_object]
    constructor
    · intro h
      split at h
      · next errors herrors =>
        cases h
        exact ⟨members, errors, rfl, herrors, rfl⟩
      · cases h
    · rintro ⟨members', errors, hmembers, herrors, rfl⟩
      cases hmembers
      rw [herrors]
  | _ =>
    constructor
    · intro h
      cases h
    · rintro ⟨members, errors, h, -⟩
      cases h

/-- A document is a report to an introspection if and only if it is one to a query, and what is no
object is refused by both in the same words. The words of a report are the same if and only if no
entry of it is an object whose message is an array or an object. -/
theorem reports_alike {d : Json} (hd : d.Distinct) :
    ((∃ errors, Schema.ofResponse d = .error (.reported errors)) ↔
      ∃ details, Answer.ofJson d = .ok (.errors details)) ∧
    ((∀ members, d ≠ .object members) → ∃ error : TransportError,
      Schema.ofResponse d = .error (.transport error) ∧ Answer.ofJson d = .error error) ∧
    ∀ members errors, d = .object members →
      Entries.get? (Text.ofString "errors") members = some errors →
      ∃ details, Schema.ofResponse d = .error (.reported errors) ∧
        Answer.ofJson d = .ok (.errors details) ∧
        ((ServiceError.reported errors).message =
            "Introspection failed: " ++ ErrorDetail.joined details ↔
          ∀ entry ∈ ServiceError.entriesOf errors, ¬entry.HidesMessage) := by
  refine ⟨?_, ?_, ?_⟩
  · constructor
    · rintro ⟨errors, h⟩
      obtain ⟨members, hmembers, herrors⟩ := Schema.ofResponse_eq_reported_iff.mp h
      exact ⟨_, Answer.ofJson_eq_errors_iff.mpr ⟨members, errors, hmembers, herrors, rfl⟩⟩
    · rintro ⟨details, h⟩
      obtain ⟨members, errors, hmembers, herrors, -⟩ := Answer.ofJson_eq_errors_iff.mp h
      exact ⟨errors, Schema.ofResponse_eq_reported_iff.mpr ⟨members, hmembers, herrors⟩⟩
  · intro hobject
    exact ⟨_, Schema.ofResponse_of_ne_object hobject, Answer.ofJson_of_ne_object hobject⟩
  · rintro members errors rfl herrors
    refine ⟨_, Schema.ofResponse_eq_reported_iff.mpr ⟨members, rfl, herrors⟩,
      Answer.ofJson_eq_errors_iff.mpr ⟨members, errors, rfl, herrors, rfl⟩, ?_⟩
    have hdistinct : errors.Distinct := hd.of_mem_object (Entries.mem_of_get? herrors)
    rw [ServiceError.message, List.append_cancel_left_eq]
    refine ErrorDetail.joined_eq_reportedTexts_iff ?_
    intro entry hentry
    exact ServiceError.distinct_of_mem_entriesOf hdistinct hentry

/-- An entry whose message is an empty array. -/
def hidingEntry : Json := .object [("message", .array [])]

/-- A report of one entry, which stands there by itself. -/
def hidingReport : Json := .object [("data", .null), ("errors", hidingEntry)]

theorem hidingReport_distinct : hidingReport.Distinct := by
  refine .object (by decide) ?_
  intro m hm
  rcases List.mem_pair.mp hm with rfl | rfl
  · exact .null
  · refine .object (by decide) ?_
    intro m hm
    obtain rfl := List.mem_singleton.mp hm
    exact .array (by simp)

theorem reports_alike_hidden : hidingReport.Distinct ∧
    ∃ details, Answer.ofJson hidingReport = .ok (.errors details) ∧
      (ServiceError.reported hidingEntry).message ≠
        "Introspection failed: " ++ ErrorDetail.joined details := by
  obtain ⟨details, -, hdetails, hiff⟩ :=
    (reports_alike hidingReport_distinct).2.2 _ hidingEntry rfl rfl
  refine ⟨hidingReport_distinct, details, hdetails, ?_⟩
  intro heq
  have hhides : hidingEntry.HidesMessage := ⟨_, .array [], rfl, rfl, .array []⟩
  exact hiff.mp heq hidingEntry (List.mem_singleton.mpr rfl) hhides

end GraphBind

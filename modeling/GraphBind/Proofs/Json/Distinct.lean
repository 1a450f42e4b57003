import GraphBind.Json.Encoding
import GraphBind.Proofs.Entries

/-!
# Documents without repeated keys

`Json.Distinct` says of a document that no object in it repeats a key. Every document that is read
from a text or from bytes is one (`distinct_of_ofText`, `distinct_of_ofBytes?`), however often the
text repeats a key: a member is written over the one with its key. The reader keeps this of all that
it has read so far, of the containers that are open as well as of what stands complete.
-/

namespace GraphBind.Json

/-- No object in the document repeats a key. -/
inductive Distinct : Json → Prop where
  | null : Distinct .null
  | scalar (s : Scalar) : Distinct (.scalar s)
  | array {items : List Json} (hitems : ∀ d ∈ items, Distinct d) : Distinct (.array items)
  | object {members : List (Text × Json)} (hkeys : (Entries.keys members).Nodup)
    (hmembers : ∀ m ∈ members, Distinct m.2) : Distinct (.object members)

namespace Distinct

variable {d : Json} {items : List Json} {members : List (Text × Json)} {key : Text}

theorem of_mem_array (h : Distinct (.array items)) (hd : d ∈ items) : d.Distinct := by
  cases h with
  | array hitems => exact hitems d hd

theorem keys_nodup (h : Distinct (.object members)) : (Entries.keys members).Nodup := by
  cases h with
  | object hkeys _ => exact hkeys

theorem of_mem_object (h : Distinct (.object members)) {m : Text × Json} (hm : m ∈ members) :
    m.2.Distinct := by
  cases h with
  | object _ hmembers => exact hmembers m hm

theorem object_nil : Distinct (.object []) := .object List.nodup_nil (by simp)

theorem object_put (h : Distinct (.object members)) (hd : d.Distinct) :
    Distinct (.object (Entries.put key d members)) := by
  refine .object (Entries.nodup_keys_put h.keys_nodup) ?_
  intro m hm
  rcases Entries.mem_put hm with rfl | hm
  · exact hd
  · exact h.of_mem_object hm

end Distinct

/-! ## What is read -/

/-- What stands in an open container repeats no key. -/
def Frame.Distinct : Frame → Prop
  | .items done => Json.Distinct (.array done)
  | .member done _ => Json.Distinct (.object done)

/-- What has been read of the container or value at hand repeats no key. -/
def Mode.Distinct : Mode → Prop
  | .key done => Json.Distinct (.object done)
  | .colon done _ => Json.Distinct (.object done)
  | .next d => Json.Distinct d
  | _ => True

/-- Nothing that has been read repeats a key. -/
structure Reading (stack : List Frame) (mode : Mode) : Prop where
  stack : ∀ frame ∈ stack, frame.Distinct
  mode : mode.Distinct

namespace Reading

variable {stack stack' : List Frame} {mode mode' : Mode} {lexeme : Lexeme}
  {done : List (Text × Json)} {value : Json}

theorem push {frame : Frame} (hframe : frame.Distinct) (hstack : ∀ f ∈ stack, f.Distinct) :
    ∀ f ∈ frame :: stack, f.Distinct := by
  intro f hf
  rcases List.mem_cons.mp hf with rfl | hf
  · exact hframe
  · exact hstack f hf

/-- A value that begins opens at most an empty frame, which repeats no key. -/
theorem startValue (hstack : ∀ f ∈ stack, f.Distinct)
    (h : Json.startValue stack lexeme = .ok (stack', mode')) : Reading stack' mode' := by
  unfold Json.startValue at h
  split at h
  · cases h
    exact ⟨hstack, Json.Distinct.null⟩
  · cases h
    exact ⟨hstack, Json.Distinct.scalar _⟩
  · cases h
    exact ⟨hstack, trivial⟩
  · cases h
    exact ⟨hstack, trivial⟩
  · cases h

theorem startKey (hstack : ∀ f ∈ stack, f.Distinct) (hdone : Json.Distinct (.object done))
    (h : Json.startKey stack done lexeme = .ok (stack', mode')) : Reading stack' mode' := by
  unfold Json.startKey at h
  split at h
  · cases h
    exact ⟨hstack, hdone⟩
  · cases h

/-- A value that ends goes into the innermost frame, in the place of a key that it repeats. -/
theorem continueValue (hstack : ∀ f ∈ stack, f.Distinct) (hvalue : value.Distinct)
    (h : Json.continueValue stack value lexeme = .ok (stack', mode')) : Reading stack' mode' := by
  have houter : ∀ {frame : Frame} {outer : List Frame}, stack = frame :: outer →
      frame.Distinct ∧ ∀ f ∈ outer, f.Distinct := by
    rintro frame outer rfl
    exact List.forall_mem_cons.mp hstack
  unfold Json.continueValue at h
  split at h
  · next done outer _ =>
    obtain ⟨hframe, hstack⟩ := houter rfl
    cases h
    refine ⟨push (Json.Distinct.array ?_) hstack, trivial⟩
    intro d hd
    rcases List.mem_cons.mp hd with rfl | hd
    · exact hvalue
    · exact Json.Distinct.of_mem_array hframe hd
  · next done outer _ =>
    obtain ⟨hframe, hstack⟩ := houter rfl
    cases h
    refine ⟨hstack, Json.Distinct.array ?_⟩
    intro d hd
    rcases List.mem_cons.mp (List.mem_reverse.mp hd) with rfl | hd
    · exact hvalue
    · exact Json.Distinct.of_mem_array hframe hd
  · obtain ⟨hframe, hstack⟩ := houter rfl
    cases h
    exact ⟨hstack, Json.Distinct.object_put hframe hvalue⟩
  · obtain ⟨hframe, hstack⟩ := houter rfl
    cases h
    exact ⟨hstack, Json.Distinct.object_put hframe hvalue⟩
  · cases h
  · cases h

/-- Every step of the reader keeps what is read so far distinct. -/
theorem step (hr : Reading stack mode) (h : Json.step stack mode lexeme = .ok (stack', mode')) :
    Reading stack' mode' := by
  obtain ⟨hstack, hmode⟩ := hr
  cases mode with
  | value => exact startValue hstack h
  | firstItem =>
    unfold Json.step at h
    dsimp only at h
    split at h
    · cases h
      exact ⟨hstack, Json.Distinct.array (by simp)⟩
    · have hframe : (Frame.items []).Distinct := Json.Distinct.array (by simp)
      exact startValue (push hframe hstack) h
  | firstKey =>
    unfold Json.step at h
    dsimp only at h
    split at h
    · cases h
      exact ⟨hstack, Json.Distinct.object_nil⟩
    · exact startKey hstack .object_nil h
  | key done => exact startKey hstack hmode h
  | colon done key =>
    unfold Json.step at h
    dsimp only at h
    split at h
    · cases h
      exact ⟨push hmode hstack, trivial⟩
    · cases h
  | next value => exact continueValue hstack hmode h

/-- The value of a whole run is distinct, by induction on its lexemes. -/
theorem run {lexemes : List Lexeme} {d : Json} (hr : Reading stack mode)
    (h : Json.run stack mode lexemes = .ok d) : d.Distinct := by
  induction lexemes generalizing stack mode with
  | nil =>
    unfold Json.run at h
    split at h
    · cases h
      exact hr.mode
    · cases h
  | cons lexeme rest ih =>
    unfold Json.run at h
    cases hstep : Json.step stack mode lexeme with
    | error e =>
      rw [hstep] at h
      cases h
    | ok next =>
      rw [hstep] at h
      exact ih (hr.step hstep) h

end Reading

variable {d : Json}

theorem distinct_of_ofLexemes {lexemes : List Lexeme} (h : ofLexemes lexemes = .ok d) :
    d.Distinct := by
  have hstart : Reading [] .value := ⟨by simp, trivial⟩
  exact hstart.run h

/-- A document that is read from a text repeats no key. -/
theorem distinct_of_ofText {text : Text} (h : ofText text = .ok d) : d.Distinct := by
  unfold ofText at h
  split at h
  · cases h
  · cases hd : ofLexemes (lex text) with
    | error e =>
      rw [hd] at h
      cases h
    | ok d' =>
      rw [hd] at h
      cases h
      exact distinct_of_ofLexemes hd

/-- A document that is read from bytes repeats no key. -/
theorem distinct_of_ofBytes? {bytes : List UInt8} (h : ofBytes? bytes = some d) :
    d.Distinct := by
  obtain ⟨text, -, h⟩ := Option.bind_eq_some_iff.mp h
  cases hd : ofLexemes (lex text) with
  | error e =>
    rw [hd] at h
    cases h
  | ok d' =>
    rw [hd] at h
    cases h
    exact distinct_of_ofLexemes hd

end GraphBind.Json

import GraphBind.Auth
import GraphBind.Proofs.Command.Publishing
import GraphBind.Proofs.Models.QueryMapping
import GraphBind.Proofs.Text.Trimming

/-!
# Headers that are given as texts

A text writes a header (`Writes`) if there is more than white space in front of its first colon; all
other texts write none (`WritesNone`), and there is no third kind (`readHeader?_eq_some_iff`,
`readHeader?_eq_none_iff`). Texts are read one after the other, up to the first that writes none.

`headers_read` says what comes of texts: the first one that writes no header is reported, and if
there is none, every name stands where it first comes, with the value that it comes with last. The
other way round, a header is read from whatever text spells it (`Spells`).
-/

namespace GraphBind.Auth

open Text (isBlank IsTrimmed Trimmed trim)
open Command.Run (LastOfEach)

/-- That a text writes a header: the name is what stands in front of the first colon and the value
is what stands behind it, both without the white space around them. -/
inductive Writes (text : String) : String × String → Prop where
  | intro {before after name value : List Char} (htext : text.toList = before ++ ':' :: after)
    (hfirst : ':' ∉ before) (hname : Trimmed isBlank before name)
    (hvalue : Trimmed isBlank after value) (hnamed : name ≠ []) :
    Writes text (String.ofList name, String.ofList value)

/-- That a text writes no header: it has no colon, or nothing but white space in front of the first
one. -/
inductive WritesNone (text : String) : Prop where
  | noColon (hcolon : ':' ∉ text.toList) : WritesNone text
  | noName (before after : List Char) (htext : text.toList = before ++ ':' :: after)
    (hblank : ∀ c ∈ before, isBlank c = true) : WritesNone text

/-- That a header can be written: it has a name without colons, and neither the name nor the value
begins or ends with white space. -/
structure Writable (header : String × String) : Prop where
  named : header.1 ≠ ""
  colon : ':' ∉ header.1.toList
  name : IsTrimmed isBlank header.1.toList
  value : IsTrimmed isBlank header.2.toList

theorem writable_iff {header : String × String} : Writable header ↔
    header.1 ≠ "" ∧ ':' ∉ header.1.toList ∧ IsTrimmed isBlank header.1.toList ∧
      IsTrimmed isBlank header.2.toList :=
  ⟨fun h => ⟨h.named, h.colon, h.name, h.value⟩, fun h => ⟨h.1, h.2.1, h.2.2.1, h.2.2.2⟩⟩

instance (header : String × String) : Decidable (Writable header) :=
  decidable_of_iff' _ writable_iff

/-- That a text spells a header: its name, a colon and its value, with any white space around the
name and the value. -/
inductive Spells (header : String × String) (text : String) : Prop where
  | intro (before between behind after : List Char)
    (htext : text.toList =
      before ++ header.1.toList ++ between ++ ':' :: (behind ++ header.2.toList ++ after))
    (hblank : ∀ c ∈ before ++ between ++ behind ++ after, isBlank c = true)

variable {text : String} {texts : List String} {header : String × String}
  {hs : List (String × String)}

/-! ## One text -/

theorem colon_notMem_of_blank {cs : List Char} (h : ∀ c ∈ cs, isBlank c = true) : ':' ∉ cs := by
  intro hmem
  have hcolon : isBlank ':' = false := by decide
  rw [h _ hmem] at hcolon
  cases hcolon

/-- The reader accepts what writes a header, and gives that header. -/
theorem readHeader?_eq_some_iff : readHeader? text.toList = some header ↔ Writes text header := by
  unfold readHeader?
  constructor
  · intro h
    split at h
    · cases h
    · next mark after hafter =>
      obtain rfl := Text.eq_of_dropWhile hafter
      obtain ⟨htext, hfirst⟩ := Text.splitAt_iff.mpr ⟨rfl, hafter⟩
      dsimp only at h
      split at h
      · cases h
      · next hnamed =>
        cases h
        exact .intro htext hfirst (Text.trimmed_trim ..) (Text.trimmed_trim ..)
          (by simpa using hnamed)
  · rintro ⟨htext, hfirst, hname, hvalue, hnamed⟩
    obtain ⟨hbefore, hafter⟩ := Text.splitAt_iff.mp ⟨htext, hfirst⟩
    rw [hafter, hbefore]
    dsimp only
    rw [Text.trim_eq_iff.mpr hname, Text.trim_eq_iff.mpr hvalue]
    simp [hnamed]

/-- The reader refuses what writes none. -/
theorem readHeader?_eq_none_iff :
    readHeader? text.toList = Option.none ↔ WritesNone text := by
  unfold readHeader?
  constructor
  · intro h
    split at h
    · next hafter =>
      exact .noColon fun hcolon => by
        simpa using List.dropWhile_eq_nil_iff.mp hafter ':' hcolon
    · next mark after hafter =>
      obtain rfl := Text.eq_of_dropWhile hafter
      obtain ⟨htext, -⟩ := Text.splitAt_iff.mpr ⟨rfl, hafter⟩
      dsimp only at h
      split at h
      · next hname =>
        exact .noName _ _ htext (Text.trim_eq_nil_iff.mp (List.isEmpty_iff.mp hname))
      · cases h
  · rintro (hcolon | ⟨_, _, htext, hblank⟩)
    · rw [Text.dropWhile_of_notMem hcolon]
    · obtain ⟨hbefore, hafter⟩ := Text.splitAt_iff.mp ⟨htext, colon_notMem_of_blank hblank⟩
      rw [hafter, hbefore]
      dsimp only
      rw [Text.trim_eq_nil_iff.mpr hblank]
      rfl

/-- A spelled header is written by its text, however much white space stands around it. -/
theorem writes_of_spells (hw : Writable header) (h : Spells header text) : Writes text header := by
  obtain ⟨name, value⟩ := header
  obtain ⟨_, _, _, _, htext, hblank⟩ := h
  simp only [List.forall_mem_append] at hblank
  obtain ⟨⟨⟨hbefore, hbetween⟩, hbehind⟩, hafter⟩ := hblank
  have hnamed : name.toList ≠ [] := fun hnil => hw.named (String.toList_eq_nil_iff.mp hnil)
  have hfirst := List.not_mem_append (List.not_mem_append (colon_notMem_of_blank hbefore) hw.colon)
    (colon_notMem_of_blank hbetween)
  have hwrites := Writes.intro htext hfirst ⟨⟨_, _, rfl, hbefore, hbetween⟩, hw.name⟩
    ⟨⟨_, _, rfl, hbehind, hafter⟩, hw.value⟩ hnamed
  rwa [String.ofList_toList, String.ofList_toList] at hwrites

/-! ## Many texts -/

/-- Texts are read if each of them writes a header, and then as these headers. -/
theorem readHeaders_eq_ok_iff : readHeaders texts = .ok hs ↔ List.Forall₂ Writes texts hs := by
  induction texts generalizing hs with
  | nil => simp [readHeaders, eq_comm]
  | cons text texts ih =>
    rw [List.forall₂_cons_left_iff, readHeaders]
    constructor
    · intro h
      split at h
      · cases h
      · next header hheader =>
        obtain ⟨rest, hrest, rfl⟩ := map_eq_ok_iff.mp h
        exact ⟨header, rest, readHeader?_eq_some_iff.mp hheader, ih.mp hrest, rfl⟩
    · rintro ⟨header, rest, hwrites, hrest, rfl⟩
      rw [readHeader?_eq_some_iff.mpr hwrites, ih.mpr hrest]
      rfl

/-- The first text that writes no header is the error. -/
theorem readHeaders_eq_error_iff {e : InvalidHeader} : readHeaders texts = .error e ↔
    ∃ before after, texts = before ++ e.text :: after ∧ (∀ t ∈ before, ¬WritesNone t) ∧
      WritesNone e.text := by
  induction texts with
  | nil => simp [readHeaders]
  | cons text texts ih =>
    rw [readHeaders]
    cases hread : readHeader? text.toList with
    | none =>
      have hnone := readHeader?_eq_none_iff.mp hread
      constructor
      · intro h
        cases h
        exact ⟨[], texts, rfl, nofun, hnone⟩
      · rintro ⟨before, after, htexts, hbefore, -⟩
        cases before with
        | nil => rw [(List.cons.inj htexts).1]
        | cons t before =>
          obtain ⟨rfl, -⟩ := List.cons.inj htexts
          exact absurd hnone (hbefore text List.mem_cons_self)
    | some header =>
      have hsome : ¬WritesNone text := by
        rw [← readHeader?_eq_none_iff, hread]
        exact nofun
      dsimp only
      rw [map_eq_error_iff, ih]
      constructor
      · rintro ⟨before, after, rfl, hbefore, hnone⟩
        exact ⟨text :: before, after, rfl, List.forall_mem_cons.mpr ⟨hsome, hbefore⟩, hnone⟩
      · rintro ⟨before, after, htexts, hbefore, hnone⟩
        cases before with
        | nil =>
          obtain ⟨rfl, -⟩ := List.cons.inj htexts
          exact absurd hnone hsome
        | cons t before =>
          obtain ⟨-, rfl⟩ := List.cons.inj htexts
          exact ⟨before, after, rfl, (List.forall_mem_cons.mp hbefore).2, hnone⟩

/-- Texts that all write headers are read. -/
theorem exists_written (h : ∀ t ∈ texts, ¬WritesNone t) :
    ∃ written, readHeaders texts = .ok written := by
  cases hread : readHeaders texts with
  | ok written => exact ⟨written, rfl⟩
  | error e =>
    obtain ⟨before, after, rfl, -, hnone⟩ := readHeaders_eq_error_iff.mp hread
    exact absurd hnone (h e.text (List.mem_append_right _ List.mem_cons_self))

theorem toHeaders_ofPairs (h : readHeaders texts = .ok hs) :
    (ofPairs texts).map toHeaders = .ok (Entries.ofList hs) := by
  rw [ofPairs, h]
  rfl

/-! ## What comes of texts -/

/-- **Headers are read exactly.** Texts are refused exactly if one of them has no colon, or nothing
but white space in front of its first one, and the error quotes the first such text. Otherwise every
name is a header, in the order in which the names first come, with what the last text with this name
has behind its first colon, without the white space around it. The other way round, headers with
different names are read from any texts that spell them, as they are and in their order. -/
theorem headers_read :
    (∀ texts e, ofPairs texts = .error e ↔ ∃ before after, texts = before ++ e.text :: after ∧
      (∀ t ∈ before, ¬WritesNone t) ∧ WritesNone e.text) ∧
    (∀ e : InvalidHeader, ∃ quoted,
      e.message = "Invalid header " ++ quoted ++ ", expected Name:Value" ∧
        Text.Literal.begins? quoted.toList = some (Text.ofString e.text, [])) ∧
    (∀ texts, (∀ t ∈ texts, ¬WritesNone t) → ∃ written hs, List.Forall₂ Writes texts written ∧
      (ofPairs texts).map toHeaders = .ok hs ∧ LastOfEach written hs) ∧
    ∀ hs texts, (Entries.keys hs).Nodup → (∀ h ∈ hs, Writable h) →
      List.Forall₂ Spells hs texts → (ofPairs texts).map toHeaders = .ok hs := by
  refine ⟨fun texts e => ?_, fun e => ⟨Text.quoted e.text, rfl, ?_⟩, fun texts h => ?_,
    fun hs texts hn hw hspells => ?_⟩
  · rw [ofPairs, map_eq_error_iff, readHeaders_eq_error_iff]
  · have hread := @Text.Literal.begins?_quotedChars [] (Text.ofString e.text) nofun
    rw [List.append_nil] at hread
    rw [Text.quoted, String.toList_ofList]
    exact hread
  · obtain ⟨written, hwritten⟩ := exists_written h
    exact ⟨written, _, readHeaders_eq_ok_iff.mp hwritten, toHeaders_ofPairs hwritten,
      Command.Run.lastOfEach_ofList written⟩
  · have hboth := (List.forall₂_and_left hs texts).mpr ⟨hw, hspells⟩
    have hwrites : List.Forall₂ Writes texts hs :=
      (hboth.imp fun header text h => writes_of_spells h.1 h.2).flip
    rw [toHeaders_ofPairs (readHeaders_eq_ok_iff.mpr hwrites), Entries.ofList_of_nodup hn]

/-- A header whose value holds a colon, spelled with blanks, and one without value. -/
def spelledHeaders : List String := ["\tTrace : a:b \u2003", "Accept:"]

/-- The headers are read; if the first name comes again, with another value, it keeps its place, and
a text without name is refused. -/
theorem headers_read_spelled :
    (ofPairs spelledHeaders).map toHeaders = .ok [("Trace", "a:b"), ("Accept", "")] ∧
    (∃ written hs, List.Forall₂ Writes (spelledHeaders ++ ["Trace:c"]) written ∧
      (ofPairs (spelledHeaders ++ ["Trace:c"])).map toHeaders = .ok hs ∧ LastOfEach written hs) ∧
    ofPairs (spelledHeaders ++ [" : x", "y"]) = .error ⟨" : x"⟩ := by
  have hwritten : ∀ t ∈ spelledHeaders ++ ["Trace:c"], ¬WritesNone t := by
    simp only [← readHeader?_eq_none_iff]
    decide
  obtain ⟨herror, -, hread, hspelled⟩ := headers_read
  refine ⟨hspelled _ _ (by decide) (by decide +kernel) ?_, hread _ hwritten,
    (herror _ _).mpr ?_⟩
  · have htrace : Spells ("Trace", "a:b") "\tTrace : a:b \u2003" :=
      .intro ['\t'] [' '] [' '] [' ', '\u2003'] rfl (List.all_eq_true.mp (by decide))
    have haccept : Spells ("Accept", "") "Accept:" := .intro [] [] [] [] rfl (by simp)
    exact .cons htrace (.cons haccept .nil)
  · have hnone : WritesNone " : x" :=
      .noName [' '] [' ', 'x'] rfl (List.all_eq_true.mp (by decide))
    exact ⟨spelledHeaders, ["y"], rfl, fun t ht => hwritten t (List.mem_append_left _ ht), hnone⟩

end GraphBind.Auth

import GraphBind.Proofs.Models.SourceDocstring
import GraphBind.Proofs.Url.DomainName
import Mathlib.Data.List.Lex
import Mathlib.Data.List.Sort

/-!
# Reading the mapping of bound queries

The mapping that ends a generated module is read line by line: `entry?` reads the literal of a name
and the literal of a text off a line, each up to the quote that ends it. `ReadsAsMapping` says of a
text that its lines are the opening and the closing one of a mapping with lines between them that
hold given entries, in this order. A quoted text holds printable characters only
(`isPrintable_of_mem_quotedChars`), so no line of a mapping can be broken by what it holds, and it
begins with its quote once, so no literal is taken for a long one.

`queries_readBack` puts this together: the mapping is read as the queries that it was made from,
sorted by their names, and depends on nothing but them; the rest of the module does not depend on
them.
-/

namespace GraphBind

theorem CodePoint.toNat_injective : Function.Injective toNat :=
  Function.LeftInverse.injective ofNat_toNat

namespace Text

variable {quote c : Char} {t : Text} {rest : List Char}

/-! ## Quoted texts -/

/-- The characters that end a line, by any count. -/
def lineEnds : List Char :=
  ['\n', '\r', '\x0b', '\x0c', '\x1c', '\x1d', '\x1e', '\x85', '\u2028', '\u2029']

theorem not_isPrintable_of_mem_lineEnds (h : c ∈ lineEnds) : isPrintable c = false := by
  have hends : lineEnds.all (!isPrintable ·) = true := by decide +kernel
  rw [← Bool.not_eq_true']
  exact List.all_eq_true.mp hends c h

/-- Quoted text is printable throughout. -/
theorem isPrintable_of_mem_quotedChars (h : c ∈ quotedChars t) : isPrintable c = true := by
  have hquote : isPrintable (quoteFor t) = true := by
    rcases Literal.quoteFor_eq t with heq | heq <;> rw [heq] <;> decide
  unfold quotedChars at h
  rw [List.mem_append, List.mem_cons, List.mem_flatMap, List.mem_singleton] at h
  rcases h with (rfl | ⟨p, -, hp⟩) | rfl
  · exact hquote
  · exact (Literal.standsAs_escapePoint (Literal.quoteFor_eq t) p).isPrintable_of_mem hp
  · exact hquote

namespace Literal

/-- The value of the literal that a text begins with, and what follows it. A long literal, which
begins with three quotes, is none. -/
def begins? : List Char → Option (Text × List Char)
  | [] => none
  | quote :: cs =>
    if (quote == '\'' || quote == '"') && !([quote, quote].isPrefixOf cs) then inside? quote 0 cs
    else none

/-- What stands behind an opening quote does not begin with two more, so it opens no long literal.
-/
theorem not_prefix_flatMap (hquote : quote = '\'' ∨ quote = '"') (hrest : rest.head? ≠ some quote)
    (t : Text) : ¬ [quote, quote] <+: t.flatMap (escapePoint quote) ++ quote :: rest := by
  cases t with
  | nil =>
    rintro ⟨more, hmore⟩
    exact hrest (congrArg List.head? (List.cons.inj hmore).2).symm
  | cons p t =>
    obtain ⟨first, others, heq, hne⟩ :=
      (standsAs_escapePoint hquote p).exists_cons (ne_backslash hquote)
    rw [List.flatMap_cons, heq]
    exact fun h => hne (List.cons_prefix_cons.mp h).1.symm

/-- A quoted text is read up to its end, whatever follows it but a quote. -/
theorem begins?_quotedChars (t : Text) (hrest : ∀ c ∈ rest.head?, c ≠ '\'' ∧ c ≠ '"') :
    begins? (quotedChars t ++ rest) = some (t, rest) := by
  have hquote := quoteFor_eq t
  have hmark : (quoteFor t == '\'' || quoteFor t == '"') = true := by
    simpa using hquote
  have hhead : rest.head? ≠ some (quoteFor t) := fun h =>
    hquote.elim (hrest _ h).1 (hrest _ h).2
  have hshort := not_prefix_flatMap hquote hhead t
  rw [← List.isPrefixOf_iff_prefix, Bool.not_eq_true] at hshort
  unfold quotedChars
  dsimp only
  rw [List.cons_append, List.cons_append, List.append_assoc, List.singleton_append, begins?, hmark,
    hshort, inside?_flatMap hquote]
  rfl

end Literal

end Text

namespace Models

open Text (quotedChars lineEnds)
open Text.Literal (begins?)

variable {queries : List (Text × Text)}

/-! ## Entries -/

/-- The name and the text that a line of a mapping holds. -/
def entry? : List Char → Option (Text × Text)
  | ' ' :: ' ' :: ' ' :: ' ' :: cs =>
    match begins? cs with
    | some (name, ':' :: ' ' :: cs) =>
      match begins? cs with
      | some (text, [',']) => some (name, text)
      | _ => none
    | _ => none
  | _ => none

/-- The line of an entry. -/
def entryLine (query : Text × Text) : List Char :=
  ' ' :: ' ' :: ' ' :: ' ' :: (quotedChars query.1 ++ ':' :: ' ' :: (quotedChars query.2 ++ [',']))

theorem entry?_entryLine (query : Text × Text) : entry? (entryLine query) = some query := by
  have hname : begins? (quotedChars query.1 ++ ':' :: ' ' :: (quotedChars query.2 ++ [','])) =
      some (query.1, ':' :: ' ' :: (quotedChars query.2 ++ [','])) :=
    Text.Literal.begins?_quotedChars _ (by simp)
  have htext : begins? (quotedChars query.2 ++ [',']) = some (query.2, [',']) :=
    Text.Literal.begins?_quotedChars _ (by simp)
  simp only [entryLine, entry?, hname, htext]

/-- A line of the mapping is printable throughout, so it is one line. -/
theorem isPrintable_of_mem_entryLine (query : Text × Text) :
    ∀ c ∈ entryLine query, Text.isPrintable c = true := by
  have hquoted : ∀ t : Text, ∀ c ∈ quotedChars t, Text.isPrintable c = true :=
    fun t c => Text.isPrintable_of_mem_quotedChars
  have hblank : Text.isPrintable ' ' = true := by decide
  have hcolon : Text.isPrintable ':' = true := by decide
  have hcomma : Text.isPrintable ',' = true := by decide
  simp only [entryLine, List.forall_mem_cons, List.forall_mem_append]
  exact ⟨hblank, hblank, hblank, hblank, hquoted _, hcolon, hblank, hquoted _, hcomma,
    List.forall_mem_nil _⟩

/-! ## Mappings -/

/-- The line that opens the mapping. -/
def mappingOpening : List Char := "QUERIES: dict[str, str] = \x7b".toList

/-- That a text is a mapping with entries: two lines that are empty, the opening line, one line for
each entry, which no character ends before, and the closing line. -/
structure ReadsAsMapping (entries : List (Text × Text)) (shown : Text) : Prop where
  encodable : shown.holdsSurrogates = false
  lines : ∃ lines, shown.chars.splitOn '\n' = [] :: [] :: mappingOpening :: lines ++ [['}']] ∧
    lines.map entry? = entries.map some ∧ ∀ line ∈ lines, ∀ c ∈ line, c ∉ lineEnds

theorem queryLine_eq (query : Text × Text) :
    queryLine query = .ofChars (entryLine query ++ ['\n']) := by
  have hquoted : ∀ t : Text, Text.ofString t.quoted = .ofChars (quotedChars t) :=
    fun t => Text.ofString_ofList _
  have hbegin : Text.ofString "    " = .ofChars [' ', ' ', ' ', ' '] := Text.ofString_ofList _
  have hbetween : Text.ofString ": " = .ofChars [':', ' '] := Text.ofString_ofList _
  have hend : Text.ofString ",\n" = .ofChars [',', '\n'] := Text.ofString_ofList _
  rw [queryLine, hquoted, hquoted, hbegin, hbetween, hend]
  simp only [← Text.ofChars_append, entryLine, List.append_assoc, List.cons_append,
    List.nil_append]

theorem intercalate_concat (lines : List (List Char)) (last : List Char) :
    ['\n'].intercalate (lines ++ [last]) = (lines.map (· ++ ['\n'])).flatten ++ last := by
  induction lines with
  | nil => exact List.intercalate_singleton
  | cons line lines ih =>
    rw [List.cons_append, List.intercalate_cons_of_ne_nil (by simp), ih, List.map_cons,
      List.flatten_cons, List.append_assoc, List.append_assoc, List.append_assoc]

/-- The lines of a mapping. -/
def mappingLines (queries : List (Text × Text)) : List (List Char) :=
  [] :: [] :: mappingOpening :: queries.map entryLine ++ [['}']]

/-- The mapping is its lines one after the other, with line feeds between them. -/
theorem querySection_eq (queries : List (Text × Text)) :
    querySection queries = .ofChars (['\n'].intercalate (mappingLines queries)) := by
  have hopening : Text.ofString "\n\nQUERIES: dict[str, str] = \x7b\n" =
      .ofChars ([[], [], mappingOpening].map (· ++ ['\n'])).flatten := by
    unfold mappingOpening
    rw [Text.ofString_ofList, String.toList_ofList]
    rfl
  have hentries : Text.concat (queries.map queryLine) =
      .ofChars ((queries.map entryLine).map (· ++ ['\n'])).flatten := by
    rw [Text.ofChars, List.map_flatten, List.map_map, List.map_map, Text.concat]
    exact congrArg List.flatten (List.map_congr_left fun query _ => queryLine_eq query)
  have hclosing : Text.ofString "\x7d" = .ofChars ['}'] := Text.ofString_ofList ['}']
  rw [querySection, hopening, hentries, hclosing, mappingLines]
  change _ = Text.ofChars (['\n'].intercalate
    (([[], [], mappingOpening] ++ queries.map entryLine) ++ [['}']]))
  rw [intercalate_concat, List.map_append, List.flatten_append, Text.ofChars_append,
    Text.ofChars_append]

theorem isPrintable_of_mem_mappingLines {line : List Char} (h : line ∈ mappingLines queries) :
    ∀ c ∈ line, Text.isPrintable c = true := by
  have hopening : mappingOpening.all Text.isPrintable = true := by decide
  simp only [mappingLines, List.cons_append, List.mem_cons, List.mem_append, List.mem_map,
    List.not_mem_nil, or_false] at h
  rcases h with rfl | rfl | rfl | ⟨query, -, rfl⟩ | rfl
  · exact List.forall_mem_nil _
  · exact List.forall_mem_nil _
  · exact List.all_eq_true.mp hopening
  · exact isPrintable_of_mem_entryLine query
  · exact List.forall_mem_singleton.mpr (by decide)

theorem notMem_lineEnds_of_mem_mappingLines {line : List Char} (h : line ∈ mappingLines queries) :
    ∀ c ∈ line, c ∉ lineEnds := by
  intro c hc hend
  have hprintable := isPrintable_of_mem_mappingLines h c hc
  rw [Text.not_isPrintable_of_mem_lineEnds hend] at hprintable
  cases hprintable

theorem null_notMem_querySection (queries : List (Text × Text)) :
    '\x00' ∉ (querySection queries).chars := by
  rw [querySection_eq, Text.chars_ofChars]
  intro h
  rcases Text.mem_intercalate h with h | ⟨line, hline, h⟩
  · exact absurd h (by decide)
  · exact absurd (isPrintable_of_mem_mappingLines hline _ h) (by decide)

/-- What is printed for queries is read as these queries. -/
theorem readsAsMapping_querySection (queries : List (Text × Text)) :
    ReadsAsMapping queries (querySection queries) := by
  have hbreaks : ∀ line ∈ mappingLines queries, '\n' ∉ line := fun line hline hmem =>
    notMem_lineEnds_of_mem_mappingLines hline _ hmem (by decide)
  rw [querySection_eq]
  refine ⟨Text.holdsSurrogates_ofChars _, queries.map entryLine, ?_, ?_, ?_⟩
  · rw [Text.chars_ofChars, List.splitOn_intercalate _ hbreaks (by simp [mappingLines])]
    rfl
  · rw [List.map_map]
    exact List.map_congr_left fun query _ => entry?_entryLine query
  · intro line hline
    have hmem : line ∈ mappingLines queries := List.mem_append_left _ (List.mem_cons_of_mem _
      (List.mem_cons_of_mem _ (List.mem_cons_of_mem _ hline)))
    exact notMem_lineEnds_of_mem_mappingLines hmem

/-! ## Order -/

/-- That a name comes before another, code point by code point. -/
def NameLt (name name' : Text) : Prop :=
  List.Lex (· < ·) (name.map CodePoint.toNat) (name'.map CodePoint.toNat)

theorem isBefore_iff {name name' : Text} : isBefore name name' = true ↔ NameLt name name' := by
  rw [isBefore, List.lex_eq_true_iff_lex]
  simp only [NameLt, decide_eq_true_eq]

namespace NameLt

variable {name name' name'' : Text}

theorem not_symm (h : NameLt name name') : ¬NameLt name' name := asymm_of (List.Lex (· < ·)) h

theorem of_ne (hne : name ≠ name') (h : ¬NameLt name' name) : NameLt name name' := by
  have hpoints : name.map CodePoint.toNat ≠ name'.map CodePoint.toNat := fun heq =>
    hne (List.map_injective_iff.mpr CodePoint.toNat_injective heq)
  rcases trichotomous_of (List.Lex (· < ·)) (name.map CodePoint.toNat)
    (name'.map CodePoint.toNat) with hlt | heq | hgt
  · exact hlt
  · exact absurd heq hpoints
  · exact absurd hgt h

theorem not_trans (h : ¬NameLt name name') (h' : ¬NameLt name' name'') : ¬NameLt name name'' :=
  IsOrderConnected.neg_trans (r := List.Lex (· < ·)) h h'

end NameLt

/-- Sorted queries with different names have them in ascending order. -/
theorem pairwise_sortQueries (hn : (Entries.keys queries).Nodup) :
    (Entries.keys (sortQueries queries)).Pairwise NameLt := by
  have hbefore : ∀ a b : Text × Text, (!isBefore b.1 a.1) = true ↔ ¬NameLt b.1 a.1 := by
    intro a b
    rw [Bool.not_eq_true', ← Bool.not_eq_true, isBefore_iff]
  have hle : (sortQueries queries).Pairwise fun a b => (!isBefore b.1 a.1) = true := by
    refine List.pairwise_mergeSort (fun a b c hab hbc => ?_) (fun a b => ?_) queries
    · rw [hbefore] at hab hbc ⊢
      exact NameLt.not_trans hbc hab
    · rw [Bool.or_eq_true, hbefore, hbefore, ← not_and_or]
      exact fun h => h.1.not_symm h.2
  have hne : (sortQueries queries).Pairwise fun a b => a.1 ≠ b.1 :=
    List.pairwise_map.mp (((perm_sortQueries queries).map _).nodup_iff.mpr hn)
  refine List.pairwise_map.mpr ((hle.and hne).imp fun {a b} h => ?_)
  exact .of_ne h.2 ((hbefore a b).mp h.1)

/-- The order in which queries are given does not count. -/
theorem sortQueries_eq_of_perm {queries' : List (Text × Text)}
    (hn : (Entries.keys queries).Nodup) (hperm : queries'.Perm queries) :
    sortQueries queries' = sortQueries queries := by
  have hn' : (Entries.keys queries').Nodup := (hperm.map _).nodup_iff.mpr hn
  refine List.Perm.eq_of_pairwise (fun a b _ _ hab hba => ?_)
    (List.pairwise_map.mp (pairwise_sortQueries hn'))
    (List.pairwise_map.mp (pairwise_sortQueries hn))
    (((perm_sortQueries queries').trans hperm).trans (perm_sortQueries queries).symm)
  exact absurd hba hab.not_symm

end Models

/-! ## Modules -/

/-- Characters behind a text add no fault, since UTF-8 has them all. -/
theorem Text.find?_append_ofChars (t : Text) (cs : List Char) :
    Unencodable.find? .utf8 (t ++ ofChars cs) = Unencodable.find? .utf8 t := by
  have hchars : ∀ p ∈ ofChars cs, Charset.utf8.has p = true := by
    intro p hp
    obtain ⟨c, -, rfl⟩ := List.mem_map.mp hp
    rfl
  by_cases ht : ∀ p ∈ t, Charset.utf8.has p = true
  · rw [find?_eq_none_iff.mpr ht, find?_eq_none_iff.mpr (List.forall_mem_append.mpr ⟨ht, hchars⟩)]
  · have hrun : (ofChars cs).takeWhile (!Charset.utf8.has ·) = [] := by
      cases cs with
      | nil => rfl
      | cons c cs => rfl
    have hlength : (t.takeWhile Charset.utf8.has).length ≠ t.length := fun h =>
      ht (List.takeWhile_eq_self_iff.mp ((List.takeWhile_prefix _).eq_of_length h))
    unfold Unencodable.find?
    rw [List.dropWhile_append, List.takeWhile_append, if_neg hlength]
    cases hdrop : t.dropWhile Charset.utf8.has with
    | nil => exact absurd (List.dropWhile_eq_nil_iff.mp hdrop) ht
    | cons p after =>
      rw [if_neg (by simp), List.cons_append]
      dsimp only
      rw [← List.cons_append, List.takeWhile_append, hrun, List.append_nil]
      split
      · next h => rw [(List.takeWhile_prefix _).eq_of_length h]
      · rfl

namespace Models

/-- Of the text of a module only the section of the queries depends on them. -/
theorem exists_front_toText (s : Surface) (r : Registry) :
    ∃ front : Except LookupError Text, ∀ queries,
      { s with queries }.toText r = front.map (· ++ querySection queries) := by
  refine ⟨(s.models.mapM (modelSection r)).map fun models => docstringSection s.source ++
    importSection s.imports ++ scalarSection s.scalars ++
    Text.concat (s.enumerations.map enumSection) ++ unionSection s.unions ++ Text.concat models ++
    completionSection s.models, fun queries => ?_⟩
  unfold Surface.toText
  dsimp only
  cases s.models.mapM (modelSection r) with
  | error e => rfl
  | ok models => rfl

/-- The text of the section of queries, which holds characters only. -/
def mappingText (queries : List (String × String)) : String :=
  String.ofList (querySection (sortQueries (queries.map queryTexts))).chars

end Models

namespace Generator

/-- A text that is accepted with characters behind it is accepted without them, and the other way
round, as none of them is null: so one verdict does for all that the text may go on with. -/
theorem accept_append {ε : Type} (name : String) (front : Text) (verdict : Except ε Bool)
    {cs : List Char} (hnull : '\x00' ∉ cs) : accept name (front ++ .ofChars cs) verdict =
      (accept name front verdict).map (· ++ String.ofList cs) := by
  have hholds : Text.holdsNull (front ++ .ofChars cs).chars = Text.holdsNull front.chars := by
    rw [Text.chars_append, Text.chars_ofChars, Bool.eq_iff_iff]
    simp [Text.holdsNull, hnull]
  unfold accept
  rw [Text.find?_append_ofChars, hholds, Text.chars_append, Text.chars_ofChars,
    String.ofList_append]
  split
  · rfl
  · split
    · rfl
    · split
      · rfl
      · rfl
      · rfl

/-- Only the end of what is rendered depends on the queries. -/
theorem exists_front_render {g : Generator} {files : FileTree}
    (hbuiltin : Template.IsBuiltin files g.templateDirectory) :
    ∃ front : Except RenderError String, ∀ queries,
      { g with queries }.render files Template.builtinName =
        front.map (· ++ Models.mappingText queries) := by
  obtain ⟨front, hfront⟩ := Models.exists_front_toText g.surface g.registry
  have htext : ∀ queries, ({ g with queries } : Generator).surface.toText g.registry =
      front.map (· ++ Models.querySection (Models.sortQueries (queries.map Models.queryTexts))) :=
    fun queries => hfront _
  cases front with
  | error e =>
    refine ⟨.error (.lookup e), fun queries => ?_⟩
    rw [render_of_isBuiltin (g := { g with queries }) hbuiltin, htext]
    rfl
  | ok front =>
    refine ⟨accept Template.builtinName front (Toolchain.literal.accepts g .builtin front),
      fun queries => ?_⟩
    have hchars : Models.querySection (Models.sortQueries (queries.map Models.queryTexts)) =
        .ofChars (Models.querySection (Models.sortQueries (queries.map Models.queryTexts))).chars :=
      (Text.ofChars_chars (Models.readsAsMapping_querySection _).encodable).symm
    rw [render_of_isBuiltin (g := { g with queries }) hbuiltin, htext]
    change accept Template.builtinName (front ++ Models.querySection _) _ = _
    rw [hchars, accept_append _ _ _ (Models.null_notMem_querySection _)]
    rfl

end Generator

namespace Models

/-- **Queries are read back exactly.** The mapping that is printed for queries with different names,
of any texts whatever, consists of one line for each of them, in the ascending order of their names,
from which the name and the text are read as they are; no character of a line ends it by any count
of lines. The mapping is the same in whatever order the queries are given. A module of the built-in
template is the mapping behind a front that does not depend on the queries, and nor does it on them
whether there is a module. -/
theorem queries_readBack {queries : List (Text × Text)} (hn : (Entries.keys queries).Nodup) :
    (∃ sorted : List (Text × Text), sorted.Perm queries ∧ (Entries.keys sorted).Pairwise NameLt ∧
      ReadsAsMapping sorted (querySection (sortQueries queries))) ∧
    (∀ queries' : List (Text × Text), queries'.Perm queries →
      querySection (sortQueries queries') = querySection (sortQueries queries)) ∧
    ∀ (g : Generator) (files : FileTree), Template.IsBuiltin files g.templateDirectory →
      ∃ front : Except RenderError String, ∀ own,
        { g with queries := own }.render files Template.builtinName =
          front.map (· ++ mappingText own) := by
  refine ⟨⟨sortQueries queries, perm_sortQueries queries, pairwise_sortQueries hn,
    readsAsMapping_querySection _⟩, fun queries' hperm => ?_, fun g files hbuiltin => ?_⟩
  · rw [sortQueries_eq_of_perm hn hperm]
  · exact Generator.exists_front_render hbuiltin

/-- Names and texts with quotes of both kinds, a backslash, line ends, a brace and a surrogate. -/
def awkwardQueries : List (Text × Text) :=
  [("it's", "say \"hi\"\n\x7d"), ([.surrogate 0], "\\"), ("\u2028'\"", ""), ("", "'''")]

theorem queries_readBack_awkward : ∃ sorted : List (Text × Text), sorted.Perm awkwardQueries ∧
    (Entries.keys sorted).Pairwise NameLt ∧
    ReadsAsMapping sorted (querySection (sortQueries awkwardQueries.reverse)) := by
  have hn : (Entries.keys awkwardQueries).Nodup := by decide
  obtain ⟨⟨sorted, hperm, hsorted, hreads⟩, hsame, -⟩ := queries_readBack hn
  exact ⟨sorted, hperm, hsorted, hsame _ (List.reverse_perm _) ▸ hreads⟩

end Models

end GraphBind

import GraphBind.Proofs.Exchange.Sending
import GraphBind.Proofs.Json.LineEnds
import GraphBind.Proofs.Session.BindingInTurn
import GraphBind.Proofs.Text.Utf8

/-!
# Saved schemas and fetched ones

A saved response is read as text, with normalized lines and as UTF-8 in any case; the body of a
response is read as bytes, whose encoding is found out first, and as it is. `load_alike_fetch` says
that both come to the same for every text without null character and byte order mark: to the same
schema, to the same reported errors, or to a failure to get a document.
-/

namespace GraphBind.Json

/-! ## What is read from the bytes -/

open Text.Utf8 (encode)

variable {cs : List Char}

/-- A text is read from its bytes as it is read itself. -/
theorem ofBytes?_encode (hnull : '\x00' ∉ cs) (hmark : cs.head? ≠ some '\uFEFF') :
    ofBytes? (encode cs) = (ofText (.ofChars cs)).toOption := by
  rw [toOption_ofText (head?_ofChars hmark), ofBytes?_encode_lex hnull hmark]

end GraphBind.Json

namespace GraphBind

/-! ## Asking for the schema over the plain connection -/

theorem Introspection.length_queryText_le : queryText.length ≤ 3000 := by
  simp only [queryText, definitions, Selection.toText, selectionsText, indented, lines,
    referenceParts, referenceDepth, String.join, String.length_append, String.length_pushn,
    List.map_cons, List.map_nil, List.foldl_cons, List.foldl_nil, List.cons_append, List.nil_append]
  decide +kernel

theorem Text.Utf8.length_encodeChar_le (c : Char) : (encodeChar c).length ≤ 4 := by
  unfold encodeChar
  dsimp only
  split
  · simp
  · split
    · simp
    · split <;> simp

/-- A character is escaped as four bytes at most, of three characters each. -/
theorem Url.Percent.length_escapeChar_le (c : Char) : (escapeChar c).length ≤ 12 := by
  have hbyte : ∀ bs : List UInt8, (bs.flatMap escapeByte).length = 3 * bs.length := by
    intro bs
    induction bs with
    | nil => rfl
    | cons b bs ih =>
      rw [List.flatMap_cons, List.length_append, ih, List.length_cons]
      have h : (escapeByte b).length = 3 := rfl
      omega
  have := Text.Utf8.length_encodeChar_le c
  rw [escapeChar, hbyte]
  omega

/-- A query string is at most twelve times as long as what it writes. -/
theorem Url.Query.length_encoded_le (s : String) : (encoded s).length ≤ 12 * s.length := by
  unfold encoded
  rw [← String.length_toList]
  induction s.toList with
  | nil => simp
  | cons c cs ih =>
    have hone : (if c == ' ' then ['+'] else
        if Percent.isUnreserved c then [c] else Percent.escapeChar c).length ≤ 12 := by
      have := Percent.length_escapeChar_le c
      split
      · simp
      · split
        · simp
        · exact this
    rw [List.flatMap_cons, List.length_append, List.length_cons]
    omega

namespace Connection

/-- The plain URL with a query. -/
def queriedUrl (query : String) : Url := { plainUrl with query := some query }

/-- A short URL takes a query of any length up to the limit. -/
theorem withQuery_plainUrl {query : List Char} (h : query.length ≤ Url.lengthLimit) :
    plainUrl.withQuery (some query) =
      .ok (queriedUrl (String.ofList (Url.Percent.escape Url.isQueryChar query))) := by
  have hparts : Url.ofParts { plainUrl.parts with query := some query } =
      .ok (queriedUrl (String.ofList (Url.Percent.escape Url.isQueryChar query))) := by
    cbv
  rw [← hparts, Url.withQuery, Url.compose]
  have hnone : [("scheme", plainUrl.parts.scheme), ("authority", plainUrl.parts.authority),
      ("path", plainUrl.parts.path), ("query", query),
      ("fragment", plainUrl.parts.fragment.getD [])].find?
        (fun part => decide (Url.lengthLimit < part.2.length)) = none := by
    rw [List.find?_eq_none]
    intro part hpart
    simp only [List.mem_cons, List.not_mem_nil, or_false] at hpart
    have hauthority : plainUrl.parts.authority = ['h'] := by cbv
    rcases hpart with rfl | rfl | rfl | rfl | rfl
    · decide +kernel
    · rw [hauthority]
      decide +kernel
    · decide +kernel
    · simpa using h
    · decide +kernel
  dsimp only [Option.getD_some]
  rw [hnone]

theorem make_of_target {query : String}
    (h : Request.target plainConnection .introspection = .ok (queriedUrl query)) :
    Request.make plainConnection .introspection =
      .ok ⟨plainConnection, .introspection, queriedUrl query, plainUrl⟩ := by
  have hheaders : (Request.ownHeaders plainConnection).fault? = none := by cbv
  have hnamed : (!(queriedUrl query).host.isEmpty &&
      !(Request.ownHeaders plainConnection).has "host") = true := by cbv
  have hhost : Request.checkHost (queriedUrl query) = .ok () := by
    change Request.checkHost plainUrl = .ok ()
    cbv
  have haddress : (queriedUrl query).withQuery none = .ok plainUrl := by
    change plainUrl.withQuery none = .ok plainUrl
    cbv
  unfold Request.make
  rw [hheaders, h]
  simp only [Except.mapError, Bind.bind, Except.bind, pure, Except.pure, hnamed, hhost, haddress,
    if_true]

/-- Over the plain connection the introspection query can be asked too. -/
theorem make_plainConnection_introspection :
    ∃ r, Request.make plainConnection .introspection = .ok r ∧ r.url.isAbsolute = true := by
  have hlength : (Url.Query.single Request.queryParam Introspection.queryText).length ≤
      Url.lengthLimit := by
    have hname : (Url.Query.encoded Request.queryParam).length ≤ 12 * 5 :=
      Url.Query.length_encoded_le _
    have htext := Url.Query.length_encoded_le Introspection.queryText
    have hquery := Introspection.length_queryText_le
    rw [Url.Query.single, List.length_append, List.length_cons, Url.lengthLimit]
    omega
  have hparse : Url.parse plainConnection.url = .ok plainUrl := by cbv
  have habsolute : plainUrl.absolute = .ok plainUrl := by cbv
  have htarget : Request.target plainConnection .introspection =
      plainUrl.withQuery (some (Url.Query.single Request.queryParam Introspection.queryText)) := by
    rw [Request.target, hparse]
    simp only [Bind.bind, Except.bind, habsolute]
  rw [withQuery_plainUrl hlength] at htarget
  exact ⟨_, make_of_target htarget, rfl⟩

end Connection

/-! ## Both ways to a schema -/

/-- That the service answers the introspection query of a connection: a request can be made, to a
URL that responses are taken from, and the response to it has this status and body. -/
structure Connection.Answered (c : Connection) (σ : Service) (status : Nat) (body : List UInt8) :
    Prop where
  made : ∃ r, Request.make c .introspection = .ok r ∧ r.url.isAbsolute = true
  outcome : σ.outcomeAt 0 = .response status body

namespace Schema

/-- That two attempts to get a schema end alike: with the same schema, with the same errors that
were reported instead of one, or both with a failure to get any. -/
inductive Alike : Except (Failure ServiceError) Schema → Except (Failure ServiceError) Schema →
    Prop where
  | schema (s : Schema) : Alike (.ok s) (.ok s)
  | reported (errors : Json) : Alike (.error (.failed (.reported errors)))
      (.error (.failed (.reported errors)))
  | transport (e e' : TransportError) : Alike (.error (.failed (.transport e)))
      (.error (.failed (.transport e')))

variable {c : Connection} {σ : Service} {files : FileTree} {path : Path} {cs : List Char}

theorem alike_ofResponse (d : Json) : Alike ((ofResponse d).mapError .failed)
    ((ofResponse d).mapError .failed) := by
  cases ofResponse d with
  | ok s => exact .schema s
  | error e =>
    cases e with
    | transport e => exact .transport e e
    | reported errors => exact .reported errors

theorem load_of_read (hfile : files.read path = .ok (Text.Utf8.encode cs)) :
    load files path = match Json.ofText (.ofChars (Text.normalizeLines cs)) with
      | .error e => .error (.failed (.transport (.notJson path e)))
      | .ok d => (ofResponse d).mapError .failed := by
  cases hjson : Json.ofText (.ofChars (Text.normalizeLines cs)) with
  | error e => simp only [load, hfile, textOfFile, Text.Utf8.decode_encode, hjson]
  | ok d => simp only [load, hfile, textOfFile, Text.Utf8.decode_encode, hjson]

theorem fetch_of_answered {body : List UInt8} (h : c.Answered σ 200 body) :
    ∃ e, ((fetch c).runOn σ).1 = match Json.ofBytes? body with
      | none => .error (.failed (.transport e))
      | some d => (ofResponse d).mapError .failed := by
  obtain ⟨⟨r, hr, hurl⟩, houtcome⟩ := h
  refine ⟨.notADocument r.method r.connection.url 200
    (String.ofList (Text.Utf8.decodeLossy body)), ?_⟩
  rw [fetch, Dialogue.runOn_bind, Dialogue.runOn_mapFailure, Connection.runOn_ask, hr, houtcome]
  dsimp only
  rw [Outcome.document, if_pos hurl, Request.document]
  rw [if_pos (by decide)]
  cases Json.ofBytes? body with
  | none => rfl
  | some d =>
    change ((Dialogue.ofExcept ((ofResponse d).mapError .failed)).runOn (σ.receive [r])).1 = _
    rw [Dialogue.runOn_ofExcept]

/-- **A saved schema and a fetched one are treated alike.** A text comes to the same from the file
that holds its bytes and from the response that does, in whatever form its lines end. -/
theorem load_alike_fetch (hnull : '\x00' ∉ cs) (hmark : cs.head? ≠ some '\uFEFF')
    (hfile : files.read path = .ok (Text.Utf8.encode cs))
    (hanswer : c.Answered σ 200 (Text.Utf8.encode cs)) :
    Alike (load files path) ((fetch c).runOn σ).1 := by
  obtain ⟨e, hfetch⟩ := fetch_of_answered hanswer
  rw [load_of_read hfile, hfetch, Json.ofBytes?_encode hnull hmark,
    ← Json.toOption_ofText_normalizeLines hmark]
  cases Json.ofText (.ofChars (Text.normalizeLines cs)) with
  | error e' => exact .transport _ _
  | ok d => exact alike_ofResponse d

/-- A saved response that writes its lines in all three ways. -/
def mixedLines : List Char := "\x7b\r\n\"__schema\":\r\x7b\x7d\n\x7d".toList

/-- The response is the same schema from the file and from the service. -/
theorem load_alike_fetch_mixedLines :
    Alike (load ⟨[(["s.json"], .file (Text.Utf8.encode mixedLines))]⟩ ⟨["s.json"]⟩)
      ((fetch Connection.plainConnection).runOn
        (.ofOutcomes [.response 200 (Text.Utf8.encode mixedLines)])).1 := by
  have hnull : '\x00' ∉ mixedLines := by decide +kernel
  have hmark : mixedLines.head? ≠ some '\uFEFF' := by decide +kernel
  exact load_alike_fetch hnull hmark rfl ⟨Connection.make_plainConnection_introspection, rfl⟩

end Schema

end GraphBind

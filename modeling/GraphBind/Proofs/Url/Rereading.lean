import GraphBind.Proofs.Text.Trimming
import GraphBind.Proofs.Url.Host

/-!
# Reading URLs again

A URL is composed again from its own text when its query is replaced. That keeps its user, since the
last at sign of the authority is the one behind the user and what is escaped is not escaped again
(`userinfo_withQuery`), and it keeps the host up to case (`host_withQuery`). Whether it can be done
at all does not depend on the query, if that is not too long (`exists_withQuery_none`).
-/

namespace GraphBind.Url

/-! ## The last mark of a text -/

section SplitLast

variable {mark : Char} {cs before : List Char}

theorem splitLast_of_notMem (h : mark ∉ cs) : splitLast mark cs = (none, cs) := by
  unfold splitLast
  rw [Text.dropWhile_of_notMem (by rwa [List.mem_reverse])]

theorem splitLast_append (h : mark ∉ cs) :
    splitLast mark (before ++ mark :: cs) = (some before, cs) := by
  have hmarks : ∀ c ∈ cs.reverse, (c != mark) = true :=
    Text.bne_of_notMem (by rwa [List.mem_reverse])
  unfold splitLast
  rw [List.reverse_append, List.reverse_cons, List.append_assoc,
    List.dropWhile_append_of_pos hmarks, List.takeWhile_append_of_pos hmarks]
  simp

theorem notMem_splitLast : mark ∉ (splitLast mark cs).2 := by
  unfold splitLast
  split
  · next heq =>
    intro h
    have hne := List.dropWhile_eq_nil_iff.mp heq mark (List.mem_reverse.mpr h)
    simp at hne
  · exact fun h => Text.notMem_takeWhile (List.mem_reverse.mp h)

/-- What stands in front of the last mark is a part of the text. -/
theorem subset_splitLast (h : (splitLast mark cs).1 = some before) : before ⊆ cs := by
  unfold splitLast at h
  split at h
  · cases h
  · next head rest heq =>
    cases h
    intro c hc
    apply List.mem_reverse.mp
    apply List.dropWhile_subset (· != mark)
    rw [heq]
    exact List.mem_cons_of_mem _ (List.mem_reverse.mp hc)

end SplitLast

/-! ## The location -/

theorem at_notMem_splitHost {cs : List Char} (hat : '@' ∉ cs) : '@' ∉ (splitHost cs).1 := by
  unfold splitHost
  split
  · next inner rest _ hlast =>
    intro hmem
    rcases List.mem_append.mp hmem with hmem | hmem
    · exact hat (subset_splitLast (by rw [hlast]) hmem)
    · exact absurd hmem (by decide)
  · exact fun h => hat (List.takeWhile_subset _ h)

/-- A character of a port and the colon before it. -/
def isPortChar (c : Char) : Bool := c == ':' || c == '-' || c.isDigit

theorem toNat_lt_of_isPortChar {c : Char} (h : isPortChar c = true) : c.toNat < 128 := by
  unfold isPortChar Char.isDigit at h
  simp only [Bool.or_eq_true, beq_iff_eq, Bool.and_eq_true, decide_eq_true_eq, ge_iff_le,
    UInt32.le_iff_toNat_le] at h
  have h9 : ('9' : Char).val.toNat = 57 := rfl
  change c.val.toNat < 128
  rcases h with (rfl | rfl) | ⟨-, h⟩
  · decide
  · decide
  · omega

theorem isPortChar_of_mem_repr {n : Int} {c : Char} (h : c ∈ n.repr.toList) :
    isPortChar c = true := by
  have hdigits : ∀ m : Nat, c ∈ m.repr.toList → isPortChar c = true := by
    intro m hm
    rw [Nat.toList_repr] at hm
    have hdigit := Nat.isDigit_of_mem_toDigits (by decide) (by decide) hm
    unfold isPortChar
    rw [hdigit, Bool.or_true]
  rw [Int.repr_eq_if] at h
  split at h
  · exact hdigits _ h
  · rw [String.toList_append] at h
    rcases List.mem_append.mp h with h | h
    · rw [List.mem_singleton.mp h]
      rfl
    · exact hdigits _ h

/-- The port of a location, with the colon before it. -/
def portText (u : Url) : List Char :=
  match u.port with
  | none => []
  | some n => ':' :: n.repr.toList

theorem isPortChar_of_mem_portText {u : Url} {c : Char} (h : c ∈ u.portText) :
    isPortChar c = true := by
  unfold portText at h
  split at h
  · cases h
  · rcases List.mem_cons.mp h with rfl | h
    · rfl
    · exact isPortChar_of_mem_repr h

theorem portText_eq (u : Url) : u.portText = [] ∨ ∃ digits, u.portText = ':' :: digits := by
  unfold portText
  cases u.port with
  | none => exact .inl rfl
  | some n => exact .inr ⟨_, rfl⟩

/-- The text of host and port: brackets where a colon asks for them, then the port. -/
theorem location_eq (u : Url) :
    u.location.toList =
      (if u.host.contains ':' then '[' :: (u.host.toList ++ [']']) else u.host.toList) ++
        u.portText := by
  have hport : ((u.port.map fun n => s!":{n}").getD "").toList = u.portText := by
    unfold portText
    cases u.port with
    | none => rfl
    | some n => exact String.toList_append
  unfold location
  dsimp only
  rw [String.toList_append, hport]
  split
  · rw [String.toList_append, String.toList_append]
    rfl
  · rfl

variable {p : Parts} {u v : Url} {query : Option (List Char)}

theorem location_of_colon (h : ':' ∈ u.host.toList) :
    u.location.toList = '[' :: u.host.toList ++ ']' :: u.portText := by
  have hcolon : u.host.contains ':' = true := by
    rw [String.contains_char_eq]
    exact decide_eq_true h
  rw [location_eq, if_pos hcolon, List.cons_append, List.append_assoc]
  rfl

theorem location_of_no_colon (h : ':' ∉ u.host.toList) :
    u.location.toList = u.host.toList ++ u.portText := by
  have hcolon : u.host.contains ':' = false := by
    rw [String.contains_char_eq]
    exact decide_eq_false h
  rw [location_eq, hcolon, if_neg (by decide)]

theorem at_notMem_location (hhost : '@' ∉ u.host.toList) : '@' ∉ u.location.toList := by
  have hport : '@' ∉ u.portText := fun h => absurd (isPortChar_of_mem_portText h) (by decide)
  by_cases hcolon : ':' ∈ u.host.toList
  · rw [location_of_colon hcolon]
    simp [hhost, hport]
  · rw [location_of_no_colon hcolon]
    simp [hhost, hport]

/-- Host and port are ASCII iff the host is, since ports are written in digits. -/
theorem location_ascii_iff :
    (∀ c ∈ u.location.toList, c.toNat < 128) ↔ ∀ c ∈ u.host.toList, c.toNat < 128 := by
  have hport : ∀ c ∈ u.portText, c.toNat < 128 := fun c hc =>
    toNat_lt_of_isPortChar (isPortChar_of_mem_portText hc)
  by_cases hcolon : ':' ∈ u.host.toList
  · rw [location_of_colon hcolon]
    constructor
    · exact fun h c hc => h c (by simp [hc])
    · intro h c hc
      rcases List.mem_append.mp hc with hc | hc
      · rcases List.mem_cons.mp hc with rfl | hc
        · decide
        · exact h c hc
      · rcases List.mem_cons.mp hc with rfl | hc
        · decide
        · exact hport c hc
  · rw [location_of_no_colon hcolon]
    constructor
    · exact fun h c hc => h c (List.mem_append_left _ hc)
    · intro h c hc
      rcases List.mem_append.mp hc with hc | hc
      · exact h c hc
      · exact hport c hc

theorem splitHost_location_of_colon (h : ':' ∈ u.host.toList) :
    (splitHost u.location.toList).1 = '[' :: (u.host.toList ++ [']']) := by
  have hport : ']' ∉ u.portText := fun h => absurd (isPortChar_of_mem_portText h) (by decide)
  rw [location_of_colon h]
  unfold splitHost
  rw [splitLast_append hport]
  rfl

/-- A host of plain characters is read back from the text of host and port. -/
theorem splitHost_location_of_forall_isHostChar (h : ∀ c ∈ u.host.toList, isHostChar c = true) :
    (splitHost u.location.toList).1 = u.host.toList := by
  have hcolon : ':' ∉ u.host.toList := fun hmem => absurd (h _ hmem) (by decide)
  have hat : '@' ∉ u.host.toList := fun hmem => absurd (h _ hmem) (by decide)
  have hends : ∀ c ∈ u.host.toList, (!(c == ':' || c == '@')) = true := by
    intro c hc
    have hc' : c ≠ ':' := fun heq => hcolon (heq ▸ hc)
    have hc'' : c ≠ '@' := fun heq => hat (heq ▸ hc)
    simp [hc', hc'']
  have hport : u.portText.takeWhile (fun c => !(c == ':' || c == '@')) = [] := by
    rcases u.portText_eq with hempty | ⟨digits, hdigits⟩
    · rw [hempty]
      rfl
    · rw [hdigits]
      rfl
  have hhead : (u.host.toList ++ u.portText).head? ≠ some '[' := by
    intro hhead
    rcases List.mem_append.mp (List.mem_of_head? hhead) with hmem | hmem
    · exact absurd (h _ hmem) (by decide)
    · exact absurd (isPortChar_of_mem_portText hmem) (by decide)
  rw [location_of_no_colon hcolon]
  unfold splitHost
  split
  · next hhead' _ => exact absurd hhead' hhead
  · dsimp only
    rw [List.takeWhile_append_of_pos hends, hport, List.append_nil]

/-! ## Parts -/

/-- What the user and the host of a URL come from. -/
theorem ofParts_eq_ok (h : ofParts p = .ok u) :
    u.userinfo.toList = Percent.escape isUserChar ((splitLast '@' p.authority).1.getD []) ∧
      normalHost (splitHost (splitLast '@' p.authority).2).1 = .ok u.host.toList := by
  unfold ofParts at h
  dsimp only at h
  obtain ⟨host, hhost, h⟩ := bind_eq_ok_iff.mp h
  obtain ⟨port, -, h⟩ := bind_eq_ok_iff.mp h
  obtain ⟨-, h⟩ := check_bind_eq_ok_iff.mp h
  cases h
  simp only [String.toList_ofList]
  exact ⟨trivial, hhost⟩

/-- Whether parts make up a URL does not depend on their query. -/
theorem exists_ofParts_query (h : ofParts p = .ok u) (query : Option (List Char)) :
    ∃ v, ofParts { p with query } = .ok v := by
  unfold ofParts at h ⊢
  dsimp only at h ⊢
  obtain ⟨host, hhost, h⟩ := bind_eq_ok_iff.mp h
  obtain ⟨port, hport, h⟩ := bind_eq_ok_iff.mp h
  obtain ⟨hpath, -⟩ := check_bind_eq_ok_iff.mp h
  exact ⟨_, bind_eq_ok_iff.mpr ⟨host, hhost, bind_eq_ok_iff.mpr ⟨port, hport,
    check_bind_eq_ok_iff.mpr ⟨hpath, rfl⟩⟩⟩⟩

theorem compose_eq_ok (h : compose p = .ok u) : ofParts p = .ok u := by
  unfold compose at h
  dsimp only at h
  split at h
  · cases h
  · exact h

/-- A URL that can be put together can be without its query. -/
theorem exists_compose_none (h : compose p = .ok u) :
    ∃ v, compose { p with query := none } = .ok v := by
  obtain ⟨v, hv⟩ := exists_ofParts_query (compose_eq_ok h) none
  refine ⟨v, ?_⟩
  unfold compose at h ⊢
  dsimp only at h ⊢
  split at h
  · cases h
  · next hshort =>
    have hshort' : [("scheme", p.scheme), ("authority", p.authority), ("path", p.path),
        ("query", none.getD []), ("fragment", p.fragment.getD [])].find?
          (fun part => decide (lengthLimit < part.2.length)) = none := by
      rw [List.find?_eq_none] at hshort ⊢
      intro part hpart
      simp only [List.mem_cons, List.not_mem_nil, or_false] at hpart
      rcases hpart with rfl | rfl | rfl | rfl | rfl
      · exact hshort _ (by simp)
      · exact hshort _ (by simp)
      · exact hshort _ (by simp)
      · decide
      · exact hshort _ (by simp)
    rw [hshort']
    exact hv

theorem exists_withQuery_none (h : u.withQuery query = .ok v) : ∃ w, u.withQuery none = .ok w :=
  exists_compose_none (p := { u.parts with query }) h

theorem ofParts_of_parse {text : String} (h : Url.parse text = .ok u) : ∃ p, ofParts p = .ok u := by
  unfold Url.parse at h
  dsimp only at h
  split at h
  · cases h
  · split at h
    · cases h
    · exact ⟨_, h⟩

theorem ofParts_of_absolute (hu : ofParts p = .ok u) (h : u.absolute = .ok v) :
    ∃ p, ofParts p = .ok v := by
  unfold absolute at h
  split at h
  · cases h
    exact ⟨p, hu⟩
  · split at h
    exact ⟨_, compose_eq_ok h⟩

/-! ## Reading again -/

/-- No host holds an at sign: the text was split at the last one. -/
theorem at_notMem_host (h : ofParts p = .ok u) : '@' ∉ u.host.toList := by
  obtain ⟨-, hhost⟩ := ofParts_eq_ok h
  rcases normalHost_eq_ok hhost with hchars | ⟨hbrackets, -⟩
  · exact fun hat => absurd (hchars _ hat) (by decide)
  · have hwritten : '@' ∉ (splitHost (splitLast '@' p.authority).2).1 :=
      at_notMem_splitHost notMem_splitLast
    intro hat
    apply hwritten
    rw [hbrackets]
    exact List.mem_cons_of_mem _ (List.mem_append_left _ hat)

/-- User and host are read back from the text of the authority, if no at sign is in the host. -/
theorem splitLast_authority (h : '@' ∉ u.host.toList) :
    (splitLast '@' u.authority.toList).1.getD [] = u.userinfo.toList ∧
      (splitLast '@' u.authority.toList).2 = u.location.toList := by
  have hlocation := at_notMem_location h
  unfold authority
  split
  · next hempty =>
    have huser : u.userinfo.toList = [] := by
      rw [String.isEmpty_iff.mp hempty]
      rfl
    rw [String.toList_append, String.toList_empty, List.nil_append,
      splitLast_of_notMem hlocation, huser]
    exact ⟨rfl, rfl⟩
  · rw [String.toList_append, String.toList_append, List.append_assoc]
    change (splitLast '@' (u.userinfo.toList ++ '@' :: u.location.toList)).1.getD [] = _ ∧
      (splitLast '@' (u.userinfo.toList ++ '@' :: u.location.toList)).2 = _
    rw [splitLast_append hlocation]
    exact ⟨rfl, rfl⟩

theorem isUserChar_of_mem_escapeParts :
    ∀ c ∈ '%' :: Text.hexDigitChars, isUserChar c = true := by
  have hall : ('%' :: Text.hexDigitChars).all isUserChar = true := by decide
  exact List.all_eq_true.mp hall

/-- A URL keeps its user when its query is replaced. -/
theorem userinfo_withQuery (hu : ofParts p = .ok u) (hv : u.withQuery query = .ok v) :
    v.userinfo = u.userinfo := by
  obtain ⟨huser, -⟩ := ofParts_eq_ok hu
  obtain ⟨hsame, -⟩ := ofParts_eq_ok (compose_eq_ok hv)
  apply String.toList_injective
  rw [hsame]
  change Percent.escape isUserChar ((splitLast '@' u.authority.toList).1.getD []) = _
  rw [(splitLast_authority (at_notMem_host hu)).1, huser,
    Percent.escape_escape isUserChar_of_mem_escapeParts]

/-- A URL keeps its host up to case when its query is replaced. -/
theorem host_withQuery (hu : ofParts p = .ok u) (hv : u.withQuery query = .ok v) :
    v.host = u.host ∨ (∀ c ∈ u.host.toList, isHostChar c = true) ∧
      v.host.toList = u.host.toList.map Char.toLower := by
  obtain ⟨-, hhost⟩ := ofParts_eq_ok hu
  obtain ⟨-, hsame⟩ := ofParts_eq_ok (compose_eq_ok hv)
  change normalHost (splitHost (splitLast '@' u.authority.toList).2).1 = _ at hsame
  rw [(splitLast_authority (at_notMem_host hu)).2] at hsame
  rcases normalHost_eq_ok hhost with hchars | ⟨-, hhex⟩
  · rw [splitHost_location_of_forall_isHostChar hchars] at hsame
    rcases normalHost_of_forall_isHostChar hchars hsame with heq | heq
    · exact .inl (String.toList_injective heq)
    · exact .inr ⟨hchars, heq⟩
  · rw [splitHost_location_of_colon (colon_mem_of_isHexadecimal hhex),
      normalHost_of_isHexadecimal hhex] at hsame
    exact .inl (String.toList_injective (Except.ok.inj hsame).symm)

end GraphBind.Url

import GraphBind.Proofs.Checks
import GraphBind.Proofs.Text.Identifier
import GraphBind.Proofs.Text.Punycode
import GraphBind.Url.Parse

/-!
# The characters of domain names

A domain name in ASCII is made of characters that a host may hold as they are
(`DomainName.isHostChar_of_mem_toAscii`): of the ASCII characters no others are allowed in a label,
and Punycode adds none. Reading a name does not tell lower from upper case
(`DomainName.ofAscii_toLower`).
-/

namespace GraphBind

namespace Text

/-- A character between or in parts stands in what is between or in a part. -/
theorem mem_intercalate {c : Char} {sep : List Char} {parts : List (List Char)}
    (h : c ∈ sep.intercalate parts) : c ∈ sep ∨ ∃ part ∈ parts, c ∈ part := by
  induction parts with
  | nil => simp [List.intercalate] at h
  | cons part parts ih =>
    cases parts with
    | nil => exact .inr ⟨part, List.mem_cons_self, by simpa [List.intercalate] using h⟩
    | cons next parts =>
      have hcons : sep.intercalate (part :: next :: parts) =
          part ++ (sep ++ sep.intercalate (next :: parts)) := by simp [List.intercalate]
      rw [hcons, List.mem_append, List.mem_append] at h
      rcases h with h | h | h
      · exact .inr ⟨part, List.mem_cons_self, h⟩
      · exact .inl h
      · rcases ih h with h | ⟨other, hother, h⟩
        · exact .inl h
        · exact .inr ⟨other, List.mem_cons_of_mem _ hother, h⟩

/-- Splitting a text adds no characters. -/
theorem mem_of_mem_splitOnP {c : Char} {p : Char → Bool} {cs part : List Char}
    (hpart : part ∈ cs.splitOnP p) (h : c ∈ part) : c ∈ cs := by
  induction cs generalizing part with
  | nil =>
    rw [List.splitOnP_nil, List.mem_singleton] at hpart
    exact hpart ▸ h
  | cons d cs ih =>
    rw [List.splitOnP_cons_eq_if_modifyHead] at hpart
    split at hpart
    · rcases List.mem_cons.mp hpart with rfl | hpart
      · cases h
      · exact List.mem_cons_of_mem _ (ih hpart h)
    · cases hsplit : cs.splitOnP p with
      | nil => exact absurd hsplit (List.splitOnP_ne_nil p cs)
      | cons first others =>
        rw [hsplit, List.modifyHead_cons, List.mem_cons] at hpart
        rcases hpart with rfl | hpart
        · rcases List.mem_cons.mp h with rfl | h
          · exact List.mem_cons_self
          · exact List.mem_cons_of_mem _ (ih (hsplit ▸ List.mem_cons_self) h)
        · exact List.mem_cons_of_mem _ (ih (hsplit ▸ List.mem_cons_of_mem _ hpart) h)

/-- Characters may be replaced before or after a text is split, if they separate parts or not as
before. -/
theorem splitOnP_map {p : Char → Bool} {f : Char → Char} {cs : List Char}
    (h : ∀ c ∈ cs, p (f c) = p c) :
    (cs.map f).splitOnP p = (cs.splitOnP p).map (List.map f) := by
  induction cs with
  | nil => rfl
  | cons c cs ih =>
    have hrest := ih fun d hd => h d (List.mem_cons_of_mem _ hd)
    rw [List.map_cons, List.splitOnP_cons_eq_if_modifyHead, List.splitOnP_cons_eq_if_modifyHead,
      h c List.mem_cons_self, hrest]
    split
    · rfl
    · cases hsplit : cs.splitOnP p with
      | nil => exact absurd hsplit (List.splitOnP_ne_nil p cs)
      | cons first others => rfl

/-- Ranges behind a code point do not matter. -/
theorem inRanges_eq_take {ranges : List (Nat × Nat)} {n k : Nat}
    (h : ∀ r ∈ ranges.drop k, n < r.1) : inRanges ranges n = inRanges (ranges.take k) n := by
  have hdrop : inRanges (ranges.drop k) n = false := by
    refine List.any_eq_false.mpr fun r hr => ?_
    have hlt := h r hr
    simp only [Bool.and_eq_true, decide_eq_true_eq, not_and]
    omega
  calc inRanges ranges n = inRanges (ranges.take k ++ ranges.drop k) n := by
        rw [List.take_append_drop]
    _ = (inRanges (ranges.take k) n || inRanges (ranges.drop k) n) := List.any_append
    _ = inRanges (ranges.take k) n := by rw [hdrop, Bool.or_false]

end Text

namespace Url

/-! ## Characters of hosts -/

/-- The digits of Punycode may stand in a host. -/
theorem isHostChar_of_isDigit {c : Char} (h : Text.Punycode.isDigit c = true) :
    isHostChar c = true := by
  have hunreserved : Percent.isUnreserved c = true := by
    unfold Text.Punycode.isDigit Text.Punycode.digitValue? at h
    unfold Percent.isUnreserved
    split at h
    · next hlow => simp [hlow]
    · split at h
      · next hhigh => simp [hhigh]
      · split at h
        · next hdecimal => simp [hdecimal]
        · cases h
  unfold isHostChar
  rw [hunreserved, Bool.true_or]

theorem toNat_lt_of_isHostChar {c : Char} (h : isHostChar c = true) : c.toNat < 128 := by
  unfold isHostChar at h
  rcases Bool.or_eq_true_iff.mp h with h | h
  · unfold Percent.isUnreserved at h
    simp only [Bool.or_eq_true, Bool.and_eq_true, decide_eq_true_eq, beq_iff_eq, Char.le_def,
      UInt32.le_iff_toNat_le] at h
    have hz : ('z' : Char).val.toNat = 122 := rfl
    have hZ : ('Z' : Char).val.toNat = 90 := rfl
    have h9 : ('9' : Char).val.toNat = 57 := rfl
    change c.val.toNat < 128
    rcases h with (((((h | h) | h) | rfl) | rfl) | rfl) | rfl
    · omega
    · omega
    · omega
    all_goals decide
  · have hall : ("!$&'()*+,;=\"`\x7b\x7d%|\\".toList.all fun d => d.toNat < 128) = true := by decide
    exact of_decide_eq_true (List.all_eq_true.mp hall c (List.contains_iff_mem.mp h))

theorem isHostChar_toLower {c : Char} (h : isHostChar c = true) : isHostChar c.toLower = true := by
  have hall : ∀ n < 128, isHostChar (Char.ofNat n) = true →
      isHostChar (Char.ofNat n).toLower = true := by decide +kernel
  exact Text.forall_ascii (P := fun c => isHostChar c = true → isHostChar c.toLower = true) hall
    (toNat_lt_of_isHostChar h) h

namespace Label

/-! ## Labels -/

variable {label before t : Text} {c : Char} {cs : List Char}

/-- Of the ASCII characters a label allows those only that a host may hold. -/
theorem isHostChar_of_isAllowed (hc : c.toNat < 128) (h : isAllowed c.toNat = true) :
    isHostChar c = true := by
  -- Behind the first three ranges there is no ASCII, so these are all that is looked at.
  have hbehind : ((allowedBelow1000.drop 3).all fun r => 128 ≤ r.1) = true := by decide +kernel
  have hranges : Text.inRanges (allowedBelow1000.take 3) c.toNat = true := by
    have hbelow : isAllowed c.toNat = Text.inRanges allowedBelow1000 c.toNat := by
      unfold isAllowed
      exact if_pos (by omega)
    rw [hbelow, Text.inRanges_eq_take fun r hr =>
      hc.trans_le (of_decide_eq_true (List.all_eq_true.mp hbehind r hr))] at h
    exact h
  have hall : ∀ n < 128, Text.inRanges (allowedBelow1000.take 3) (Char.ofNat n).toNat = true →
      isHostChar (Char.ofNat n) = true := by decide +kernel
  exact Text.forall_ascii (P := fun c => Text.inRanges (allowedBelow1000.take 3) c.toNat = true →
    isHostChar c = true) hall hc hranges

theorem isHostChar_of_toLower (hc : c.toNat < 128) (h : isHostChar c.toLower = true) :
    isHostChar c = true := by
  have hall : ∀ n < 128, isHostChar (Char.ofNat n).toLower = true →
      isHostChar (Char.ofNat n) = true := by decide +kernel
  exact Text.forall_ascii (P := fun c => isHostChar c.toLower = true → isHostChar c = true) hall
    hc h

/-- A code point that passes the check is an allowed one, if it is ASCII. -/
theorem isAllowed_of_checkPoint {behind : Text} (hc : c.toNat < 128)
    (h : checkPoint label before (.char c) behind = .ok ()) : isAllowed c.toNat = true := by
  have hcontext : fitsContext? label before c.toNat behind = none := by
    unfold fitsContext? isArabicDigit isEasternDigit
    rw [if_neg (by simp; omega), if_neg (by simp; omega), if_neg (by simp; omega),
      if_neg (by simp; omega), if_neg (by simp; omega), if_neg (by simp; omega)]
  unfold checkPoint at h
  dsimp only [CodePoint.toNat] at h
  split at h
  · next hallowed => exact hallowed
  · rw [if_neg (by simp [nonJoiner, joiner]; omega), hcontext] at h
    cases h

theorem isHostChar_of_checkPoints (h : checkPoints label before t = .ok ()) (hc : c.toNat < 128)
    (hmem : CodePoint.char c ∈ t) : isHostChar c = true := by
  induction t generalizing before with
  | nil => cases hmem
  | cons p t ih =>
    obtain ⟨_, hpoint, h⟩ := bind_eq_ok_iff.mp h
    rcases List.mem_cons.mp hmem with rfl | hmem
    · exact isHostChar_of_isAllowed hc (isAllowed_of_checkPoint hc hpoint)
    · exact ih h hmem

/-- The ASCII characters of a label that passes the check may stand in a host. -/
theorem isHostChar_of_check (h : check t = .ok ()) (hc : c.toNat < 128)
    (hmem : CodePoint.char c ∈ t) : isHostChar c = true := by
  unfold check at h
  obtain ⟨-, h⟩ := of_guard_eq_ok h
  obtain ⟨-, h⟩ := of_guard_eq_ok h
  obtain ⟨_, -, h⟩ := bind_eq_ok_iff.mp h
  obtain ⟨-, h⟩ := of_guard_eq_ok h
  obtain ⟨_, hpoints, -⟩ := bind_eq_ok_iff.mp h
  exact isHostChar_of_checkPoints hpoints hc hmem

/-- A label that is read from ASCII characters holds none that a host may not. -/
theorem isHostChar_of_mem_ofAscii (h : Label.ofAscii cs = .ok t) (hascii : cs.all isAscii = true)
    (hmem : c ∈ cs) : isHostChar c = true := by
  have hc : c.toNat < 128 := of_decide_eq_true (List.all_eq_true.mp hascii c hmem)
  have hlow : c.toLower.toNat < 128 := by
    refine Text.forall_ascii (P := fun c => c.toLower.toNat < 128) ?_ hc
    decide +kernel
  have hsmall : c.toLower ∈ cs.map Char.toLower := List.mem_map_of_mem hmem
  apply isHostChar_of_toLower hc
  unfold Label.ofAscii at h
  dsimp only at h
  split at h
  · next hmarked =>
    obtain ⟨-, h⟩ := of_guard_eq_ok h
    obtain ⟨-, h⟩ := of_guard_eq_ok h
    split at h
    · cases h
    · next label hlabel =>
      obtain ⟨_, hcheck, -⟩ := bind_eq_ok_iff.mp h
      obtain ⟨content, hcontent⟩ := List.isPrefixOf_iff_prefix.mp hmarked
      rw [← hcontent, List.drop_left] at hlabel
      rw [← hcontent] at hsmall
      rcases List.mem_append.mp hsmall with hsmall | hsmall
      · have hall : encodedPrefix.all isHostChar = true := by decide
        exact List.all_eq_true.mp hall _ hsmall
      · rcases Text.Punycode.mem_of_decode? hlabel hsmall with hpoint | hhyphen | hdigit
        · exact isHostChar_of_check hcheck hlow hpoint
        · rw [hhyphen]
          rfl
        · exact isHostChar_of_isDigit hdigit
  · obtain ⟨_, hcheck, -⟩ := bind_eq_ok_iff.mp h
    exact isHostChar_of_check hcheck hlow (Text.mem_ofChars.mpr hsmall)

/-- A label in ASCII is what it was, or Punycode of it behind a prefix; either may stand in a host.
-/
theorem isHostChar_of_mem_toAscii {encoded : List Char} (h : Label.toAscii cs = .ok encoded)
    (hmem : c ∈ encoded) : isHostChar c = true := by
  unfold Label.toAscii at h
  split at h
  · next hascii =>
    obtain ⟨label, hlabel, h⟩ := bind_eq_ok_iff.mp h
    obtain ⟨-, h⟩ := of_guard_eq_ok h
    cases h
    exact isHostChar_of_mem_ofAscii hlabel hascii hmem
  · obtain ⟨_, hcheck, h⟩ := bind_eq_ok_iff.mp h
    obtain ⟨-, h⟩ := of_guard_eq_ok h
    cases h
    rcases List.mem_append.mp hmem with hmem | hmem
    · have hall : encodedPrefix.all isHostChar = true := by decide
      exact List.all_eq_true.mp hall _ hmem
    · rcases Text.Punycode.mem_encode hmem with ⟨hpoint, hc⟩ | hhyphen | hdigit
      · exact isHostChar_of_check hcheck hc hpoint
      · rw [hhyphen]
        rfl
      · exact isHostChar_of_isDigit hdigit

theorem ofAscii_toLower (h : ∀ c ∈ cs, c.toNat < 128) :
    Label.ofAscii (cs.map Char.toLower) = Label.ofAscii cs := by
  have htwice : (cs.map Char.toLower).map Char.toLower = cs.map Char.toLower := by
    rw [List.map_map]
    exact List.map_congr_left fun c hc => Text.toLower_toLower_of_ascii (h c hc)
  unfold Label.ofAscii
  rw [htwice]

end Label

/-! ## Names -/

namespace DomainName

variable {c : Char} {cs : List Char}

theorem isHostChar_of_mem_toAscii {name : List Char} (h : DomainName.toAscii cs = .ok name)
    (hmem : c ∈ name) : isHostChar c = true := by
  unfold DomainName.toAscii at h
  split at h
  next parts dotted hlabels =>
  obtain ⟨-, h⟩ := of_guard_eq_ok h
  obtain ⟨encoded, hencoded, h⟩ := bind_eq_ok_iff.mp h
  obtain ⟨-, h⟩ := of_guard_eq_ok h
  cases h
  have hlabel : ∀ label ∈ encoded, c ∈ label → isHostChar c = true := by
    intro label hlabel hc
    obtain ⟨part, -, hascii⟩ := exists_of_mem_mapM hencoded hlabel
    exact Label.isHostChar_of_mem_toAscii hascii hc
  rcases Text.mem_intercalate hmem with hdot | ⟨label, hl, hc⟩
  · rw [List.mem_singleton.mp hdot]
    rfl
  · split at hl
    · rcases List.mem_append.mp hl with hl | hl
      · exact hlabel label hl hc
      · rw [List.mem_singleton.mp hl] at hc
        cases hc
    · exact hlabel label hl hc

theorem isDot_toLower (hc : c.toNat < 128) : isDot c.toLower = isDot c := by
  refine Text.forall_ascii (P := fun c => isDot c.toLower = isDot c) ?_ hc
  decide +kernel

theorem mem_of_mem_labels {label : List Char} (hlabel : label ∈ (labels cs).1) (h : c ∈ label) :
    c ∈ cs := by
  refine Text.mem_of_mem_splitOnP (p := isDot) ?_ h
  unfold labels at hlabel
  dsimp only at hlabel
  split at hlabel
  · exact List.dropLast_subset _ hlabel
  · exact hlabel

/-- Lower case changes no dot, so the labels are those in lower case. -/
theorem labels_toLower (h : ∀ c ∈ cs, c.toNat < 128) :
    labels (cs.map Char.toLower) = ((labels cs).1.map (List.map Char.toLower), (labels cs).2) := by
  have hsplit := Text.splitOnP_map (p := isDot) fun c hc => isDot_toLower (h c hc)
  have hlast : ((cs.splitOnP isDot).map (List.map Char.toLower)).getLast? = some [] ↔
      (cs.splitOnP isDot).getLast? = some [] := by
    rw [List.getLast?_map]
    cases (cs.splitOnP isDot).getLast? with
    | none => simp
    | some part => simp
  unfold labels
  dsimp only
  rw [hsplit]
  by_cases hdotted : (cs.splitOnP isDot).getLast? = some []
  · rw [if_pos (beq_iff_eq.mpr (hlast.mpr hdotted)), if_pos (beq_iff_eq.mpr hdotted),
      List.map_dropLast]
  · rw [if_neg (mt beq_iff_eq.mp (mt hlast.mp hdotted)), if_neg (mt beq_iff_eq.mp hdotted)]

/-- Names that differ in their case are read alike. -/
theorem ofAscii_toLower (h : ∀ c ∈ cs, c.toNat < 128) :
    ofAscii (cs.map Char.toLower) = ofAscii cs := by
  have hlabels : ((labels cs).1.map (List.map Char.toLower)).mapM Label.ofAscii =
      (labels cs).1.mapM Label.ofAscii := by
    apply mapM_map_congr
    intro label hlabel
    exact Label.ofAscii_toLower fun c hc => h c (mem_of_mem_labels hlabel hc)
  unfold ofAscii
  rw [labels_toLower h]
  dsimp only
  rw [hlabels, List.isEmpty_map]

end DomainName

end Url

end GraphBind

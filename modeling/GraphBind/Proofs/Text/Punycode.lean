import GraphBind.Proofs.Text.Trimming
import GraphBind.Text.Punycode

/-!
# The characters of Punycode

Punycode is made of three kinds of characters: the ASCII characters of the text, digits, and the
hyphen between them. `mem_encode` says so of what is written, and `mem_of_decode?` of all that can
be read.
-/

namespace GraphBind.Text.Punycode

/-- Whether a character is a digit. -/
def isDigit (c : Char) : Bool := (digitValue? c).isSome

/-! ## Writing -/

theorem isDigit_digit {d : Nat} (h : d < 36) : isDigit (digit d) = true := by
  have hall : ∀ d < 36, isDigit (digit d) = true := by decide +kernel
  exact hall d h

theorem threshold_le (bias place : Nat) : threshold bias place ≤ 26 := by
  unfold threshold
  omega

/-- A number is written in digits of Punycode only. -/
theorem isDigit_of_mem_writeNumber {bias place n : Nat} {c : Char}
    (h : c ∈ writeNumber bias place n) : isDigit c = true := by
  induction place, n using writeNumber.induct bias with
  | case1 place n t hlt =>
    rw [writeNumber, if_pos hlt, List.mem_singleton] at h
    have ht := threshold_le bias place
    rw [h]
    exact isDigit_digit (by omega)
  | case2 place n t hlt ih =>
    rw [writeNumber, if_neg hlt] at h
    rcases List.mem_cons.mp h with h | h
    · have ht : t ≤ 26 := threshold_le bias place
      have hmod : (n - t) % (36 - t) < 36 - t := Nat.mod_lt _ (by omega)
      have hdigit : t + (n - t) % (36 - t) < 36 := by omega
      rw [h]
      exact isDigit_digit hdigit
    · exact ih h

/-- That only digits have been written so far. -/
def Writing.Digits (w : Writing) : Prop := ∀ c ∈ w.out, isDigit c = true

/-- A pass for one code point adds such digits only. -/
theorem Writing.Digits.pass {w : Writing} (h : w.Digits) (point n : Nat) :
    (w.pass point n).Digits := by
  unfold Writing.pass
  split
  · exact h
  · split
    · intro c hc
      rcases List.mem_append.mp hc with hc | hc
      · exact h c hc
      · exact isDigit_of_mem_writeNumber hc
    · exact h

theorem Writing.Digits.foldl_pass {w : Writing} (h : w.Digits) (point : Nat) (ns : List Nat) :
    (ns.foldl (Writing.pass point) w).Digits := by
  induction ns generalizing w with
  | nil => exact h
  | cons n ns ih => exact ih (h.pass point n)

theorem isDigit_of_mem_writePoints {ns points : List Nat} {passed : Nat} {w : Writing}
    (hw : w.Digits) {c : Char} (h : c ∈ writePoints ns passed w points) : isDigit c = true := by
  induction points generalizing passed w with
  | nil => exact hw c h
  | cons point points ih =>
    have hstart : Writing.Digits { w with delta := w.delta + (point - passed) * (w.done + 1) } := hw
    refine ih ?_ h
    exact hstart.foldl_pass point ns

/-- What is written is made of the ASCII characters of the text, hyphens and digits. -/
theorem mem_encode {t : Text} {c : Char} (h : c ∈ encode t) :
    (CodePoint.char c ∈ t ∧ c.toNat < 128) ∨ c = '-' ∨ isDigit c = true := by
  have hplain : c ∈ ((t.map (·.toNat)).filter (· < firstOther)).map Char.ofNat →
      CodePoint.char c ∈ t ∧ c.toNat < 128 := by
    intro hmem
    obtain ⟨n, hn, rfl⟩ := List.mem_map.mp hmem
    obtain ⟨hn, hlow⟩ := List.mem_filter.mp hn
    obtain ⟨p, hp, rfl⟩ := List.mem_map.mp hn
    have hlow := of_decide_eq_true hlow
    cases p with
    | char d =>
      rw [CodePoint.toNat, Char.ofNat_toNat]
      exact ⟨hp, hlow⟩
    | surrogate n =>
      simp only [CodePoint.toNat, CodePoint.firstSurrogate, firstOther] at hlow
      omega
  have hstart : ∀ (delta bias done : Nat) (first : Bool),
      Writing.Digits ⟨delta, bias, done, first, []⟩ := by
    intro delta bias done first c hc
    cases hc
  unfold encode at h
  dsimp only at h
  split at h
  · exact .inr (.inr (isDigit_of_mem_writePoints (hstart _ _ _ _) h))
  · rcases List.mem_append.mp h with h | h
    · exact .inl (hplain h)
    · rcases List.mem_cons.mp h with h | h
      · exact .inr (.inl h)
      · exact .inr (.inr (isDigit_of_mem_writePoints (hstart _ _ _ _) h))

/-! ## Reading -/

/-- A number is read from digits, and what it leaves is the rest of the text. -/
theorem readNumber?_eq_some {bias place weight value n : Nat} {cs rest : List Char}
    (h : readNumber? bias place weight value cs = some (n, rest)) :
    ∃ used, cs = used ++ rest ∧ ∀ c ∈ used, isDigit c = true := by
  induction cs generalizing place weight value with
  | nil => cases h
  | cons c cs ih =>
    unfold readNumber? at h
    split at h
    · cases h
    · next d hd =>
      have hdigit : isDigit c = true := by
        rw [isDigit, hd]
        rfl
      dsimp only at h
      split at h
      · cases h
        refine ⟨[c], rfl, fun c' hc' => ?_⟩
        rw [List.mem_singleton.mp hc']
        exact hdigit
      · obtain ⟨used, rfl, hused⟩ := ih h
        refine ⟨c :: used, rfl, fun c' hc' => ?_⟩
        rcases List.mem_cons.mp hc' with rfl | hc'
        · exact hdigit
        · exact hused c' hc'

/-- Insertions are read from digits, and take nothing out of the text. -/
theorem insertPoints?_eq_some {base t : Text} {point place bias : Nat} {first : Bool}
    {cs : List Char} (h : insertPoints? base point place bias first cs = some t) :
    (∀ p ∈ base, p ∈ t) ∧ ∀ c ∈ cs, isDigit c = true := by
  fun_induction insertPoints? base point place bias first cs with
  | case1 base point place bias first cs hempty =>
    cases h
    rw [List.isEmpty_iff.mp hempty]
    exact ⟨fun p hp => hp, fun c hc => by cases hc⟩
  | case2 => cases h
  | case3 => cases h
  | case4 base point place bias first cs _ delta rest hread _ _ point' place' _ ih =>
    obtain ⟨hbase, hrest⟩ := ih h
    obtain ⟨used, rfl, hused⟩ := readNumber?_eq_some hread
    constructor
    · intro p hp
      apply hbase
      rw [← List.take_append_drop place' base] at hp
      rcases List.mem_append.mp hp with hp | hp
      · exact List.mem_append_left _ hp
      · exact List.mem_append_right _ (List.mem_cons_of_mem _ hp)
    · intro c hc
      rcases List.mem_append.mp hc with hc | hc
      · exact hused c hc
      · exact hrest c hc

/-- Splitting at the last hyphen loses no other character. -/
theorem mem_splitLastHyphen {cs : List Char} {c : Char} (h : c ∈ cs) :
    c ∈ (splitLastHyphen cs).1 ∨ c = '-' ∨ c ∈ (splitLastHyphen cs).2 := by
  unfold splitLastHyphen
  split
  · exact .inr (.inr h)
  · next mark before hrest =>
    have hsplit := List.takeWhile_append_dropWhile (p := (· != '-')) (l := cs.reverse)
    have hmem : c ∈ cs.reverse := List.mem_reverse.mpr h
    rw [← hsplit, hrest] at hmem
    rcases List.mem_append.mp hmem with hmem | hmem
    · exact .inr (.inr (List.mem_reverse.mpr hmem))
    · rcases List.mem_cons.mp hmem with hmem | hmem
      · exact .inr (.inl (hmem.trans (eq_of_dropWhile hrest)))
      · exact .inl (List.mem_reverse.mpr hmem)

/-- All that can be read is made of the ASCII characters of the text, hyphens and digits. -/
theorem mem_of_decode? {cs : List Char} {t : Text} (h : decode? cs = some t) {c : Char}
    (hc : c ∈ cs) : CodePoint.char c ∈ t ∨ c = '-' ∨ isDigit c = true := by
  unfold decode? at h
  obtain ⟨hbase, hnumbers⟩ := insertPoints?_eq_some h
  rcases mem_splitLastHyphen hc with hc | hc | hc
  · exact .inl (hbase _ (List.mem_map.mpr ⟨c, hc, rfl⟩))
  · exact .inr (.inl hc)
  · exact .inr (.inr (hnumbers c hc))

end GraphBind.Text.Punycode

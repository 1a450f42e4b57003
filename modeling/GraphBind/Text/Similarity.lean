/-!
# Similar texts

How much two texts have in common: the longest run of characters that both hold is matched, then
what stands before it in both, then what stands after it. Of runs of one length the one that begins
earliest in the first text is taken, and then the one that begins earliest in the second. Texts are
similar if at least three fifths of their characters are matched.
-/

namespace GraphBind.Text

/-- How many characters two texts begin with alike. -/
def sharedStart : List Char → List Char → Nat
  | a :: as, b :: bs => if a == b then sharedStart as bs + 1 else 0
  | _, _ => 0

/-- Where in the second text the longest run begins that the first text begins with, and its
length. -/
def longestStart (as : List Char) : List Char → Nat × Nat
  | [] => (0, 0)
  | b :: bs =>
    let here := sharedStart as (b :: bs)
    let (j, later) := longestStart as bs
    if later ≤ here then (0, here) else (j + 1, later)

/-- A run of characters that two texts hold. -/
structure SharedRun where
  /-- Where it begins in the first text. -/
  first : Nat
  /-- Where it begins in the second text. -/
  second : Nat
  length : Nat
  deriving DecidableEq, Repr

/-- The longest run of characters that two texts hold. -/
def longestRun : List Char → List Char → SharedRun
  | [], _ => ⟨0, 0, 0⟩
  | a :: as, bs =>
    let (j, here) := longestStart (a :: as) bs
    let later := longestRun as bs
    if later.length ≤ here then ⟨0, j, here⟩ else { later with first := later.first + 1 }

theorem sharedStart_le (as bs : List Char) : sharedStart as bs ≤ as.length := by
  induction as generalizing bs with
  | nil => cases bs <;> simp [sharedStart]
  | cons a as ih =>
    cases bs with
    | nil => simp [sharedStart]
    | cons b bs =>
      simp only [sharedStart]
      split
      · exact Nat.succ_le_succ (ih bs)
      · exact Nat.zero_le _

theorem longestStart_le (as bs : List Char) : (longestStart as bs).2 ≤ as.length := by
  induction bs with
  | nil => simp [longestStart]
  | cons b bs ih =>
    simp only [longestStart]
    split
    · exact sharedStart_le _ _
    · exact ih

/-- The run lies inside the first text. -/
theorem longestRun_le (as bs : List Char) :
    (longestRun as bs).first + (longestRun as bs).length ≤ as.length := by
  induction as with
  | nil => simp [longestRun]
  | cons a as ih =>
    simp only [longestRun]
    split
    · simpa using longestStart_le (a :: as) bs
    · simp only [List.length_cons]; omega

/-- How many characters of two texts are matched. -/
def matchedLength (as bs : List Char) : Nat :=
  match _hrun : longestRun as bs with
  | ⟨i, j, k⟩ =>
    if _h : k = 0 then 0
    else
      matchedLength (as.take i) (bs.take j) + k + matchedLength (as.drop (i + k)) (bs.drop (j + k))
termination_by as.length
decreasing_by
  all_goals
    have inside := longestRun_le as bs
    simp only [_hrun] at inside
    simp only [List.length_take, List.length_drop]
    omega

/-- A text and how similar it is to another: matched characters out of all characters of both. -/
structure Likeness where
  text : String
  shared : Nat
  total : Nat
  deriving DecidableEq, Repr

namespace Likeness

/-- How similar a text is to a word. -/
def of (word text : String) : Likeness where
  text := text
  shared := 2 * matchedLength text.toList word.toList
  total := text.length + word.length

/-- Whether the texts are similar. -/
def isClose (l : Likeness) : Bool := 3 * l.total ≤ 5 * l.shared

/-- Whether one text comes before another: the more similar one first, of equally similar ones the
later in the order of texts. -/
def before (a b : Likeness) : Bool :=
  let x := a.shared * b.total
  let y := b.shared * a.total
  y < x || (x == y && b.text ≤ a.text)

end Likeness

/-- How many similar texts are offered for a word. -/
def offered : Nat := 3

/-- The texts that are most similar to a word, in the order of texts. -/
def similarTexts (word : String) (texts : List String) : List String :=
  let close := (texts.map (Likeness.of word)).filter Likeness.isClose
  ((((close.mergeSort Likeness.before).take offered).map (·.text))).mergeSort (· ≤ ·)

end GraphBind.Text

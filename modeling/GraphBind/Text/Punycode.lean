import GraphBind.Text.Basic

/-!
# Punycode

Writes a text in ASCII: first its ASCII characters, then numbers that say where the others stand.
Every number is the distance to the next insertion, counted over all places and code points, and has
digits of a base that adapts itself to the numbers before.
-/

namespace GraphBind.Text.Punycode

/-- The digits are the small letters, and then the decimal digits. -/
def digit (d : Nat) : Char := if d < 26 then Char.ofNat (97 + d) else Char.ofNat (22 + d)

/-- The value of a digit; letters count in either case. -/
def digitValue? (c : Char) : Option Nat :=
  if 'a' ≤ c && c ≤ 'z' then some (c.toNat - 97)
  else if 'A' ≤ c && c ≤ 'Z' then some (c.toNat - 65)
  else if '0' ≤ c && c ≤ '9' then some (c.toNat - 22)
  else none

/-- The least value of a digit that another one follows, at a place of a number. -/
def threshold (bias place : Nat) : Nat := max 1 (min 26 (36 * (place + 1) - bias))

/-- Divides a distance down until it is small, and counts how often. -/
def scaleDown (delta bias : Nat) : Nat × Nat :=
  if 455 < delta then scaleDown (delta / 35) (bias + 36) else (delta, bias)
  termination_by delta

/-- The bias behind a distance; `count` is the number of characters then. -/
def adapt (delta : Nat) (first : Bool) (count : Nat) : Nat :=
  let halved := if first then delta / 700 else delta / 2
  let (delta, bias) := scaleDown (halved + halved / count) 0
  bias + 36 * delta / (delta + 38)

/-- The bias at the beginning. -/
def initialBias : Nat := 72

/-- The first code point that is not ASCII. -/
def firstOther : Nat := 128

/-! ## Writing -/

theorem one_le_threshold (bias place : Nat) : 1 ≤ threshold bias place := Nat.le_max_left ..

/-- The digits of a number from a place on. -/
def writeNumber (bias place n : Nat) : List Char :=
  let t := threshold bias place
  if n < t then [digit n]
  else digit (t + (n - t) % (36 - t)) :: writeNumber bias (place + 1) ((n - t) / (36 - t))
  termination_by n
  decreasing_by
    have := one_le_threshold bias place
    have := Nat.div_le_self (n - threshold bias place) (36 - threshold bias place)
    omega

/-- The state of writing. -/
structure Writing where
  delta : Nat
  bias : Nat
  /-- How many characters have been written. -/
  done : Nat
  first : Bool
  /-- The numbers so far. -/
  out : List Char

/-- Passes one character of the text while the insertions of a code point are written. -/
def Writing.pass (point : Nat) (w : Writing) (n : Nat) : Writing :=
  if n < point then { w with delta := w.delta + 1 }
  else if n == point then
    { delta := 0, bias := adapt w.delta w.first (w.done + 1), done := w.done + 1, first := false
      out := w.out ++ writeNumber w.bias 0 w.delta }
  else w

/-- Writes the insertions of code points, which ascend from one that has been passed. -/
def writePoints (ns : List Nat) (passed : Nat) (w : Writing) : List Nat → List Char
  | [] => w.out
  | point :: points =>
    let start := { w with delta := w.delta + (point - passed) * (w.done + 1) }
    let w := ns.foldl (Writing.pass point) start
    writePoints ns (point + 1) { w with delta := w.delta + 1 } points

/-- A text in ASCII. -/
def encode (t : Text) : List Char :=
  let ns := t.map (·.toNat)
  let plain := ns.filter (· < firstOther)
  let others := ((ns.filter (firstOther ≤ ·)).mergeSort (· ≤ ·)).eraseDups
  let start : Writing :=
    { delta := 0, bias := initialBias, done := plain.length, first := true, out := [] }
  let numbers := writePoints ns firstOther start others
  if plain.isEmpty then numbers else plain.map Char.ofNat ++ '-' :: numbers

/-! ## Reading -/

/-- Reads a number on, and gives it and the rest of the digits. -/
def readNumber? (bias place weight value : Nat) : List Char → Option (Nat × List Char)
  | [] => none
  | c :: cs =>
    match digitValue? c with
    | none => none
    | some d =>
      let t := threshold bias place
      if d < t then some (value + d * weight, cs)
      else readNumber? bias (place + 1) (weight * (36 - t)) (value + d * weight) cs

theorem readNumber?_length {bias place weight value n : Nat} {cs rest : List Char}
    (h : readNumber? bias place weight value cs = some (n, rest)) : rest.length < cs.length := by
  induction cs generalizing place weight value with
  | nil => contradiction
  | cons c cs ih =>
    unfold readNumber? at h
    split at h
    · contradiction
    · dsimp only at h
      split at h
      · cases h
        simp
      · have := ih h
        simp only [List.length_cons]
        omega

/-- Inserts the code points that numbers place into a text; `point` and `place` are the first that
may come next. -/
def insertPoints? (base : Text) (point place bias : Nat) (first : Bool) (cs : List Char) :
    Option Text :=
  if cs.isEmpty then some base
  else
    match h : readNumber? bias 0 1 0 cs with
    | none => none
    | some (delta, rest) =>
      have := readNumber?_length h
      let room := base.length + 1
      let point := point + (place + delta) / room
      let place := (place + delta) % room
      if 0x10FFFF < point then none
      else
        insertPoints? (base.take place ++ .ofNat point :: base.drop place) point (place + 1)
          (adapt delta first room) false rest
  termination_by cs.length

/-- What stands before the last hyphen, and what behind it. -/
def splitLastHyphen (cs : List Char) : List Char × List Char :=
  match cs.reverse.dropWhile (· != '-') with
  | [] => ([], cs)
  | _ :: before => (before.reverse, (cs.reverse.takeWhile (· != '-')).reverse)

/-- The text that ASCII characters write. -/
def decode? (cs : List Char) : Option Text :=
  let (plain, numbers) := splitLastHyphen cs
  insertPoints? (.ofChars plain) firstOther 0 initialBias true numbers

end GraphBind.Text.Punycode

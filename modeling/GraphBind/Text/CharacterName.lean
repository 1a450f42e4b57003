import GraphBind.Text.Basic
import GraphBind.Text.CharacterName.InitialA
import GraphBind.Text.CharacterName.InitialB
import GraphBind.Text.CharacterName.InitialC
import GraphBind.Text.CharacterName.InitialL
import GraphBind.Text.CharacterName.InitialS
import GraphBind.Text.CharacterName.InitialsDToF
import GraphBind.Text.CharacterName.InitialsGToK
import GraphBind.Text.CharacterName.InitialsMToN
import GraphBind.Text.CharacterName.InitialsOToR
import GraphBind.Text.CharacterName.InitialsTToZ

/-!
# Character names

The names by which an escape may call a character: those of Unicode 14, with its corrections and
abbreviations of names. The ideographs that are named by their number and the syllables of Hangul
follow a rule, and letter case counts in them; in all other names it does not.

The names are written by patterns, one for each initial. In a pattern a character stands for itself;
between parentheses stand alternatives, with bars between them, of which one may be empty. A whole
pattern is a row of alternatives too. It is read once from left to right: `Place` holds what may be
left of a text at the place that the reading has come to, one rest for every way to get there.
-/

/-! ## Patterns -/

namespace GraphBind.Text

namespace Pattern

/-- A group that is open: what was left of the text in front of it, and what is left of it behind
those of its alternatives that have ended. -/
structure Group where
  before : List (List Char)
  behind : List (List Char)

/-- A place in a pattern: what may be left of the text there, and the groups that are open, the
innermost first. -/
structure Place where
  rests : List (List Char)
  groups : List Group

/-- The place in front of a group's first alternative. -/
def Place.enter (p : Place) : Place := { p with groups := ⟨p.rests, []⟩ :: p.groups }

/-- The place behind a character of a pattern. -/
def Place.step (p : Place) (c : Char) : Place :=
  match c, p.groups with
  | '(', _ => p.enter
  | '|', g :: groups => ⟨g.before, { g with behind := g.behind ++ p.rests } :: groups⟩
  | ')', g :: groups => ⟨g.behind ++ p.rests, groups⟩
  | c, groups => ⟨(p.rests.filter (·.head? == some c)).map (·.drop 1), groups⟩

end Pattern

/-- Whether a text is one of those that a pattern writes. -/
def fits (pattern : String) (text : List Char) : Bool :=
  let inside := pattern.toList.foldl Pattern.Place.step (Pattern.Place.enter ⟨[text], []⟩)
  (inside.step ')').rests.contains []

/-! ## Names -/

namespace CharacterName

/-- The names with an initial, the ideographs and syllables apart that follow a rule. -/
def withInitial : Char → String
  | 'A' => initialA
  | 'B' => initialB
  | 'C' => initialC
  | 'D' => initialD
  | 'E' => initialE
  | 'F' => initialF
  | 'G' => initialG
  | 'H' => initialH
  | 'I' => initialI
  | 'J' => initialJ
  | 'K' => initialK
  | 'L' => initialL
  | 'M' => initialM
  | 'N' => initialN
  | 'O' => initialO
  | 'P' => initialP
  | 'Q' => initialQ
  | 'R' => initialR
  | 'S' => initialS
  | 'T' => initialT
  | 'U' => initialU
  | 'V' => initialV
  | 'W' => initialW
  | 'X' => initialX
  | 'Y' => initialY
  | 'Z' => initialZ
  | _ => ""

/-- What the names of the syllables of Hangul begin with. -/
def syllableStart : List Char := "HANGUL SYLLABLE ".toList

/-- What follows in the names of the syllables: a consonant or none, a vowel, and a consonant, a
cluster or none. -/
def syllables : String :=
  String.join [
    "(|G|GG|N|D|DD|R|M|B|BB|S|SS|J|JJ|C|K|T|P|H)",
    "(A|AE|YA|YAE|EO|E|YEO|YE|O|WA|WAE|OE|YO|U|WEO|WE|WI|YU|EU|YI|I)",
    "(|G|GG|GS|N|NJ|NH|D|L|LG|LM|LB|LS|LT|LP|LH|M|B|BS|S|SS|NG|J|C|K|T|P|H)"]

/-- What the names of the unified ideographs begin with. -/
def ideographStart : List Char := "CJK UNIFIED IDEOGRAPH-".toList

/-- The unified ideographs. -/
def ideographs : List (Nat × Nat) :=
  [(0x3400, 0x4DBF), (0x4E00, 0x9FFF), (0x20000, 0x2A6DF), (0x2A700, 0x2B738), (0x2B740, 0x2B81D),
   (0x2B820, 0x2CEA1), (0x2CEB0, 0x2EBE0), (0x30000, 0x3134A)]

/-- Whether a text is the number of a unified ideograph: four or five digits. -/
def isIdeographNumber (cs : List Char) : Bool :=
  (cs.length == 4 || cs.length == 5) && !cs.any Char.isLower &&
    ((readHex? cs.length 0 cs).map (inRanges ideographs)).getD false

end CharacterName

open CharacterName in
/-- Whether a character has the name. -/
def isCharacterName (cs : List Char) : Bool :=
  if syllableStart.isPrefixOf cs then fits syllables (cs.drop syllableStart.length)
  else if ideographStart.isPrefixOf cs then isIdeographNumber (cs.drop ideographStart.length)
  else
    let name := cs.map Char.toUpper
    (name.head?.map fun c => fits (withInitial c) name).getD false

end GraphBind.Text

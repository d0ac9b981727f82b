import Bearer.DomainName.LabelData
import Bearer.DomainName.Punycode
import Bearer.Text.Composed
import Bearer.Text.Quoted

/-!
# Labels of domain names

A label with characters beyond ASCII must be composed, must not start with a mark and may hold only
letters, digits and a few others, some of them only next to certain neighbours. A label that is
read from right to left keeps the directions of its characters apart. In ASCII it is written with
`xn--` and Punycode.
-/

namespace Bearer.DomainName

open Text (quoted inRuns runValue?)

inductive Error where
  | emptyDomain
  | longDomain
  | missingLabel
  | emptyLabel
  | longLabel
  | noPunycode
  | trailingHyphen
  | badPunycode
  | notComposed
  | innerHyphens
  | outerHyphen
  | leadingMark
  | character (c : Char) (position : Nat) (label : String)
  | joiner (c : Char) (position : Nat) (label : String)
  | neighbours (c : Char) (position : Nat) (label : String)
  | firstDirection (label : String)
  | rightToLeft (position : Nat)
  | leftToRight (position : Nat)
  | mixedNumbers
  | lastDirection
  deriving DecidableEq, Repr

/-- The number of a character, in at least four hexadecimal digits. -/
def codePoint (c : Char) : String :=
  let ds := Nat.toDigits 16 c.toNat
  "U+" ++ "".pushn '0' (4 - ds.length) ++ String.ofList (ds.map Char.toUpper)

def Error.message : Error → String
  | emptyDomain => "Empty domain"
  | longDomain => "Domain too long"
  | missingLabel => "Empty label"
  | emptyLabel => "Empty Label"
  | longLabel => "Label too long"
  | noPunycode => "Malformed A-label, no Punycode eligible content found"
  | trailingHyphen => "A-label must not end with a hyphen"
  | badPunycode => "Invalid A-label"
  | notComposed => "Label must be in Normalization Form C"
  | innerHyphens => "Label has disallowed hyphens in 3rd and 4th position"
  | outerHyphen => "Label must not start or end with a hyphen"
  | leadingMark => "Label begins with an illegal combining character"
  | character c position label =>
    "Codepoint " ++ codePoint c ++ " at position " ++ toString position ++ " of " ++ quoted label
      ++ " not allowed"
  | joiner c position label =>
    "Unknown codepoint adjacent to joiner " ++ codePoint c ++ " at position " ++ toString position
      ++ " in " ++ quoted label
  | neighbours c position label =>
    "Codepoint " ++ codePoint c ++ " not allowed at position " ++ toString position ++ " in "
      ++ quoted label
  | firstDirection label =>
    "First codepoint in label " ++ quoted label ++ " must be directionality L, R or AL"
  | rightToLeft position =>
    "Invalid direction for codepoint at position " ++ toString position
      ++ " in a right-to-left label"
  | leftToRight position =>
    "Invalid direction for codepoint at position " ++ toString position
      ++ " in a left-to-right label"
  | mixedNumbers => "Can not mix numeral types in a right-to-left label"
  | lastDirection => "Label ends with illegal codepoint directionality"

/-! ### Characters and their neighbours -/

inductive Joining where
  | right | left | both | transparent | causing
  deriving DecidableEq

def joining? (c : Char) : Option Joining :=
  match runValue? joiningRuns c.toNat with
  | some 1 => some .right
  | some 2 => some .left
  | some 3 => some .both
  | some 4 => some .transparent
  | some 5 => some .causing
  | _ => none

inductive Script where
  | greek | hebrew | hiragana | katakana | han
  deriving DecidableEq

def script? (c : Char) : Option Script :=
  match runValue? scriptRuns c.toNat with
  | some 1 => some .greek
  | some 2 => some .hebrew
  | some 3 => some .hiragana
  | some 4 => some .katakana
  | some 5 => some .han
  | _ => none

/-- The combining class of the signs that take the vowel from a letter. -/
def virama : Int := 9

/-- The joining type of the nearest character that has one to the given side. -/
def nearestJoining? (cs : List Char) : Option Joining :=
  ((cs.dropWhile fun c => joining? c = some .transparent).head?).bind joining?

/-- May a character that joins or parts its neighbours stand here? `before` is in reverse. -/
def joinerAllowed (before : List Char) (c : Char) (after : List Char) : Bool :=
  let afterVirama := match before with
    | p :: _ => Text.combiningClass p = virama
    | [] => false
  if c.toNat = 0x200c then
    let joins (side : Joining) (cs : List Char) : Bool :=
      nearestJoining? cs = some side || nearestJoining? cs = some .both
    afterVirama || joins .left before && joins .right after
  else afterVirama

def isArabicDigit (c : Char) : Bool := 0x660 ≤ c.toNat && c.toNat ≤ 0x669
def isEasternDigit (c : Char) : Bool := 0x6f0 ≤ c.toNat && c.toNat ≤ 0x6f9

/-- Is it a character that some neighbours ask for? -/
def dependsOnNeighbours (c : Char) : Bool :=
  [0xb7, 0x375, 0x5f3, 0x5f4, 0x30fb].contains c.toNat || isArabicDigit c || isEasternDigit c

/-- Do the neighbours of a character, or the rest of its label, allow it? -/
def neighboursAllow (label before : List Char) (c : Char) (after : List Char) : Bool :=
  match c.toNat with
  | 0xb7 => before.head? = some 'l' && after.head? = some 'l'
  | 0x375 => after.head?.bind script? = some .greek
  | 0x5f3 | 0x5f4 => before.head?.bind script? = some .hebrew
  | 0x30fb => label.any fun d =>
      d.toNat != 0x30fb && [some Script.hiragana, some .katakana, some .han].contains (script? d)
  | _ => if isArabicDigit c then !label.any isEasternDigit else !label.any isArabicDigit

/-- Checks one character after another; `before` is in reverse. -/
def checkCharacters (label before : List Char) : List Char → Except Error Unit
  | [] => .ok ()
  | c :: after =>
    let position := before.length + 1
    let name := String.ofList label
    if inRuns validRuns c then checkCharacters label (c :: before) after
    else if c.toNat = 0x200c ∨ c.toNat = 0x200d then
      if joinerAllowed before c after then checkCharacters label (c :: before) after
      else .error (.joiner c position name)
    else if dependsOnNeighbours c then
      if neighboursAllow label before c after then checkCharacters label (c :: before) after
      else .error (.neighbours c position name)
    else .error (.character c position name)

/-! ### Directions -/

inductive Direction where
  | leftToRight | rightToLeft | arabicLetter | arabicNumber | europeanNumber | europeanSeparator
  | commonSeparator | terminator | neutral | boundary | mark | other
  deriving DecidableEq

def direction (c : Char) : Direction :=
  match runValue? directionRuns c.toNat with
  | none => .leftToRight
  | some 1 => .rightToLeft
  | some 2 => .arabicLetter
  | some 3 => .arabicNumber
  | some 4 => .europeanNumber
  | some 5 => .europeanSeparator
  | some 6 => .commonSeparator
  | some 7 => .terminator
  | some 8 => .neutral
  | some 9 => .boundary
  | some 10 => .mark
  | some _ => .other

namespace Direction

/-- Does it make a label one that directions are checked in? -/
def isRight (d : Direction) : Bool := [rightToLeft, arabicLetter, arabicNumber].contains d

def isNumber (d : Direction) : Bool := d = arabicNumber || d = europeanNumber

/-- May it stand in a label of the given direction? -/
def allowedIn (right : Bool) (d : Direction) : Bool :=
  if right then d != leftToRight && d != other else !d.isRight && d != other

/-- May a label of the given direction end with it, marks aside? -/
def endsWell (right : Bool) (d : Direction) : Bool :=
  if right then d.isRight || d = europeanNumber else d = leftToRight || d = europeanNumber

end Direction

/-- What is known of the characters so far: whether the last one but for marks is a good end, and
the kind of numbers that occurred. -/
structure Reading where
  endsWell : Bool := false
  number : Option Direction := none

/-- Checks one direction after another. -/
def checkDirections (right : Bool) (s : Reading) : (position : Nat) → List Direction →
    Except Error Reading
  | _, [] => .ok s
  | position, d :: ds =>
    if !d.allowedIn right then
      .error (if right then .rightToLeft position else .leftToRight position)
    else
      let endsWell := if d = .mark then s.endsWell else d.endsWell right
      if right && d.isNumber then
        match s.number with
        | none => checkDirections right { endsWell, number := some d } (position + 1) ds
        | some n =>
          if n = d then checkDirections right { endsWell, number := some n } (position + 1) ds
          else .error .mixedNumbers
      else checkDirections right { s with endsWell } (position + 1) ds

/-- A label with characters from right to left must not mix directions. -/
def checkDirection (label : List Char) : Except Error Unit :=
  let ds := label.map direction
  if !ds.any Direction.isRight then .ok ()
  else
    let first := ds.headD .other
    if first != .leftToRight && first != .rightToLeft && first != .arabicLetter then
      .error (.firstDirection (String.ofList label))
    else match checkDirections (first != .leftToRight) {} 1 ds with
      | .error e => .error e
      | .ok s => if s.endsWell then .ok () else .error .lastDirection

/-! ### Labels -/

def maxLabel : Nat := 63

def maxName : Nat := 254

def check (label : List Char) : Except Error Unit :=
  if label.isEmpty then .error .emptyLabel
  else if maxName < label.length then .error .longLabel
  else if !Text.isComposed label then .error .notComposed
  else if (label.drop 2).take 2 = ['-', '-'] then .error .innerHyphens
  else if label.head? = some '-' ∨ label.getLast? = some '-' then .error .outerHyphen
  else if (label.take 1).any (inRuns markRuns) then .error .leadingMark
  else match checkCharacters label [] label with
    | .error e => .error e
    | .ok () => checkDirection label

/-- What a label in ASCII starts with if it stands for another. -/
def mark : List Char := ['x', 'n', '-', '-']

def toUnicode (label : List Char) : Except Error (List Char) :=
  let label := label.map Char.toLower
  if !mark.isPrefixOf label then (check label).map fun _ => label
  else
    let body := label.drop mark.length
    if body.isEmpty then .error .noPunycode
    else if body.getLast? = some '-' then .error .trailingHyphen
    else match Punycode.decode body with
      | none => .error .badPunycode
      | some label => (check label).map fun _ => label

def toAscii (label : List Char) : Except Error (List Char) :=
  let bounded (label : List Char) : Except Error (List Char) :=
    if maxLabel < label.length then .error .longLabel else .ok label
  if label.all Punycode.isBasic then
    match toUnicode label with
    | .error e => .error e
    | .ok _ => bounded label
  else match check label with
    | .error e => .error e
    | .ok () => bounded (mark ++ Punycode.encode label)

end Bearer.DomainName

import Bearer.Text.CaseData

/-!
# Letter case

Full case mapping without a locale: one letter may become several, and a capital sigma becomes the
final form when it ends a word.
-/

namespace Bearer.Text

def ofCodePoints (ns : List Nat) : List Char := ns.map Char.ofNat

/-- The letter moved by what a table says, or the letter itself. -/
def shiftBy (table : List Run) (c : Char) : Char :=
  match runValue? table c.toNat with
  | some d => Char.ofNat (c.toNat + d).toNat
  | none => c

def upperChar (c : Char) : List Char :=
  if c.toNat < 0x80 then [c.toUpper]
  else match upperSequences.lookup c.toNat with
    | some ns => ofCodePoints ns
    | none => [shiftBy upperRuns c]

def upper (s : String) : String := String.ofList (s.toList.flatMap upperChar)

/-- Is the nearest character that is not passed over a letter? -/
def nextIsCased (cs : List Char) : Bool :=
  match cs.dropWhile (inRuns caseIgnorableRuns) with
  | [] => false
  | c :: _ => inRuns casedRuns c

/-- Lower case of one character, given what stands before it, nearest first, and after it. -/
def lowerChar (before : List Char) (c : Char) (after : List Char) : List Char :=
  if c.toNat < 0x80 then [c.toLower]
  else if c.toNat = 0x3a3 then
    if nextIsCased before && !nextIsCased after then [Char.ofNat 0x3c2] else [Char.ofNat 0x3c3]
  else if c.toNat = 0x130 then ['i', Char.ofNat 0x307]
  else [shiftBy lowerRuns c]

/-- Lower case of a text, `before` being the text in front of it in reverse. -/
def lowerFrom (before : List Char) (done : List Char) : List Char → List Char
  | [] => done.reverse
  | c :: after => lowerFrom (c :: before) ((lowerChar before c after).reverse ++ done) after

def lowerChars (cs : List Char) : List Char := lowerFrom [] [] cs

def lower (s : String) : String := String.ofList (lowerChars s.toList)

end Bearer.Text

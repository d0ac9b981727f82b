import Bearer.Text.Blank
import Bearer.Text.Case

/-!
# Texts of code points

A text from elsewhere is a list of code points. Some of them are halves of surrogate pairs, which stand for
no character and have no encoding; a text that holds one is broken.
-/

namespace Bearer

inductive CodePoint where
  | char (c : Char)
  /-- Half of a surrogate pair, counted from `U+D800`. -/
  | half (n : Fin 0x800)
  deriving DecidableEq, Repr

namespace CodePoint

def char? : CodePoint → Option Char
  | char c => some c
  | half _ => none

def isBlank : CodePoint → Bool
  | char c => Text.isBlank c
  | half _ => false

def toNat : CodePoint → Nat
  | char c => c.toNat
  | half n => 0xd800 + n

/-- The half with a number from `U+D800` up to `U+DFFF`. -/
def ofSurrogate (n : Nat) : CodePoint := half ⟨(n - 0xd800) % 0x800, Nat.mod_lt _ (by decide)⟩

/-- A half is no letter. -/
def upper : CodePoint → List CodePoint
  | char c => (Text.upperChar c).map char
  | half n => [half n]

/-- The characters of a text without halves. -/
def chars? : List CodePoint → Option (List Char)
  | [] => some []
  | p :: ps => do
    let c ← p.char?
    let cs ← chars? ps
    return c :: cs

end CodePoint

structure BrokenText where
  points : List CodePoint
  broken : CodePoint.chars? points = none
  deriving DecidableEq, Repr

inductive RawText where
  | whole (s : String)
  | broken (t : BrokenText)
  deriving DecidableEq, Repr, Inhabited

instance : Coe String RawText := ⟨.whole⟩

namespace RawText

def ofPoints (ps : List CodePoint) : RawText :=
  match h : CodePoint.chars? ps with
  | some cs => whole (String.ofList cs)
  | none => broken ⟨ps, h⟩

def points : RawText → List CodePoint
  | whole s => s.toList.map .char
  | broken t => t.points

def string? : RawText → Option String
  | whole s => some s
  | broken _ => none

def isEmpty (t : RawText) : Bool := t.points.isEmpty

def strip (t : RawText) : RawText := ofPoints (Text.trimBy CodePoint.isBlank t.points)

/-- The runs of what is no white space, in order. -/
def words (t : RawText) : List RawText := (Text.wordsBy CodePoint.isBlank t.points).map ofPoints

def upper (t : RawText) : RawText := ofPoints (t.points.flatMap CodePoint.upper)

/-- The text with `U+FFFD` for each half. -/
def repaired (t : RawText) : String :=
  String.ofList (t.points.map fun p => p.char?.getD '\ufffd')

end RawText

end Bearer

import Bearer.Text.CodePoint
import Bearer.Text.Hex
import Bearer.Text.PrintableData

/-!
# Quoted text

A text between quotes, double ones if it holds a single quote and no double one. The quote, the
backslash and whatever is not shown as itself are escaped.
-/

namespace Bearer.Text

def isShown (c : Char) : Bool :=
  if c.toNat < 0x7f then 0x20 ≤ c.toNat else !inRuns hiddenRuns c

/-- A code point that is not shown, by the shortest of three escapes. -/
def hiddenEscape (n : Nat) : String :=
  if n < 0x100 then "\\x" ++ hex 2 n
  else if n < 0x10000 then "\\u" ++ hex 4 n
  else "\\U" ++ hex 8 n

def quotedChar (quote c : Char) : String :=
  if c = quote ∨ c = '\\' then String.ofList ['\\', c]
  else if c = '\n' then "\\n"
  else if c = '\r' then "\\r"
  else if c = '\t' then "\\t"
  else if isShown c then c.toString
  else hiddenEscape c.toNat

def quotedPoint (quote : Char) : CodePoint → String
  | .char c => quotedChar quote c
  | .half n => hiddenEscape (CodePoint.half n).toNat

def quoteFor (ps : List CodePoint) : Char :=
  if ps.contains (.char '\'') && !ps.contains (.char '"') then '"' else '\''

def quotedPoints (ps : List CodePoint) : String :=
  let quote := quoteFor ps
  ps.foldl (fun out p => out ++ quotedPoint quote p) quote.toString ++ quote.toString

def quoted (s : String) : String := quotedPoints (RawText.whole s).points

end Bearer.Text

namespace Bearer.RawText

def quoted (t : RawText) : String := Text.quotedPoints t.points

end Bearer.RawText

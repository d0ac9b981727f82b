import Bearer.Text.CodePoint
import Bearer.Text.Hex
import Bearer.Token

/-!
# Tokens as they are given

Anything can be given as a token. It is used without the white space around it, and a text of which a half of
a pair is left has no encoding: it ends where its fingerprint would be made, before anything is asked.
-/

namespace Bearer

inductive GivenToken where
  | text (t : RawText)
  /-- What is no text. -/
  | other
  deriving DecidableEq, Repr

instance : Coe RawText GivenToken := ⟨.text⟩

instance : Coe String GivenToken := ⟨fun s => .text s⟩

namespace GivenToken

/-- A given token without the white space around it, of which something must be left. -/
def normalize : GivenToken → Except Failure RawText
  | other => .error Token.refusal
  | text t => if t.strip.isEmpty then .error Token.refusal else .ok t.strip

/-- It names the first half, or the first ones that stand together. -/
def unencodable (ps : List CodePoint) : Failure :=
  let isHalf (p : CodePoint) : Bool := p.char?.isNone
  let start := (ps.takeWhile (!isHalf ·)).length
  let place := match (ps.drop start).takeWhile isHalf with
    | [p] => "character '\\u" ++ Text.hex 4 p.toNat ++ "' in position " ++ toString start
    | run => "characters in position " ++ toString start ++ "-" ++ toString (start + run.length - 1)
  .raised (.foreign "UnicodeEncodeError") ("'utf-8' codec can't encode " ++ place ++ ": surrogates not allowed")

def encode : RawText → Except Failure String
  | .whole s => .ok s
  | .broken t => .error (unencodable t.points)

/-- The token that is sent. -/
def accept (given : GivenToken) : Except Failure String := do
  encode (← given.normalize)

end GivenToken

end Bearer

/-!
# White space

`isBlank` is the white space that tokens, scopes and endpoints are trimmed and split at: every
character of bidirectional class white space, block or segment separator, and every space
separator. `isWhiteSpace` is the Unicode property of that name, which leaves out the four
information separators `U+001C` to `U+001F`; it surrounds numbers in settings.
-/

namespace Bearer.Text

/-- The Unicode property `White_Space`. -/
def isWhiteSpace (c : Char) : Bool :=
  let n := c.toNat
  (9 ≤ n && n ≤ 13) || n == 0x20 || n == 0x85 || n == 0xa0 || n == 0x1680 ||
    (0x2000 ≤ n && n ≤ 0x200a) || n == 0x2028 || n == 0x2029 || n == 0x202f || n == 0x205f ||
    n == 0x3000

/-- White space in running text. -/
def isBlank (c : Char) : Bool := isWhiteSpace c || (0x1c ≤ c.toNat && c.toNat ≤ 0x1f)

/-- The text without the characters of a class at either end. -/
def trimBy (p : α → Bool) (cs : List α) : List α :=
  ((cs.dropWhile p).reverse.dropWhile p).reverse

def strip (s : String) : String := String.ofList (trimBy isBlank s.toList)

/-- A word in front of others, unless it is empty. -/
def consWord (w : List α) (ws : List (List α)) : List (List α) :=
  if w.isEmpty then ws else w :: ws

/-- The maximal runs of characters outside a class, in order. -/
def wordsBy (p : α → Bool) (cs : List α) : List (List α) :=
  let (w, ws) := cs.foldr (fun c (w, ws) => if p c then ([], consWord w ws) else (c :: w, ws)) ([], [])
  consWord w ws

end Bearer.Text

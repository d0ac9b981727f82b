/-!
# Pieces of a text

`pieces` cuts a text at every character of a class, `join` puts pieces together again. There is
always one piece more than there are cuts.
-/

namespace Bearer.Text

/-- The parts of a text between the characters of a class. -/
def pieces (p : Char → Bool) (cs : List Char) : List (List Char) :=
  let (first, rest) := cs.foldr (fun c (piece, rest) =>
    if p c then ([], piece :: rest) else (c :: piece, rest)) ([], [])
  first :: rest

/-- The pieces with a character between them. -/
def join (c : Char) (ps : List (List Char)) : List Char := [c].intercalate ps

end Bearer.Text

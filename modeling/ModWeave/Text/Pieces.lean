/-!
# Pieces of a text

`pieces` cuts a text at every place of a mark and `piecesAtPair` at every place of a pair of characters, from left
to right.  `joined` puts pieces together with a separator between them.
-/

namespace ModWeave.Text

/-- Pieces with a character in front of the first one. -/
def pushFirst (c : Char) : List (List Char) → List (List Char)
  | [] => [[c]]
  | p :: ps => (c :: p) :: ps

/-- The pieces of a text between the places of a mark. -/
def pieces (mark : Char) (s : List Char) : List (List Char) :=
  s.foldr (fun c ps => if c = mark then [] :: ps else pushFirst c ps) [[]]

/-- The pieces of a text between the places of a pair of characters. -/
def piecesAtPair (a b : Char) : List Char → List (List Char)
  | [] => [[]]
  | [c] => [[c]]
  | c :: d :: s =>
    if c = a ∧ d = b then [] :: piecesAtPair a b s else pushFirst c (piecesAtPair a b (d :: s))

/-- Pieces in one text with a separator between them. -/
def joined (separator : List Char) : List (List Char) → List Char
  | [] => []
  | [p] => p
  | p :: q :: ps => p ++ separator ++ joined separator (q :: ps)

end ModWeave.Text

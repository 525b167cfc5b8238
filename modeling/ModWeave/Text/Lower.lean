import ModWeave.Text.Lower.Table

/-!
# Lower case

`lower` writes a text in small letters: character by character, except that the dotted capital I gives an i with
a combining dot, and that a capital sigma gives the final form at the end of a word.  A sigma ends a word if the
nearest character before it that is not case-ignorable is cased and the nearest one after it is not.
-/

namespace ModWeave.Text

/-- The small letter of a character, taken by itself. -/
def lowerChar (c : Char) : Char :=
  if c.toNat < 0x80 then c.toLower
  else
    match lowerRuns.find? fun r => r.first ≤ c.toNat && c.toNat ≤ r.last && (c.toNat - r.first) % r.step = 0 with
    | some r => Char.ofNat (c.toNat + r.shift).toNat
    | none => c

/-- Whether the first character that is not case-ignorable is cased. -/
def meetsCased (s : List Char) : Bool :=
  match s.find? fun c => !caseIgnorableRanges.has c with
  | some c => casedRanges.has c
  | none => false

/-- The lower case of a text; `before` holds the characters in front of it, nearest first. -/
def lowerFrom (before : List Char) : List Char → List Char
  | [] => []
  | c :: rest =>
    let small :=
      if c = 'Σ' then [if meetsCased before && !meetsCased rest then 'ς' else 'σ']
      else if c = 'İ' then ['i', '\u0307']
      else [lowerChar c]
    small ++ lowerFrom (c :: before) rest

/-- A text in lower case. -/
def lower (s : List Char) : List Char := lowerFrom [] s

end ModWeave.Text

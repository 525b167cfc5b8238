import ModWeave.Decimal.Literal
import ModWeave.Line.Command
import ModWeave.Line.Readable
import ModWeave.Line.Shape

/-!
# Ids on a line

`idToken?` finds the id that a line declares or refers to, and where its literal stands; `effect?` finds the
effect number of a spell.  Reading a literal with too many digits fails, and nothing else does.  `replaceId`
exchanges the literal of a token on the line as it is written, around all unreadable characters.
-/

namespace ModWeave.Line

open Text

/-- An id on a line. -/
structure IdToken where
  command : Command
  /-- The number of the id; for a negated command the negative of the literal. -/
  number : Int
  /-- The number of characters in front of the literal. -/
  start : Nat
  /-- The number of characters up to the end of the literal. -/
  stop : Nat
deriving DecidableEq, Repr

namespace IdToken

/-- The id that the token names. -/
def id (t : IdToken) : EntityId := ⟨t.command.kind, t.number⟩

/-- The literal that stands for another number in the place of this token. -/
def literal (t : IdToken) (number : Int) : Line :=
  Decimal.write (if t.command.negated then number.natAbs else number)

end IdToken

/-- The command in front of a number, if it carries an id in this place. -/
def command? (inBlock : Bool) (word : Line) : Option Command :=
  (Command.find? (word.map Char.toLower)).filter fun c => inBlock || !c.blockOnly

/-- The id that a line names, where `inBlock` tells whether the line stands in a spell block. -/
def idToken? (inBlock : Bool) (l : Line) : Except Decimal.TooLong (Option IdToken) :=
  match IdCommand.read? l with
  | none => .ok none
  | some parts =>
    match command? inBlock parts.word with
    | none => .ok none
    | some command =>
      (Decimal.read parts.argument.literal).map fun n =>
        some ⟨command, if command.negated then -n else n, parts.start, parts.stop⟩

/-- The effect number that a line gives to a spell. -/
def effect? (l : Line) : Except Decimal.TooLong (Option Int) :=
  match (afterKeyword? "effect" l).bind Argument.read? with
  | none => .ok none
  | some a => (Decimal.read a.literal).map some

/-- The line with the literal of a token exchanged; the token was read on the cleaned line. -/
def replaceId (l : Line) (t : IdToken) (number : Int) : Line :=
  beforeReadable t.start l ++ t.literal number ++ afterReadable t.stop l

/-- The effects whose damage names a monster; a ritual has the number of its effect plus a multiple of 10000. -/
def summoningEffects : List Int := [1, 21, 26, 31, 37, 38, 43, 50, 54, 62, 89, 93, 119, 126, 130, 137]

/-- Whether the damage of a spell with this effect names a monster. -/
def isSummoning (effect : Int) : Bool := effect % 10000 ∈ summoningEffects

end ModWeave.Line

import ModWeave.Line.Kind

/-!
# Spell blocks

Between a line that opens a spell block and its `#end`, some commands have a meaning of their own.  The state
between two lines is the open block, if there is one, with the line that opened it and the effect that was named
last.  `subCommand?` finds the id that a line inside a block refers to: the damage of a spell names a monster
only for effects that summon, and as long as no effect is known it is taken to do so.
-/

namespace ModWeave

open Text Line

/-- A spell block that has not been closed. -/
structure OpenBlock where
  /-- The line that opened it. -/
  start : Nat
  /-- The effect that its last effect line names. -/
  effect : Option Int
deriving DecidableEq, Repr

/-- The block that a line stands in, if any. -/
abbrev BlockState := Option OpenBlock

namespace BlockState

/-- The state after a line that opens a block. -/
def opened (line : Nat) : BlockState := some ⟨line, none⟩

/-- The state after a line that neither opens nor closes a block: an effect line replaces the effect. -/
def observe (st : BlockState) (l : Line) : Except Decimal.TooLong BlockState :=
  match st with
  | none => .ok none
  | some b => (effect? l).map fun e => some { b with effect := e <|> b.effect }

/-- The commands that carry an id inside a block. -/
def subCommandWords : List (List Char) := ["damage", "nextspell", "copyspell", "restricted"].map String.toList

/-- Whether a token found in a block counts as a reference there. -/
def counts (b : OpenBlock) (t : IdToken) : Bool :=
  t.command.word ∈ subCommandWords &&
    (t.command.word ≠ "damage".toList || (t.number ≠ 0 && b.effect.all isSummoning))

/-- The id that a line refers to inside a block. -/
def subCommand? (st : BlockState) (l : Line) : Except Decimal.TooLong (Option IdToken) :=
  match st with
  | none => .ok none
  | some b => (idToken? true l).map fun t => t.filter (counts b)

end BlockState

end ModWeave

import ModWeave.Entity

/-!
# Warnings

A warning says what in a mod deserves attention although the merge goes on.  Its cause is kept as a value;
`Cause.kind` and `Cause.message` give the words.
-/

namespace ModWeave

/-- The kinds of warnings. -/
inductive WarningKind
  | general
  | sharedVanillaEntity
  | unterminatedBlock
  | unterminatedDescription
  | unresolvedReference
deriving DecidableEq, Repr

namespace WarningKind

/-- Every kind. -/
def all : List WarningKind :=
  [general, sharedVanillaEntity, unterminatedBlock, unterminatedDescription, unresolvedReference]

/-- The name of a kind in reports. -/
def name : WarningKind → String
  | general => "general"
  | sharedVanillaEntity => "shared_vanilla_entity"
  | unterminatedBlock => "unterminated_block"
  | unterminatedDescription => "unterminated_description"
  | unresolvedReference => "unresolved_reference"

/-- The kind of a given name. -/
def ofName? (s : String) : Option WarningKind := all.find? fun k => k.name = s

end WarningKind

namespace Warning

/-- What a warning is about. -/
inductive Cause
  /-- The mod could not be read and was left out. -/
  | skipped (reason : String)
  /-- The mod changes an entity of the base game that the owner changes too. -/
  | sharedEntity (id : EntityId) (owner : String)
  /-- A block is opened while the one opened at the given line has not been closed. -/
  | blockCutShort (opened : Option Nat) (line : Nat)
  /-- The mod ends inside a block. -/
  | blockLeftOpen (opened : Nat)
  /-- The mod ends inside a description. -/
  | descriptionLeftOpen (opened : Nat)
  /-- The mod refers to an id that no mod declares. -/
  | danglingReference (id : EntityId)
  /-- A remark that comes with its own words. -/
  | remark (kind : WarningKind) (message : String)
deriving DecidableEq, Repr

/-- The number of a line, if there is one. -/
private def lineNumber : Option Nat → String
  | some n => toString n
  | none => "None"

namespace Cause

/-- The kind of a cause. -/
def kind : Cause → WarningKind
  | skipped _ => .general
  | sharedEntity _ _ => .sharedVanillaEntity
  | blockCutShort _ _ => .unterminatedBlock
  | blockLeftOpen _ => .unterminatedBlock
  | descriptionLeftOpen _ => .unterminatedDescription
  | danglingReference _ => .unresolvedReference
  | remark kind _ => kind

/-- The words for a cause. -/
def message : Cause → String
  | skipped reason => s!"Skipped: mod could not be scanned ({reason})"
  | sharedEntity id owner =>
    s!"{id.label} {id.number} belongs to the base game and is also modified by {owner}; both changes are kept"
  | blockCutShort opened line =>
    s!"Spell block opened at line {lineNumber opened} has no #end before line {line}"
  | blockLeftOpen opened => s!"Spell block opened at line {opened} has no #end"
  | descriptionLeftOpen opened =>
    s!"#description opened at line {opened} is never closed; the rest of the file was skipped"
  | danglingReference id => s!"references {id.label} {id.number}, which no merged mod declares"
  | remark _ message => message

end Cause

end Warning

/-- A warning about a mod, or about the merge as a whole. -/
structure Warning where
  mod : Option String
  cause : Warning.Cause
deriving DecidableEq, Repr

namespace Warning

/-- The name of the mod, empty if there is none. -/
def modName (w : Warning) : String := w.mod.getD ""

/-- The warning in one line: its kind in brackets, the mod if it has a name, and the words. -/
def text (w : Warning) : String :=
  if w.modName = "" then s!"[{w.cause.kind.name}] {w.cause.message}"
  else s!"[{w.cause.kind.name}] {w.modName}: {w.cause.message}"

end Warning

end ModWeave

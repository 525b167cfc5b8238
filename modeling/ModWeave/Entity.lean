/-!
# Entities and their ids

Mods declare and use entities of eleven kinds, each known by a number.  A negative number of a monster stands
for a montag, a group of monsters; `EntityId.label` gives what an id stands for, and `EntityId.shown` the
number that is printed beside that label.
-/

namespace ModWeave

/-- The kinds of entities that have ids. -/
inductive EntityKind
  | monster
  | spell
  | weapon
  | armor
  | item
  | site
  | nation
  | nameType
  | eventCode
  | restrictedItem
  | poptype
deriving DecidableEq, Repr

namespace EntityKind

/-- Every kind. -/
def all : List EntityKind :=
  [monster, spell, weapon, armor, item, site, nation, nameType, eventCode, restrictedItem, poptype]

/-- The name of a kind in settings and reports. -/
def name : EntityKind → String
  | monster => "monster"
  | spell => "spell"
  | weapon => "weapon"
  | armor => "armor"
  | item => "item"
  | site => "site"
  | nation => "nation"
  | nameType => "nametype"
  | eventCode => "eventcode"
  | restrictedItem => "restricteditem"
  | poptype => "poptype"

/-- The kind of a given name. -/
def ofName? (s : String) : Option EntityKind := all.find? fun k => k.name = s

/-- The word for an entity of a kind. -/
def label : EntityKind → String
  | monster => "Monster"
  | spell => "Spell"
  | weapon => "Weapon"
  | armor => "Armor"
  | item => "Item"
  | site => "Site"
  | nation => "Nation"
  | nameType => "Nametype"
  | eventCode => "Eventcode"
  | restrictedItem => "Restricteditem"
  | poptype => "Poptype"

theorem mem_all (k : EntityKind) : k ∈ all := by cases k <;> decide

theorem ofName?_name (k : EntityKind) : ofName? k.name = some k := by cases k <;> decide

end EntityKind

/-- An id: a kind and a number. -/
structure EntityId where
  kind : EntityKind
  number : Int
deriving DecidableEq, Repr

namespace EntityId

/-- The word for what an id stands for. -/
def label (id : EntityId) : String :=
  if id.kind = .monster ∧ id.number < 0 then "Montag" else id.kind.label

/-- The number printed beside the label: a label of its own takes the place of the sign. -/
def shown (id : EntityId) : Int := if id.label ≠ id.kind.label then id.number.natAbs else id.number

/-- The id of the same kind with another number. -/
def renumber (id : EntityId) (number : Int) : EntityId := ⟨id.kind, number⟩

end EntityId

/-- Whether a command brings an entity into being or changes it, or only points to it. -/
inductive Role
  | declaration
  | reference
deriving DecidableEq, Repr

/-- The name of a role. -/
def Role.name : Role → String
  | declaration => "declaration"
  | reference => "reference"

end ModWeave

import ModWeave.Entity

/-!
# Commands that carry an id

`Command.table` lists the commands whose argument is an id, with the kind of entity and whether the command
declares it or refers to it.  A negated command writes the magnitude of a negative id, and a block-only command
counts inside a spell block only.
-/

namespace ModWeave

/-- A command whose argument is an id. -/
structure Command where
  /-- The word after the number sign, in small letters. -/
  word : List Char
  kind : EntityKind
  role : Role
  /-- Whether the literal on the line is the negative of the id. -/
  negated : Bool
  /-- Whether the command counts inside a spell block only. -/
  blockOnly : Bool
deriving DecidableEq, Repr

namespace Command

/-- Commands that declare an entity. -/
def declaring (kind : EntityKind) (words : List String) : List Command :=
  words.map fun w => ⟨w.toList, kind, .declaration, false, false⟩

/-- Commands that declare an entity by the magnitude of a negative id. -/
def declaringNegated (kind : EntityKind) (words : List String) : List Command :=
  words.map fun w => ⟨w.toList, kind, .declaration, true, false⟩

/-- Commands that refer to an entity. -/
def referring (kind : EntityKind) (words : List String) : List Command :=
  words.map fun w => ⟨w.toList, kind, .reference, false, false⟩

/-- Commands that refer to an entity inside a spell block only. -/
def referringInBlock (kind : EntityKind) (words : List String) : List Command :=
  words.map fun w => ⟨w.toList, kind, .reference, false, true⟩

/-- The words that refer to a monster. -/
def monsterWords : List String := [
  "copystats", "copyspr", "firstshape", "secondshape", "secondtmpshape", "shapechange", "prophetshape",
  "landshape", "watershape", "forestshape", "plainshape", "domsummon", "domsummon2", "domsummon20",
  "raredomsummon", "templetrainer", "makemonsters1", "makemonsters2", "makemonsters3", "makemonsters4",
  "makemonsters5", "summon1", "summon2", "summon3", "summon4", "summon5", "battlesum1", "battlesum2",
  "battlesum3", "battlesum4", "battlesum5", "batstartsum1", "batstartsum2", "batstartsum3", "batstartsum4",
  "batstartsum5", "batstartsum1d3", "batstartsum1d6", "batstartsum2d6", "batstartsum3d6", "homemon", "homecom",
  "addrecunit", "addreccom", "startcom", "startscout", "startunittype1", "startunittype2", "defcom1", "defcom2",
  "defunit1", "defunit1b", "defunit2", "defunit2b", "wallcom", "wallunit", "guardspirit", "slaver", "com",
  "1com", "2com", "3com", "4com", "5com", "1unit", "1d3units", "1d6units", "2d6units", "3d6units", "4d6units",
  "transform", "req_targmnr", "req_mnr", "req_nomnr"]

/-- The words that refer to an event code. -/
def eventCodeWords : List String := [
  "req_code", "req_anycode", "req_nearbycode", "req_nearowncode", "req_notanycode", "req_notnearbycode",
  "req_notnearowncode", "resetcode", "resetcodedelay", "resetcodedelay2"]

/-- Every command that carries an id. -/
def table : List Command := List.flatten [
  declaring .monster ["newmonster", "selectmonster"],
  declaringNegated .monster ["montag"],
  referring .monster monsterWords,
  referringInBlock .monster ["damage"],
  declaring .spell ["selectspell"],
  referringInBlock .spell ["nextspell", "copyspell"],
  declaring .weapon ["newweapon", "selectweapon"],
  referring .weapon ["weapon", "copyweapon", "secondaryeffect", "secondaryeffectalways"],
  declaring .armor ["newarmor", "selectarmor"],
  referring .armor ["armor", "copyarmor"],
  declaring .item ["selectitem"],
  referring .item ["copyitem"],
  declaring .site ["newsite", "selectsite"],
  declaring .nation ["selectnation"],
  referring .nation ["restricted", "nationrebate", "nation", "req_nation", "req_notnation"],
  declaring .nameType ["selectnametype"],
  referring .nameType ["nametype"],
  declaring .eventCode ["code", "code2", "codedelay", "codedelay2"],
  referring .eventCode eventCodeWords,
  declaring .restrictedItem ["restricteditem"],
  referring .restrictedItem ["userestricteditem"],
  declaring .poptype ["selectpoptype"]]

/-- The command of a given word. -/
def find? (word : List Char) : Option Command := table.find? fun c => c.word = word

/-- A command that is found stands in the table under the given word. -/
theorem mem_table_of_find? {word : List Char} {c : Command} (h : find? word = some c) :
    c ∈ table ∧ c.word = word :=
  ⟨List.mem_of_find?_eq_some h, by simpa using List.find?_some h⟩

end Command

end ModWeave

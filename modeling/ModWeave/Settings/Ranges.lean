import ModWeave.Decimal.Free
import ModWeave.Distinct
import ModWeave.Settings
import ModWeave.Sorting
import ModWeave.Text.Lower

/-!
# Modding ranges from settings

The table `ids` of the settings holds a table for each kind of entity whose range differs from the default, and
gives new values key by key.  Several spellings of one kind apply one after the other.  Every range that is
accepted has, for each sign, either no bounds or positive bounds in order.
-/

namespace ModWeave

/-- Why settings are refused. -/
inductive SettingsFault
  /-- The file is no valid UTF-8. -/
  | notUtf8
  /-- The file at the given path breaks the rules of its format. -/
  | malformed (path : String)
  /-- The file asks for something that is not there, or gives a value that cannot be printed. -/
  | format (cause : Toml.Fault)
  /-- A value is of a sort that does not fit its place. -/
  | unsuitable
  /-- The modding ranges are no table. -/
  | noTable
  | unknownKind (name : String)
  | unknownKeys (kind : String) (keys : List String)
  | badNumber (cause : Decimal.FreeFault)
  | infiniteNumber
  | notANumber
  | missingEnd (kind low high : String)
  | invalidRange (kind : String) (bounds : Bounds)
deriving DecidableEq, Repr

/-- The words for a fault. -/
def SettingsFault.message : SettingsFault → String
  | notUtf8 => "invalid UTF-8"
  | malformed path => s!"Invalid TOML in config file: {path}"
  | format cause => cause.message
  | unsuitable => "unsuitable value"
  | noTable => "no table"
  | unknownKind name => s!"Unknown entity type in ids table: {name}"
  | unknownKeys kind keys => s!"Unknown keys for ids.{kind}: " ++ ", ".intercalate keys
  | badNumber cause => cause.message
  | infiniteNumber => "cannot convert float infinity to integer"
  | notANumber => "cannot convert float NaN to integer"
  | missingEnd kind low high => s!"ids.{kind} needs both {low} and {high}"
  | invalidRange kind bounds =>
    -- the wording shows the bounds, if they can be written
    if Decimal.isWritable bounds.low && Decimal.isWritable bounds.high then
      s!"ids.{kind}: invalid range {bounds.low}..{bounds.high}"
    else Decimal.unwritableMessage

namespace Settings

open Toml (Value)

/-- The keys of the bounds, in the order in which they are read. -/
def boundKeys : List String := ["floor", "ceiling", "negative_floor", "negative_ceiling"]

/-- The key of the sentinels. -/
def sentinelKey : String := "sentinels"

/-- The integer that a value stands for; fractions are cut off. -/
def toInt : Value → Except SettingsFault Int
  | .integer n => .ok n
  | .boolean b => .ok (if b then 1 else 0)
  | .float (.infinite _) => .error .infiniteNumber
  | .float .notANumber => .error .notANumber
  | .float x => .ok (x.truncate?.getD 0)
  | .text s => (Decimal.readFree s.toList).mapError .badNumber
  | _ => .error .unsuitable

/-- The items that a value is made of: those of a list, the characters of a text, the keys of a table. -/
def items? : Value → Option (List Value)
  | .list items => some items
  | .text s => some (s.toList.map fun c => .text (String.singleton c))
  | .table entries => some (entries.map fun e => .text e.1)
  | _ => none

/-- The texts among the items of a value, if it has no others. -/
def texts? (items : List Value) : Option (List String) :=
  items.mapM fun
    | .text s => some s
    | _ => none

/-- The order of texts by code points. -/
def stringLe (a b : String) : Bool := leChars a.toList b.toList

/-- The table of a range; a list or text without items stands for an empty one. -/
def rangeTable (kind : String) (raw : Value) : Except SettingsFault Toml.Table := do
  let some items := items? raw | throw .unsuitable
  let some keys := texts? items | throw .unsuitable
  -- unknown keys are refused before any value is looked at
  let unknown := keys.filter fun k => !(k ∈ boundKeys || k = sentinelKey)
  if unknown ≠ [] then throw (.unknownKeys kind (distinct (sortBy stringLe unknown)))
  match raw with
  | .table entries => return entries
  | _ => if keys = [] then return [] else throw .unsuitable

/-- A bound that the table gives. -/
def bound (t : Toml.Table) (key : String) : Except SettingsFault (Option Int) :=
  match t.get? key with
  | none => .ok none
  | some v => (toInt v).map some

/-- The sentinels that the table gives. -/
def sentinels (t : Toml.Table) : Except SettingsFault (Option (List Int)) :=
  match t.get? sentinelKey with
  | none => .ok none
  | some v =>
    match items? v with
    | none => .error .unsuitable
    | some items => (items.mapM toInt).map some

/-- The bounds of one sign, from new ends and the bounds so far. -/
def bounds (kind lowKey highKey : String) (low high : Option Int) (base : Option Bounds) :
    Except SettingsFault (Option Bounds) :=
  match low <|> base.map Bounds.low, high <|> base.map Bounds.high with
  | none, none => .ok none
  | some low, some high =>
    if (Bounds.mk low high).Valid then .ok (some ⟨low, high⟩) else .error (.invalidRange kind ⟨low, high⟩)
  | _, _ => .error (.missingEnd kind lowKey highKey)

/-- The range of a kind after its table has been applied to the range so far. -/
def overlay (kind : String) (raw : Value) (base : IdRange) : Except SettingsFault IdRange := do
  let t ← rangeTable kind raw
  let floor ← bound t "floor"
  let ceiling ← bound t "ceiling"
  let negativeFloor ← bound t "negative_floor"
  let negativeCeiling ← bound t "negative_ceiling"
  let given ← sentinels t
  let positive ← bounds kind "floor" "ceiling" floor ceiling base.positive
  let negative ← bounds kind "negative_floor" "negative_ceiling" negativeFloor negativeCeiling base.negative
  return ⟨positive, negative, given.getD base.sentinels⟩

/-- The kind that a key of the table names, in any case. -/
def kind? (name : String) : Option EntityKind :=
  EntityKind.ofName? (String.ofList (Text.lower name.toList))

/-- The ranges after the given tables have been applied in order. -/
def overlayAll (ranges : RangeMap) : Toml.Table → Except SettingsFault RangeMap
  | [] => .ok ranges
  | (name, raw) :: rest =>
    match kind? name with
    | none => .error (.unknownKind name)
    | some kind =>
      match overlay name raw ((ranges kind).getD IdRange.unbounded) with
      | .error e => .error e
      | .ok range => overlayAll (ranges.update kind range) rest

/-- The ranges that a table of ranges gives on top of the default. -/
def parseRanges (raw : Value) : Except SettingsFault RangeMap :=
  match raw with
  | .table entries => overlayAll RangeMap.default entries
  | _ => .error .noTable

end Settings

end ModWeave

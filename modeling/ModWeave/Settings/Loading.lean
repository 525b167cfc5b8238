import ModWeave.Log
import ModWeave.Settings.Ranges
import ModWeave.Text.Utf8

/-!
# Loading settings

Settings come from a file that may be missing.  Its table `output` gives the header, `ignore_mods` the mods to
leave out, and `ids` the modding ranges; they are looked at in this order, and the first fault counts.  How a table is
read off the text is not settled here: whoever loads settings brings a reader along.
-/

namespace ModWeave.Settings

open Toml (Value)

/-- Whether one text is part of another. -/
def isInfix (part s : List Char) : Bool :=
  match s with
  | [] => part = []
  | c :: rest => part.isPrefixOf (c :: rest) || isInfix part rest

/-- The text that the `output` value gives to a key, if it gives one.  A text that merely contains the key, or a
list with the key in it, fits as little as a value without parts. -/
def headerText (raw : Value) (key : String) : Except SettingsFault (Option String) :=
  match raw with
  | .table entries =>
    match Toml.Table.get? entries key with
    | none => .ok none
    | some v => (v.print.map some).mapError .format
  | .text s => if isInfix key.toList s.toList then .error .unsuitable else .ok none
  | .list items => if items.any (isKey key) then .error .unsuitable else .ok none
  | _ => .error .unsuitable
where
  /-- Whether a value is the key as a text. -/
  isKey (key : String) : Value → Bool
    | .text s => s = key
    | _ => false

/-- The header that the `output` value gives on top of the default. -/
def parseHeader (raw : Value) : Except SettingsFault Header := do
  let base : Header := {}
  let modname ← headerText raw "modname"
  let description ← headerText raw "description"
  let icon ← headerText raw "icon"
  let version ← headerText raw "version"
  let domversion ← headerText raw "domversion"
  return ⟨modname.getD base.modname, description.getD base.description, icon.getD base.icon,
    version.getD base.version, domversion.getD base.domversion⟩

/-- The settings that a table gives. -/
def ofTable (t : Toml.Table) : Except SettingsFault Settings := do
  let header ← parseHeader ((t.get? "output").getD (.table []))
  let some ignoreMods := items? ((t.get? "ignore_mods").getD (.list [])) | throw .unsuitable
  let ranges ← parseRanges ((t.get? "ids").getD (.table []))
  return ⟨ignoreMods, header, ranges⟩

/-- The settings of a file at a path, given its bytes and what reads the table off its text. -/
def ofBytes (readTable : List Char → Except Toml.Fault Toml.Table) (path : String) (bytes : List UInt8) :
    Except SettingsFault Settings := do
  let some text := Text.Utf8.decode? bytes | throw .notUtf8
  match readTable (Text.unifyBreaks text) with
  | .error .malformed => throw (.malformed path)
  | .error cause => throw (.format cause)
  | .ok t => ofTable t

/-- What is reported when there is no file at the path. -/
def missingLog (path : String) : Log.Entry :=
  Log.warn s!"Config file {path} not found. Proceeding with default settings."

end ModWeave.Settings

import ModWeave.Text.Blank
import ModWeave.Text.Lower

/-!
# Messages to the user

What the program reports while it works is a list of entries, kept as a value and printed at the end.  An entry
shows its level in brackets behind its indentation.  Entries of level `debug` are printed in a verbose run only.
-/

namespace ModWeave.Log

/-- The weight of a message. -/
inductive Level
  | debug
  | info
  | warn
  | error
  | remap
  | ok
deriving DecidableEq, Repr

/-- The name printed for a level. -/
def Level.name : Level → String
  | debug => "debug"
  | info => "info"
  | warn => "warn"
  | error => "error"
  | remap => "remap"
  | ok => "ok"

/-- What an entry says. -/
inductive Message
  | text (s : String)
  /-- A text around the time that the work took. -/
  | timed (before after : String)
deriving DecidableEq, Repr

/-- The text of a message, given the time to print in it. -/
def Message.render (elapsed : String) : Message → String
  | text s => s
  | timed before after => before ++ elapsed ++ after

/-- One message with its level and indentation. -/
structure Entry where
  level : Level
  indent : Nat
  message : Message
deriving DecidableEq, Repr

/-- A message for verbose runs. -/
def debug (s : String) : Entry := ⟨.debug, 0, .text s⟩

/-- A piece of information. -/
def info (s : String) : Entry := ⟨.info, 0, .text s⟩

/-- A warning. -/
def warn (s : String) : Entry := ⟨.warn, 0, .text s⟩

/-- An error. -/
def error (s : String) : Entry := ⟨.error, 0, .text s⟩

/-- A line about changed ids. -/
def remap (indent : Nat) (s : String) : Entry := ⟨.remap, indent, .text s⟩

/-- The same message, indented. -/
def Entry.indented (e : Entry) (indent : Nat) : Entry := { e with indent }

/-- The printed form of a level that is given as text: trimmed, in small letters, and `info` if nothing is left. -/
def levelName (given : Option String) : String :=
  let name := lowerTrimmed (given.getD "")
  if name = "" then "info" else name
where
  /-- A text without blanks at its ends, in small letters. -/
  lowerTrimmed (s : String) : String := String.ofList (Text.lower (Text.trim s.toList))

/-- A printed line: the indentation, the level in brackets and the message. -/
def format (level : String) (indent : Int) (message : String) : String :=
  String.ofList (List.replicate indent.toNat ' ') ++ "[" ++ level ++ "] " ++ message

/-- The printed line of an entry, given the time to print in it. -/
def Entry.render (elapsed : String) (e : Entry) : String :=
  format e.level.name e.indent (e.message.render elapsed)

/-- Whether an entry is printed. -/
def Entry.isShown (verbose : Bool) (e : Entry) : Bool := verbose || e.level ≠ .debug

/-- The printed text of some entries, each with a line feed after it. -/
def render (verbose : Bool) (elapsed : String) (entries : List Entry) : String :=
  String.join ((entries.filter (Entry.isShown verbose)).map fun e => e.render elapsed ++ "\n")

end ModWeave.Log

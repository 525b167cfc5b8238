import ModWeave.Decimal.Free
import ModWeave.Path

/-!
# Command-line arguments

An argument that starts with a hyphen is a flag, unless it looks like a negative number or holds a space.  A long
flag may be shortened as long as it stays the only one, and its value may follow an equals sign; two hyphens there
leave the flag without a value.  Flags of one letter may share a hyphen.  `parse` reads the arguments in order; the
first fault counts, and arguments that belong to no flag are refused at the end.
-/

namespace ModWeave.CommandLine

/-- The flags of the program. -/
inductive Flag
  | help
  | mods
  | output
  | configPath
  | report
  | backupDir
  | dryRun
  | workers
  | verbose
deriving DecidableEq, Repr

/-- How many values follow a flag. -/
inductive Arity
  | none
  | one
  | some
deriving DecidableEq, Repr

namespace Flag

/-- The spellings of all flags. -/
def spellings : List (String × Flag) := [
  ("-h", help), ("--help", help), ("--mods", mods), ("--output", output), ("--config-path", configPath),
  ("--report", report), ("--backup-dir", backupDir), ("--dry-run", dryRun), ("--workers", workers),
  ("--verbose", verbose)]

/-- The name of a flag in messages. -/
def label : Flag → String
  | help => "-h/--help"
  | mods => "--mods"
  | output => "--output"
  | configPath => "--config-path"
  | report => "--report"
  | backupDir => "--backup-dir"
  | dryRun => "--dry-run"
  | workers => "--workers"
  | verbose => "--verbose"

/-- How many values follow a flag. -/
def arity : Flag → Arity
  | help => .none
  | dryRun => .none
  | verbose => .none
  | mods => .some
  | _ => .one

end Flag

/-- How many mods are to be read side by side. -/
inductive Workers
  | automatic
  | count (n : Int)
  /-- The flag is there, but without a value. -/
  | unset
deriving DecidableEq, Repr

/-- What the arguments ask for.  A path is missing if its flag is left without a value. -/
structure Arguments where
  mods : List Path
  output : Option Path := some (Path.ofString "merged.dm")
  configPath : Option Path := some (Path.ofString "config.toml")
  report : Option Path := some (Path.ofString "")
  backupDir : Option Path := some (Path.ofString "merge_backup")
  dryRun : Bool := false
  workers : Workers := .automatic
  verbose : Bool := false
deriving DecidableEq, Repr

/-- Why arguments are refused. -/
inductive ArgumentFault
  | ambiguous (given : String) (candidates : List String)
  | valueMissing (flag : Flag)
  | valueRefused (flag : Flag) (value : String)
  | notPositive (value : String)
  | noNumber (value : String)
  | modsMissing
  | unrecognized (arguments : List String)
deriving DecidableEq, Repr

/-- A text in quotation marks. -/
private def quoted (s : String) : String := String.ofList (Text.quote s.toList)

/-- The words for a fault. -/
def ArgumentFault.message : ArgumentFault → String
  | ambiguous given candidates => s!"ambiguous option: {given} could match " ++ ", ".intercalate candidates
  | valueMissing flag =>
    if flag.arity = .some then s!"argument {flag.label}: expected at least one argument"
    else s!"argument {flag.label}: expected one argument"
  | valueRefused flag value => s!"argument {flag.label}: ignored explicit argument {quoted value}"
  | notPositive value => s!"argument --workers: expected a positive number, got {value}"
  | noNumber value => s!"argument --workers: invalid positive_int value: {quoted value}"
  | modsMissing => "the following arguments are required: --mods"
  | unrecognized arguments => "unrecognized arguments: " ++ " ".intercalate arguments

/-- What an argument is taken for. -/
inductive Token
  /-- A value, or an argument that belongs to nothing. -/
  | plain (s : String)
  | flag (f : Flag) (value : Option String)
  /-- Looks like a flag but is none. -/
  | unknown (s : String)
  /-- Two hyphens, after which every argument is plain. -/
  | separator
deriving DecidableEq, Repr

/-- The text in front of the first equals sign and the text behind it, if there is one. -/
def splitValue (s : List Char) : List Char × Option (List Char) :=
  match s.dropWhile (· ≠ '=') with
  | [] => (s, none)
  | _ :: value => (s.takeWhile (· ≠ '='), some value)

/-- A text without the line feed at its end, if there is one. -/
def dropLastFeed (s : List Char) : List Char := if s.getLast? = some '\n' then s.dropLast else s

/-- Whether an argument is written like a negative number, perhaps with a line feed behind it. -/
def looksNegative : List Char → Bool
  | '-' :: s =>
    let s := dropLastFeed s
    let whole := s.takeWhile Text.isDigit
    match s.dropWhile Text.isDigit with
    | [] => whole ≠ []
    | '.' :: fraction => fraction ≠ [] && fraction.all Text.isDigit
    | _ => false
  | _ => false

/-- The flag of exactly the given spelling. -/
def spelled? (s : String) : Option Flag := (Flag.spellings.find? fun p => p.1 = s).map Prod.snd

/-- What follows the hyphen and the letter of a flag: flags of one letter may follow at once, and what is left
behind them is a value. -/
def behindLetter (s : List Char) : Option (List Char) :=
  match s, s.dropWhile fun c => (spelled? (String.ofList ['-', c])).isSome with
  | _ :: _, [] => none
  | _, rest => some rest

/-- The flags that an argument may stand for without being their full spelling, with their spellings and the value:
the beginning of long flags, or a letter with more behind it. -/
def candidates (s : List Char) : List (String × Flag × Option String) :=
  match s with
  | '-' :: '-' :: _ =>
    let (name, value) := splitValue s
    (Flag.spellings.filter fun p => name.isPrefixOf p.1.toList).map fun p => (p.1, p.2, value.map String.ofList)
  | _ =>
    (Flag.spellings.filter fun p => p.1.toList = s.take 2).map fun p =>
      (p.1, p.2, (behindLetter (s.drop 2)).map String.ofList)

/-- What one argument is taken for, where it does not stand behind a separator. -/
def classify (s : String) : Except ArgumentFault Token :=
  match s.toList with
  | '-' :: _ :: _ =>
    let (name, value) := splitValue s.toList
    -- a full spelling comes before one with a value, and both before shortened ones
    match spelled? s, spelled? (String.ofList name) with
    | some f, _ => .ok (.flag f none)
    | none, some f =>
      let value := if name.length = 2 then value.bind behindLetter else value
      .ok (.flag f (value.map String.ofList))
    | none, none =>
      match candidates s.toList with
      | [(_, f, value)] => .ok (.flag f value)
      | _ :: _ :: _ => .error (.ambiguous s ((candidates s.toList).map Prod.fst))
      | [] =>
        if looksNegative s.toList || ' ' ∈ s.toList then .ok (.plain s) else .ok (.unknown s)
  | _ => .ok (.plain s)

/-- What the arguments are taken for. -/
def tokenize : List String → Except ArgumentFault (List Token)
  | [] => .ok []
  | s :: rest =>
    if s = "--" then .ok (.separator :: rest.map Token.plain)
    else
      match classify s with
      | .error e => .error e
      | .ok t => (tokenize rest).map (t :: ·)

/-- The plain arguments at the beginning. -/
def leadingPlain : List Token → List String
  | .plain s :: rest => s :: leadingPlain rest
  | _ => []

/-- The number of workers that a text gives. -/
def workerCount (s : String) : Except ArgumentFault Int :=
  match Decimal.readFree s.toList with
  | .error _ => .error (.noNumber s)
  | .ok n => if n < 1 then .error (.notPositive s) else .ok n

/-- What has been read of the arguments. -/
structure Parsed where
  arguments : Arguments
  modsGiven : Bool
  helpWanted : Bool
  /-- Arguments that belong to nothing. -/
  surplus : List String

namespace Parsed

/-- Gives a flag its values. -/
def apply (p : Parsed) (f : Flag) (values : List String) : Except ArgumentFault Parsed :=
  let a := p.arguments
  let path := values.head?.map Path.ofString
  match f with
  | .help => .ok { p with helpWanted := true }
  | .mods => .ok { p with arguments := { a with mods := values.map Path.ofString }, modsGiven := true }
  | .output => .ok { p with arguments := { a with output := path } }
  | .configPath => .ok { p with arguments := { a with configPath := path } }
  | .report => .ok { p with arguments := { a with report := path } }
  | .backupDir => .ok { p with arguments := { a with backupDir := path } }
  | .dryRun => .ok { p with arguments := { a with dryRun := true } }
  | .verbose => .ok { p with arguments := { a with verbose := true } }
  | .workers =>
    match values with
    | [] => .ok { p with arguments := { a with workers := .unset } }
    | value :: _ => (workerCount value).map fun n => { p with arguments := { a with workers := .count n } }

/-- An argument that belongs to nothing. -/
def leave (p : Parsed) (s : String) : Parsed := { p with surplus := p.surplus ++ [s] }

end Parsed

/-- The values of a flag among the tokens behind it. -/
def valuesOf (f : Flag) (rest : List Token) : Except ArgumentFault (List String) :=
  match f.arity, leadingPlain rest with
  | .none, _ => .ok []
  | _, [] => .error (.valueMissing f)
  | .one, s :: _ => .ok [s]
  | .some, values => .ok values

/-- Reads the tokens in order; `skip` of them are values of the flag before. -/
def readTokens (p : Parsed) : (skip : Nat) → List Token → Except ArgumentFault Parsed
  | _, [] => .ok p
  | skip + 1, _ :: rest => readTokens p skip rest
  | 0, t :: rest =>
    if p.helpWanted then .ok p
    else
      match t with
      | .plain s => readTokens (p.leave s) 0 rest
      | .unknown s => readTokens (p.leave s) 0 rest
      | .separator => readTokens (p.leave "--") 0 rest
      | .flag f (some value) =>
        -- a value behind an equals sign is the only one, and two hyphens there are none
        if f.arity = .none then .error (.valueRefused f value)
        else
          match p.apply f ([value].filter (· ≠ "--")) with
          | .error e => .error e
          | .ok p => readTokens p 0 rest
      | .flag f none =>
        match valuesOf f rest with
        | .error e => .error e
        | .ok values =>
          match p.apply f values with
          | .error e => .error e
          | .ok p => readTokens p values.length rest

/-- Reads the arguments; nothing comes of it if help is wanted. -/
def parse (args : List String) : Except ArgumentFault (Option Arguments) := do
  let tokens ← tokenize args
  let p ← readTokens ⟨{ mods := [] }, false, false, []⟩ 0 tokens
  if p.helpWanted then return none
  if !p.modsGiven then throw .modsMissing
  if p.surplus ≠ [] then throw (.unrecognized p.surplus)
  return some p.arguments

end ModWeave.CommandLine

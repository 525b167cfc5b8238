import ModWeave.Decimal.Shortest
import ModWeave.OrderedMap
import ModWeave.Text.Quoted
import ModWeave.Toml.Moment

/-!
# Values of a settings file

A value is a text, a number, a truth value, a moment, a list or a table that keeps its keys in order.  `print`
gives the text of a value; inside lists and tables texts are printed in quotes.  A value is not printed if it
holds an integer of too many digits or stands for a moment with an offset of a day or more.
-/

namespace ModWeave.Toml

/-- A value of a settings file. -/
inductive Value
  | text (s : String)
  | integer (n : Int)
  | float (x : Decimal.Binary)
  | boolean (b : Bool)
  | moment (m : Moment)
  | list (items : List Value)
  | table (entries : List (String × Value))
deriving Repr

/-- A table with its keys in the order of the file. -/
abbrev Table := List (String × Value)

/-- The value of a key. -/
def Table.get? (t : Table) (key : String) : Option Value := (t.find? fun e => e.1 = key).map Prod.snd

/-- The table with a value for a key: in the place of the value so far, or at the end. -/
def Table.put (t : Table) (key : String) (v : Value) : Table := OrderedMap.insert t key v

/-- Numbers are written with a point if their leading digit stands between the fourth place behind the point and
the sixteenth in front of it. -/
def floatStyle : Decimal.NumberStyle where
  plainFrom := -4
  plainBelow := 16
  pointZero := true

/-- The text of a floating-point number. -/
def floatText : Decimal.Binary → List Char
  | .finite negative 0 _ => (if negative then ['-'] else []) ++ "0.0".toList
  | .finite negative m e => (if negative then ['-'] else []) ++ Decimal.layout floatStyle (Decimal.shortest m e)
  | .infinite negative => (if negative then ['-'] else []) ++ "inf".toList
  | .notANumber => "nan".toList

/-- The word for a truth value. -/
def booleanText (b : Bool) : List Char := if b then "True".toList else "False".toList

/-- Texts with a comma and a space between them. -/
def commaSeparated (items : List (List Char)) : List Char := (items.intersperse [',', ' ']).flatten

namespace Value

/-- The sort of a value, by which the items of a list have to agree. -/
def sort : Value → Nat
  | text _ => 0
  | integer _ => 1
  | float _ => 2
  | boolean _ => 3
  | moment (.time _) => 4
  | moment _ => 5
  | list _ => 6
  | table _ => 7

mutual

/-- The text of a value inside a list or a table. -/
def inner : Value → List Char
  | .text s => Text.quote s.toList
  | .integer n => Decimal.write n
  | .float x => floatText x
  | .boolean b => booleanText b
  | .moment m => m.inner.toList
  | .list items => '[' :: commaSeparated (innerItems items) ++ [']']
  | .table entries => '{' :: commaSeparated (innerEntries entries) ++ ['}']

/-- The texts of some values. -/
def innerItems : List Value → List (List Char)
  | [] => []
  | v :: vs => inner v :: innerItems vs

/-- The texts of some entries of a table. -/
def innerEntries : List (String × Value) → List (List Char)
  | [] => []
  | (k, v) :: es => (Text.quote k.toList ++ ':' :: ' ' :: inner v) :: innerEntries es

end

mutual

/-- Whether every integer in a value has few enough digits to be printed. -/
def isWritable : Value → Bool
  | .integer n => Decimal.isWritable n
  | .list items => areWritable items
  | .table entries => haveWritable entries
  | _ => true

/-- Whether some values can be printed. -/
def areWritable : List Value → Bool
  | [] => true
  | v :: vs => isWritable v && areWritable vs

/-- Whether some entries of a table can be printed. -/
def haveWritable : List (String × Value) → Bool
  | [] => true
  | (_, v) :: es => isWritable v && haveWritable es

end

/-- The text of a value. -/
def print (v : Value) : Except Fault String :=
  match v with
  | .text s => .ok s
  | .moment m => m.print
  | v => if v.isWritable then .ok (String.ofList v.inner) else .error .tooManyDigits

end Value

end ModWeave.Toml

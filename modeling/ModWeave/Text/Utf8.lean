/-!
# UTF-8

`encode` writes a text as bytes.  Reading walks over the bytes and finds at each place either a character or a
run of bytes that no character can start with.  `decode?` refuses a text with such a run; `decodeLossy` leaves
the run out.  A run is as long as it could still have been the beginning of a character: the first byte, and
then every byte that may follow it.
-/

namespace ModWeave.Text.Utf8

/-- The bytes of a text. -/
def encode (s : List Char) : List UInt8 := s.flatMap String.utf8EncodeChar

/-- What a first byte promises: how many bytes follow, the bounds of the next one, and the bits it brings. -/
structure Lead where
  more : Nat
  low : UInt8
  high : UInt8
  bits : Nat

/-- What a byte promises as the first one of a character. -/
def lead? (b : UInt8) : Option Lead :=
  if b < 0x80 then some ⟨0, 0x80, 0xBF, b.toNat⟩
  else if b < 0xC2 then none
  else if b < 0xE0 then some ⟨1, 0x80, 0xBF, b.toNat - 0xC0⟩
  else if b = 0xE0 then some ⟨2, 0xA0, 0xBF, 0⟩
  else if b = 0xED then some ⟨2, 0x80, 0x9F, 13⟩
  else if b < 0xF0 then some ⟨2, 0x80, 0xBF, b.toNat - 0xE0⟩
  else if b = 0xF0 then some ⟨3, 0x90, 0xBF, 0⟩
  else if b < 0xF4 then some ⟨3, 0x80, 0xBF, b.toNat - 0xF0⟩
  else if b = 0xF4 then some ⟨3, 0x80, 0x8F, 4⟩
  else none

/-- The state between two bytes: at the start of a character, or inside one. -/
inductive State
  | start
  | within (lead : Lead)

/-- One step of reading: the state after a byte, the character it completes, and whether bytes before it or the
byte itself had to be given up. -/
structure Step where
  next : State
  char : Option Char
  broken : Bool

/-- Reads a byte at the start of a character. -/
def first (b : UInt8) (broken : Bool) : Step :=
  match lead? b with
  | none => ⟨.start, none, true⟩
  | some l => if l.more = 0 then ⟨.start, some (Char.ofNat l.bits), broken⟩ else ⟨.within l, none, broken⟩

/-- Reads a byte; one that cannot continue the character before it starts anew. -/
def step : State → UInt8 → Step
  | .start, b => first b false
  | .within l, b =>
    if l.low ≤ b && b ≤ l.high then
      -- only the byte after the first one has narrower bounds
      let bits := 64 * l.bits + (b.toNat - 0x80)
      if l.more = 1 then ⟨.start, some (Char.ofNat bits), false⟩
      else ⟨.within ⟨l.more - 1, 0x80, 0xBF, bits⟩, none, false⟩
    else first b true

/-- What has been read so far: the characters, last one first, and whether a byte was given up. -/
structure Reading where
  state : State
  chars : List Char
  broken : Bool

/-- Reads one byte more. -/
def Reading.add (r : Reading) (b : UInt8) : Reading :=
  let s := step r.state b
  ⟨s.next, s.char.toList ++ r.chars, r.broken || s.broken⟩

/-- Reads all bytes. -/
def read (bytes : List UInt8) : Reading := bytes.foldl Reading.add ⟨.start, [], false⟩

/-- The text of the bytes without the runs that are no character. -/
def decodeLossy (bytes : List UInt8) : List Char := (read bytes).chars.reverse

/-- The text of the bytes, if every byte belongs to a character. -/
def decode? (bytes : List UInt8) : Option (List Char) :=
  match read bytes with
  | ⟨.start, chars, false⟩ => some chars.reverse
  | _ => none

end ModWeave.Text.Utf8

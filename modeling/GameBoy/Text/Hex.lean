import GameBoy.Word

/-!
# Digits of fixed width

Bytes and words are written in lower-case hexadecimal with all their digits, and bytes also with
all their binary digits. Each text determines its number, because it has one digit for each nibble
or bit. Displacements are written in decimal with a sign.
-/

namespace GameBoy.Text

/-- The digit for a number below sixteen. -/
def digit (n : Nat) : Char :=
  if n < 10 then Char.ofNat (48 + n) else Char.ofNat (87 + n)

/-- A byte as two hexadecimal digits. -/
def hexByte (b : UInt8) : String :=
  String.ofList [digit (b.toNat / 16), digit (b.toNat % 16)]

/-- A word as four hexadecimal digits. -/
def hexWord (w : UInt16) : String := hexByte (Word.high w) ++ hexByte (Word.low w)

/-- A byte as eight binary digits. -/
def binByte (b : UInt8) : String :=
  String.ofList ((List.range 8).map fun i => digit (b.toNat >>> (7 - i) % 2))

/-- A number in decimal, filled up with blanks on the left to at least `width` characters. -/
def padLeft (width n : Nat) : String :=
  let digits := toString n
  String.ofList (List.replicate (width - digits.length) ' ') ++ digits

/-- The size of a displacement: its distance from zero in two's complement. -/
def distance (e : UInt8) : Nat := if e < 0x80 then e.toNat else 256 - e.toNat

/-- A displacement in decimal, with a minus sign below zero. -/
def displacement (e : UInt8) : String :=
  (if e < 0x80 then "" else "-") ++ toString (distance e)

/-- A displacement in decimal, always with a sign. -/
def signedDisplacement (e : UInt8) : String :=
  (if e < 0x80 then "+" else "-") ++ toString (distance e)

end GameBoy.Text

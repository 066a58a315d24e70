import GameBoy.Text.Quoted

/-!
# Tick counts

A tick count is a number of 64 bits in decimal, with an optional plus sign and any number of leading
zeros. The digits are read from the left, and the first thing that is wrong with them is reported:
a character that is no digit, or a value that has grown too large.
-/

namespace GameBoy.CommandLine

/-- What is wrong with the text of a number. -/
inductive NumberError where
  | empty | invalidDigit | tooLarge
  deriving DecidableEq, Repr

/-- The text for what is wrong with a number. -/
def NumberError.message : NumberError → String
  | empty => "cannot parse integer from empty string"
  | invalidDigit => "invalid digit found in string"
  | tooLarge => "number too large to fit in target type"

/-- Reads the remaining digits of a number that begins with the given value. The value is checked
again after each digit is known to be one. -/
def readDigits (value : Nat) : List Char → Except NumberError Nat
  | [] => .ok value
  | c :: rest =>
    if c.isDigit then
      let value := value * 10 + (c.toNat - '0'.toNat)
      if value < UInt64.size then readDigits value rest else .error .tooLarge
    else .error .invalidDigit

/-- Reads a number. A sign alone counts as a wrong digit. -/
def readNumber (s : String) : Except NumberError Nat :=
  match s.toList with
  | [] => .error .empty
  | ['+'] => .error .invalidDigit
  | '+' :: digits => readDigits 0 digits
  | digits => readDigits 0 digits

/-- A tick count that cannot be read. -/
structure TickError where
  text : String
  cause : NumberError
  deriving DecidableEq, Repr

/-- The texts of the error and its cause, the outermost first. -/
def TickError.chain (e : TickError) : List String :=
  [s!"invalid tick count {Text.quoted e.text}", e.cause.message]

/-- Reads a tick count. -/
def readTicks (text : String) : Except TickError Nat :=
  match readNumber text with
  | .ok n => .ok n
  | .error cause => .error { text, cause }

end GameBoy.CommandLine

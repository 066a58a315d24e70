/-!
# Control sequences

A terminal takes some characters not as text but as commands. An escape character begins a
sequence: a short one ends with its first letter, a control sequence with a letter behind its
parameters, a device string and its like only with a terminator, and a command string also with a
bell. `plain` takes all of them out of a text, together with the control characters that are not
blanks, so that what is left shows the same on every terminal.
-/

namespace GameBoy.Text

/-- Where a reader stands: in the text itself, or in one of the sequences. -/
inductive Sequence where
  | outside
  | escape
  /-- A short sequence of more than one character. -/
  | designation
  | control
  | deviceStart
  | deviceParameters
  | deviceIntermediates
  /-- Contents that only a terminator or a new sequence ends. -/
  | contents
  | command
  deriving DecidableEq, Repr

namespace Sequence

/-- Whether a character is a control that counts as a blank. -/
def isBlankControl (c : Char) : Bool :=
  c == '\t' || c == '\n' || c == '\x0c' || c == '\r'

/-- Whether the terminator of strings, the byte 0x9c, is among the trailing bytes of a character in
UTF-8; each of them holds six bits of its number. -/
def holdsTerminator (c : Char) : Bool :=
  let n := c.toNat
  (0x80 ≤ n && n % 64 == 0x1c) || (0x800 ≤ n && n / 64 % 64 == 0x1c)
    || (0x10000 ≤ n && n / 4096 % 64 == 0x1c)

/-- Where the reader stands after a visible ASCII character, which outside of sequences is text. -/
def afterVisible (s : Sequence) (c : Char) : Sequence :=
  match s with
  | outside => outside
  | escape =>
    if c ≤ '/' then designation
    else if c = 'P' then deviceStart
    else if c = 'X' ∨ c = '^' ∨ c = '_' then contents
    else if c = '[' then control
    else if c = ']' then command
    else outside
  | designation => if c ≤ '/' then designation else outside
  | control => if c ≤ '?' then control else outside
  | deviceStart =>
    if c ≤ '/' then deviceIntermediates else if c ≤ '?' then deviceParameters else contents
  | deviceParameters =>
    if c ≤ '/' then deviceIntermediates else if c ≤ ';' then deviceParameters else contents
  | deviceIntermediates => if c ≤ '/' then deviceIntermediates else contents
  | contents => contents
  | command => command

/-- Where the reader stands after a character. -/
def after (s : Sequence) (c : Char) : Sequence :=
  if c = '\x1b' then escape
  else if c = '\x18' ∨ c = '\x1a' then outside
  else if ' ' ≤ c ∧ c ≤ '~' then s.afterVisible c
  else match s with
    | contents => if holdsTerminator c then outside else contents
    | command => if c = '\x07' then outside else command
    | s => s

/-- Whether a character is shown to a reader who stands there. Control blanks are shown even inside
the sequences that are no strings. -/
def shows (s : Sequence) (c : Char) : Bool :=
  match s with
  | outside => isBlankControl c || ' ' ≤ c && c != '\x7f'
  | escape | designation | control => isBlankControl c
  | _ => false

/-- The characters of a text that are shown. A blank inside an unfinished sequence is shown, and so
is what follows it (`run`) up to the next character that is shown nowhere; there the sequence goes
on. -/
def shown (s : Sequence) (run : Bool) : List Char → List Char
  | [] => []
  | c :: cs =>
    if run && outside.shows c then
      c :: shown (if c ≤ '~' then s else outside) true cs
    else if s.shows c then c :: shown (s.after c) true cs
    else shown (s.after c) false cs

end Sequence

/-- A text without control sequences and control characters. -/
def plain (s : String) : String := String.ofList (Sequence.outside.shown false s.toList)

end GameBoy.Text

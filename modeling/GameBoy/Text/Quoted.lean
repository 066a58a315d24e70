import GameBoy.Text.Combining
import GameBoy.Text.Unprinted

/-!
# Quoted text

A text is quoted between double quotes. Quotes and backslashes are escaped, line ends and tabs have
letters of their own, and a character that could not be told on the page is written by its number:
one that leaves no mark, or one that is drawn on the character before it.
-/

namespace GameBoy.Text

/-- Whether a character is written by its number. -/
def isHidden (c : Char) : Bool := isUnprinted c || isCombining c

/-- A character inside quotes. -/
def escaped (c : Char) : List Char :=
  match c with
  | '"' => ['\\', '"']
  | '\\' => ['\\', '\\']
  | '\x00' => ['\\', '0']
  | '\t' => ['\\', 't']
  | '\n' => ['\\', 'n']
  | '\r' => ['\\', 'r']
  | c =>
    if isHidden c then ['\\', 'u', '\x7b'] ++ Nat.toDigits 16 c.toNat ++ ['\x7d'] else [c]

/-- A text between quotes. -/
def quoted (s : String) : String := "\"" ++ String.ofList (s.toList.flatMap escaped) ++ "\""

end GameBoy.Text

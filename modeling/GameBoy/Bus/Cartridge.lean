/-!
# Cartridges

The header of a cartridge image names the cartridge and tells its kind. In a banked cartridge the
addresses from 0x4000 to 0x7fff are a window on the image that moves in steps of 0x2000 bytes, and
writes from 0x2000 to 0x7fff only choose its place.
-/

namespace GameBoy

/-- The contents of a cartridge or of a boot ROM. -/
abbrev Image := Array UInt8

/-- What the header of a cartridge image says. -/
structure Header where
  title : String := ""
  cartType : UInt8 := 0
  romSize : UInt8 := 0
  ramSize : UInt8 := 0
  deriving DecidableEq, Repr

namespace Header

/-- The bytes of the title. An image that ends inside them has none. -/
def titleBytes (image : Image) : List UInt8 :=
  if 0x144 ≤ image.size then (image.extract 0x134 0x144).toList else []

/-- Reads the header of an image. The title ends at the first zero, each of its bytes is the
character of that number, and a field past the end of the image is zero. -/
def parse (image : Image) : Header where
  title := String.ofList
    (((titleBytes image).takeWhile (· != 0)).map fun b => Char.ofNat b.toNat)
  cartType := image[0x147]?.getD 0
  romSize := image[0x148]?.getD 0
  ramSize := image[0x149]?.getD 0

/-- The header in one line, its numbers in decimal. -/
def text (h : Header) : String :=
  s!"{h.title} (cart mode: {h.cartType.toNat}, "
    ++ s!"rom size: {h.romSize.toNat}, ram size: {h.ramSize.toNat})"

end Header

/-- The kinds of cartridges. -/
inductive BankMode where
  | romOnly | banked
  deriving DecidableEq, Repr

namespace BankMode

/-- The kind that the type byte of a header tells. -/
def ofCartType (cartType : UInt8) : BankMode := if cartType = 1 then .banked else .romOnly

/-- The name in log records. -/
def name : BankMode → String
  | .romOnly => "RomOnly"
  | .banked => "Banked"

end BankMode

/-- The window on a cartridge image, placed by a bank number of five bits. -/
structure BankWindow where
  mode : BankMode := .romOnly
  bank : UInt8 := 0
  deriving DecidableEq, Repr

namespace BankWindow

/-- Whether a write to an address chooses the bank. -/
def selects (w : BankWindow) (addr : UInt16) : Bool :=
  w.mode == .banked && 0x2000 ≤ addr && addr < 0x8000

/-- Places the window by the lower five bits of a written value. -/
def select (w : BankWindow) (value : UInt8) : BankWindow := { w with bank := value &&& 0x1f }

/-- The place of the window in steps; bank 0 stands for the first step. -/
def place (w : BankWindow) : Nat := if w.bank = 0 then 1 else w.bank.toNat

/-- The offset in the image that an address shows, if the address lies in the window. -/
def offset? (w : BankWindow) (addr : UInt16) : Option Nat :=
  if w.mode == .banked && 0x4000 ≤ addr && addr < 0x8000 then
    some (w.place * 0x2000 + addr.toNat - 0x2000)
  else none

end BankWindow

end GameBoy

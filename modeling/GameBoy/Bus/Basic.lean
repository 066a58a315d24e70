import GameBoy.Bus.Scanline
import GameBoy.Action
import GameBoy.Cells

/-!
# The memory bus

The bus joins a map of 64 KiB, a boot image that may cover its first page, the window on a banked
cartridge and the memory-mapped registers. `peek` and `poke` reach the cell behind an address
without side effects; `read` and `write` are what the processor does.
-/

namespace GameBoy

/-- The state of the bus. -/
structure Bus where
  map : Cells 16 := Store.fill 16 0
  /-- Room for collaborators, which the machine itself never touches. -/
  scratch : Cells 16 := Store.fill 16 0
  boot : Cells 8 := Store.fill 8 0
  bootMapped : Bool := false
  cartridge : Image := #[]
  header : Header := {}
  window : BankWindow := {}
  joypad : Joypad := {}
  scanline : Scanline
  /-- Whether writes into the cartridge area that choose no bank are faults. -/
  strict : Bool := false
  /-- Whether the serial transcript is copied to the terminal. -/
  echo : Bool := false
  /-- The bytes sent over the serial line, the last one first. -/
  sent : List UInt8 := []
  fault : Option Fault := none

namespace Bus

/-- A bus without a cartridge whose scanline counter follows a clock. -/
def new (clock : Clock) : Bus := { scanline := { clock } }

/-- The bytes sent over the serial line. -/
def transcript (bus : Bus) : List UInt8 := bus.sent.reverse

/-- The first address behind the boot image. -/
def bootEnd : UInt16 := 0x100

/-- The first address behind the part of the cartridge that is copied to the map. -/
def romEnd : UInt16 := 0x8000

/-- The stored value of a register. -/
def io (bus : Bus) (r : IoRegister) : UInt8 := bus.map.get r.addr.toNat

/-- Stores the value of a register. -/
def setIo (bus : Bus) (r : IoRegister) (v : UInt8) : Bus :=
  { bus with map := bus.map.set r.addr.toNat v }

/-- Marks an interrupt as requested. -/
def request (bus : Bus) (i : Interrupt) : Bus :=
  bus.setIo .interruptFlag (bus.io .interruptFlag ||| i.bit)

/-- The byte in the cell behind an address: in the boot image while it is mapped, in the cartridge
inside the bank window, where nothing past its end reads as 0xff, and in the map otherwise. -/
def peek (bus : Bus) (addr : UInt16) : UInt8 :=
  if bus.bootMapped && addr < bootEnd then bus.boot.get addr.toNat
  else match bus.window.offset? addr with
    | some offset => bus.cartridge[offset]?.getD 0xff
    | none => bus.map.get addr.toNat

/-- An image with one byte replaced, filled up with 0xff as far as necessary. -/
def setImage (image : Image) (offset : Nat) (v : UInt8) : Image :=
  let image := image ++ Array.replicate (offset + 1 - image.size) 0xff
  image.setIfInBounds offset v

/-- Replaces the byte in the cell behind an address. -/
def poke (bus : Bus) (addr : UInt16) (v : UInt8) : Bus :=
  if bus.bootMapped && addr < bootEnd then { bus with boot := bus.boot.set addr.toNat v }
  else match bus.window.offset? addr with
    | some offset => { bus with cartridge := setImage bus.cartridge offset v }
    | none => { bus with map := bus.map.set addr.toNat v }

/-- Replaces the bytes behind consecutive addresses, as far as there are addresses, and gives what
was there before. -/
def patch (bus : Bus) (addr : UInt16) (bytes : List UInt8) : List UInt8 × Bus :=
  go bus addr.toNat bytes
where
  go (bus : Bus) (a : Nat) : List UInt8 → List UInt8 × Bus
    | [] => ([], bus)
    | b :: bs =>
      if a < 0x10000 then
        let old := bus.peek (UInt16.ofNat a)
        let (rest, bus) := go (bus.poke (UInt16.ofNat a) b) (a + 1) bs
        (old :: rest, bus)
      else ([], bus)

end Bus

end GameBoy

import GameBoy.Bus.Basic

/-!
# Bus accesses

Reading an address gives the byte behind it, except at two registers: LY shows the current line and
requests an interrupt when the vertical blank begins, and P1 shows the held keys. Writing chooses a
bank, or is refused in the cartridge area of a strict bus, or acts on a register and then stores the
byte in the map.
-/

namespace GameBoy.Bus

/-- Maps the boot image over the first page. -/
def enableBoot : Action Bus Unit := do
  .note .bootEnabled
  .modify fun bus => { bus with bootMapped := true }

/-- Lifts the boot image. -/
def disableBoot : Action Bus Unit := do
  let bus ← .get
  if bus.bootMapped then .note .bootDisabled
  .modify fun bus => { bus with bootMapped := false }

/-- Reads the scanline counter, which may request an interrupt. -/
def readLine : Action Bus UInt8 := do
  let bus ← .get
  let line := bus.scanline.line
  let entersBlank := bus.scanline.entersBlank
  .modify fun bus => { bus with scanline := bus.scanline.afterRead }
  if entersBlank then .modify fun bus => bus.request .vblank
  return line

/-- Reads a register. -/
def readIo (r : IoRegister) : Action Bus UInt8 := do
  let bus ← .get
  match r with
  | .ly => readLine
  | .p1 =>
    let value := bus.joypad.read (bus.io .p1)
    .note (.joypadRead value)
    return value
  | r =>
    if r.unhandledRead then .note (.unhandledRead r)
    return bus.io r

/-- Reads the byte at an address. -/
def read (addr : UInt16) : Action Bus UInt8 := do
  let bus ← .get
  let value ← match IoRegister.ofAddr? addr with
    | some r => readIo r
    | none => pure (bus.peek addr)
  .emit (.read addr value)
  return value

/-- Reads the word at an address, its low byte first. -/
def readWord (addr : UInt16) : Action Bus UInt16 := do
  let lo ← read addr
  let hi ← read (addr + 1)
  return Word.join hi lo

/-- Whether a byte is sent as it is: a visible character of ASCII or a blank. -/
def isPrintable (b : UInt8) : Bool := 0x20 ≤ b && b ≤ 0x7e

/-- Starts a serial transfer of the byte in SB, if the control value asks for one. -/
def transfer (control : UInt8) : Action Bus Unit := do
  let bus ← .get
  let byte := bus.io .sb
  if control &&& 0x80 != 0 && isPrintable byte then
    .modify fun bus => { bus with sent := byte :: bus.sent }
    if bus.echo then .emit (.echo byte)

/-- Selects a group of keys. -/
def selectKeys (value : UInt8) : Action Bus Unit := do
  if Joypad.asksFor value .directions then .note (.groupSelected .directions)
  if Joypad.asksFor value .buttons then .note (.groupSelected .buttons)
  .modify fun bus => { bus with joypad := bus.joypad.select value }

/-- What writing a register does besides storing the value. -/
def writeIo (r : IoRegister) (value : UInt8) : Action Bus Unit := do
  let bus ← .get
  match r with
  | .p1 => selectKeys value
  | .sc => transfer value
  | .boot => if bus.bootMapped && value == 1 then disableBoot
  | .lcdc | .interruptFlag | .interruptEnable => .note (.registerWritten r value)
  | r => if r.unhandledWrite then .note (.unhandledWrite r value)

/-- Stores a byte in the map. -/
def store (addr : UInt16) (value : UInt8) : Action Bus Unit :=
  .modify fun bus => { bus with map := bus.map.set addr.toNat value }

/-- Writes a byte to an address. The boot register is not stored, and a refused write replaces the
fault of an earlier one. -/
def write (addr : UInt16) (value : UInt8) : Action Bus Unit := do
  let bus ← .get
  .emit (.write addr value)
  if bus.window.selects addr then
    .note (.bankSelected value)
    .modify fun bus => { bus with window := bus.window.select value }
  else if addr < romEnd && bus.strict then
    .note (.busFault (.romWrite addr value))
    .modify fun bus => { bus with fault := some (.romWrite addr value) }
  else match IoRegister.ofAddr? addr with
    | some r =>
      writeIo r value
      if r != .boot then store addr value
    | none => store addr value

/-- Writes a word, its low byte first. -/
def writeWord (addr : UInt16) (value : UInt16) : Action Bus Unit := do
  write addr (Word.low value)
  write (addr + 1) (Word.high value)

/-- Writes bytes to consecutive addresses. -/
def writeAll (addr : UInt16) : List UInt8 → Action Bus Unit
  | [] => pure ()
  | b :: bs => do
    write addr b
    writeAll (addr + 1) bs

/-- Presses a key. -/
def press (key : Key) : Action Bus Unit := do
  .modify fun bus => { bus with joypad := bus.joypad.setHeld key true }
  let bus ← .get
  .note (.pressed key bus.joypad)

/-- Lets a key go. -/
def release (key : Key) : Action Bus Unit := do
  .modify fun bus => { bus with joypad := bus.joypad.setHeld key false }
  let bus ← .get
  .note (.released key bus.joypad)

/-- Requests an interrupt. -/
def requestInterrupt (i : Interrupt) : Action Bus Unit := .modify fun bus => bus.request i

end GameBoy.Bus

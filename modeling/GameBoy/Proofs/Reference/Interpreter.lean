import GameBoy.Machine.Basic
import Mathlib.Data.Nat.Bitwise

/-!
# A reference interpreter

The instruction set once more, as it is documented: an opcode is taken apart into its fields, `x` in
bits 7 and 6, `y` in bits 5 to 3, `z` in bits 2 to 0, `p` in bits 5 and 4 and `q` in bit 3, the
fields name an operation, and the operation is evaluated with the arithmetic of the numbers. Prices
are read off a table. The interpreter has the machine as its state and reaches the memory through
the bus, and shares nothing else with the execution of instructions.
-/

namespace GameBoy.Reference

/-! ## Arithmetic -/

/-- The sum of two bytes and a carry, with the carries out of bits 3 and 7. -/
def add (a n c : Nat) : Nat × Flags :=
  let sum := (a + n + c) % 256
  (sum, {
    zero := sum = 0, subtract := false
    halfCarry := a % 16 + n % 16 + c > 15
    carry := a + n + c > 255 })

/-- The difference of a byte from another one and a borrow, with the borrows into bits 3 and 7. -/
def sub (a n c : Nat) : Nat × Flags :=
  let difference := (((a : Int) - n - c) % 256).toNat
  (difference, {
    zero := difference = 0, subtract := true
    halfCarry := a % 16 < n % 16 + c
    carry := a < n + c })

/-- The operation of the accumulator with a byte that a field of three bits names. -/
def combine (y a n c : Nat) : Nat × Flags :=
  match y with
  | 0 => add a n 0
  | 1 => add a n c
  | 2 => sub a n 0
  | 3 => sub a n c
  | 4 => (a &&& n, { zero := a &&& n = 0, halfCarry := true })
  | 5 => (a ^^^ n, { zero := a ^^^ n = 0 })
  | 6 => (a ||| n, { zero := a ||| n = 0 })
  | _ => (a, (sub a n 0).2)

/-- One more, where carry is kept. -/
def inc (v : Nat) (f : Flags) : Nat × Flags :=
  let sum := (v + 1) % 256
  (sum, { zero := sum = 0, subtract := false, halfCarry := v % 16 = 15, carry := f.carry })

/-- One less, where carry is kept. -/
def dec (v : Nat) (f : Flags) : Nat × Flags :=
  let difference := (((v : Int) - 1) % 256).toNat
  (difference, {
    zero := difference = 0, subtract := true, halfCarry := v % 16 = 0, carry := f.carry })

/-- The sum of two words, with the carries out of bits 11 and 15; zero is kept. -/
def addWord (a n : Nat) (f : Flags) : Nat × Flags :=
  ((a + n) % 65536, {
    zero := f.zero, subtract := false
    halfCarry := a % 4096 + n % 4096 > 4095
    carry := a + n > 65535 })

/-- A byte in two's complement. -/
def signed (e : Nat) : Int := if e < 128 then e else e - 256

/-- A word displaced by a byte, with the carries of the unsigned sum of the low bytes. -/
def displace (a e : Nat) : Nat × Flags :=
  (((a + signed e) % 65536).toNat, {
    zero := false, subtract := false
    halfCarry := a % 16 + e % 16 > 15
    carry := a % 256 + e > 255 })

/-- The decimal correction of a sum or difference. -/
def correct (a : Nat) (f : Flags) : Nat × Flags :=
  let low := f.halfCarry || !f.subtract && a % 16 > 9
  let high := f.carry || !f.subtract && a > 0x99
  let correction : Int := (if low then 6 else 0) + (if high then 0x60 else 0)
  let result := ((if f.subtract then a - correction else a + correction) % 256).toNat
  (result, { zero := result = 0, subtract := f.subtract, halfCarry := false, carry := high })

/-- The rotation or shift that a field of three bits names: the result and the bit that falls out. -/
def shift (y v c : Nat) : Nat × Nat :=
  match y with
  | 0 => (v * 2 % 256 + v / 128, v / 128)
  | 1 => (v / 2 + 128 * (v % 2), v % 2)
  | 2 => (v * 2 % 256 + c, v / 128)
  | 3 => (v / 2 + 128 * c, v % 2)
  | 4 => (v * 2 % 256, v / 128)
  | 5 => (v / 2 + 128 * (v / 128), v % 2)
  | 6 => (v % 16 * 16 + v / 16, 0)
  | _ => (v / 2, v % 2)

/-- A rotation or shift behind the prefix, which tells whether the result is zero. -/
def rotate (y v c : Nat) : Nat × Flags :=
  let (result, out) := shift y v c
  (result, { zero := result = 0, carry := out = 1 })

/-- A rotation of the accumulator, which never tells that the result is zero. -/
def rotateA (y v c : Nat) : Nat × Flags :=
  let (result, out) := shift y v c
  (result, { zero := false, carry := out = 1 })

/-- The flags as the byte F. -/
def pack (f : Flags) : Nat :=
  128 * f.zero.toNat + 64 * f.subtract.toNat + 32 * f.halfCarry.toNat + 16 * f.carry.toNat

/-- The flags in the byte F. -/
def unpack (b : Nat) : Flags where
  zero := b.testBit 7
  subtract := b.testBit 6
  halfCarry := b.testBit 5
  carry := b.testBit 4

/-! ## Operations -/

/-- What an opcode asks for, with the fields that it is about. -/
inductive Op where
  | nop | halt | di | ei
  /-- `LD r[y], r[z]` -/
  | copy (y z : Nat)
  /-- `LD r[y], n` -/
  | loadByte (y : Nat)
  /-- `LD (rr[p]), A` -/
  | storeAt (p : Nat)
  /-- `LD A, (rr[p])` -/
  | loadAt (p : Nat)
  | storeHigh | loadHigh | storeHighC | loadHighC | storeFar | loadFar
  /-- `LD rp[p], nn` -/
  | loadWord (p : Nat)
  | storeSp | spFromHl | hlFromSp
  | push (p : Nat)
  | pop (p : Nat)
  /-- `alu[y] A, r[z]` -/
  | combine (y z : Nat)
  /-- `alu[y] A, n` -/
  | combineByte (y : Nat)
  | inc (y : Nat)
  | dec (y : Nat)
  | daa | cpl | scf | ccf
  | rotateA (y : Nat)
  | incWord (p : Nat)
  | decWord (p : Nat)
  | addHl (p : Nat)
  | addSp
  /-- Transfers of control, perhaps under the condition `cc[y]`. -/
  | jumpRelative (cc : Option Nat)
  | jump (cc : Option Nat)
  | jumpHl
  | call (cc : Option Nat)
  | ret (cc : Option Nat)
  | reti
  | restart (y : Nat)

/-- What an opcode other than the prefix asks for; there is nothing for STOP and for the opcodes
that the processor lacks. -/
def decode (opcode : Nat) : Option Op :=
  let x := opcode / 64
  let y := opcode / 8 % 8
  let z := opcode % 8
  let p := opcode / 16 % 4
  let q := opcode / 8 % 2
  match x, z with
  | 0, 0 =>
    if y = 0 then some .nop
    else if y = 1 then some .storeSp
    else if y = 2 then none
    else if y = 3 then some (.jumpRelative none)
    else some (.jumpRelative (some (y - 4)))
  | 0, 1 => if q = 0 then some (.loadWord p) else some (.addHl p)
  | 0, 2 => if q = 0 then some (.storeAt p) else some (.loadAt p)
  | 0, 3 => if q = 0 then some (.incWord p) else some (.decWord p)
  | 0, 4 => some (.inc y)
  | 0, 5 => some (.dec y)
  | 0, 6 => some (.loadByte y)
  | 0, _ => [Op.rotateA 0, .rotateA 1, .rotateA 2, .rotateA 3, .daa, .cpl, .scf, .ccf][y]?
  | 1, _ => if y = 6 ∧ z = 6 then some .halt else some (.copy y z)
  | 2, _ => some (.combine y z)
  | _, 0 =>
    if y < 4 then some (.ret (some y))
    else [Op.storeHigh, .addSp, .loadHigh, .hlFromSp][y - 4]?
  | _, 1 => if q = 0 then some (.pop p) else [Op.ret none, .reti, .jumpHl, .spFromHl][p]?
  | _, 2 =>
    if y < 4 then some (.jump (some y))
    else [Op.storeHighC, .storeFar, .loadHighC, .loadFar][y - 4]?
  | _, 3 =>
    if y = 0 then some (.jump none)
    else if y = 6 then some .di
    else if y = 7 then some .ei
    else none
  | _, 4 => if y < 4 then some (.call (some y)) else none
  | _, 5 =>
    if q = 0 then some (.push p)
    else if p = 0 then some (.call none)
    else none
  | _, 6 => some (.combineByte y)
  | _, _ => some (.restart y)

/-! ## Prices -/

/-- The prices of the opcodes, in rows of sixteen; for a conditional transfer of control the price if
it does not happen. -/
def prices : List (List Nat) := [
  [4, 12, 8, 8, 4, 4, 8, 4, 20, 8, 8, 8, 4, 4, 8, 4],
  [0, 12, 8, 8, 4, 4, 8, 4, 12, 8, 8, 8, 4, 4, 8, 4],
  [8, 12, 8, 8, 4, 4, 8, 4, 8, 8, 8, 8, 4, 4, 8, 4],
  [8, 12, 8, 8, 12, 12, 12, 4, 8, 8, 8, 8, 4, 4, 8, 4],
  [4, 4, 4, 4, 4, 4, 8, 4, 4, 4, 4, 4, 4, 4, 8, 4],
  [4, 4, 4, 4, 4, 4, 8, 4, 4, 4, 4, 4, 4, 4, 8, 4],
  [4, 4, 4, 4, 4, 4, 8, 4, 4, 4, 4, 4, 4, 4, 8, 4],
  [8, 8, 8, 8, 8, 8, 4, 8, 4, 4, 4, 4, 4, 4, 8, 4],
  [4, 4, 4, 4, 4, 4, 8, 4, 4, 4, 4, 4, 4, 4, 8, 4],
  [4, 4, 4, 4, 4, 4, 8, 4, 4, 4, 4, 4, 4, 4, 8, 4],
  [4, 4, 4, 4, 4, 4, 8, 4, 4, 4, 4, 4, 4, 4, 8, 4],
  [4, 4, 4, 4, 4, 4, 8, 4, 4, 4, 4, 4, 4, 4, 8, 4],
  [8, 12, 12, 16, 12, 16, 8, 16, 8, 16, 12, 0, 12, 24, 8, 16],
  [8, 12, 12, 0, 12, 16, 8, 16, 8, 16, 12, 0, 12, 0, 8, 16],
  [12, 12, 8, 0, 0, 16, 8, 16, 16, 4, 16, 0, 0, 0, 8, 16],
  [12, 12, 8, 4, 0, 16, 8, 16, 12, 8, 16, 4, 0, 0, 8, 16]
]

/-- The price of an opcode without surcharge. -/
def price (opcode : Nat) : Nat := (prices.getD (opcode / 16) []).getD (opcode % 16) 0

/-- Whether the flags meet the condition that a field of two bits names. -/
def meets (f : Flags) : Nat → Bool
  | 0 => !f.zero
  | 1 => f.zero
  | 2 => !f.carry
  | _ => f.carry

/-- Whether a transfer of control happens. -/
def taken (f : Flags) : Option Nat → Bool
  | none => true
  | some y => meets f y

/-- What a conditional transfer of control costs more if it happens. -/
def surcharge (f : Flags) : Op → Nat
  | .jumpRelative (some y) | .jump (some y) => if meets f y then 4 else 0
  | .call (some y) | .ret (some y) => if meets f y then 12 else 0
  | _ => 0

/-- The price of what is behind the prefix, whose memory forms are dearer and whose bit tests do not
write back. -/
def prefixedPrice (opcode : Nat) : Nat :=
  if opcode % 8 = 6 then if opcode / 64 = 1 then 12 else 16 else 8

/-! ## Evaluation -/

/-- The registers. -/
def registers : StateM Machine Registers := fun m => (m.cpu.registers, m)

/-- Changes the processor. -/
def modifyCpu (g : Cpu → Cpu) : StateM Machine Unit := fun m => ((), { m with cpu := g m.cpu })

/-- Changes the registers. -/
def modifyRegisters (g : Registers → Registers) : StateM Machine Unit :=
  modifyCpu fun cpu => { cpu with registers := g cpu.registers }

/-- Reads the byte at an address. -/
def load (addr : Nat) : StateM Machine Nat := fun m =>
  let done := Bus.read (UInt16.ofNat addr) m.bus
  (done.value.toNat, { m with bus := done.state })

/-- Writes a byte to an address. -/
def store (addr v : Nat) : StateM Machine Unit := fun m =>
  let done := Bus.write (UInt16.ofNat addr) (UInt8.ofNat v) m.bus
  ((), { m with bus := done.state })

/-- Reads the word at an address. -/
def loadPair (addr : Nat) : StateM Machine Nat := do
  let lo ← load addr
  let hi ← load ((addr + 1) % 65536)
  return 256 * hi + lo

/-- Reads the byte behind the opcode, which is kept in the record of the instruction. -/
def immediate : StateM Machine Nat := do
  let pc := (← registers).pc.toNat
  let n ← load pc
  modifyCpu fun cpu => { cpu with
    registers := { cpu.registers with pc := UInt16.ofNat ((pc + 1) % 65536) }
    last := { cpu.last with byte := some (UInt8.ofNat n) } }
  return n

/-- Reads the word behind the opcode, which is kept in the record of the instruction. -/
def immediatePair : StateM Machine Nat := do
  let pc := (← registers).pc.toNat
  let nn ← loadPair pc
  modifyCpu fun cpu => { cpu with
    registers := { cpu.registers with pc := UInt16.ofNat ((pc + 2) % 65536) }
    last := { cpu.last with word := some (UInt16.ofNat nn) } }
  return nn

/-- HL as a number. -/
def hl (r : Registers) : Nat := 256 * r.h.toNat + r.l.toNat

/-- The byte that a field of three bits names. -/
def get (y : Nat) : StateM Machine Nat := do
  let r ← registers
  match y with
  | 0 => return r.b.toNat
  | 1 => return r.c.toNat
  | 2 => return r.d.toNat
  | 3 => return r.e.toNat
  | 4 => return r.h.toNat
  | 5 => return r.l.toNat
  | 6 => load (hl r)
  | _ => return r.a.toNat

/-- Replaces the byte that a field of three bits names. -/
def put (y v : Nat) : StateM Machine Unit :=
  match y with
  | 0 => modifyRegisters fun r => { r with b := UInt8.ofNat v }
  | 1 => modifyRegisters fun r => { r with c := UInt8.ofNat v }
  | 2 => modifyRegisters fun r => { r with d := UInt8.ofNat v }
  | 3 => modifyRegisters fun r => { r with e := UInt8.ofNat v }
  | 4 => modifyRegisters fun r => { r with h := UInt8.ofNat v }
  | 5 => modifyRegisters fun r => { r with l := UInt8.ofNat v }
  | 6 => do store (hl (← registers)) v
  | _ => modifyRegisters fun r => { r with a := UInt8.ofNat v }

/-- The word register that a field of two bits names, with SP as the last one. -/
def pair (r : Registers) : Nat → Nat
  | 0 => 256 * r.b.toNat + r.c.toNat
  | 1 => 256 * r.d.toNat + r.e.toNat
  | 2 => hl r
  | _ => r.sp.toNat

/-- Replaces such a register. -/
def setPair (v : Nat) (r : Registers) : Nat → Registers
  | 0 => { r with b := UInt8.ofNat (v / 256), c := UInt8.ofNat (v % 256) }
  | 1 => { r with d := UInt8.ofNat (v / 256), e := UInt8.ofNat (v % 256) }
  | 2 => { r with h := UInt8.ofNat (v / 256), l := UInt8.ofNat (v % 256) }
  | _ => { r with sp := UInt16.ofNat v }

/-- The word register that a field of two bits names, with AF as the last one. -/
def stackPair (r : Registers) (p : Nat) : Nat :=
  if p < 3 then pair r p else 256 * r.a.toNat + pack r.flags

/-- Replaces such a register. -/
def setStackPair (v : Nat) (r : Registers) (p : Nat) : Registers :=
  if p < 3 then setPair v r p
  else { r with a := UInt8.ofNat (v / 256), flags := unpack (v % 256) }

/-- The address that a field of two bits names, behind which HL may be moved. -/
def address (p : Nat) : StateM Machine Nat := do
  let r ← registers
  match p with
  | 0 => return pair r 0
  | 1 => return pair r 1
  | 2 =>
    modifyRegisters fun r => setPair ((hl r + 1) % 65536) r 2
    return hl r
  | _ =>
    modifyRegisters fun r => setPair ((hl r + 65535) % 65536) r 2
    return hl r

/-- Stores the accumulator. -/
def storeA (addr : Nat) : StateM Machine Unit := do store addr (← registers).a.toNat

/-- Loads the accumulator. -/
def loadA (addr : Nat) : StateM Machine Unit := do
  let v ← load addr
  modifyRegisters fun r => { r with a := UInt8.ofNat v }

/-- Replaces the accumulator and the flags. -/
def accumulate (g : Nat → Flags → Nat × Flags) : StateM Machine Unit :=
  modifyRegisters fun r =>
    { r with a := UInt8.ofNat (g r.a.toNat r.flags).1, flags := (g r.a.toNat r.flags).2 }

/-- Replaces a byte and the flags. -/
def alter (y : Nat) (g : Nat → Flags → Nat × Flags) : StateM Machine Unit := do
  let v ← get y
  let f := (← registers).flags
  put y (g v f).1
  modifyRegisters fun r => { r with flags := (g v f).2 }

/-- Goes on at an address. -/
def jumpTo (addr : Nat) : StateM Machine Unit :=
  modifyRegisters fun r => { r with pc := UInt16.ofNat addr }

/-- Pushes a word, the high byte first. -/
def pushPair (v : Nat) : StateM Machine Unit := do
  let sp := (← registers).sp.toNat
  store ((sp + 65535) % 65536) (v / 256)
  store ((sp + 65534) % 65536) (v % 256)
  modifyRegisters fun r => { r with sp := UInt16.ofNat ((sp + 65534) % 65536) }

/-- Pops a word. -/
def popPair : StateM Machine Nat := do
  let sp := (← registers).sp.toNat
  let v ← loadPair sp
  modifyRegisters fun r => { r with sp := UInt16.ofNat ((sp + 2) % 65536) }
  return v

/-- Pushes the program counter and goes on at an address. -/
def callTo (addr : Nat) : StateM Machine Unit := do
  pushPair (← registers).pc.toNat
  jumpTo addr

/-- Goes on at the address that is popped. -/
def returnToCaller : StateM Machine Unit := do jumpTo (← popPair)

/-- Does something if a condition is met. -/
def provided (cc : Option Nat) (act : StateM Machine Unit) : StateM Machine Unit := do
  if taken (← registers).flags cc then act

/-- Evaluates what an opcode asks for, its immediates included. -/
def eval : Op → StateM Machine Unit
  | .nop => return
  | .halt => modifyCpu fun cpu => { cpu with halted := true }
  | .di => modifyCpu fun cpu => { cpu with ime := false }
  | .ei => modifyCpu fun cpu => { cpu with ime := true }
  | .copy y z => do put y (← get z)
  | .loadByte y => do put y (← immediate)
  | .storeAt p => do storeA (← address p)
  | .loadAt p => do loadA (← address p)
  | .storeHigh => do storeA (0xff00 + (← immediate))
  | .loadHigh => do loadA (0xff00 + (← immediate))
  | .storeHighC => do storeA (0xff00 + (← registers).c.toNat)
  | .loadHighC => do loadA (0xff00 + (← registers).c.toNat)
  | .storeFar => do storeA (← immediatePair)
  | .loadFar => do loadA (← immediatePair)
  | .loadWord p => do
    let nn ← immediatePair
    modifyRegisters fun r => setPair nn r p
  | .storeSp => do
    let nn ← immediatePair
    let sp := (← registers).sp.toNat
    store nn (sp % 256)
    store ((nn + 1) % 65536) (sp / 256)
  | .spFromHl => modifyRegisters fun r => { r with sp := UInt16.ofNat (hl r) }
  | .hlFromSp => do
    let e ← immediate
    modifyRegisters fun r =>
      { setPair (displace r.sp.toNat e).1 r 2 with flags := (displace r.sp.toNat e).2 }
  | .push p => do pushPair (stackPair (← registers) p)
  | .pop p => do
    let v ← popPair
    modifyRegisters fun r => setStackPair v r p
  | .combine y z => do
    let n ← get z
    accumulate fun a f => combine y a n f.carry.toNat
  | .combineByte y => do
    let n ← immediate
    accumulate fun a f => combine y a n f.carry.toNat
  | .inc y => alter y inc
  | .dec y => alter y dec
  | .daa => accumulate correct
  | .cpl => accumulate fun a f => (255 - a, { f with subtract := true, halfCarry := true })
  | .scf => accumulate fun a f => (a, { zero := f.zero, carry := true })
  | .ccf => accumulate fun a f => (a, { zero := f.zero, carry := !f.carry })
  | .rotateA y => accumulate fun a f => rotateA y a f.carry.toNat
  | .incWord p => modifyRegisters fun r => setPair ((pair r p + 1) % 65536) r p
  | .decWord p => modifyRegisters fun r => setPair ((pair r p + 65535) % 65536) r p
  | .addHl p => modifyRegisters fun r =>
    { setPair (addWord (hl r) (pair r p) r.flags).1 r 2 with
      flags := (addWord (hl r) (pair r p) r.flags).2 }
  | .addSp => do
    let e ← immediate
    modifyRegisters fun r =>
      { r with sp := UInt16.ofNat (displace r.sp.toNat e).1, flags := (displace r.sp.toNat e).2 }
  | .jumpRelative cc => do
    let e ← immediate
    provided cc (modifyRegisters fun r =>
      { r with pc := UInt16.ofNat ((r.pc.toNat + signed e) % 65536).toNat })
  | .jump cc => do
    let nn ← immediatePair
    provided cc (jumpTo nn)
  | .jumpHl => do jumpTo (hl (← registers))
  | .call cc => do
    let nn ← immediatePair
    provided cc (callTo nn)
  | .ret cc => provided cc returnToCaller
  | .reti => do
    modifyCpu fun cpu => { cpu with ime := true }
    returnToCaller
  | .restart y => callTo (8 * y)

/-- Evaluates what is behind the prefix: a rotation or shift, or the test, reset or setting of a
bit. -/
def evalPrefixed (opcode : Nat) : StateM Machine Unit :=
  let y := opcode / 8 % 8
  let z := opcode % 8
  match opcode / 64 with
  | 0 => alter z fun v f => rotate y v f.carry.toNat
  | 1 => do
    let v ← get z
    modifyRegisters fun r => { r with flags :=
      { zero := !v.testBit y, subtract := false, halfCarry := true, carry := r.flags.carry } }
  | 2 => do
    let v ← get z
    put z (if v.testBit y then v - 2 ^ y else v)
  | _ => do
    let v ← get z
    put z (if v.testBit y then v else v + 2 ^ y)

/-- Lifts the boot image when the program counter is behind its page. -/
def liftBoot : StateM Machine Unit := fun m =>
  if 0x100 ≤ m.cpu.registers.pc.toNat then ((), { m with bus := { m.bus with bootMapped := false } })
  else ((), m)

/-- Reads the opcode, which begins a new record of the instruction. -/
def fetchOpcode : StateM Machine Nat := do
  let pc := (← registers).pc.toNat
  let opcode ← load pc
  modifyCpu fun cpu => { cpu with
    registers := { cpu.registers with pc := UInt16.ofNat ((pc + 1) % 65536) }
    last := { addr := UInt16.ofNat pc, opcode := UInt8.ofNat opcode } }
  return opcode

/-- Fetches the opcode. -/
def fetch : StateM Machine Nat := do
  liftBoot
  fetchOpcode

/-- Evaluates the instruction of an opcode and answers with its price. -/
def run (opcode : Nat) : StateM Machine Nat :=
  if opcode = 0xcb then do
    let opcode ← immediate
    evalPrefixed opcode
    return prefixedPrice opcode
  else
    match decode opcode with
    | none => return 0
    | some op => do
      let f := (← registers).flags
      eval op
      return price opcode + surcharge f op

/-- Fetches and evaluates one instruction and answers with its price. -/
def step : StateM Machine Nat := do run (← fetch)

/-- The opcode that is next. -/
def nextOpcode (m : Machine) : Nat := (fetch m).1

end GameBoy.Reference

/-!
# Memory-mapped registers

The registers in the last page that have a name. Most are plain memory here although real hardware
drives them; those say so when they are read or written.
-/

namespace GameBoy

/-- The registers in the order of their addresses. -/
inductive IoRegister where
  | p1 | sb | sc | div | tima | tma | tac | interruptFlag | nr50 | nr51 | nr52 | lcdc | stat | scy
  | scx | ly | lyc | dma | bgp | obp0 | obp1 | wy | wx | boot | interruptEnable
  deriving DecidableEq, Repr

namespace IoRegister

/-- All registers, by address. -/
def all : List IoRegister :=
  [.p1, .sb, .sc, .div, .tima, .tma, .tac, .interruptFlag, .nr50, .nr51, .nr52, .lcdc, .stat, .scy,
   .scx, .ly, .lyc, .dma, .bgp, .obp0, .obp1, .wy, .wx, .boot, .interruptEnable]

/-- The address of a register. -/
def addr : IoRegister → UInt16
  | .p1 => 0xff00 | .sb => 0xff01 | .sc => 0xff02 | .div => 0xff04 | .tima => 0xff05
  | .tma => 0xff06 | .tac => 0xff07 | .interruptFlag => 0xff0f | .nr50 => 0xff24 | .nr51 => 0xff25
  | .nr52 => 0xff26 | .lcdc => 0xff40 | .stat => 0xff41 | .scy => 0xff42 | .scx => 0xff43
  | .ly => 0xff44 | .lyc => 0xff45 | .dma => 0xff46 | .bgp => 0xff47 | .obp0 => 0xff48
  | .obp1 => 0xff49 | .wy => 0xff4a | .wx => 0xff4b | .boot => 0xff50 | .interruptEnable => 0xffff

/-- The register at an address; below the last page there is none. -/
def ofAddr? (a : UInt16) : Option IoRegister :=
  if a < 0xff00 then none else all.find? fun r => r.addr == a

/-- Each register is found at its address, and nothing is found elsewhere. -/
theorem ofAddr?_eq_some_iff {a : UInt16} {r : IoRegister} : ofAddr? a = some r ↔ r.addr = a := by
  constructor
  · intro h
    unfold ofAddr? at h
    split at h
    · cases h
    · have h := List.find?_some h
      exact eq_of_beq h
  · intro h
    subst h
    cases r <;> rfl

/-- The short name of a register. -/
def label : IoRegister → String
  | .p1 => "P1" | .sb => "SB" | .sc => "SC" | .div => "DIV" | .tima => "TIMA" | .tma => "TMA"
  | .tac => "TAC" | .interruptFlag => "IF" | .nr50 => "NR50" | .nr51 => "NR51" | .nr52 => "NR52"
  | .lcdc => "LCDC" | .stat => "STAT" | .scy => "SCY" | .scx => "SCX" | .ly => "LY"
  | .lyc => "LYC" | .dma => "DMA" | .bgp => "BGP" | .obp0 => "OBP0" | .obp1 => "OBP1"
  | .wy => "WY" | .wx => "WX" | .boot => "BOOT" | .interruptEnable => "IE"

/-- The name of a register in log records, which for some explains the short one. -/
def name : IoRegister → String
  | .p1 => "P1 (Joypad)"
  | .sb => "SB (Serial Bus)"
  | .sc => "SC (Serial Control)"
  | .nr50 => "Sound channel control"
  | .nr51 => "Sound channel selection"
  | .nr52 => "Sound hardware control"
  | r => r.label

/-- Whether reading the register gives stored memory although hardware would drive it. -/
def unhandledRead : IoRegister → Bool
  | .sb | .sc | .div | .tima | .tma | .tac | .nr50 | .nr51 | .nr52 | .stat | .wy | .wx => true
  | _ => false

/-- Whether writing the register only stores the value although hardware would act on it. -/
def unhandledWrite : IoRegister → Bool
  | .tma | .tac | .nr50 | .nr51 | .nr52 | .stat | .ly | .dma | .wy | .wx => true
  | _ => false

end IoRegister

end GameBoy

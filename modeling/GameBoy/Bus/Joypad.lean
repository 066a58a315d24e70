/-!
# Joypad

Eight keys in two groups of four share the low nibble of one register. A group is selected by
writing the register, and reading it shows the held keys of the selected group as zero bits below
the stored upper nibble.
-/

namespace GameBoy

/-- The keys. -/
inductive Key where
  | up | down | left | right | a | b | start | select
  deriving DecidableEq, Repr

namespace Key

/-- All keys, group by group. -/
def all : List Key := [.up, .down, .left, .right, .a, .b, .start, .select]

/-- The name in log records. -/
def name : Key → String
  | .up => "Up" | .down => "Down" | .left => "Left" | .right => "Right"
  | .a => "A" | .b => "B" | .start => "Start" | .select => "Select"

/-- The place of a key among all keys. -/
def index : Key → Fin 8
  | .up => 0 | .down => 1 | .left => 2 | .right => 3
  | .a => 4 | .b => 5 | .start => 6 | .select => 7

/-- The bit of a key within its group. -/
def mask : Key → UInt8
  | .right | .a => 0x1
  | .left | .b => 0x2
  | .up | .select => 0x4
  | .down | .start => 0x8

end Key

/-- The two groups of keys. -/
inductive KeyGroup where
  | directions | buttons
  deriving DecidableEq, Repr

/-- The group that a key belongs to. -/
def Key.group : Key → KeyGroup
  | .up | .down | .left | .right => .directions
  | .a | .b | .start | .select => .buttons

/-- Which keys are held, by `Key.index`, and which group is selected. -/
structure Joypad where
  held : Vector Bool 8 := Vector.replicate 8 false
  group : KeyGroup := .buttons
  deriving DecidableEq, Repr

namespace Joypad

/-- Whether a key is held. -/
def holds (pad : Joypad) (key : Key) : Bool := pad.held[key.index]

/-- The joypad with one key held or let go. -/
def setHeld (pad : Joypad) (key : Key) (held : Bool) : Joypad :=
  { pad with held := pad.held.set key.index held }

/-- The selected keys as a nibble in which a held key is a zero bit. -/
def nibble (pad : Joypad) : UInt8 :=
  Key.all.foldl (fun bits key =>
    if key.group = pad.group ∧ pad.holds key then bits &&& ~~~key.mask else bits) 0x0f

/-- The register as it reads when `latched` is stored in it. -/
def read (pad : Joypad) (latched : UInt8) : UInt8 := (latched &&& 0xf0) ||| pad.nibble

/-- Whether a written value asks for a group: bit 4 clear for the directions, bit 5 clear for the
buttons. -/
def asksFor (value : UInt8) : KeyGroup → Bool
  | .directions => value &&& 0x10 == 0
  | .buttons => value &&& 0x20 == 0

/-- Selects the group that a written value asks for; the buttons win over the directions. -/
def select (pad : Joypad) (value : UInt8) : Joypad :=
  if asksFor value .buttons then { pad with group := .buttons }
  else if asksFor value .directions then { pad with group := .directions }
  else pad

/-- The state of the joypad as log records show it. -/
def text (pad : Joypad) : String :=
  let group := match pad.group with
    | .directions => "Direction"
    | .buttons => "Buttons"
  "KeyData \x7b down: [" ++ ", ".intercalate (pad.held.toList.map toString) ++ "], group: "
    ++ group ++ " \x7d"

end Joypad

end GameBoy

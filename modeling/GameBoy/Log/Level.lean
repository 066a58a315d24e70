/-!
# Log levels and filters

A record has a level, and it passes a filter if it is at least as severe as the filter asks of the
component that reports it. Components are named by paths; a filter may ask for another level below
one of them.
-/

namespace GameBoy

/-- The levels of records, the most severe first. -/
inductive Level where
  | error | warn | info | debug | trace
  deriving DecidableEq, Repr

namespace Level

/-- All levels, from the most severe one on. -/
def all : List Level := [.error, .warn, .info, .debug, .trace]

/-- The name in log records. -/
def name : Level → String
  | .error => "ERROR" | .warn => "WARN" | .info => "INFO" | .debug => "DEBUG" | .trace => "TRACE"

/-- The less severe, the greater. -/
def rank : Level → Nat
  | .error => 1 | .warn => 2 | .info => 3 | .debug => 4 | .trace => 5

/-- The level with a name, in upper or lower case. -/
def ofName? (name : String) : Option Level := all.find? fun l => l.name == name.toUpper

end Level

/-- The components that report. -/
inductive Component where
  | program | session | cpu | instructions | bus | joypad | video
  deriving DecidableEq, Repr

/-- The path of a component, below that of the program. -/
def Component.path : Component → String
  | .program => "dmg_core"
  | .session => "dmg_core::gameboy"
  | .cpu => "dmg_core::cpu"
  | .instructions => "dmg_core::cpu::ops"
  | .bus => "dmg_core::mem"
  | .joypad => "dmg_core::mem::key"
  | .video => "dmg_core::video"

/-- The least severe level that passes; `none` lets nothing pass. -/
abbrev Filter := Option Level

namespace Filter

/-- Whether a record of a level passes. -/
def passes (filter : Filter) (level : Level) : Bool :=
  match filter with
  | none => false
  | some most => level.rank ≤ most.rank

/-- The filter with a name: that of a level, or `off`. -/
def ofName? (name : String) : Option Filter :=
  if name.toUpper == "OFF" then some none else (Level.ofName? name).map some

end Filter

end GameBoy

/-!
# Scanline counter

The current picture line is derived from elapsed time: a frame lasts the 57th part of a second,
during which the line number sweeps once from 0 to 153. A counter remembers the line that it showed
last, so that it can tell the first reading inside the vertical blank.
-/

namespace GameBoy

/-- A source of time. The reading numbered `n` is `times n`, in nanoseconds from the start. -/
structure Clock where
  times : Nat → Nat
  asked : Nat := 0

namespace Clock

/-- A clock that starts at `start` and moves on by `step` after each reading. -/
def steady (start step : Nat) : Clock where
  times n := start + n * step

/-- The next reading. -/
def now (clock : Clock) : Nat := clock.times clock.asked

/-- The clock after one more reading. -/
def next (clock : Clock) : Clock := { clock with asked := clock.asked + 1 }

end Clock

/-- The length of a frame in nanoseconds. -/
def framePeriod : Nat := 1000000000 / 57

/-- The number of lines in a frame, the vertical blank included. -/
def lineCount : Nat := 154

/-- The first line of the vertical blank. -/
def firstBlankLine : UInt8 := 0x90

/-- The line shown at time `t`. -/
def lineAt (t : Nat) : UInt8 := UInt8.ofNat (t % framePeriod * lineCount / framePeriod)

/-- The line at a time as a number: no word of eight bits is too narrow for it. -/
theorem toNat_lineAt (t : Nat) :
    (lineAt t).toNat = t % framePeriod * lineCount / framePeriod := by
  have h : t % framePeriod < framePeriod := Nat.mod_lt _ (by decide)
  have h' : t % framePeriod * lineCount / framePeriod < 256 :=
    Nat.div_lt_of_lt_mul (by simp only [framePeriod, lineCount] at h ⊢; omega)
  rw [lineAt, UInt8.toNat_ofNat', Nat.mod_eq_of_lt h']

/-- A line number is always one of the lines of a frame. -/
theorem lineAt_lt (t : Nat) : (lineAt t).toNat < lineCount := by
  have h : t % framePeriod < framePeriod := Nat.mod_lt _ (by decide)
  rw [toNat_lineAt]
  exact Nat.div_lt_of_lt_mul (by simp only [framePeriod, lineCount] at h ⊢; omega)

/-- The scanline counter: its clock and the line that it showed last. -/
structure Scanline where
  clock : Clock
  last : UInt8 := 0

namespace Scanline

/-- The line that a reading shows now. -/
def line (s : Scanline) : UInt8 := lineAt s.clock.now

/-- Whether a reading now is the first to see the vertical blank since the last line above it. -/
def entersBlank (s : Scanline) : Bool := s.line ≥ firstBlankLine && s.last < firstBlankLine

/-- The counter after a reading. -/
def afterRead (s : Scanline) : Scanline where
  clock := s.clock.next
  last := s.line

end Scanline

end GameBoy

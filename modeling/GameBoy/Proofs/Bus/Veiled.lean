import GameBoy.Proofs.Bus.Mirrored
import GameBoy.Video

/-!
# Inputs behind the registers

The time and the held keys reach a bus from outside. They show at two registers alone, the scanline
counter and the joypad: two buses that differ in nothing else go the same way as long as neither of
these is read (`veiled_coupled`).
-/

namespace GameBoy

open GameBoy.Action (Lockstep)

/-- A reading of a register that shows an input. -/
def Event.Peeks : Event → Prop
  | .read addr _ => addr = 0xff44 ∨ addr = 0xff00
  | _ => False

instance : DecidablePred Event.Peeks
  | .read addr _ => inferInstanceAs (Decidable (addr = 0xff44 ∨ addr = 0xff00))
  | .write _ _ | .notice _ | .echo _ => inferInstanceAs (Decidable False)

/-- Which group of keys a written value selects does not depend on the keys. -/
lemma Joypad.select_held (pad : Joypad) (held : Vector Bool 8) (v : UInt8) :
    { pad with held : Joypad }.select v = { pad.select v with held } := by
  unfold select
  split
  · rfl
  · split <;> rfl

namespace Bus

/-- The bus with another clock and another remembered line, and with other keys held. -/
def withInputs (bus : Bus) (scanline : Scanline) (held : Vector Bool 8) : Bus :=
  { bus with scanline, joypad := { bus.joypad with held } }

/-- Two buses that are the same but for their inputs. -/
def Veiled (s t : Bus) : Prop := ∃ scanline held, t = s.withInputs scanline held

/-- The inputs of the first bus may be any. -/
lemma Veiled.left {s t : Bus} (h : Veiled s t) (scanline : Scanline) (held : Vector Bool 8) :
    Veiled (s.withInputs scanline held) t := by
  obtain ⟨scanline', held', rfl⟩ := h
  exact ⟨scanline', held', rfl⟩

/-- The inputs of the second bus may be any. -/
lemma Veiled.right {s t : Bus} (h : Veiled s t) (scanline : Scanline) (held : Vector Bool 8) :
    Veiled s (t.withInputs scanline held) := by
  obtain ⟨_, _, rfl⟩ := h
  exact ⟨scanline, held, rfl⟩

variable {bad : Event → Prop}

/-- Buses that differ in their inputs have the same memories. -/
lemma veiled_mirrored : Mirrored Veiled where
  map := fun ⟨_, _, e⟩ => by rw [e]; rfl
  boot := fun ⟨_, _, e⟩ => by rw [e]; rfl
  mapped := fun ⟨_, _, e⟩ => by rw [e]; rfl
  cartridge := fun ⟨_, _, e⟩ => by rw [e]; rfl
  window := fun ⟨_, _, e⟩ => by rw [e]; rfl
  echo := fun ⟨_, _, e⟩ => by rw [e]; rfl
  stored := fun ⟨scanline, held, e⟩ _ _ => ⟨scanline, held, by rw [e]; rfl⟩
  move := fun ⟨scanline, held, e⟩ _ => ⟨scanline, held, by rw [e]; rfl⟩
  choose := by
    rintro s _ ⟨scanline, held, rfl⟩ v
    refine ⟨scanline, held, ?_⟩
    simp only [withInputs, Joypad.select_held]
  send := fun ⟨scanline, held, e⟩ _ => ⟨scanline, held, by rw [e]; rfl⟩
  lift := fun ⟨scanline, held, e⟩ => ⟨scanline, held, by rw [e]; rfl⟩

/-- The registers that show the inputs are the ones whose readings do not go the same way. -/
lemma read_veiled (addr : UInt16) : Lockstep Veiled Event.Peeks (read addr) (read addr) := by
  by_cases h : addr = 0xff44 ∨ addr = 0xff00
  · exact fun s t _ hgood => absurd h (hgood _ (read_events s addr).1)
  · refine veiled_mirrored.read_lockstep fun r hr => veiled_mirrored.readIo_lockstep ?_ ?_
    · rintro rfl
      exact h (.inl hr.symm)
    · rintro rfl
      exact h (.inr hr.symm)

/-- A write goes the same way whatever the inputs are. -/
lemma write_veiled (addr : UInt16) (v : UInt8) :
    Lockstep Veiled bad (write addr v) (write addr v) := by
  refine veiled_mirrored.write_lockstep ?_ ?_ addr v
  · rintro s _ ⟨scanline, held, rfl⟩
    rfl
  · rintro s _ fault ⟨scanline, held, rfl⟩
    exact ⟨scanline, held, rfl⟩

/-- Up to a reading of the inputs the processor cannot tell the two buses apart. -/
lemma veiled_coupled : Coupled Veiled Event.Peeks :=
  veiled_mirrored.coupled read_veiled write_veiled

end Bus

/-- A screen looks at the inputs only by reading the scanline counter. -/
lemma Headless.turn_veiled (screen : Headless) :
    Lockstep Bus.Veiled Event.Peeks screen.turn screen.turn := by
  refine .get fun s t h => ?_
  rw [Bus.veiled_mirrored.io h]
  refine .ite (.pure _) (.bind (Bus.read_veiled _) fun line => ?_)
  exact .ite (.bind (.emit _) fun _ => .pure _) (.pure _)

end GameBoy

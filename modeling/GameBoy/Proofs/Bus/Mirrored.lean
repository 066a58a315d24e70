import GameBoy.Proofs.Machine.Coupled

/-!
# Buses with the same memories

Two buses that hold the same bytes, in the same places and behind the same window, cannot be told apart
by what is written to them (`Mirrored`), as long as both refuse the same writes: all writes go the same
way on them (`write_lockstep`), and so do the readings of all addresses whose register, if there
is one, shows the same on both (`read_lockstep`). Whatever else they differ in is kept from the processor.
-/

namespace GameBoy.Bus

open GameBoy.Action (Lockstep)

/-- A relation between buses with the same memories that everything keeps up that a write does, except
for a refusal. -/
structure Mirrored (S : Bus → Bus → Prop) : Prop where
  map {s t : Bus} (h : S s t) : t.map = s.map
  boot {s t : Bus} (h : S s t) : t.boot = s.boot
  mapped {s t : Bus} (h : S s t) : t.bootMapped = s.bootMapped
  cartridge {s t : Bus} (h : S s t) : t.cartridge = s.cartridge
  window {s t : Bus} (h : S s t) : t.window = s.window
  echo {s t : Bus} (h : S s t) : t.echo = s.echo
  stored {s t : Bus} (h : S s t) (a : Nat) (v : UInt8) :
    S { s with map := s.map.set a v } { t with map := t.map.set a v }
  move {s t : Bus} (h : S s t) (v : UInt8) :
    S { s with window := s.window.select v } { t with window := t.window.select v }
  choose {s t : Bus} (h : S s t) (v : UInt8) :
    S { s with joypad := s.joypad.select v } { t with joypad := t.joypad.select v }
  send {s t : Bus} (h : S s t) (byte : UInt8) :
    S { s with sent := byte :: s.sent } { t with sent := byte :: t.sent }
  lift {s t : Bus} (h : S s t) : S { s with bootMapped := false } { t with bootMapped := false }

namespace Mirrored

variable {S : Bus → Bus → Prop} {bad : Event → Prop} {s t : Bus}

/-- All registers show the same on both buses. -/
lemma io (hS : Mirrored S) (h : S s t) : t.io = s.io := by
  funext r
  rw [Bus.io, hS.map h, Bus.io]

/-- All bytes are the same on both buses. -/
lemma peek (hS : Mirrored S) (h : S s t) (addr : UInt16) : t.peek addr = s.peek addr := by
  simp only [Bus.peek, hS.map h, hS.boot h, hS.mapped h, hS.cartridge h, hS.window h]

/-- The boot image is lifted from both buses or from none. -/
lemma disableBoot_lockstep (hS : Mirrored S) : Lockstep S bad disableBoot disableBoot := by
  refine .get fun s t h => ?_
  rw [hS.mapped h]
  have hlift : Lockstep S bad (.modify fun bus => { bus with bootMapped := false })
      (.modify fun bus => { bus with bootMapped := false }) :=
    .modify fun _ _ h => hS.lift h
  exact .ite (.bind (.emit _) fun _ => hlift) hlift

/-! ## Readings -/

/-- A register that only shows what is stored shows the same. -/
lemma readIo_lockstep (hS : Mirrored S) {r : IoRegister} (hly : r ≠ .ly) (hp1 : r ≠ .p1) :
    Lockstep S bad (readIo r) (readIo r) := by
  refine .get fun s t h => ?_
  rw [hS.io h]
  split
  · exact absurd rfl hly
  · exact absurd rfl hp1
  · exact .ite (.bind (.emit _) fun _ => .pure _) (.pure _)

/-- An address is read the same way on both buses if its register is, where it has one. -/
lemma read_lockstep (hS : Mirrored S) {addr : UInt16}
    (h : ∀ r : IoRegister, r.addr = addr → Lockstep S bad (readIo r) (readIo r)) :
    Lockstep S bad (read addr) (read addr) := by
  refine .get fun s t hst => ?_
  rw [hS.peek hst]
  cases e : IoRegister.ofAddr? addr with
  | none => exact .bind (.pure _) fun _ => .bind (.emit _) fun _ => .pure _
  | some r =>
    have hr := h r (IoRegister.ofAddr?_eq_some_iff.mp e)
    exact .bind hr fun _ => .bind (.emit _) fun _ => .pure _

/-! ## Writes -/

/-- A selection of keys goes the same way on both buses. -/
lemma selectKeys_lockstep (hS : Mirrored S) (v : UInt8) :
    Lockstep S bad (selectKeys v) (selectKeys v) := by
  have hselect : Lockstep S bad (.modify fun bus => { bus with joypad := bus.joypad.select v })
      (.modify fun bus => { bus with joypad := bus.joypad.select v }) :=
    .modify fun _ _ h => hS.choose h v
  unfold selectKeys
  split <;> split
  · exact .bind (.emit _) fun _ => .bind (.emit _) fun _ => hselect
  · exact .bind (.emit _) fun _ => hselect
  · exact .bind (.emit _) fun _ => hselect
  · exact hselect

/-- A transfer goes the same way on both buses. -/
lemma transfer_lockstep (hS : Mirrored S) (v : UInt8) :
    Lockstep S bad (transfer v) (transfer v) := by
  refine .get fun s t h => ?_
  rw [hS.io h, hS.echo h]
  refine .ite (.bind (.modify fun _ _ h => hS.send h _) fun _ => ?_) (.pure _)
  exact .ite (.emit _) (.pure _)

/-- Writing a register does the same to both buses. -/
lemma writeIo_lockstep (hS : Mirrored S) (r : IoRegister) (v : UInt8) :
    Lockstep S bad (writeIo r v) (writeIo r v) := by
  refine .get fun s t h => ?_
  rw [hS.mapped h]
  split
  · exact hS.selectKeys_lockstep v
  · exact hS.transfer_lockstep v
  · exact .ite hS.disableBoot_lockstep (.pure _)
  · exact .emit _
  · exact .emit _
  · exact .emit _
  · exact .ite (.emit _) (.pure _)

/-- A write that goes through goes the same way on both buses. -/
lemma through_lockstep (hS : Mirrored S) (addr : UInt16) (v : UInt8) :
    Lockstep S bad (through addr v) (through addr v) := by
  have hstore : Lockstep S bad (store addr v) (store addr v) := .modify fun _ _ h => hS.stored h _ v
  unfold through
  split
  · exact .bind (hS.writeIo_lockstep _ v) fun _ => .ite hstore (.pure _)
  · exact hstore

/-- Buses of which both are strict or both are not take and refuse the same writes. -/
lemma write_lockstep (hS : Mirrored S) (hstrict : ∀ {s t}, S s t → t.strict = s.strict)
    (hfault : ∀ {s t} fault, S s t →
      S { s with fault := some fault } { t with fault := some fault })
    (addr : UInt16) (v : UInt8) : Lockstep S bad (write addr v) (write addr v) := by
  refine .get fun s t h => .bind (.emit _) fun _ => ?_
  rw [hS.window h, hstrict h]
  refine .ite (.bind (.emit _) fun _ => .modify fun _ _ h => hS.move h v) ?_
  refine .ite (.bind (.emit _) fun _ => .modify fun _ _ h => hfault _ h) ?_
  exact hS.through_lockstep addr v

/-- The processor cannot tell such buses apart if readings and writes go the same way on them. -/
lemma coupled (hS : Mirrored S) (hread : ∀ addr, Lockstep S bad (read addr) (read addr))
    (hwrite : ∀ addr v, Lockstep S bad (write addr v) (write addr v)) : Coupled S bad where
  read := hread
  write := hwrite
  lift := hS.disableBoot_lockstep
  flag h v := hS.stored h _ v
  requested h := congrFun (hS.io h) _
  enabled h := congrFun (hS.io h) _
  mapped := hS.mapped

end Mirrored

end GameBoy.Bus

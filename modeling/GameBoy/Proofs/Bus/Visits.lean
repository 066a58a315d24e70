import GameBoy.Video
import GameBoy.Proofs.Bus.Effects

/-!
# Visits to the bus

A collaborator that is given a bus sees it, except for whether it is strict, reads and writes it,
and can adjust it in some further ways (`Adjustment`). What can be made of that is a visit (`Visit`).
A relation that readings, writes and the adjustments of a visit respect is respected by the visit
(`Visit.ensures`).
-/

namespace GameBoy

namespace Bus

/-- What a collaborator can do to a bus besides reading and writing it. -/
inductive Adjustment where
  /-- Sets the register of the requested interrupts. -/
  | flags (v : UInt8)
  | keys (joypad : Joypad)
  /-- Maps or lifts the boot image. -/
  | boot (mapped : Bool)
  /-- Installs a boot image and maps it. -/
  | install (cells : Cells 8)
  | echo (on : Bool)
  | scratch (cells : Cells 16)
  /-- Stores a byte in the map, past everything that a write does besides. -/
  | store (addr : UInt16) (v : UInt8)
  /-- Replaces the bytes that readings show. -/
  | patch (addr : UInt16) (bytes : List UInt8)

namespace Adjustment

/-- What an adjustment does to a bus. -/
def apply : Adjustment → Bus → Bus
  | flags v, bus => bus.setIo .interruptFlag v
  | keys joypad, bus => { bus with joypad }
  | boot mapped, bus => { bus with bootMapped := mapped }
  | install cells, bus => { bus with boot := cells, bootMapped := true }
  | echo on, bus => { bus with echo := on }
  | scratch cells, bus => { bus with scratch := cells }
  | store addr v, bus => { bus with map := bus.map.set addr.toNat v }
  | patch addr bytes, bus => (bus.patch addr bytes).2

/-- Whether an adjustment is a signal to the program: a request or a key. -/
def IsSignal : Adjustment → Prop
  | flags _ | keys _ => True
  | _ => False

/-- Whether an adjustment leaves the memory behind the addresses and the boot image alone. -/
def HandsOff : Adjustment → Prop
  | install _ | store _ _ | patch _ _ => False
  | _ => True

/-- Signals keep their hands off the cartridge. -/
lemma IsSignal.handsOff {a : Adjustment} (h : a.IsSignal) : a.HandsOff := by
  cases a with
  | install | store | patch => exact h
  | flags | keys | boot | echo | scratch => trivial

end Adjustment

/-- What a collaborator can do on a visit to the bus whose adjustments have a property. What it sees of
the bus is the same whether the bus is strict or not. -/
inductive Visit (p : Adjustment → Prop) : {α : Type} → Action Bus α → Prop where
  | pure {α : Type} (a : α) : Visit p (Pure.pure a)
  | bind {α β : Type} {x : Action Bus α} {f : α → Action Bus β} :
    Visit p x → (∀ a, Visit p (f a)) → Visit p (x >>= f)
  | look {α : Type} {f : Bus → Action Bus α} :
    (∀ bus, Visit p (f bus)) → Visit p (Action.get >>= fun bus => f { bus with strict := false })
  | note (n : Notice) : Visit p (Action.note n)
  | read (addr : UInt16) : Visit p (read addr)
  | write (addr : UInt16) (v : UInt8) : Visit p (write addr v)
  | adjust {a : Adjustment} : p a → Visit p (Action.modify a.apply)

namespace Visit

variable {p q : Adjustment → Prop} {α : Type} {x : Action Bus α}

/-- A visit that may adjust less may also adjust more. -/
lemma mono (hpq : ∀ a, p a → q a) (h : Visit p x) : Visit q x := by
  induction h with
  | pure a => exact .pure a
  | bind _ _ ihx ihf => exact .bind ihx ihf
  | look _ ih => exact .look ih
  | note n => exact .note n
  | read addr => exact .read addr
  | write addr v => exact .write addr v
  | adjust h => exact .adjust (hpq _ h)

/-- A visit respects what accesses and its adjustments respect. -/
theorem ensures {R : Bus → List Event → Bus → Prop} (hR : Respected R)
    (hadjust : ∀ a, p a → ∀ bus, R bus [] (a.apply bus)) (h : Visit p x) : x.Ensures R := by
  have hC := hR.toComposes
  induction h with
  | pure a => exact .pure hC a
  | bind _ _ ihx ihf => exact .bind hC ihx ihf
  | look _ ih => exact .bind hC (.get hC) fun bus => ih _
  | note n => exact fun bus => hR.note bus n
  | read addr => exact hR.read addr
  | write addr v => exact hR.write addr v
  | adjust h => exact fun bus => hadjust _ h bus

/-- A visit that only signals respects whatever accesses respect. -/
lemma ensures_of_signals {R : Bus → List Event → Bus → Prop} (hR : Respected R)
    (h : Visit Adjustment.IsSignal x) : x.Ensures R := by
  refine h.ensures hR fun a ha bus => ?_
  cases a with
  | flags v => exact hR.flag bus v
  | keys joypad => exact hR.keys bus joypad
  | boot | install | echo | scratch | store | patch => exact ha.elim

/-- A choice between two visits is a visit. -/
lemma ite {c : Prop} [Decidable c] {y : Action Bus α} (hx : Visit p x) (hy : Visit p y) :
    Visit p (if c then x else y) := by
  split
  · exact hx
  · exact hy

/-- An adjustment that depends on what is seen. -/
lemma adjustBy (f : Bus → Adjustment) (hf : ∀ bus, p (f bus)) :
    Visit p (Action.get >>= fun bus => .modify (f { bus with strict := false }).apply) :=
  .look (f := fun bus => .modify (f bus).apply) fun bus => .adjust (hf bus)

end Visit

/-! ## The visits of the collaborators -/

/-- A key that goes down or up, and the record that tells what the joypad has become. -/
lemma moveKey_visit (key : Key) (held : Bool) (n : Joypad → Notice) :
    Visit Adjustment.IsSignal (do
      .modify fun bus => { bus with joypad := bus.joypad.setHeld key held }
      let bus ← .get
      .note (n bus.joypad)) := by
  refine .bind ?_ fun _ => .look (f := fun bus => .note (n bus.joypad)) fun bus => .note _
  exact .adjustBy (fun bus => .keys (bus.joypad.setHeld key held)) fun _ => trivial

/-- A request for an interrupt is a visit. -/
lemma requestInterrupt_visit (i : Interrupt) :
    Visit Adjustment.IsSignal (requestInterrupt i) :=
  .adjustBy (fun bus => .flags (bus.io .interruptFlag ||| i.bit)) fun _ => trivial

end Bus

open Bus (Visit Adjustment)

/-- What a key or a request does is a visit. -/
lemma Act.perform_visit (act : Act) : Visit Adjustment.IsSignal act.perform := by
  cases act with
  | interrupt i => exact Bus.requestInterrupt_visit i
  | press key => exact Bus.moveKey_visit key true fun pad => .pressed key pad
  | release key => exact Bus.moveKey_visit key false fun pad => .released key pad
  | write addr v => exact .write addr v
  | panic => exact .pure ()

/-- A turn of the video without a screen is a visit. -/
lemma Headless.turn_visit (screen : Headless) : Visit Adjustment.IsSignal screen.turn := by
  refine .look (f := fun bus =>
    if bus.io .lcdc &&& 0x80 == 0 then return screen
    else do
      let line ← Bus.read IoRegister.ly.addr
      let inBlank : Bool := line ≥ firstBlankLine
      if inBlank && !screen.inBlank then
        .note (.frame (screen.frames + 1))
        return { frames := screen.frames + 1, inBlank }
      else return { screen with inBlank }) fun bus => .ite (.pure _) ?_
  exact .bind (.read _) fun line => .ite (.bind (.note _) fun _ => .pure _) (.pure _)

/-- A turn of the scripted video is a visit. -/
lemma Scripted.turn_visit (video : Scripted) : Visit Adjustment.IsSignal video.turn := by
  have hacts (acts : List Act) : Visit Adjustment.IsSignal (acts.forM Act.perform) := by
    induction acts with
    | nil => exact .pure ()
    | cons act acts ih => exact .bind act.perform_visit fun _ => ih
  exact .bind (hacts _) fun _ => .bind (Headless.turn_visit _) fun _ => .pure _

end GameBoy

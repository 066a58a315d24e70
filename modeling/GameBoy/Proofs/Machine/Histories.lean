import GameBoy.Proofs.Bus.Visits
import GameBoy.Proofs.Machine.Respected

/-!
# Histories

What happens to a machine between two loadings: its ticks, the turns of a video collaborator, keys,
and accesses to its bus, in any order and number. A relation between buses that everything respects
that can happen (`Operation.perform_ensures`) is respected by histories of any length
(`undergo_ensures`).
-/

namespace GameBoy

variable {R : Bus → List Event → Bus → Prop}

/-- What a collaborator does to the bus of a machine. The script of a video may be empty. -/
inductive Access where
  | turn (video : Scripted)
  | press (key : Key)
  | release (key : Key)
  | request (i : Interrupt)
  | read (addr : UInt16)
  | write (addr : UInt16) (v : UInt8)

/-- What an access does to the bus. -/
def Access.perform : Access → Action Bus Unit
  | turn video => do let _ ← video.turn
  | press key => Bus.press key
  | release key => Bus.release key
  | request i => Bus.requestInterrupt i
  | read addr => do let _ ← Bus.read addr
  | write addr v => Bus.write addr v

/-- What happens to a machine. A store reaches the cell of the map behind an address directly. -/
inductive Operation where
  | tick
  | access (a : Access)
  | store (addr : UInt16) (v : UInt8)
  | disableBoot

/-- What an operation does to the machine. -/
def Operation.perform : Operation → Action Machine Unit
  | tick => do let _ ← Machine.tick
  | access a => Machine.onBus a.perform
  | store addr v => Machine.onBus (Bus.store addr v)
  | disableBoot => Machine.onBus Bus.disableBoot

/-- Where an operation fetches an opcode. -/
def Operation.fetches : Operation → Machine → List UInt16
  | tick, m => m.fetchAddr.toList
  | _, _ => []

/-- Every access is a visit to the bus. -/
lemma Access.perform_visit (a : Access) : Bus.Visit Bus.Adjustment.IsSignal a.perform := by
  cases a with
  | turn video => exact .bind video.turn_visit fun _ => .pure ()
  | press key => exact (Act.press key).perform_visit
  | release key => exact (Act.release key).perform_visit
  | request i => exact Bus.requestInterrupt_visit i
  | read addr => exact .bind (.read addr) fun _ => .pure ()
  | write addr v => exact .write addr v

/-- Every access respects what signals respect. -/
lemma Access.perform_ensures (hR : Bus.Respected R) (a : Access) : a.perform.Ensures R :=
  a.perform_visit.ensures_of_signals hR

/-! ## Runs of operations -/

/-- Everything that happens respects what its parts respect, a store if it respects that itself. -/
lemma Operation.perform_ensures (hR : Bus.Respected R) (hlift : Bus.disableBoot.Ensures R)
    (op : Operation) (hstore : ∀ addr v, op = .store addr v → (Bus.store addr v).Ensures R) :
    op.perform.Ensures (Machine.OnBuses R) := by
  have hC := (Machine.closed_of_respected hR).toComposes
  cases op with
  | tick => exact .bind hC (Machine.tick_ensures hR hlift) fun _ => .pure hC _
  | access a => exact fun m => a.perform_ensures hR m.bus
  | store addr v => exact fun m => hstore addr v rfl m.bus
  | disableBoot => exact fun m => hlift m.bus

namespace Machine

/-- One operation after the other. -/
def undergo : List Operation → Action Machine Unit
  | [] => return
  | op :: ops => do
    op.perform
    undergo ops

/-- Where a history fetches opcodes. -/
def fetches : List Operation → Machine → List UInt16
  | [], _ => []
  | op :: ops, m => op.fetches m ++ fetches ops (op.perform m).state

/-- A history of any length respects what its operations respect. -/
lemma undergo_ensures (hR : Bus.Respected R) (hlift : Bus.disableBoot.Ensures R)
    (ops : List Operation)
    (hstore : ∀ addr v, .store addr v ∈ ops → (Bus.store addr v).Ensures R) :
    (undergo ops).Ensures (OnBuses R) := by
  have hC := (closed_of_respected hR).toComposes
  induction ops with
  | nil => exact .pure hC _
  | cons op ops ih =>
    refine .bind hC (op.perform_ensures hR hlift ?_) fun _ => ih ?_
    · exact fun addr v e => hstore addr v (e ▸ List.mem_cons_self)
    · exact fun addr v he => hstore addr v (List.mem_cons_of_mem _ he)

end Machine

end GameBoy

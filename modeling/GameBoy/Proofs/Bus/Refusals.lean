import GameBoy.Proofs.Bus.Chronicle

/-!
# Refused writes

A strict bus refuses the writes that trespass on the cartridge, each with a fault that takes the place of
an earlier one. So the fault of a bus names the write that was refused last (`fault_replay`), and a bus
that has one never loses it. As long as nothing changes what the bus refuses, the refused writes are those
that trespass among its events (`refusals_of_plain`).
-/

namespace GameBoy

/-- The fault that names a write that trespasses. -/
def Event.trespass? (mode : BankMode) : Event → Option Fault
  | .write addr v => if Trespass mode (.write addr v) then some (.romWrite addr v) else none
  | _ => none

/-- The faults that name the writes that trespass among some events. -/
def trespasses (mode : BankMode) (es : List Event) : List Fault :=
  es.filterMap (Event.trespass? mode)

/-- The trespasses of two stretches follow each other. -/
lemma trespasses_append (mode : BankMode) (es es' : List Event) :
    trespasses mode (es ++ es') = trespasses mode es ++ trespasses mode es' :=
  List.filterMap_append

namespace Bus

/-- The fault with which an incident is refused, if it is a write that a strict bus refuses. -/
def Incident.refused? (bus : Bus) : Incident → Option Fault
  | .write addr v =>
    if bus.strict = true then (Event.write addr v).trespass? bus.window.mode else none
  | _ => none

/-- The faults with which the writes of a chronicle are refused. -/
def refusals (chronicle : List Incident) (bus : Bus) : List Fault :=
  record Incident.refused? chronicle bus

variable {i : Incident} {chronicle : List Incident} {bus : Bus}

/-- The refusals of a chronicle begin with that of its first incident. -/
lemma refusals_cons (i : Incident) (chronicle : List Incident) (bus : Bus) :
    refusals (i :: chronicle) bus =
      (i.refused? bus).toList ++ refusals chronicle (i.perform bus).state :=
  rfl

/-! ## The fault of a bus -/

/-- On a strict bus a write to the cartridge that selects no bank is refused. -/
lemma refused?_write_of {addr : UInt16} (v : UInt8) (hs : bus.strict = true) (hr : addr < romEnd)
    (h : bus.window.selects addr = false) :
    (Incident.write addr v).refused? bus = some (.romWrite addr v) := by
  rw [Incident.refused?, if_pos hs, Event.trespass?, if_pos ((trespass_write_iff bus addr v).mpr ⟨hr, h⟩)]

/-- Any other write is not refused. -/
lemma refused?_write_of_not {addr : UInt16} (v : UInt8)
    (h : bus.strict = true → addr < romEnd → bus.window.selects addr = true) :
    (Incident.write addr v).refused? bus = none := by
  rw [Incident.refused?]
  split
  · next hs =>
    refine if_neg fun ht => ?_
    obtain ⟨hr, hsel⟩ := (trespass_write_iff bus addr v).mp ht
    exact Bool.false_ne_true (hsel.symm.trans (h hs hr))
  · rfl

/-- A write sets the fault exactly if it is refused, whether there is one already or not. -/
lemma write_fault (bus : Bus) (addr : UInt16) (v : UInt8) :
    (write addr v bus).state.fault = ((Incident.write addr v).refused? bus).or bus.fault := by
  obtain h | ⟨h, hr, hs⟩ | ⟨h, hs⟩ := write_cases bus addr
  · rw [write_select v h, refused?_write_of_not v fun _ _ => h]
    rfl
  · rw [write_refuse v h hr hs, refused?_write_of v hs hr h]
    rfl
  · obtain ⟨_, _, _, e⟩ := write_through v h hs
    rw [e, refused?_write_of_not v fun hstrict hr => absurd ((hs hr).symm.trans hstrict) nofun]
    rfl

/-- Nothing else sets the fault. -/
lemma Incident.perform_fault (i : Incident) (bus : Bus) :
    (i.perform bus).state.fault = (i.refused? bus).or bus.fault := by
  cases i with
  | write addr v => exact write_fault bus addr v
  | read addr =>
    obtain ⟨_, _, e, -⟩ := read_reaches bus addr
    change (Bus.read addr bus).state.fault = bus.fault
    rw [e]
  | adjust a =>
    obtain ⟨_, _, _, _, _, _, _, e, -⟩ := adjust_reaches a bus
    change (a.apply bus).fault = bus.fault
    rw [e]
  | note | insert | strict => rfl

/-- The fault of a bus is that of the write that was refused last. -/
lemma fault_replay (chronicle : List Incident) (bus : Bus) :
    (replay chronicle bus).state.fault = (refusals chronicle bus).getLast?.or bus.fault := by
  induction chronicle generalizing bus with
  | nil => rfl
  | cons i chronicle ih =>
    refine (ih (i.perform bus).state).trans ?_
    rw [i.perform_fault, refusals_cons, List.getLast?_append, Option.or_assoc]
    cases i.refused? bus <;> rfl

/-! ## Refused writes among events -/

/-- What the bus reports about itself is no trespass. -/
lemma trespass?_of_isOwnReport {mode : BankMode} {e : Event} (h : isOwnReport e = true) :
    e.trespass? mode = none := by
  cases e with
  | write => cases h
  | read | notice | echo => rfl

/-- A plain incident leaves what the bus refuses, and shows whether it is refused itself. -/
lemma Incident.IsPlain.refused (h : i.IsPlain) (hs : bus.strict = true) :
    (i.perform bus).state.strict = bus.strict ∧
      (i.perform bus).state.window.mode = bus.window.mode ∧
      (i.refused? bus).toList = trespasses bus.window.mode (i.perform bus).events := by
  cases i with
  | read addr =>
    have hw := watched_respected.read addr bus
    refine ⟨hw.strict, hw.mode, ?_⟩
    change [] = trespasses bus.window.mode ((Bus.read addr bus).events ++ [])
    rw [List.append_nil]
    exact (filterMap_read (fun e => trespass?_of_isOwnReport) bus addr).symm
  | write addr v =>
    have hw := write_watched bus addr v
    refine ⟨hw.strict, hw.mode, ?_⟩
    rw [refused?, if_pos hs]
    exact (filterMap_write (fun e => trespass?_of_isOwnReport) bus addr v).symm
  | adjust a =>
    have hw := adjust_watched a bus
    exact ⟨hw.strict, hw.mode, rfl⟩
  | note => exact ⟨rfl, rfl, rfl⟩
  | insert | strict => exact h.elim

/-- The refused writes of plain incidents are those that trespass among the events. -/
lemma refusals_of_plain (h : ∀ i ∈ chronicle, i.IsPlain) (hs : bus.strict = true) :
    refusals chronicle bus = trespasses bus.window.mode (replay chronicle bus).events := by
  induction chronicle generalizing bus with
  | nil => rfl
  | cons i chronicle ih =>
    obtain ⟨hi, hchronicle⟩ := List.forall_mem_cons.mp h
    obtain ⟨hstrict, hmode, hrefused⟩ := hi.refused hs
    rw [refusals_cons, ih hchronicle (hstrict.trans hs), hrefused, hmode, ← trespasses_append]
    rfl

/-- A plain chronicle of a strict bus leaves the fault that names the last write that trespasses among
its events. -/
lemma Chronicled.fault_of_plain {bus' : Bus} {es : List Event}
    (h : Chronicled Incident.IsPlain bus es bus') (hs : bus.strict = true) :
    bus'.fault = (trespasses bus.window.mode es).getLast?.or bus.fault := by
  obtain ⟨chronicle, hplain, e⟩ := h
  have hfault := fault_replay chronicle bus
  rw [refusals_of_plain hplain hs, e] at hfault
  exact hfault

end Bus

end GameBoy

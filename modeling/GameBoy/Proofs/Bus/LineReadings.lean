import GameBoy.Proofs.Bus.Chronicle
import GameBoy.Proofs.Bus.LineTimes
import Mathlib.Data.Finset.Card
import Mathlib.Order.Monotone.Basic

/-!
# Readings of the scanline counter

Nothing but a reading reaches the scanline counter, so that its readings follow the clock, whoever makes
them and whatever happens in between: the reading numbered `n` is made at the time numbered `n`
(`lineReadings_eq`), and it requests the interrupt of the vertical blank if it shows the blank and the
reading before it did not (`Clock.reading_requests_iff`). By a clock that does not go backwards the line
only grows within a frame (`lineAt_mono`), so that no two requests fall in the same one
(`Clock.reading_frame_ne`).
-/

namespace GameBoy

/-- A reading of the scanline counter: the time at which it was made, the line that it showed, and
whether it requested the interrupt of the vertical blank. -/
structure LineReading where
  time : Nat
  line : UInt8
  requests : Bool
  deriving DecidableEq, Repr

/-- The frame in which a reading was made. -/
def LineReading.frame (r : LineReading) : Nat := r.time / framePeriod

namespace Clock

/-- The counter that a clock drives, when it has been read `n` times. -/
def counter (clock : Clock) (n : Nat) : Scanline where
  clock := { clock with asked := clock.asked + n }
  last := match n with
    | 0 => 0
    | n + 1 => lineAt (clock.times (clock.asked + n))

/-- The reading numbered `n` of a counter that a clock drives. -/
def reading (clock : Clock) (n : Nat) : LineReading where
  time := clock.times (clock.asked + n)
  line := lineAt (clock.times (clock.asked + n))
  requests := (clock.counter n).entersBlank

variable {clock : Clock} {i j n : Nat}

/-- A steady clock does not go backwards. -/
lemma steady_monotone (start step : Nat) : Monotone (steady start step).times :=
  fun _ _ h => Nat.add_le_add_left (Nat.mul_le_mul_right step h) start

/-- A reading moves the counter on by one. -/
lemma counter_afterRead (clock : Clock) (n : Nat) :
    (clock.counter n).afterRead = clock.counter (n + 1) :=
  rfl

/-- A reading requests the interrupt if it shows the blank, and no reading came before or the one
before showed a line above it. -/
lemma reading_requests_iff :
    (clock.reading n).requests = true ↔
      0x90 ≤ (clock.reading n).line ∧ ∀ m, n = m + 1 → (clock.reading m).line < 0x90 := by
  have h : (clock.reading n).requests = true ↔
      0x90 ≤ (clock.reading n).line ∧ (clock.counter n).last < 0x90 := by
    simp only [reading, Scanline.entersBlank, Bool.and_eq_true, decide_eq_true_eq]
    rfl
  rw [h]
  refine and_congr_right fun _ => ?_
  cases n with
  | zero =>
    have hnone : (0 : UInt8) < 0x90 := by decide
    exact iff_of_true hnone nofun
  | succ n =>
    refine ⟨fun h m hm => ?_, fun h => h n rfl⟩
    obtain rfl := Nat.succ.inj hm
    exact h

/-- Between a line above the blank and one in it, some reading requests the interrupt. -/
lemma exists_reading_requests (h : i < j) (hi : (clock.reading i).line < 0x90)
    (hj : 0x90 ≤ (clock.reading j).line) :
    ∃ k, i < k ∧ k ≤ j ∧ (clock.reading k).requests = true := by
  induction j with
  | zero => exact absurd h (Nat.not_lt_zero i)
  | succ j ih =>
    by_cases hlast : (clock.reading j).line < 0x90
    · refine ⟨j + 1, h, Nat.le_refl _, reading_requests_iff.mpr ⟨hj, fun m hm => ?_⟩⟩
      obtain rfl := Nat.succ.inj hm
      exact hlast
    · -- the blank was seen before, by a reading that is not the one numbered `i`
      have hij : i < j := by
        refine Nat.lt_of_le_of_ne (Nat.le_of_lt_succ h) ?_
        rintro rfl
        exact hlast hi
      obtain ⟨k, hk, hkj, hr⟩ := ih hij (UInt8.not_lt.mp hlast)
      exact ⟨k, hk, Nat.le_succ_of_le hkj, hr⟩

section Monotone

variable (hclock : Monotone clock.times)
include hclock

/-- Of a clock that does not go backwards, no reading lies in a frame before an earlier one's. -/
lemma reading_frame_mono (h : i ≤ j) : (clock.reading i).frame ≤ (clock.reading j).frame :=
  Nat.div_le_div_right (hclock (Nat.add_le_add_left h _))

/-- What lies between two readings in the same frame lies in it, too. -/
lemma reading_frame_eq {k : Nat} (hi : i ≤ k) (hj : k ≤ j)
    (h : (clock.reading i).frame = (clock.reading j).frame) :
    (clock.reading k).frame = (clock.reading j).frame :=
  Nat.le_antisymm (reading_frame_mono hclock hj) (h ▸ reading_frame_mono hclock hi)

/-- Two readings that request the interrupt are made in different frames. -/
lemma reading_frame_ne (h : i < j) (hi : (clock.reading i).requests = true)
    (hj : (clock.reading j).requests = true) :
    (clock.reading i).frame ≠ (clock.reading j).frame := by
  intro hframe
  obtain ⟨k, rfl⟩ := Nat.exists_eq_add_of_lt h
  -- the last reading before the second request lies in between, and shows a line above the blank
  have hlast : (clock.reading (i + k)).line < 0x90 := (reading_requests_iff.mp hj).2 _ rfl
  have hle : (clock.reading i).line ≤ (clock.reading (i + k)).line := by
    refine lineAt_mono (hclock (Nat.add_le_add_left (Nat.le_add_right i k) _)) ?_
    exact hframe.trans
      (reading_frame_eq hclock (Nat.le_add_right i k) (Nat.le_succ _) hframe).symm
  exact UInt8.not_lt.mpr (UInt8.le_trans (reading_requests_iff.mp hi).1 hle) hlast

end Monotone

end Clock

/-- The lines that readings of the scanline counter showed. -/
def linesRead (es : List Event) : List UInt8 :=
  es.filterMap fun
    | .read addr v => if addr = 0xff44 then some v else none
    | _ => none

/-- The lines of two stretches of events are read one after the other. -/
lemma linesRead_append (es es' : List Event) :
    linesRead (es ++ es') = linesRead es ++ linesRead es' :=
  List.filterMap_append

/-- How often lines that are read one after the other enter the vertical blank, behind a line that was
read before them. -/
def blankEntries (last : UInt8) : List UInt8 → Nat
  | [] => 0
  | line :: lines => (if last < 0x90 ∧ 0x90 ≤ line then 1 else 0) + blankEntries line lines

/-- Entries into the blank of a list in two parts, the second of which goes on from the end of the
first. -/
lemma blankEntries_append (last : UInt8) (lines lines' : List UInt8) :
    blankEntries last (lines ++ lines') =
      blankEntries last lines + blankEntries (lines.getLastD last) lines' := by
  induction lines generalizing last with
  | nil => exact (Nat.zero_add _).symm
  | cons line lines ih =>
    rw [List.cons_append, blankEntries, blankEntries, ih, List.getLastD_cons, Nat.add_assoc]

/-- Lines that end in the blank have entered it, or it was seen before them. -/
lemma blank_or_blankEntries_pos {last : UInt8} {lines : List UInt8} (h : 0x90 ≤ lines.getLastD last) :
    0x90 ≤ last ∨ 0 < blankEntries last lines := by
  induction lines generalizing last with
  | nil => exact .inl h
  | cons line lines ih =>
    rw [blankEntries]
    obtain hline | hlines := ih (List.getLastD_cons .. ▸ h)
    · by_cases hlast : last < 0x90
      · rw [if_pos ⟨hlast, hline⟩]
        exact .inr (Nat.add_pos_left Nat.one_pos _)
      · exact .inl (UInt8.not_lt.mp hlast)
    · exact .inr (Nat.add_pos_right _ hlines)

namespace Bus

/-- Whether a reading of the scanline counter requests the interrupt of the vertical blank: it sets the
bit of the request even if it is clear. -/
def requestsBlank (bus : Bus) : Bool :=
  (read 0xff44 (bus.setIo .interruptFlag 0)).state.io .interruptFlag == Interrupt.vblank.bit

/-- The reading of the scanline counter that can be made now. -/
def lineReading (bus : Bus) : LineReading where
  time := bus.scanline.clock.now
  line := (read 0xff44 bus).value
  requests := bus.requestsBlank

/-- The reading of the scanline counter that an incident is, if it is one. -/
def Incident.lineReading? (bus : Bus) : Incident → Option LineReading
  | .read addr => if addr = 0xff44 then some bus.lineReading else none
  | _ => none

/-- The readings of the scanline counter in a chronicle. -/
def lineReadings (chronicle : List Incident) (bus : Bus) : List LineReading :=
  record Incident.lineReading? chronicle bus

/-- A reading of the line counter through the bus. -/
lemma read_line (bus : Bus) :
    (read 0xff44 bus).value = bus.scanline.line ∧ (read 0xff44 bus).state = bus.afterLine :=
  ⟨read_value bus _, read_state bus _⟩

/-- A blank is requested when the scanline enters it. -/
lemma requestsBlank_eq (bus : Bus) : bus.requestsBlank = bus.scanline.entersBlank := by
  have hline : (bus.setIo .interruptFlag 0).scanline = bus.scanline := rfl
  have hclear : (bus.setIo .interruptFlag 0).io .interruptFlag = 0 := Store.get_set_self _ _ _
  rw [requestsBlank, (read_line _).2, afterLine, hline]
  cases bus.scanline.entersBlank with
  | false =>
    change ((bus.setIo .interruptFlag 0).io .interruptFlag == 1) = false
    rw [hclear]
    rfl
  | true =>
    change ((Bus.setIo _ .interruptFlag ((bus.setIo .interruptFlag 0).io .interruptFlag ||| 1)).io
      .interruptFlag == 1) = true
    rw [hclear, io, setIo, Store.get_set_self]
    rfl

/-- A reading requests the blank if it is the first one in it. -/
lemma lineReading_requests_iff (bus : Bus) :
    bus.lineReading.requests = true ↔ bus.scanline.last < 0x90 ∧ 0x90 ≤ bus.lineReading.line := by
  have hline : bus.lineReading.line = bus.scanline.line := (read_line bus).1
  have hrequests : bus.lineReading.requests = bus.scanline.entersBlank := requestsBlank_eq bus
  rw [hrequests, hline, Scanline.entersBlank, Bool.and_eq_true, decide_eq_true_eq,
    decide_eq_true_eq, and_comm]
  rfl

/-- A reading remembers the line that it shows, and sets the bit of the request if it makes one. -/
lemma read_lineReading (bus : Bus) :
    (read 0xff44 bus).state =
      { bus with
        map := if bus.lineReading.requests then
            bus.map.set 0xff0f (bus.io .interruptFlag ||| 1)
          else bus.map
        scanline := { clock := bus.scanline.clock.next, last := bus.lineReading.line } } := by
  have hline : bus.lineReading.line = bus.scanline.line := (read_line bus).1
  have hrequests : bus.lineReading.requests = bus.scanline.entersBlank := requestsBlank_eq bus
  rw [(read_line bus).2, hline, hrequests, afterLine]
  cases bus.scanline.entersBlank <;> rfl

/-- On a counter that has followed a clock, the next reading is the one of that number. -/
lemma lineReading_eq {bus : Bus} {clock : Clock} {n : Nat} (h : bus.scanline = clock.counter n) :
    bus.lineReading = clock.reading n := by
  rw [lineReading, requestsBlank_eq, (read_line bus).1, h]
  rfl

/-! ## Chronicles -/

/-- What an incident reads of the line counter is what a reading of the bus would. -/
lemma Incident.eq_lineReading {i : Incident} {bus : Bus} {r : LineReading}
    (h : i.lineReading? bus = some r) : r = bus.lineReading := by
  cases i with
  | read addr =>
    rw [lineReading?] at h
    split at h
    · exact (Option.some.inj h).symm
    · cases h
  | write | note | adjust | insert | strict => cases h

/-- A reading moves the counter on, and nothing else does. -/
lemma Incident.perform_scanline (i : Incident) (bus : Bus) :
    (i.perform bus).state.scanline =
      if (i.lineReading? bus).isSome then bus.scanline.afterRead else bus.scanline := by
  cases i with
  | read addr =>
    change (Bus.read addr bus).state.scanline = _
    by_cases h : addr = 0xff44
    · rw [lineReading?, if_pos h, h, (read_line bus).2, afterLine]
      split <;> rfl
    · have hstate : (Bus.read addr bus).state = bus := (read_state bus addr).trans (if_neg h)
      rw [lineReading?, if_neg h, hstate]
      rfl
  | write addr v => exact write_scanline bus addr v
  | adjust a =>
    obtain ⟨_, _, _, _, _, _, _, e, -⟩ := adjust_reaches a bus
    change (a.apply bus).scanline = bus.scanline
    rw [e]
  | note | insert | strict => rfl

/-- The readings in a chronicle are, one after the other, those of the clock. -/
lemma lineReadings_eq {chronicle : List Incident} {bus : Bus} {clock : Clock} {n : Nat}
    (h : bus.scanline = clock.counter n) :
    lineReadings chronicle bus =
        (List.range' n (lineReadings chronicle bus).length).map clock.reading ∧
      (replay chronicle bus).state.scanline =
        clock.counter (n + (lineReadings chronicle bus).length) := by
  induction chronicle generalizing bus n with
  | nil => exact ⟨rfl, h⟩
  | cons i chronicle ih =>
    have hnext := i.perform_scanline bus
    rw [lineReadings, record]
    cases e : i.lineReading? bus with
    | none =>
      rw [e] at hnext
      exact ih (hnext.trans h)
    | some r =>
      rw [e, h, Clock.counter_afterRead] at hnext
      obtain ⟨hrest, hend⟩ := ih hnext
      have hr : r = clock.reading n := (Incident.eq_lineReading e).trans (lineReading_eq h)
      rw [Option.toList_some, List.singleton_append, List.length_cons, List.range'_succ,
        List.map_cons, hr]
      refine ⟨congrArg _ hrest, ?_⟩
      rw [← Nat.add_assoc, Nat.add_right_comm]
      exact hend

/-- From the construction of a bus on, each reading is the one of its number. -/
lemma getElem_lineReadings {chronicle : List Incident} {bus : Bus} {clock : Clock}
    (h : bus.scanline = { clock }) {i : Nat} (hi : i < (lineReadings chronicle bus).length) :
    (lineReadings chronicle bus)[i] = clock.reading i := by
  have hall : lineReadings chronicle bus = _ := (lineReadings_eq (n := 0) h).1
  rw [List.getElem_of_eq hall hi, List.getElem_map, List.getElem_range', Nat.zero_add, Nat.one_mul]

/-- The lines that a reading shows. -/
lemma linesRead_read (bus : Bus) (addr : UInt16) :
    linesRead (read addr bus).events = if addr = 0xff44 then [bus.lineReading.line] else [] := by
  refine (filterMap_read (fun e h => ?_) bus addr).trans ?_
  · cases e with
    | read | write => cases h
    | notice | echo => rfl
  · by_cases h : addr = 0xff44
    · rw [if_pos h, h, ← read_value]
      rfl
    · simp [h]

/-- A reading of the counter shows its line in an event, and no other incident does. -/
lemma Incident.linesRead_perform (i : Incident) (bus : Bus) :
    linesRead (i.perform bus).events = ((i.lineReading? bus).map LineReading.line).toList := by
  cases i with
  | read addr =>
    change linesRead ((Bus.read addr bus).events ++ []) = _
    rw [List.append_nil, linesRead_read, lineReading?]
    split <;> rfl
  | write addr v =>
    refine filterMap_write (fun e h => ?_) bus addr v
    cases e with
    | read => cases h
    | write | notice | echo => rfl
  | note | adjust | insert | strict => rfl

/-- The events of a chronicle show the lines of its readings. -/
lemma linesRead_replay (chronicle : List Incident) (bus : Bus) :
    linesRead (replay chronicle bus).events =
      (lineReadings chronicle bus).map LineReading.line := by
  induction chronicle generalizing bus with
  | nil => rfl
  | cons i chronicle ih =>
    rw [replay, Action.bind_apply, linesRead_append, ih, i.linesRead_perform]
    change _ = List.map LineReading.line ((i.lineReading? bus).toList ++ _)
    rw [List.map_append]
    cases i.lineReading? bus <;> rfl

/-! ## Requests -/

/-- The readings of a chronicle begin with that of its first incident. -/
lemma lineReadings_cons (i : Incident) (chronicle : List Incident) (bus : Bus) :
    lineReadings (i :: chronicle) bus =
      (i.lineReading? bus).toList ++ lineReadings chronicle (i.perform bus).state :=
  rfl

/-- The scanline remembers the line that was read last. -/
lemma Incident.perform_last (i : Incident) (bus : Bus) :
    (i.perform bus).state.scanline.last =
      ((i.lineReading? bus).map LineReading.line).getD bus.scanline.last := by
  rw [i.perform_scanline]
  cases e : i.lineReading? bus with
  | none => rfl
  | some r =>
    rw [eq_lineReading e]
    exact (read_line bus).1.symm

/-- The line that is remembered behind a chronicle is the last one that is read in it. -/
lemma replay_last (chronicle : List Incident) (bus : Bus) :
    (replay chronicle bus).state.scanline.last =
      ((lineReadings chronicle bus).map LineReading.line).getLastD bus.scanline.last := by
  induction chronicle generalizing bus with
  | nil => rfl
  | cons i chronicle ih =>
    refine (ih (i.perform bus).state).trans ?_
    rw [lineReadings_cons, i.perform_last]
    cases i.lineReading? bus with
    | none => rfl
    | some r => exact (List.getLastD_cons ..).symm

/-- After a chronicle the scanline remembers the last line of its events. -/
lemma Chronicled.scanline_last {p : Incident → Prop} {bus bus' : Bus} {es : List Event}
    (h : Chronicled p bus es bus') :
    bus'.scanline.last = (linesRead es).getLastD bus.scanline.last := by
  obtain ⟨chronicle, -, e⟩ := h
  have hlast := replay_last chronicle bus
  rw [← linesRead_replay, e] at hlast
  exact hlast

/-- The requests in a chronicle are the times that its lines enter the blank. -/
lemma countP_requests (chronicle : List Incident) (bus : Bus) :
    (lineReadings chronicle bus).countP LineReading.requests =
      blankEntries bus.scanline.last ((lineReadings chronicle bus).map LineReading.line) := by
  induction chronicle generalizing bus with
  | nil => rfl
  | cons i chronicle ih =>
    rw [lineReadings_cons, List.countP_append, List.map_append, blankEntries_append, ih, i.perform_last]
    cases e : i.lineReading? bus with
    | none => rfl
    | some r =>
      obtain rfl := Incident.eq_lineReading e
      refine congrArg (· + _) ?_
      simp only [Option.toList_some, List.countP_singleton, List.map_singleton, blankEntries,
        lineReading_requests_iff, Nat.add_zero]

/-- By a clock that does not go backwards there are no more requests than frames in which the counter is
read. -/
lemma requests_le_frames {chronicle : List Incident} {bus : Bus} {clock : Clock}
    (h : bus.scanline = { clock }) (hclock : Monotone clock.times) :
    let readings := lineReadings chronicle bus
    readings.countP LineReading.requests ≤ (readings.map LineReading.frame).toFinset.card := by
  intro readings
  have hne : readings.Pairwise fun r r' =>
      r.requests = true → r'.requests = true → r.frame ≠ r'.frame := by
    have hreadings : readings = _ := (lineReadings_eq (n := 0) h).1
    rw [hreadings, List.pairwise_map]
    exact (List.pairwise_lt_range' _ Nat.one_pos).imp fun hlt => Clock.reading_frame_ne hclock hlt
  have hnodup : ((readings.filter LineReading.requests).map LineReading.frame).Nodup := by
    rw [List.Nodup, List.pairwise_map, List.pairwise_filter]
    exact hne
  have hsubset : ((readings.filter LineReading.requests).map LineReading.frame).toFinset ⊆
      (readings.map LineReading.frame).toFinset := by
    intro frame hframe
    rw [List.mem_toFinset] at hframe ⊢
    exact (List.filter_sublist.map _).subset hframe
  calc readings.countP LineReading.requests
      = ((readings.filter LineReading.requests).map LineReading.frame).toFinset.card := by
        rw [List.toFinset_card_of_nodup hnodup, List.length_map, List.countP_eq_length_filter]
    _ ≤ (readings.map LineReading.frame).toFinset.card :=
        Finset.card_le_card hsubset

end Bus

end GameBoy

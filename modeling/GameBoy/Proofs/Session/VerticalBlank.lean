import GameBoy.Proofs.Bus.LineReadings
import GameBoy.Proofs.Session.Steps

/-!
# The vertical blank

Processor, video and host share one scanline counter. However their readings alternate, the interrupt
of the vertical blank is requested by the first reading that shows the blank, once in a frame
(`blank_requested_once_a_frame`).
-/

namespace GameBoy.Session

open Bus (Incident Chronicled replay lineReadings)

/-- The vertical blank is requested once a frame. In a session from the construction of its bus on, the
readings of the scanline counter, whoever makes them, are those of the chronicle of the bus. In any
chronicle, a reading requests the interrupt exactly if it shows a line of the blank and is the first
reading or comes behind one that shows a line above it. If the clock does not go backwards, two readings
that request the interrupt are made in different frames, and in a frame in which a line above the blank
is read before one in it, exactly one reading requests it. A request sets the bit of the interrupt, and
a reading that makes none leaves all bits as they are. -/
theorem blank_requested_once_a_frame {ν : Type} [Video ν]
    (hvideo : ∀ v : ν, (Video.turn v).Ensures (Chronicled fun _ => True))
    (s : Session ν) {clock : Clock} (hnew : s.machine.bus.scanline = { clock })
    (hclock : Monotone clock.times) (steps : List Step)
    (hsteps : ∀ step ∈ steps, step.Ensures (Chronicled fun _ => True)) :
    let done := undergo steps s
    -- the readings of a session
    (∃ chronicle, replay chronicle s.machine.bus = ⟨(), done.state.machine.bus, done.events⟩ ∧
      linesRead done.events = (lineReadings chronicle s.machine.bus).map LineReading.line) ∧
    -- their requests
    (∀ chronicle : List Incident,
      let readings := lineReadings chronicle s.machine.bus
      (∀ i (_ : i < readings.length), readings[i].requests = true ↔
        0x90 ≤ readings[i].line ∧ (i = 0 ∨ readings[i - 1].line < 0x90)) ∧
      (∀ i j (_ : i < j) (_ : j < readings.length), readings[i].requests = true →
        readings[j].requests = true → readings[i].frame ≠ readings[j].frame) ∧
      ∀ i j (_ : i < j) (_ : j < readings.length), readings[i].frame = readings[j].frame →
        readings[i].line < 0x90 → 0x90 ≤ readings[j].line →
        ∃! k, ∃ _ : k < readings.length,
          readings[k].requests = true ∧ readings[k].frame = readings[j].frame) ∧
    -- what a request does
    ∀ bus : Bus, (Bus.read 0xff44 bus).state =
      { bus with
        map := if bus.lineReading.requests then
            bus.map.set 0xff0f (bus.io .interruptFlag ||| 1)
          else bus.map
        scanline := { clock := bus.scanline.clock.next, last := bus.lineReading.line } } := by
  intro done
  refine ⟨?_, ?_, Bus.read_lineReading⟩
  · obtain ⟨chronicle, -, e⟩ := undergo_chronicled (fun _ _ => trivial) hvideo hsteps s
    refine ⟨chronicle, e, ?_⟩
    rw [← Bus.linesRead_replay, e]
  · intro chronicle readings
    have hget (k : Nat) (hk : k < readings.length) : readings[k] = clock.reading k :=
      Bus.getElem_lineReadings hnew hk
    simp only [hget]
    refine ⟨fun i hi => ?_, fun i j hij hj => Clock.reading_frame_ne hclock hij,
      fun i j hij hj hframe hli hlj => ?_⟩
    · rw [Clock.reading_requests_iff]
      refine and_congr_right fun _ => ?_
      cases i with
      | zero => exact iff_of_true nofun (.inl rfl)
      | succ i => simp
    · obtain ⟨k, hik, hkj, hr⟩ := Clock.exists_reading_requests hij hli hlj
      have hk : (clock.reading k).frame = (clock.reading j).frame :=
        Clock.reading_frame_eq hclock (Nat.le_of_lt hik) hkj hframe
      refine ⟨k, ⟨Nat.lt_of_le_of_lt hkj hj, hr, hk⟩, fun k' ⟨_, hr', hk'⟩ => ?_⟩
      -- another such reading would be in another frame
      obtain h | h | h := Nat.lt_trichotomy k' k
      · exact absurd (hk'.trans hk.symm) (Clock.reading_frame_ne hclock h hr' hr)
      · exact h
      · exact absurd (hk.trans hk'.symm) (Clock.reading_frame_ne hclock h hr hr')

/-- Screen and host read the counter in turn, about twice in a frame, and in both frames it is the
screen that sees the blank. -/
theorem blank_requested_once_a_frame_alternating :
    let bus : Bus :=
      { Bus.new (.steady 0 8600000) with map := (Store.fill 16 0).set 0xff40 0x80 }
    let s : Session Headless := { machine := Machine.new bus, video := {} }
    let look : Step := .host (do let _ ← Bus.read 0xff44)
    let done := undergo [.turn, look, .turn, look, .turn] s
    linesRead done.events = [0, 75, 150, 72, 147] ∧
      ∃ chronicle, replay chronicle bus = ⟨(), done.state.machine.bus, done.events⟩ ∧
        ∃ r ∈ lineReadings chronicle bus, ∃ r' ∈ lineReadings chronicle bus,
          r.requests = true ∧ r'.requests = true ∧ r.frame ≠ r'.frame := by
  intro bus s look done
  have hlook : look.Ensures (Chronicled fun _ => True) :=
    Bus.Visit.chronicled (q := fun _ => True) (fun _ _ => trivial) (fun _ _ => trivial)
      (.bind (.read 0xff44) fun _ => .pure ())
  have hsteps : ∀ step ∈ [.turn, look, .turn, look, .turn],
      step.Ensures (Chronicled fun _ => True) := by
    simp only [List.forall_mem_cons]
    exact ⟨trivial, hlook, trivial, hlook, trivial, nofun⟩
  have hnew : s.machine.bus.scanline = { clock := .steady 0 8600000 } := rfl
  obtain ⟨⟨chronicle, e, hlines⟩, hrequests, -⟩ :=
    blank_requested_once_a_frame (Bus.headless_chronicled fun _ _ => trivial) s hnew
      (Clock.steady_monotone 0 8600000) _ hsteps
  obtain ⟨hiff, hne, -⟩ := hrequests chronicle
  have hseen : linesRead done.events = [0, 75, 150, 72, 147] := by decide +kernel
  have hlines : [0, 75, 150, 72, 147] = (lineReadings chronicle bus).map LineReading.line :=
    hseen.symm.trans hlines
  have hline {k : Nat} {v : UInt8} (hk : k < (lineReadings chronicle bus).length)
      (hv : [0, 75, 150, 72, 147][k]? = some v) : (lineReadings chronicle bus)[k].line = v := by
    rw [hlines, List.getElem?_map, List.getElem?_eq_getElem hk] at hv
    exact Option.some.inj hv
  have hlength : 5 = (lineReadings chronicle bus).length := by
    simpa using congrArg List.length hlines
  have hrequest (k : Nat) {v v' : UInt8} (hk : k + 1 < (lineReadings chronicle bus).length)
      (hv : [0, 75, 150, 72, 147][k]? = some v) (hv' : [0, 75, 150, 72, 147][k + 1]? = some v')
      (habove : v < 0x90) (hblank : 0x90 ≤ v') :
      (lineReadings chronicle bus)[k + 1].requests = true :=
    (hiff (k + 1) hk).mpr
      ⟨hline hk hv' ▸ hblank, .inr (hline (Nat.lt_of_succ_lt hk) hv ▸ habove)⟩
  have h₂ := hrequest 1 (by omega) rfl rfl (by decide) (by decide)
  have h₄ := hrequest 3 (by omega) rfl rfl (by decide) (by decide)
  exact ⟨hseen, chronicle, e, _, List.getElem_mem _, _, List.getElem_mem _, h₂, h₄,
    hne 2 4 (by decide) (Nat.lt_of_lt_of_eq (by decide) hlength) h₂ h₄⟩

end GameBoy.Session

import GameBoy.Proofs.Session.VerticalBlank

/-!
# Counted frames

Bus and screen look out for the vertical blank apart from each other: the bus by all readings of the
scanline counter, the screen by its own ones while it is on. Between two frames that it counts the screen
sees a line above the blank, behind which the bus has to see the blank begin once more. So each counted
frame was requested by a reading before (`frames_announced`).
-/

namespace GameBoy

open Bus (Incident Chronicled replay lineReadings)

/-- The screen when it has seen a line. -/
def Headless.seeing (screen : Headless) (line : UInt8) : Headless where
  frames := if 0x90 ≤ line ∧ screen.inBlank = false then screen.frames + 1 else screen.frames
  inBlank := 0x90 ≤ line

/-- In a turn the screen sees one line or none. -/
lemma Headless.turn_cases (screen : Headless) (bus : Bus) :
    linesRead (screen.turn bus).events = [] ∧ (screen.turn bus).value = screen ∨
      ∃ line, linesRead (screen.turn bus).events = [line] ∧
        (screen.turn bus).value = screen.seeing line := by
  unfold turn
  rw [Action.bind_apply, Action.get_apply]
  by_cases hoff : (bus.io .lcdc &&& 0x80 == 0) = true
  · rw [if_pos hoff]
    exact .inl ⟨rfl, rfl⟩
  · refine .inr ⟨bus.lineReading.line, ?_⟩
    have hread : linesRead (Bus.read IoRegister.ly.addr bus).events = [bus.lineReading.line] :=
      Bus.linesRead_read bus 0xff44
    have hvalue : (Bus.read IoRegister.ly.addr bus).value = bus.lineReading.line := rfl
    rw [if_neg hoff, Action.bind_apply, hvalue]
    dsimp only
    rw [List.nil_append, linesRead_append, hread, seeing]
    split
    · next h =>
      have hcounts : 0x90 ≤ bus.lineReading.line ∧ screen.inBlank = false := by
        simpa [firstBlankLine] using h
      rw [if_pos hcounts]
      exact ⟨rfl, rfl⟩
    · next h =>
      have hcounts : ¬(0x90 ≤ bus.lineReading.line ∧ screen.inBlank = false) := by
        simpa [firstBlankLine] using h
      rw [if_neg hcounts]
      exact ⟨rfl, rfl⟩

/-- A frame that the screen counts was due, or the line that it sees enters the blank. -/
lemma Headless.seeing_frames_le (screen : Headless) (last line : UInt8) :
    (screen.seeing line).frames ≤
      screen.frames + (if screen.inBlank = false ∧ 0x90 ≤ last then 1 else 0) +
        blankEntries last [line] := by
  have hframes : (screen.seeing line).frames =
      if 0x90 ≤ line ∧ screen.inBlank = false then screen.frames + 1 else screen.frames := rfl
  rw [hframes, blankEntries, blankEntries]
  split
  · next h =>
    by_cases hlast : last < 0x90
    · have henters : last < 0x90 ∧ 0x90 ≤ line := ⟨hlast, h.1⟩
      rw [if_pos henters]
      omega
    · have hdue : screen.inBlank = false ∧ 0x90 ≤ last := ⟨h.2, UInt8.not_lt.mp hlast⟩
      rw [if_pos hdue]
      omega
  · omega

/-- A screen that is up to date counts a frame exactly if the line enters the blank. -/
lemma Headless.seeing_frames_eq {screen : Headless} {last : UInt8}
    (h : screen.inBlank = decide (0x90 ≤ last)) (line : UInt8) :
    (screen.seeing line).frames = screen.frames + blankEntries last [line] := by
  have hcounts : (0x90 ≤ line ∧ screen.inBlank = false) ↔ last < 0x90 ∧ 0x90 ≤ line := by
    rw [h, decide_eq_false_iff_not, UInt8.not_le, and_comm]
  rw [seeing, blankEntries, blankEntries]
  simp only [hcounts]
  split <;> rfl

namespace Session

/-- The frames that the screen has counted, and another one if the last line that was read lies in the
blank and the screen does not know yet. -/
def dueFrames (s : Session Headless) : Nat :=
  s.video.frames + if s.video.inBlank = false ∧ 0x90 ≤ s.machine.bus.scanline.last then 1 else 0

/-- The line that is remembered is the last one that was read, and no more frames become due than
readings enter the blank. -/
structure Announced (s : Session Headless) (es : List Event) (s' : Session Headless) : Prop where
  last : s'.machine.bus.scanline.last = (linesRead es).getLastD s.machine.bus.scanline.last
  dueFrames : s'.dueFrames ≤ s.dueFrames + blankEntries s.machine.bus.scanline.last (linesRead es)

variable {s s' : Session Headless} {es : List Event} {step : Step} {steps : List Step}

/-- Announcements compose. -/
lemma announced_composes : Composes Announced where
  refl s := ⟨rfl, Nat.le_refl _⟩
  trans h h' := by
    have hlast' := h'.last
    have hdue := h.dueFrames
    have hdue' := h'.dueFrames
    rw [h.last] at hlast' hdue'
    refine ⟨?_, ?_⟩
    · simp only [hlast', linesRead_append, List.getLastD_eq_getLast?, List.getLast?_append,
        Option.getD_or]
    · rw [linesRead_append, blankEntries_append]
      omega

/-- What a step makes of the screen. -/
lemma perform_video (step : Step) (s : Session Headless) :
    (step.perform s).state.video = s.video ∧
        (step = .turn → linesRead (step.perform s).events = []) ∨
      ∃ line, linesRead (step.perform s).events = [line] ∧
        (step.perform s).state.video = s.video.seeing line := by
  cases step with
  | tick | service | host => exact .inl ⟨rfl, nofun⟩
  | turn =>
    obtain ⟨hlines, hvideo⟩ | h := s.video.turn_cases s.machine.bus
    · exact .inl ⟨hvideo, fun _ => hlines⟩
    · exact .inr h

/-- The line that is remembered behind a step is the last one that it reads. -/
lemma perform_scanline_last (h : step.Ensures (Chronicled fun _ => True)) (s : Session Headless) :
    (step.perform s).state.machine.bus.scanline.last =
      (linesRead (step.perform s).events).getLastD s.machine.bus.scanline.last :=
  (perform_chronicled (fun _ _ => trivial) (Bus.headless_chronicled fun _ _ => trivial) h
    s).scanline_last

/-- What happens in a step is announced. -/
lemma perform_announced (h : step.Ensures (Chronicled fun _ => True)) :
    (step.perform : Action (Session Headless) Unit).Ensures Announced := by
  intro s
  have hlast := perform_scanline_last h s
  refine ⟨hlast, ?_⟩
  unfold dueFrames
  obtain ⟨hvideo, -⟩ | ⟨line, hline, hvideo⟩ := perform_video step s
  · -- a frame that becomes due here is one for which a reading enters the blank
    have hdue : 0x90 ≤ (step.perform s).state.machine.bus.scanline.last →
        0x90 ≤ s.machine.bus.scanline.last ∨
          0 < blankEntries s.machine.bus.scanline.last (linesRead (step.perform s).events) :=
      fun hblank => blank_or_blankEntries_pos (hlast ▸ hblank)
    rw [hvideo]
    split
    · next hblank =>
      obtain hbefore | hpos := hdue hblank.2
      · rw [if_pos ⟨hblank.1, hbefore⟩]
        exact Nat.le_add_right _ _
      · omega
    · omega
  · rw [hline] at hlast ⊢
    have hseen : ¬((s.video.seeing line).inBlank = false ∧ 0x90 ≤ line) := by
      rw [Headless.seeing, decide_eq_false_iff_not]
      exact fun h => h.1 h.2
    rw [hvideo, hlast, List.getLastD_cons, List.getLastD_nil, if_neg hseen]
    exact s.video.seeing_frames_le _ line

/-- No more frames are counted than readings enter the blank. -/
lemma undergo_announced (h : ∀ step ∈ steps, step.Ensures (Chronicled fun _ => True)) :
    (undergo steps : Action (Session Headless) Unit).Ensures Announced := by
  induction steps with
  | nil => exact .pure announced_composes _
  | cons step steps ih =>
    obtain ⟨hstep, hsteps⟩ := List.forall_mem_cons.mp h
    exact .bind announced_composes (perform_announced hstep) fun _ => ih hsteps

/-! ## Only the screen reads -/

/-- In a run only the turns of the screen read the scanline counter. -/
def OnlyScreenReads : List Step → Session Headless → Prop
  | [], _ => True
  | step :: steps, s =>
    (step ≠ .turn → linesRead (step.perform s).events = []) ∧
      OnlyScreenReads steps (step.perform s).state

/-- The screen has seen the line that was read last. -/
def UpToDate (s : Session Headless) : Prop :=
  s.video.inBlank = decide (0x90 ≤ s.machine.bus.scanline.last)

/-- A step leaves the screen up to date, unless it reads the line counter without a turn. -/
lemma perform_upToDate (hstep : step.Ensures (Chronicled fun _ => True))
    (hquiet : step ≠ .turn → linesRead (step.perform s).events = []) (h : s.UpToDate) :
    let done := step.perform s
    done.state.UpToDate ∧ done.state.video.frames =
      s.video.frames + blankEntries s.machine.bus.scanline.last (linesRead done.events) := by
  intro done
  have hlast := perform_scanline_last hstep s
  obtain ⟨hvideo, hturn⟩ | ⟨line, hline, hvideo⟩ := perform_video step s
  · have hlines : linesRead done.events = [] := by
      by_cases hstep : step = .turn
      · exact hturn hstep
      · exact hquiet hstep
    rw [hlines] at hlast ⊢
    refine ⟨?_, congrArg Headless.frames hvideo⟩
    rw [UpToDate, hvideo, hlast]
    exact h
  · rw [hline] at hlast ⊢
    refine ⟨?_, ?_⟩
    · rw [UpToDate, hvideo, hlast]
      rfl
    · rw [hvideo]
      exact Headless.seeing_frames_eq h line

/-- In a run in which only the screen reads, the screen counts a frame for each reading that enters
the blank. -/
lemma undergo_upToDate (hsteps : ∀ step ∈ steps, step.Ensures (Chronicled fun _ => True))
    (hquiet : OnlyScreenReads steps s) (h : s.UpToDate) :
    let done := undergo steps s
    done.state.UpToDate ∧ done.state.video.frames =
      s.video.frames + blankEntries s.machine.bus.scanline.last (linesRead done.events) := by
  induction steps generalizing s with
  | nil => exact ⟨h, rfl⟩
  | cons step steps ih =>
    obtain ⟨hstep, hsteps⟩ := List.forall_mem_cons.mp hsteps
    obtain ⟨hdate, hframes⟩ := perform_upToDate hstep hquiet.1 h
    obtain ⟨hdate', hframes'⟩ := ih hsteps hquiet.2 hdate
    refine ⟨hdate', hframes'.trans ?_⟩
    rw [hframes, perform_scanline_last hstep s, undergo, Action.bind_apply,
      linesRead_append, blankEntries_append, Nat.add_assoc]

/-- Every counted frame was announced. In a session that begins with the construction of its bus and its
screen, the screen has never counted more frames than there were readings of the scanline counter that
requested the interrupt of the vertical blank, whoever made them, whatever the clock showed and whenever
the screen was on. If the clock does not go backwards, it has not counted more than there were frames in
which the counter was read. And if only the screen reads the counter, it has counted exactly one frame
for each request, even if it is off at times. -/
theorem frames_announced (s : Session Headless) {clock : Clock}
    (hnew : s.machine.bus.scanline = { clock }) (hscreen : s.video = {}) (steps : List Step)
    (hsteps : ∀ step ∈ steps, step.Ensures (Chronicled fun _ => True)) :
    let done := undergo steps s
    let frames := done.state.video.frames
    (∃ chronicle, replay chronicle s.machine.bus = ⟨(), done.state.machine.bus, done.events⟩) ∧
    ∀ chronicle, replay chronicle s.machine.bus = ⟨(), done.state.machine.bus, done.events⟩ →
      let readings := lineReadings chronicle s.machine.bus
      let requests := readings.countP LineReading.requests
      frames ≤ requests ∧
      (Monotone clock.times → frames ≤ (readings.map LineReading.frame).toFinset.card) ∧
      (OnlyScreenReads steps s → frames = requests) := by
  intro done frames
  have hlast : s.machine.bus.scanline.last = 0 := by rw [hnew]
  refine ⟨?_, fun chronicle e => ?_⟩
  · obtain ⟨chronicle, -, e⟩ :=
      undergo_chronicled (fun _ _ => trivial) (Bus.headless_chronicled fun _ _ => trivial) hsteps s
    exact ⟨chronicle, e⟩
  · intro readings requests
    have hrequests : requests = blankEntries 0 (linesRead done.events) := by
      rw [← hlast]
      have hcount := Bus.countP_requests chronicle s.machine.bus
      rw [← Bus.linesRead_replay, e] at hcount
      exact hcount
    have hle : frames ≤ requests := by
      have hnone : s.dueFrames = 0 := by
        rw [dueFrames, hscreen, hlast]
        rfl
      have hdue := (undergo_announced hsteps s).dueFrames
      rw [hnone, hlast, Nat.zero_add, ← hrequests] at hdue
      exact Nat.le_trans (Nat.le_add_right _ _) hdue
    refine ⟨hle, fun hclock => hle.trans (Bus.requests_le_frames hnew hclock), fun hquiet => ?_⟩
    have hdate : s.UpToDate := by
      rw [UpToDate, hscreen, hlast]
      rfl
    obtain ⟨-, hframes⟩ := undergo_upToDate hsteps hquiet hdate
    rw [hscreen, hlast, ← hrequests] at hframes
    exact hframes.trans (Nat.zero_add _)

/-- A screen that is on for two frames, while the processor runs through zeros. -/
theorem frames_announced_two :
    let bus : Bus :=
      { Bus.new (.steady 0 8600000) with map := (Store.fill 16 0).set 0xff40 0x80 }
    let s : Session Headless := { machine := Machine.new bus, video := {} }
    let done := undergo [.turn, .tick, .turn, .turn, .tick, .turn, .turn] s
    done.state.video.frames = 2 ∧
      ∃ chronicle, replay chronicle bus = ⟨(), done.state.machine.bus, done.events⟩ ∧
        (lineReadings chronicle bus).countP LineReading.requests = 2 ∧
        2 ≤ ((lineReadings chronicle bus).map LineReading.frame).toFinset.card := by
  intro bus s done
  have hnew : s.machine.bus.scanline = { clock := .steady 0 8600000 } := rfl
  have hsteps : ∀ step ∈ ([.turn, .tick, .turn, .turn, .tick, .turn, .turn] : List Step),
      step.Ensures (Chronicled fun _ => True) := by
    simp only [List.forall_mem_cons]
    exact ⟨trivial, trivial, trivial, trivial, trivial, trivial, trivial, nofun⟩
  obtain ⟨⟨chronicle, e⟩, hbounds⟩ := frames_announced s hnew rfl _ hsteps
  obtain ⟨-, hframes, hrequests⟩ := hbounds chronicle e
  have hcount : done.state.video.frames = 2 := by decide +kernel
  have hturn {p : Prop} : Step.turn ≠ .turn → p := fun h => absurd rfl h
  have hquiet : OnlyScreenReads [.turn, .tick, .turn, .turn, .tick, .turn, .turn] s :=
    ⟨hturn, fun _ => by decide +kernel, hturn, hturn, fun _ => by decide +kernel, hturn, hturn, trivial⟩
  refine ⟨hcount, chronicle, e, (hrequests hquiet).symm.trans hcount, ?_⟩
  rw [← hcount]
  exact hframes (Clock.steady_monotone 0 8600000)

end Session

end GameBoy

import GameBoy.Proofs.Bus.Serial
import GameBoy.Proofs.CommandLine.ExitCode
import GameBoy.Proofs.Session.Steps

/-!
# What the program prints

A session copies to the terminal what its program sends over the serial line while the echo is on, and
the transcript of the bus keeps all of it. The program ends the line behind that, if there is any
(`transcript_and_output`).
-/

namespace GameBoy

open Bus (Incident Chronicled Transcribed replay record writesShown)

/-- Keeping the reports keeps what is echoed. -/
lemma echoed_reports (es : List Event) : echoed (es.filter Event.isReport) = echoed es := by
  induction es with
  | nil => rfl
  | cons e es ih =>
    rw [List.filter_cons]
    cases e with
    | read | write | notice => exact ih
    | echo byte => exact congrArg (byte :: ·) ih

namespace Session

variable {ν : Type}

/-- Transcripts of sessions compose. -/
lemma transcribed_composes :
    Composes fun (s : Session ν) es s' => OnBuses Transcribed s es s' :=
  onBuses_composes Bus.transcribed_composes

/-- A record sends nothing. -/
lemma note_transcribed (n : Notice) :
    (Action.note n : Action (Session ν) Unit).Ensures (OnBuses Transcribed) :=
  fun _ => ⟨rfl, [], (List.append_nil _).symm, (ite_self _).symm⟩

variable [Video ν]

/-- Looking for a failure sends nothing. -/
lemma verdict_transcribed : (verdict : Action (Session ν) Verdict).Ensures (OnBuses Transcribed) := by
  refine .bind transcribed_composes (.get transcribed_composes) fun s => ?_
  split
  · exact .pure transcribed_composes _
  · split
    · exact .pure transcribed_composes _
    · exact .bind transcribed_composes (note_transcribed _) fun _ => .pure transcribed_composes _
    · exact .bind transcribed_composes (note_transcribed _) fun _ => .pure transcribed_composes _

/-- Concluding a run sends nothing. -/
lemma conclude_transcribed (duration : Duration) (tally : Tally) :
    (conclude duration tally : Action (Session ν) Ending).Ensures (OnBuses Transcribed) := by
  refine .bind transcribed_composes (.get transcribed_composes) fun s => ?_
  dsimp only
  split
  · exact .bind transcribed_composes (note_transcribed _) fun _ => .pure transcribed_composes _
  · exact .pure transcribed_composes _

/-- A run of the driver prints what it adds to the transcript, if the echo is on. -/
lemma run_transcribed (hvideo : ∀ v : ν, (Video.turn v).Ensures (Chronicled Incident.KeepsEcho))
    (duration : Duration) :
    (run duration : Action (Session ν) Ending).Ensures (OnBuses Transcribed) := by
  have hC : Composes fun (s : Session ν) es s' => OnBuses Transcribed s es s' := transcribed_composes
  have hstep (step : Step) (h : step.Ensures (Chronicled Incident.KeepsEcho)) :
      (step.perform : Action (Session ν) Unit).Ensures (OnBuses Transcribed) :=
    fun s => (perform_chronicled (fun _ => Incident.IsPlain.keepsEcho) hvideo h s).transcribed
  have hturn : (turn : Action (Session ν) Verdict).Ensures (OnBuses Transcribed) :=
    .bind hC (hstep .tick trivial) fun _ => .bind hC (hstep .turn trivial) fun _ => verdict_transcribed
  have hkept : (turn.keeping Event.isReport : Action (Session ν) Verdict).Ensures
      (OnBuses Transcribed) := by
    -- only reports are kept, and what is printed is one
    intro s
    obtain ⟨hecho, sent, hsent, hes⟩ := hturn s
    exact ⟨hecho, sent, hsent, (echoed_reports _).trans hes⟩
  exact .bind hC (.upTo hC hkept _) (conclude_transcribed duration)

end Session

namespace CommandLine

open Session (run)

variable {files : FileStore} {clock : Clock} {patience : Nat} {r : Reading}

/-- Bytes as the text that the terminal shows. -/
def byteText (bytes : List UInt8) : String :=
  String.ofList (bytes.map fun byte => Char.ofNat byte.toNat)

/-- The echo of events is the text of the bytes that they copy. -/
lemma echoText_eq (es : List Event) : echoText es = byteText (echoed es) := by
  rw [echoText, byteText, echoed, List.map_filterMap]
  refine congrArg (fun f => String.ofList (es.filterMap f)) (funext fun e => ?_)
  cases e <;> rfl

/-- A session starts with an empty transcript, and nothing is printed until then. -/
lemma start_transcript (files : FileStore) (clock : Clock) (config : Config) :
    let started := start files clock config
    started.state.machine.bus.transcript = [] ∧ started.state.machine.bus.echo = config.echo ∧
      echoed started.events = [] :=
  (Bus.configure_chronicled (fun _ h => h) files config (Bus.new clock)).transcript_of_isLoading

/-- The line is ended behind a transcript that is not empty, unless the program is quiet. -/
lemma closing_eq (config : Config) (bus : Bus) :
    closing config bus = if config.echo = false ∨ bus.transcript = [] then "" else "\n" := by
  have hempty : bus.sent.isEmpty = true ↔ bus.transcript = [] := by
    rw [List.isEmpty_iff, Bus.transcript, List.reverse_eq_nil_iff]
  unfold closing
  by_cases h : bus.transcript = []
  · simp [hempty.mpr h, h]
  · have hsent : bus.sent.isEmpty = false := Bool.eq_false_iff.mpr (mt hempty.mp h)
    cases config.echo <;> simp [hsent, h]

/-- What the program prints from the start of a session on. -/
lemma stdout_eq (files : FileStore) (clock : Clock) (config : Config) (duration : Duration) :
    let started := start files clock config
    let done := run duration started.state
    let bus := done.state.machine.bus
    echoText (started.events ++ done.events ++ [farewell done.state.video]) ++ closing config bus =
      if config.echo = false ∨ bus.transcript = [] then "" else byteText bus.transcript ++ "\n" := by
  intro started done bus
  obtain ⟨hempty, hecho, hstarted⟩ := start_transcript files clock config
  obtain ⟨-, sent, hsent, hdone⟩ := Session.run_transcribed
    (Bus.headless_chronicled fun _ => Incident.IsPlain.keepsEcho) duration started.state
  have hsent : bus.transcript = sent := by rw [hsent, hempty, List.nil_append]
  have hechoed : echoed (started.events ++ done.events ++ [farewell done.state.video]) =
      if config.echo then bus.transcript else [] := by
    rw [echoed_append, echoed_append, hstarted, hdone, hecho, hsent]
    exact List.append_nil _
  rw [echoText_eq, hechoed, closing_eq]
  by_cases hquiet : config.echo = false ∨ bus.transcript = []
  · have hnone : (if config.echo then bus.transcript else []) = [] := by
      obtain h | h := hquiet
      · rw [h]
        rfl
      · rw [h, ite_self]
    rw [hnone, if_pos hquiet, if_pos hquiet]
    rfl
  · have hon : config.echo = true := Bool.not_eq_false _ ▸ fun h => hquiet (.inl h)
    rw [if_pos hon, if_neg hquiet, if_neg hquiet]

lemma runCartridge_report (filter : Filter) {ticks : Option Nat} {code : Nat}
    (h : r.ticks = .ok ticks)
    (hcode : exitCode? (run (duration ticks patience) (start files clock r.config).state).value =
      some code) :
    let bus := (run (duration ticks patience) (start files clock r.config).state).state.machine.bus
    ∃ report, runCartridge files filter clock patience r = some report ∧ report.exitCode = code ∧
      report.stdout =
        if r.config.echo = false ∨ bus.transcript = [] then "" else byteText bus.transcript ++ "\n" := by
  unfold runCartridge
  rw [h]
  dsimp only
  split
  · next hv =>
    rw [hv] at hcode
    exact ⟨_, rfl, Option.some.inj hcode, stdout_eq _ _ _ _⟩
  · next hv =>
    rw [hv] at hcode
    exact ⟨_, rfl, Option.some.inj hcode, stdout_eq _ _ _ _⟩
  · next hv =>
    rw [hv] at hcode
    cases hcode

/-- A session is over after `k` ticks, with an exit code: it has lasted until the limit, or a component
has stopped, no later than the limit if there is one. -/
inductive IsOver (s : Session Headless) (ticks : Option Nat) (k : Nat) : Nat → Prop where
  | limit (h : ticks = some k) (hlasts : s.Lasts k) : IsOver s ticks k 0
  | failure (h : ∀ n, ticks = some n → k ≤ n) (hfails : s.FailsAt k) : IsOver s ticks k 1

/-- A run with a limit is over some time, and one without if something fails within the patience. -/
lemma run_isOver {s : Session Headless} {ticks : Option Nat}
    (h : ticks = none → ∃ k ≤ patience, s.FailsAt k) :
    ∃ k code, IsOver s ticks k code ∧ (run (duration ticks patience) s).state = s.after k ∧
      exitCode? (run (duration ticks patience) s).value = some code := by
  have hfailed {k : Nat} (hturns : k ≤ (duration ticks patience).turns)
      (hk : ∀ n, ticks = some n → k ≤ n) (hfails : s.FailsAt k) :
      ∃ k code, IsOver s ticks k code ∧ (run (duration ticks patience) s).state = s.after k ∧
        exitCode? (run (duration ticks patience) s).value = some code := by
    obtain ⟨failure, hf⟩ := (Session.panicked_iff_blames k).mp hfails.panicked
    rw [Session.run_fails _ hturns hfails hf]
    exact ⟨k, 1, .failure hk hfails, rfl, rfl⟩
  cases ticks with
  | none =>
    obtain ⟨k, hk, hfails⟩ := h rfl
    exact hfailed hk nofun hfails
  | some n =>
    obtain hlasts | ⟨k, hk, hfails⟩ := Session.lasts_or_failsAt s n
    · rw [duration, Session.run_completes hlasts]
      exact ⟨n, 0, .limit rfl hlasts, rfl, rfl⟩
    · exact hfailed hk (fun _ e => Option.some.inj e ▸ hk) hfails

/-- The serial transcript and what is printed. Whatever happens in a session, what happens to its bus is
told by a chronicle of what was done to it, of which the writes show in the events. In each such chronicle
the transcript only grows: by one byte for each write of a value with the top bit set to the serial control
register, made while the data register holds a visible character or a blank, namely by the byte that is
held then. Nothing else adds to it, and the terminal is sent what is added under the echo.

So the program, if its arguments are accepted and its tick count can be read, prints nothing if it is told
to be quiet or nothing is sent, and otherwise the transcript and a line end, whether its session is over at
the limit or by a failure. Without a limit, the session has to fail within the patience. -/
theorem transcript_and_output {ν : Type} [Video ν]
    (hvideo : ∀ v : ν, (Video.turn v).Ensures (Chronicled fun _ => True)) (s : Session ν)
    (steps : List Session.Step)
    (hsteps : ∀ step ∈ steps, step.Ensures (Chronicled fun _ => True)) :
    let before := s.machine.bus
    let done := Session.undergo steps s
    let bus := done.state.machine.bus
    -- the transcript of a session
    (∃ chronicle, replay chronicle before = ⟨(), bus, done.events⟩) ∧
    (∀ chronicle, replay chronicle before = ⟨(), bus, done.events⟩ →
      chronicle.filterMap Incident.write? = writesShown done.events ∧
      bus.transcript = before.transcript ++ record Incident.sent? chronicle before ∧
      echoed done.events = record Incident.printed? chronicle before) ∧
    -- what the program prints
    ∀ files filter clock patience args r ticks, parse args = some (.run r) → r.ticks = .ok ticks →
      let session := (start files clock r.config).state
      (ticks = none → ∃ k ≤ patience, session.FailsAt k) →
      ∃ report k, execute files filter clock patience args = some report ∧
        IsOver session ticks k report.exitCode ∧
        let transcript := (session.after k).machine.bus.transcript
        report.stdout =
          if r.has .quietSerial = true ∨ transcript = [] then "" else byteText transcript ++ "\n" := by
  intro before done bus
  refine ⟨?_, fun chronicle e => ⟨?_, ?_, ?_⟩, fun files filter clock patience args r ticks => ?_⟩
  · obtain ⟨chronicle, -, e⟩ := Session.undergo_chronicled (fun _ _ => trivial) hvideo hsteps s
    exact ⟨chronicle, e⟩
  · rw [← Bus.writesShown_replay chronicle before, e]
  · rw [← Bus.transcript_replay, e]
  · rw [← Bus.echoed_replay, e]
  · intro hparse hticks session hfails
    obtain ⟨k, code, hover, hstate, hcode⟩ := run_isOver hfails
    obtain ⟨report, hreport, hexit, hstdout⟩ := runCartridge_report filter hticks hcode
    have hquiet : r.config.echo = false ↔ r.has .quietSerial = true := by
      rw [Reading.config, Bool.not_eq_false']
    refine ⟨report, k, ?_, hexit ▸ hover, ?_⟩
    · rw [execute, hparse]
      exact hreport
    · rw [hstdout, hstate]
      simp only [hquiet]

/-- A video that asks for the transfer of what the host has left in the data register, and a cartridge that
stores a word in both registers and then runs into an opcode that does not exist. -/
theorem transcript_and_output_word :
    let s : Session Scripted :=
      { machine := Machine.new (Bus.new (.steady 0 1)),
        video := { script := [(1, .write 0xff02 0x81)] } }
    let done := Session.undergo [.host (Bus.write 0xff01 0x48), .tick, .turn] s
    let image : Image :=
      Array.replicate 0x100 0 ++ #[0x31, 0x48, 0x81, 0x08, 0x01, 0xff, 0xfd]
    (∃ chronicle, replay chronicle s.machine.bus = ⟨(), done.state.machine.bus, done.events⟩ ∧
      record Incident.sent? chronicle s.machine.bus = [0x48]) ∧
    ∃ report, execute (fun _ => .ok image) none (.steady 0 1) 40 ["rom"] = some report ∧
      report.exitCode = 1 ∧ report.stdout = "H\n" := by
  intro s done image
  have hvideo (v : Scripted) : (Video.turn v).Ensures (Chronicled fun _ => True) :=
    v.turn_visit.chronicled (fun _ _ => trivial) fun _ _ => trivial
  have hsteps : ∀ step ∈ ([.host (Bus.write 0xff01 0x48), .tick, .turn] : List Session.Step),
      step.Ensures (Chronicled fun _ => True) := by
    simp only [List.forall_mem_cons]
    exact ⟨Bus.Incident.chronicled (i := .write 0xff01 0x48) trivial, trivial, trivial, nofun⟩
  obtain ⟨⟨chronicle, e⟩, hrecord, hprogram⟩ := transcript_and_output hvideo s _ hsteps
  refine ⟨⟨chronicle, e, ?_⟩, ?_⟩
  · obtain ⟨-, htranscript, -⟩ := hrecord chronicle e
    have hsent : done.state.machine.bus.transcript = [0x48] := by decide +kernel
    exact htranscript.symm.trans hsent
  · let r : Reading := { rom := some "rom" }
    let session := (start (fun _ => .ok image) (.steady 0 1) r.config).state
    have hrun : (run (.ticks 40) session).value = .failed (.cpu (.removedOpcode 0x106 0xfd) 33) := by
      decide +kernel
    obtain ⟨k, hk, hfails, hblames⟩ := Session.run_failed_iff.mp hrun
    have hpatience : (none : Option Nat) = none → ∃ k ≤ 40, session.FailsAt k :=
      fun _ => ⟨k, hk, hfails⟩
    obtain ⟨report, k', hreport, hover, hstdout⟩ :=
      hprogram (fun _ => .ok image) none (.steady 0 1) 40 ["rom"] r none rfl rfl hpatience
    cases hblames
    generalize hcode : report.exitCode = code at hover
    cases hover with
    | limit h => cases h
    | failure _ hfails' =>
      obtain rfl := hfails'.unique hfails
      have hsent : ((start (fun _ => .ok image) (.steady 0 1) r.config).state.after
          33).machine.bus.transcript = [0x48] := by decide +kernel
      refine ⟨report, hreport, hcode, hstdout.trans ?_⟩
      rw [hsent]
      rfl

end CommandLine

end GameBoy

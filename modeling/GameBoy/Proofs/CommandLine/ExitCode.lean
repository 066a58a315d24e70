import GameBoy.CommandLine.Program
import GameBoy.Proofs.CommandLine.TickCount
import GameBoy.Proofs.Session.Driver

/-!
# How the program ends

A session that is driven for some ticks stops at its first failure, blames the first component that
has stopped, and can be driven in parts. The exit code of the program says whether a limit was given
and reached (`run_stops_at_first_failure`).
-/

namespace GameBoy.CommandLine

open Session (run)

variable {files : FileStore} {filter : Filter} {clock : Clock} {patience : Nat} {r : Reading}

/-- The duration that accepted arguments give, if the tick count can be read. -/
lemma ticks_eq_ok_some_iff {n : Nat} :
    r.ticks = .ok (some n) ↔ ∃ text, r.value .ticks = some text ∧ Spells text n := by
  unfold Reading.ticks
  cases r.value .ticks with
  | none => simp
  | some text =>
    simp only [Option.some.injEq, exists_eq_left', ← readTicks_eq_ok_iff]
    cases readTicks text <;> simp [Except.map]

/-- There is no number of ticks if and only if the option is missing. -/
lemma ticks_eq_ok_none_iff : r.ticks = .ok none ↔ r.value .ticks = none := by
  unfold Reading.ticks
  cases r.value .ticks with
  | none => simp
  | some text => cases h : readTicks text <;> simp [Except.map, h]

/-- The exit code that belongs to an ending; a run that was given up has none. -/
def exitCode? : Ending → Option Nat
  | .completed _ => some 0
  | .failed _ => some 1
  | .givenUp => none

/-- The exit code of a program whose tick count can be read. -/
lemma runCartridge_exitCode {ticks : Option Nat} (h : r.ticks = .ok ticks) :
    (runCartridge files filter clock patience r).map Report.exitCode =
      exitCode? (run (duration ticks patience) (start files clock r.config).state).value := by
  unfold runCartridge
  rw [h]
  dsimp only
  split <;> next hv => rw [hv]; rfl

/-- A run that completes its ticks succeeds, and no other does. -/
lemma exitCode?_eq_zero_iff {ending : Ending} :
    exitCode? ending = some 0 ↔ ∃ ticks, ending = .completed ticks := by
  cases ending <;> simp [exitCode?]

/-- The program succeeds exactly if there is a limit and the session lasts until then. -/
lemma runCartridge_succeeds_iff :
    (runCartridge files filter clock patience r).map Report.exitCode = some 0 ↔
      ∃ n, r.ticks = .ok (some n) ∧ (start files clock r.config).state.Lasts n := by
  cases h : r.ticks with
  | error e => simp [runCartridge, h]
  | ok ticks =>
    rw [runCartridge_exitCode h, exitCode?_eq_zero_iff]
    cases ticks with
    | none => simp [duration, Session.run_untilFailure_ne_completed]
    | some n => simp [duration, Session.run_completed_iff]

/-- The program fails if the session fails within the limit, or fails at all where there is no
limit. -/
lemma runCartridge_fails {k : Nat} {ticks : Option Nat} (h : r.ticks = .ok ticks)
    (hk : (start files clock r.config).state.FailsAt k) (hle : k ≤ ticks.getD patience) :
    (runCartridge files filter clock patience r).map Report.exitCode = some 1 := by
  obtain ⟨failure, hf⟩ := (Session.panicked_iff_blames k).mp hk.panicked
  have hturns : k ≤ (duration ticks patience).turns := by cases ticks <;> exact hle
  rw [runCartridge_exitCode h, Session.run_fails _ hturns hk hf]
  rfl

/-- A session that is driven for `a` ticks completes exactly if no component has stopped after any of
them. Otherwise it fails at the first tick after which one has, and blames the processor first, then
the bus, then the video. In both cases it ends where that many ticks with a turn of the video behind
each lead, and reports no more than they do. Driving a completed session for `b` further ticks is
driving it for `a + b`; a failed one fails alike under every longer limit and without one. Without a
limit no session completes.

So the program exits with 0 exactly if the accepted arguments give a limit, the limit spells a number
of 64 bits, and the session lasts until then; and it exits with 1 if the session fails before. -/
theorem run_stops_at_first_failure {ν : Type} [Video ν] (s : Session ν) (a b : Nat) :
    let done := run (.ticks a) s
    -- how and where it ends
    (∀ ticks, done.value = .completed ticks ↔ ticks = a ∧ ∀ k, 1 ≤ k → k ≤ a → ¬(s.after k).Panicked) ∧
    (∀ failure, done.value = .failed failure ↔
      ∃ k ≤ a, s.FailsAt k ∧ (s.after k).Blames k failure) ∧
    (∀ ticks, done.value = .completed ticks → done.state = s.after a) ∧
    (∀ k ≤ a, s.FailsAt k → done.state = s.after k ∧ done.events = s.reports k) ∧
    -- runs in parts
    (∀ ticks, done.value = .completed ticks →
      let rest := run (.ticks b) done.state
      let whole := run (.ticks (a + b)) s
      whole.state = rest.state ∧ whole.value = rest.value.delayed a) ∧
    (∀ failure, done.value = .failed failure →
      run (.ticks (a + b)) s = done ∧
        ∀ k, s.FailsAt k → ∀ patience, k ≤ patience → run (.untilFailure patience) s = done) ∧
    (∀ patience ticks, (run (.untilFailure patience) s).value ≠ .completed ticks) ∧
    -- the exit code
    ∀ files filter clock patience args r, parse args = some (.run r) →
      let session := (start files clock r.config).state
      let code? := (execute files filter clock patience args).map Report.exitCode
      (code? = some 0 ↔
        ∃ text n, r.value .ticks = some text ∧ Spells text n ∧
          ∀ k, 1 ≤ k → k ≤ n → ¬(session.after k).Panicked) ∧
      ∀ k, session.FailsAt k →
        (r.value .ticks = none ∧ k ≤ patience ∨
          ∃ text n, r.value .ticks = some text ∧ Spells text n ∧ k ≤ n) →
        code? = some 1 := by
  intro done
  refine ⟨fun _ => Session.run_completed_iff, fun _ => Session.run_failed_iff, fun _ h => ?_,
    fun k hk h => ?_, fun _ h => ?_, fun _ h => ?_, Session.run_untilFailure_ne_completed s,
    fun files filter clock patience args r hparse => ?_⟩
  · obtain ⟨-, hl⟩ := Session.run_completed_iff.mp h
    exact congrArg Outcome.state (Session.run_completes hl)
  · obtain ⟨failure, hf⟩ := (Session.panicked_iff_blames k).mp h.panicked
    have hdone : done = _ := Session.run_fails (.ticks a) hk h hf
    rw [hdone]
    exact ⟨rfl, rfl⟩
  · obtain ⟨-, hl⟩ := Session.run_completed_iff.mp h
    have hdone : done = _ := Session.run_completes hl
    rw [hdone]
    exact Session.run_ticks_add hl b
  · obtain ⟨k, hk, hfail, -⟩ := Session.run_failed_iff.mp h
    refine ⟨Session.run_congr_of_failsAt hfail (Nat.le_add_right_of_le hk) hk, fun k' h' _ hp => ?_⟩
    obtain rfl := hfail.unique h'
    exact Session.run_congr_of_failsAt hfail hp hk
  · have hexecute : execute files filter clock patience args =
        runCartridge files filter clock patience r := by rw [execute, hparse]
    dsimp only
    rw [hexecute]
    refine ⟨?_, fun k hk hlimit => ?_⟩
    · rw [runCartridge_succeeds_iff]
      constructor
      · rintro ⟨n, hn, hl⟩
        obtain ⟨text, hv, hs⟩ := ticks_eq_ok_some_iff.mp hn
        exact ⟨text, n, hv, hs, hl⟩
      · rintro ⟨text, n, hv, hs, hl⟩
        exact ⟨n, ticks_eq_ok_some_iff.mpr ⟨text, hv, hs⟩, hl⟩
    · obtain ⟨hv, hle⟩ | ⟨text, n, hv, hs, hle⟩ := hlimit
      · exact runCartridge_fails (ticks_eq_ok_none_iff.mpr hv) hk hle
      · exact runCartridge_fails (ticks_eq_ok_some_iff.mpr ⟨text, hv, hs⟩) hk hle

/-- The video makes the bus stop in the tick in which the processor does, which is blamed. -/
example :
    let bus : Bus := { Bus.new (.steady 0 1) with
      map := (Store.fill 16 0).set 0x101 0xd3, strict := true }
    let s : Session Scripted :=
      { machine := Machine.new bus, video := { script := [(5, .write 0 0), (5, .panic)] } }
    (run (.ticks 4) s).value = .completed 4 ∧
      (run (.ticks 9) s).value = .failed (.cpu (.removedOpcode 0x101 0xd3) 5) := by
  decide +kernel

end GameBoy.CommandLine

import GameBoy.Session
import GameBoy.Proofs.Repetition
import Mathlib.Data.Nat.Find

/-!
# The driver of a session

A run alternates ticks of the machine and turns of the video (`alternate`, `after`) until a component
has stopped for good (`Panicked`) or the limit is reached. It stops at the first turn behind which a
component has stopped (`run_fails`), and completes or gives up if there is none within the limit
(`run_completes`, `run_givesUp`). Two runs in a row are one run (`run_ticks_add`).
-/

namespace GameBoy

/-- The failure as an observer sees it who counted some ticks before. -/
def Failure.delayed (before : Nat) : Failure → Failure
  | cpu fault ticks => cpu fault (before + ticks)
  | bus fault ticks => bus fault (before + ticks)
  | video ticks => video (before + ticks)

/-- The ending as an observer sees it who counted some ticks before. -/
def Ending.delayed (before : Nat) : Ending → Ending
  | completed ticks => completed (before + ticks)
  | failed failure => failed (failure.delayed before)
  | givenUp => givenUp

namespace Session

variable {ν : Type} [Video ν]

/-- Whether a component has stopped for good. -/
def Panicked (s : Session ν) : Prop :=
  s.machine.cpu.fault ≠ none ∨ s.machine.bus.fault ≠ none ∨ Video.isPanicked s.video = true

/-- The component that is blamed for the failure of a session after a number of ticks: the processor
if it has a fault, else the bus if it has one, else the video. -/
inductive Blames (s : Session ν) (ticks : Nat) : Failure → Prop where
  | cpu {fault : Fault} (h : s.machine.cpu.fault = some fault) : Blames s ticks (.cpu fault ticks)
  | bus {fault : Fault} (hc : s.machine.cpu.fault = none) (h : s.machine.bus.fault = some fault) :
    Blames s ticks (.bus fault ticks)
  | video (hc : s.machine.cpu.fault = none) (hb : s.machine.bus.fault = none)
    (h : Video.isPanicked s.video = true) : Blames s ticks (.video ticks)

/-- A tick and a turn of the video. -/
def alternate : Action (Session ν) Unit := do
  discard (onMachine Machine.tick)
  videoTurn

/-- The session after a number of ticks with a turn of the video behind each. -/
def after (s : Session ν) (n : Nat) : Session ν := (alternate.times n s).state

/-- The first number of ticks after which a component has stopped for good. -/
structure FailsAt (s : Session ν) (k : Nat) : Prop where
  pos : 1 ≤ k
  panicked : (s.after k).Panicked
  first (j : Nat) (hpos : 1 ≤ j) (hj : j < k) : ¬(s.after j).Panicked

/-- No component stops within a number of ticks. -/
def Lasts (s : Session ν) (n : Nat) : Prop := ∀ k, 1 ≤ k → k ≤ n → ¬(s.after k).Panicked

variable {s : Session ν}

/-! ## Failures -/

/-- The failure of a session is the one that its components are blamed for. -/
lemma failure?_eq_some_iff {ticks : Nat} {failure : Failure} :
    s.failure? ticks = some failure ↔ s.Blames ticks failure := by
  constructor
  · intro h
    unfold failure? at h
    split at h
    · next hc => exact Option.some.inj h ▸ .cpu hc
    · next hc hb => exact Option.some.inj h ▸ .bus hc hb
    · next hc hb =>
      split at h
      · next hv => exact Option.some.inj h ▸ .video hc hb hv
      · cases h
  · intro h
    cases h with
    | cpu h => simp [failure?, h]
    | bus hc h => simp [failure?, hc, h]
    | video hc hb h => simp [failure?, hc, hb, h]

/-- A session has no failure if and only if no component has stopped. -/
lemma failure?_eq_none_iff (ticks : Nat) : s.failure? ticks = none ↔ ¬s.Panicked := by
  unfold failure? Panicked
  split <;> simp_all

/-- No component has stopped if and only if there is no fault anywhere. -/
lemma not_panicked_iff :
    ¬s.Panicked ↔ s.machine.cpu.fault = none ∧ s.machine.bus.fault = none ∧
      Video.isPanicked s.video = false := by
  simp only [Panicked, not_or, ne_eq, Decidable.not_not, Bool.not_eq_true]

/-- Somebody is blamed exactly if a component has stopped. -/
lemma panicked_iff_blames (ticks : Nat) : s.Panicked ↔ ∃ failure, s.Blames ticks failure := by
  rw [← not_iff_not, ← failure?_eq_none_iff ticks, Option.eq_none_iff_forall_ne_some,
    not_exists]
  exact forall_congr' fun failure => not_congr failure?_eq_some_iff

/-- One component at most is blamed. -/
lemma Blames.unique {ticks : Nat} {f f' : Failure} (h : s.Blames ticks f) (h' : s.Blames ticks f') :
    f = f' :=
  Option.some.inj ((failure?_eq_some_iff.mpr h).symm.trans (failure?_eq_some_iff.mpr h'))

/-- Who is blamed does not depend on how many ticks were counted before. -/
lemma Blames.delayed {ticks : Nat} {failure : Failure} (h : s.Blames ticks failure) (before : Nat) :
    s.Blames (before + ticks) (failure.delayed before) := by
  cases h with
  | cpu h => exact .cpu h
  | bus hc h => exact .bus hc h
  | video hc hb h => exact .video hc hb h

/-! ## Turns -/

/-- What a turn decides when tick and video are done. -/
def verdict : Action (Session ν) Verdict := do
  let s ← .get
  match s.failure? 0 with
  | none => return .again
  | some failure =>
    match failure with
    | .cpu _ _ => return .last
    | .bus _ _ | .video _ =>
      .note (.dump .session s.machine.cpu.dump)
      return .last

/-- The decision leaves the session alone. -/
lemma verdict_state (s : Session ν) : (verdict s).state = s := by
  unfold verdict
  rw [Action.bind_apply, Action.get_apply]
  cases s.failure? 0 with
  | none => rfl
  | some failure => cases failure <;> rfl

/-- A turn is the last one if a component has stopped. -/
lemma verdict_of_panicked (h : s.Panicked) : (verdict s).value = .last := by
  obtain ⟨failure, hf⟩ := (panicked_iff_blames 0).mp h
  unfold verdict
  rw [Action.bind_apply, Action.get_apply]
  simp only [failure?_eq_some_iff.mpr hf]
  cases failure <;> rfl

/-- Otherwise there is another turn. -/
lemma verdict_of_not_panicked (h : ¬s.Panicked) : (verdict s).value = .again := by
  unfold verdict
  rw [Action.bind_apply, Action.get_apply]
  simp only [(failure?_eq_none_iff 0).mpr h]
  rfl

/-- What is reported in a number of turns. -/
def reports (s : Session ν) (n : Nat) : List Event := ((turn.keeping Event.isReport).times n s).events

/-- Keeping the reports makes no difference to the session. -/
lemma after_eq_times (s : Session ν) (n : Nat) :
    s.after n = ((turn.keeping Event.isReport).times n s).state := by
  refine Action.times_state_congr (fun s => ?_) n s
  -- a turn is a tick, a turn of the video and a verdict, which changes nothing
  exact (verdict_state (alternate s).state).symm

/-- One more tick and turn at the end. -/
lemma after_succ (s : Session ν) (n : Nat) : s.after (n + 1) = (alternate (s.after n)).state :=
  Action.times_succ_state _ _ _

/-- Ticks and turns add up. -/
lemma after_after (s : Session ν) (m n : Nat) : (s.after m).after n = s.after (m + n) := by
  rw [after, after, after, Action.times_add]
  rfl

/-- The turn behind some others asks for another one if no component has stopped then. -/
lemma turn_again {n : Nat} (h : ¬(s.after (n + 1)).Panicked) :
    ((turn.keeping Event.isReport) ((turn.keeping Event.isReport).times n s).state).value =
      .again := by
  rw [← after_eq_times]
  exact verdict_of_not_panicked (after_succ s n ▸ h)

/-- The turn behind which a component has stopped is the last one. -/
lemma turn_last {n : Nat} (h : (s.after (n + 1)).Panicked) :
    ((turn.keeping Event.isReport) ((turn.keeping Event.isReport).times n s).state).value =
      .last := by
  rw [← after_eq_times]
  exact verdict_of_panicked (after_succ s n ▸ h)

/-! ## When a session fails -/

/-- A session that fails does not last that long. -/
lemma FailsAt.not_lasts {k n : Nat} (h : s.FailsAt k) (hk : k ≤ n) : ¬s.Lasts n :=
  fun hl => hl k h.pos hk h.panicked

/-- A session fails once. -/
lemma FailsAt.unique {k k' : Nat} (h : s.FailsAt k) (h' : s.FailsAt k') : k = k' := by
  refine Nat.le_antisymm (Nat.not_lt.mp fun hlt => ?_) (Nat.not_lt.mp fun hlt => ?_)
  · exact h.first k' h'.pos hlt h'.panicked
  · exact h'.first k h.pos hlt h.panicked

/-- Before the turn at which a working session fails, no component has stopped. -/
lemma FailsAt.before {k : Nat} (h : s.FailsAt k) (hs : ¬s.Panicked) :
    ¬(s.after (k - 1)).Panicked := by
  by_cases hk : k - 1 = 0
  · rw [hk]
    exact hs
  · exact h.first (k - 1) (Nat.pos_of_ne_zero hk) (Nat.sub_lt h.pos Nat.one_pos)

/-- A session that does not last fails at some first tick. -/
lemma lasts_or_failsAt (s : Session ν) (n : Nat) : s.Lasts n ∨ ∃ k ≤ n, s.FailsAt k := by
  classical
  by_cases h : ∃ k, 1 ≤ k ∧ k ≤ n ∧ (s.after k).Panicked
  · obtain ⟨hpos, hle, hp⟩ := Nat.find_spec h
    refine .inr ⟨Nat.find h, hle, hpos, hp, fun j hj hlt hpj => ?_⟩
    exact Nat.find_min h hlt ⟨hj, Nat.le_trans (Nat.le_of_lt hlt) hle, hpj⟩
  · exact .inl fun k hpos hle hp => h ⟨k, hpos, hle, hp⟩

/-- A session lasts in two parts if it lasts in each of them. -/
lemma lasts_add_iff {m n : Nat} : s.Lasts (m + n) ↔ s.Lasts m ∧ (s.after m).Lasts n := by
  refine ⟨fun h => ⟨fun k hpos hk => h k hpos (by omega), fun k hpos hk => ?_⟩, fun ⟨h, h'⟩ => ?_⟩
  · rw [after_after]
    exact h (m + k) (by omega) (by omega)
  · intro k hpos hk
    by_cases hkm : k ≤ m
    · exact h k hpos hkm
    · have hlast := h' (k - m) (by omega) (by omega)
      rwa [after_after, Nat.add_sub_cancel' (by omega)] at hlast

/-- A session that lasts for some ticks and then fails. -/
lemma FailsAt.delayed {m k : Nat} (hm : s.Lasts m) (h : (s.after m).FailsAt k) :
    s.FailsAt (m + k) where
  pos := by have := h.pos; omega
  panicked := after_after s m k ▸ h.panicked
  first j hpos hj hp := by
    by_cases hjm : j ≤ m
    · exact hm j hpos hjm hp
    · refine h.first (j - m) (by omega) (by omega) ?_
      rwa [after_after, Nat.add_sub_cancel' (by omega)]

/-! ## Runs -/

/-- A run is turns and a conclusion. -/
lemma run_eq (duration : Duration) (s : Session ν) :
    run duration s =
      (Action.upTo duration.turns (turn.keeping Event.isReport) >>= conclude duration) s :=
  rfl

/-- A run stops behind the first turn at which a component has stopped, and the one that is blamed
then is what it answers with. -/
lemma run_fails (duration : Duration) {k : Nat} {failure : Failure} (hk : k ≤ duration.turns)
    (h : s.FailsAt k) (hf : (s.after k).Blames k failure) :
    run duration s = ⟨.failed failure, s.after k, s.reports k⟩ := by
  obtain ⟨j, rfl⟩ := Nat.exists_eq_add_of_le' h.pos
  have hturns := Action.upTo_of_last (x := turn.keeping Event.isReport) (Nat.lt_of_succ_le hk)
    (fun i hi => turn_again (h.first (i + 1) (by omega) (by omega))) (turn_last h.panicked)
  rw [run_eq, Action.bind_apply, hturns, ← after_eq_times]
  simp [conclude, ending, failure?_eq_some_iff.mpr hf, reports]

/-- A run in which no component stops takes all its turns. -/
lemma upTo_of_lasts {n : Nat} (h : s.Lasts n) :
    Action.upTo n (turn.keeping Event.isReport) s = ⟨⟨n, false⟩, s.after n, s.reports n⟩ := by
  rw [after_eq_times]
  exact Action.upTo_of_again fun i hi => turn_again (h (i + 1) (by omega) (by omega))

/-- The record with which a run completes. -/
def completion (s : Session ν) (ticks : Nat) : Event :=
  .notice (.runEnded ticks s.machine.cpu.instructions s.machine.cpu.cycles)

/-- A session that lasts for the ticks of a run completes it. -/
lemma run_completes {n : Nat} (h : s.Lasts n) :
    run (.ticks n) s = ⟨.completed n, s.after n, s.reports n ++ [(s.after n).completion n]⟩ := by
  rw [run_eq, Action.bind_apply, Duration.turns, upTo_of_lasts h]
  simp [conclude, ending, completion]

/-- A session that outlasts the patience of a run is given up. -/
lemma run_givesUp {patience : Nat} (h : s.Lasts patience) :
    run (.untilFailure patience) s = ⟨.givenUp, s.after patience, s.reports patience⟩ := by
  rw [run_eq, Action.bind_apply, Duration.turns, upTo_of_lasts h]
  simp [conclude, ending]

/-- A run with a limit ends in one of two ways. -/
lemma run_ticks_cases (s : Session ν) (n : Nat) :
    s.Lasts n ∧ (run (.ticks n) s).value = .completed n ∨
      ∃ k ≤ n, ∃ failure, s.FailsAt k ∧ (s.after k).Blames k failure ∧
        (run (.ticks n) s).value = .failed failure := by
  obtain h | ⟨k, hk, h⟩ := lasts_or_failsAt s n
  · exact .inl ⟨h, by rw [run_completes h]⟩
  · obtain ⟨failure, hf⟩ := (panicked_iff_blames k).mp h.panicked
    exact .inr ⟨k, hk, failure, h, hf, by rw [run_fails (.ticks n) hk h hf]⟩

/-- A run completes if the session lasts for it, and only then. -/
lemma run_completed_iff {n ticks : Nat} :
    (run (.ticks n) s).value = .completed ticks ↔ ticks = n ∧ s.Lasts n := by
  obtain ⟨h, hv⟩ | ⟨k, hk, failure, h, hf, hv⟩ := run_ticks_cases s n
  · rw [hv, Ending.completed.injEq, and_iff_left h]
    exact eq_comm
  · rw [hv]
    exact iff_of_false nofun fun hl => h.not_lasts hk hl.2

/-- A run fails behind the first turn at which a component has stopped, by the one that is blamed then. -/
lemma run_failed_iff {duration : Duration} {failure : Failure} :
    (run duration s).value = .failed failure ↔
      ∃ k ≤ duration.turns, s.FailsAt k ∧ (s.after k).Blames k failure := by
  obtain h | ⟨k, hk, h⟩ := lasts_or_failsAt s duration.turns
  · have hne : (run duration s).value ≠ .failed failure := by
      cases duration with
      | ticks n =>
        have hn : s.Lasts n := h
        rw [run_completes hn]
        nofun
      | untilFailure patience =>
        have hpatience : s.Lasts patience := h
        rw [run_givesUp hpatience]
        nofun
    exact iff_of_false hne fun ⟨k, hk, hfail, _⟩ => hfail.not_lasts hk h
  · obtain ⟨failure', hf⟩ := (panicked_iff_blames k).mp h.panicked
    rw [run_fails duration hk h hf, Ending.failed.injEq]
    constructor
    · rintro rfl
      exact ⟨k, hk, h, hf⟩
    · rintro ⟨k', _, h', hf'⟩
      obtain rfl := h.unique h'
      exact hf.unique hf'

/-- A run without a limit completes never; it goes on as long as no component stops. -/
lemma run_untilFailure_ne_completed (s : Session ν) (patience ticks : Nat) :
    (run (.untilFailure patience) s).value ≠ .completed ticks := by
  obtain h | ⟨k, hk, h⟩ := lasts_or_failsAt s patience
  · rw [run_givesUp h]
    nofun
  · obtain ⟨failure, hf⟩ := (panicked_iff_blames k).mp h.panicked
    rw [run_fails (.untilFailure patience) hk h hf]
    nofun

/-- A run and, if it completes, another one behind it are one run. -/
lemma run_ticks_add {m : Nat} (h : s.Lasts m) (n : Nat) :
    (run (.ticks (m + n)) s).state = (run (.ticks n) (s.after m)).state ∧
      (run (.ticks (m + n)) s).value = (run (.ticks n) (s.after m)).value.delayed m := by
  obtain hn | ⟨k, hk, hn⟩ := lasts_or_failsAt (s.after m) n
  · rw [run_completes hn, run_completes (lasts_add_iff.mpr ⟨h, hn⟩), after_after]
    exact ⟨rfl, rfl⟩
  · obtain ⟨failure, hf⟩ := (panicked_iff_blames k).mp hn.panicked
    have hf' : (s.after (m + k)).Blames (m + k) (failure.delayed m) := by
      rw [← after_after]
      exact hf.delayed m
    rw [run_fails (.ticks n) hk hn hf,
      run_fails (.ticks (m + n)) (Nat.add_le_add_left hk m) (.delayed h hn) hf', after_after]
    exact ⟨rfl, rfl⟩

/-- How long a run may take does not matter to one that fails. -/
lemma run_congr_of_failsAt {k : Nat} (h : s.FailsAt k) {duration duration' : Duration}
    (hk : k ≤ duration.turns) (hk' : k ≤ duration'.turns) : run duration s = run duration' s := by
  obtain ⟨failure, hf⟩ := (panicked_iff_blames k).mp h.panicked
  rw [run_fails _ hk h hf, run_fails _ hk' h hf]

end Session

end GameBoy

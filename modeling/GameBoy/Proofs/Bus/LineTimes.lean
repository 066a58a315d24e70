import GameBoy.Bus.Scanline
import Mathlib.Algebra.Order.Floor.Div
import Mathlib.Order.Interval.Finset.Nat

/-!
# Times of the lines

A frame cannot be parted into lines of the same number of nanoseconds. A line begins with the first
nanosecond at which the sweep has reached it (`lineStart_le_iff`), so that each lasts as long as the
others or one nanosecond longer (`lineStart_succ`). The line is worked out in machine words, which hold
every number on the way for any time that has a number of seconds of 64 bits (`Elapsed.fits`).
-/

namespace GameBoy

/-- How many nanoseconds after the beginning of a frame a line begins. -/
def lineStart (line : Nat) : Nat := line * framePeriod ⌈/⌉ lineCount

/-- All lines lie within the frame. -/
lemma lineStart_le_framePeriod {line : Nat} (h : line ≤ lineCount) : lineStart line ≤ framePeriod :=
  (ceilDiv_le_iff_le_mul (by decide)).mpr (Nat.mul_le_mul_right framePeriod h)

/-- The line has reached a number from the time on at which the line of this number begins. -/
lemma lineStart_le_iff {line t : Nat} :
    lineStart line ≤ t % framePeriod ↔ line ≤ (lineAt t).toNat := by
  have hlines : 0 < lineCount := by decide
  have hperiod : 0 < framePeriod := by decide
  rw [lineStart, ceilDiv_le_iff_le_mul hlines, toNat_lineAt, Nat.le_div_iff_mul_le hperiod,
    Nat.mul_comm lineCount]

/-- A time is before the start of a line if an earlier line is drawn. -/
lemma lt_lineStart_iff {line t : Nat} :
    t % framePeriod < lineStart line ↔ (lineAt t).toNat < line := by
  rw [← Nat.not_le, ← Nat.not_le, lineStart_le_iff]

/-- What a line lasts is rounded down, or rounded up. -/
lemma lineStart_succ (line : Nat) :
    lineStart (line + 1) = lineStart line + framePeriod / lineCount ∨
      lineStart (line + 1) = lineStart line + framePeriod ⌈/⌉ lineCount := by
  simp only [lineStart, Nat.ceilDiv_eq_add_pred_div, framePeriod, lineCount]
  omega

/-- The line of a time is the one between whose beginning and whose end it lies. -/
lemma toNat_lineAt_eq_iff {t line : Nat} :
    (lineAt t).toNat = line ↔
      line ≤ 0x99 ∧ lineStart line ≤ t % framePeriod ∧ t % framePeriod < lineStart (line + 1) := by
  rw [lineStart_le_iff, lt_lineStart_iff]
  constructor
  · rintro rfl
    exact ⟨Nat.le_of_lt_succ (lineAt_lt t), Nat.le_refl _, Nat.lt_succ_self _⟩
  · rintro ⟨-, hle, hlt⟩
    exact Nat.le_antisymm (Nat.le_of_lt_succ hlt) hle

/-- The line depends on the time within the frame only. -/
lemma lineAt_mod (t : Nat) : lineAt (t % framePeriod) = lineAt t := by
  rw [lineAt, lineAt, Nat.mod_mod]

/-- Frames are alike. -/
lemma lineAt_add_framePeriod (t : Nat) : lineAt (t + framePeriod) = lineAt t := by
  rw [← lineAt_mod, Nat.add_mod_right, lineAt_mod]

/-- Within a frame the line does not fall. -/
lemma lineAt_mono {t t' : Nat} (h : t ≤ t') (hframe : t / framePeriod = t' / framePeriod) :
    lineAt t ≤ lineAt t' := by
  have hrest : t % framePeriod ≤ t' % framePeriod := by
    have ht := Nat.div_add_mod t framePeriod
    have ht' := Nat.div_add_mod t' framePeriod
    rw [hframe] at ht
    omega
  rw [UInt8.le_iff_toNat_le, toNat_lineAt, toNat_lineAt]
  exact Nat.div_le_div_right (Nat.mul_le_mul_right _ hrest)

/-- A frame begins with the first line. -/
lemma lineAt_of_begins {t : Nat} (h : t % framePeriod = 0) : lineAt t = 0 := by
  rw [← lineAt_mod, h]
  rfl

/-- A frame ends with the last line. -/
lemma lineAt_of_ends {t : Nat} (h : t % framePeriod = framePeriod - 1) : lineAt t = 0x99 := by
  rw [← lineAt_mod, h]
  decide

/-- From one nanosecond to the next the line stays or moves on by one, and turns over with the frame. -/
lemma lineAt_next (t : Nat) :
    (lineAt (t + 1)).toNat = (lineAt t).toNat ∨
      (lineAt (t + 1)).toNat = (lineAt t).toNat + 1 ∨
      (t + 1) % framePeriod = 0 ∧ lineAt t = 0x99 ∧ lineAt (t + 1) = 0 := by
  have hlt : t % framePeriod < framePeriod := Nat.mod_lt _ (by decide)
  have hstep : (t + 1) % framePeriod = (t % framePeriod + 1) % framePeriod :=
    (Nat.mod_add_mod t framePeriod 1).symm
  obtain hin | hend := Nat.lt_or_eq_of_le (Nat.succ_le_of_lt hlt)
  · -- in the same frame, where it does not reach the end of the next line, which lasts longer
    rw [Nat.mod_eq_of_lt hin] at hstep
    have hge : (lineAt t).toNat ≤ (lineAt (t + 1)).toNat :=
      lineStart_le_iff.mp (hstep ▸ Nat.le_succ_of_le (lineStart_le_iff.mpr (Nat.le_refl _)))
    have hle : (lineAt (t + 1)).toNat < (lineAt t).toNat + 1 + 1 := by
      refine lt_lineStart_iff.mp ?_
      have hstart := lt_lineStart_iff.mpr (Nat.lt_add_one (lineAt t).toNat)
      have hfloor : framePeriod / lineCount = 113921 := by decide
      have hceil : framePeriod ⌈/⌉ lineCount = 113922 := by decide
      have hlasts := lineStart_succ ((lineAt t).toNat + 1)
      omega
    omega
  · have hnext : (t + 1) % framePeriod = 0 := by
      rw [hstep, ← Nat.succ_eq_add_one, hend, Nat.mod_self]
    exact .inr (.inr ⟨hnext, lineAt_of_ends (Nat.eq_sub_of_add_eq hend), lineAt_of_begins hnext⟩)

/-- The times of a frame at which a line is shown. -/
def lineTimes (frame line : Nat) : Finset Nat :=
  {t ∈ Finset.Ico (frame * framePeriod) ((frame + 1) * framePeriod) | (lineAt t).toNat = line}

/-- The number of the frame that a time is in. -/
lemma div_of_frame {frame t : Nat}
    (h : t ∈ Set.Ico (frame * framePeriod) ((frame + 1) * framePeriod)) : t / framePeriod = frame :=
  Nat.div_eq_of_lt_le h.1 h.2

/-- The time inside a frame. -/
lemma frame_mod (frame : Nat) {rest : Nat} (h : rest < framePeriod) :
    (frame * framePeriod + rest) % framePeriod = rest := by
  rw [Nat.mul_add_mod', Nat.mod_eq_of_lt h]

/-- The times of a line are those from its beginning to the beginning of the next one. -/
lemma lineTimes_eq (frame : Nat) {line : Nat} (h : line < lineCount) :
    lineTimes frame line =
      Finset.Ico (frame * framePeriod + lineStart line)
        (frame * framePeriod + lineStart (line + 1)) := by
  have hend : lineStart (line + 1) ≤ framePeriod := lineStart_le_framePeriod h
  have hframe : (frame + 1) * framePeriod = frame * framePeriod + framePeriod :=
    Nat.succ_mul frame framePeriod
  ext t
  rw [lineTimes, Finset.mem_filter, Finset.mem_Ico, Finset.mem_Ico, toNat_lineAt_eq_iff, hframe]
  constructor
  · rintro ⟨⟨hbegin, hbefore⟩, -, hstart, hstop⟩
    obtain ⟨rest, rfl⟩ := Nat.exists_eq_add_of_le hbegin
    rw [frame_mod frame (Nat.lt_of_add_lt_add_left hbefore)] at hstart hstop
    omega
  · rintro ⟨hstart, hstop⟩
    obtain ⟨rest, rfl⟩ := Nat.exists_eq_add_of_le (Nat.le_of_add_right_le hstart)
    rw [frame_mod frame (by omega)]
    exact ⟨by omega, Nat.le_of_lt_succ h, by omega, by omega⟩

/-- Each line is shown for the floor or the ceiling of the same part of a frame. -/
lemma card_lineTimes (frame : Nat) {line : Nat} (h : line < lineCount) :
    (lineTimes frame line).card = framePeriod / lineCount ∨
      (lineTimes frame line).card = framePeriod ⌈/⌉ lineCount := by
  have hcard : (lineTimes frame line).card = lineStart (line + 1) - lineStart line := by
    rw [lineTimes_eq frame h, Nat.card_Ico, Nat.add_sub_add_left]
  obtain hfloor | hceil := lineStart_succ line
  · exact .inl (hcard.trans (Nat.sub_eq_of_eq_add' hfloor))
  · exact .inr (hcard.trans (Nat.sub_eq_of_eq_add' hceil))

/-! ## Machine words -/

/-- A time as the system counts it, in whole seconds and the nanoseconds beyond them. -/
structure Elapsed where
  seconds : UInt64
  nanos : UInt32

namespace Elapsed

variable (time : Elapsed)

/-- The time in nanoseconds. -/
def nanoseconds : Nat := time.seconds.toNat * 1000000000 + time.nanos.toNat

/-- The whole seconds in nanoseconds, in a word. -/
def whole : BitVec 128 := time.seconds.toBitVec.setWidth 128 * 1000000000#128

/-- The time in nanoseconds, in a word. -/
def word : BitVec 128 := time.whole + time.nanos.toBitVec.setWidth 128

/-- The length of a frame in a word. -/
def periodWord : BitVec 128 := (1000000000#64 / 57#64).setWidth 128

/-- How far the time is into its frame, in a word. -/
def part : BitVec 128 := time.word % periodWord

/-- The line of the time, as it is worked out in words. -/
def line : UInt8 := ⟨(time.part * 154#128 / periodWord).setWidth 8⟩

/-- No operation on words has a result that does not fit into its word. -/
structure Fits : Prop where
  whole : (time.seconds.toBitVec.setWidth 128).umulOverflow 1000000000#128 = false
  word : time.whole.uaddOverflow (time.nanos.toBitVec.setWidth 128) = false
  scaled : time.part.umulOverflow 154#128 = false
  line : (time.part * 154#128 / periodWord).toNat < 2 ^ 8

variable {time : Elapsed}

/-- The period fits its word. -/
lemma toNat_periodWord : periodWord.toNat = framePeriod := by decide

/-- The nanoseconds of the whole seconds fit a word of 128 bits. -/
lemma whole_fits : (time.seconds.toBitVec.setWidth 128).umulOverflow 1000000000#128 = false := by
  have h := time.seconds.toNat_lt
  simp only [BitVec.umulOverflow, BitVec.toNat_setWidth, UInt64.toNat_toBitVec, BitVec.toNat_ofNat,
    decide_eq_false_iff_not]
  omega

/-- The whole seconds in nanoseconds. -/
lemma toNat_whole : time.whole.toNat = time.seconds.toNat * 1000000000 := by
  have h := time.seconds.toNat_lt
  rw [whole, BitVec.toNat_mul_of_not_umulOverflow (Bool.eq_false_iff.mp whole_fits),
    BitVec.toNat_setWidth, UInt64.toNat_toBitVec, Nat.mod_eq_of_lt (by omega)]
  rfl

/-- All nanoseconds together fit a word of 128 bits. -/
lemma word_fits : time.whole.uaddOverflow (time.nanos.toBitVec.setWidth 128) = false := by
  have h := time.seconds.toNat_lt
  have h' := time.nanos.toNat_lt
  simp only [BitVec.uaddOverflow, toNat_whole, BitVec.toNat_setWidth, UInt32.toNat_toBitVec,
    decide_eq_false_iff_not]
  omega

/-- A time in nanoseconds. -/
lemma toNat_word : time.word.toNat = time.nanoseconds := by
  have h' := time.nanos.toNat_lt
  rw [word, BitVec.toNat_add_of_not_uaddOverflow (Bool.eq_false_iff.mp word_fits), toNat_whole,
    BitVec.toNat_setWidth, UInt32.toNat_toBitVec, Nat.mod_eq_of_lt (by omega)]
  rfl

/-- The time inside a frame, in a word. -/
lemma toNat_part : time.part.toNat = time.nanoseconds % framePeriod := by
  rw [part, BitVec.toNat_umod, toNat_word, toNat_periodWord]

/-- The time inside a frame fits even when it is multiplied by the number of lines. -/
lemma scaled_fits : time.part.umulOverflow 154#128 = false := by
  have h : time.nanoseconds % framePeriod < framePeriod := Nat.mod_lt _ (by decide)
  simp only [BitVec.umulOverflow, toNat_part, BitVec.toNat_ofNat, decide_eq_false_iff_not]
  simp only [framePeriod] at h ⊢
  omega

/-- The number that is cut down to the line is the line. -/
lemma toNat_scaled : (time.part * 154#128 / periodWord).toNat = (lineAt time.nanoseconds).toNat := by
  rw [BitVec.toNat_udiv, BitVec.toNat_mul_of_not_umulOverflow (Bool.eq_false_iff.mp scaled_fits),
    toNat_part, toNat_periodWord, toNat_lineAt]
  rfl

/-- No step of the computation overflows. -/
lemma fits (time : Elapsed) : time.Fits where
  whole := whole_fits
  word := word_fits
  scaled := scaled_fits
  line := toNat_scaled ▸ UInt8.toNat_lt _

/-- The computation in words gives the line. -/
lemma line_eq (time : Elapsed) : time.line = lineAt time.nanoseconds := by
  refine UInt8.toNat_inj.mp ?_
  rw [line, ← UInt8.toNat_toBitVec, BitVec.toNat_setWidth, toNat_scaled]
  exact Nat.mod_eq_of_lt (UInt8.toNat_lt _)

end Elapsed

/-- The line of a time is worked out of its seconds and nanoseconds without a loss in any word. It is
the one line between whose beginning and whose end the time lies, where the lines follow one another in
each frame from its first nanosecond to its last: none is left out, and what they last is rounded down
or rounded up. -/
theorem lineAt_sweeps :
    framePeriod = 17543859 ∧ lineCount = 154 ∧
    (∀ time : Elapsed, time.Fits ∧ time.line = lineAt time.nanoseconds) ∧
    (∀ t line, (lineAt t).toNat = line ↔
      line ≤ 0x99 ∧ line * framePeriod ⌈/⌉ lineCount ≤ t % framePeriod ∧
        t % framePeriod < (line + 1) * framePeriod ⌈/⌉ lineCount) ∧
    (∀ t, lineAt (t + framePeriod) = lineAt t) ∧
    (∀ frame, MonotoneOn (fun t => (lineAt t).toNat)
      (Set.Ico (frame * framePeriod) ((frame + 1) * framePeriod))) ∧
    (∀ frame, lineAt (frame * framePeriod) = 0 ∧
      lineAt (frame * framePeriod + (framePeriod - 1)) = 0x99) ∧
    (∀ t, (lineAt (t + 1)).toNat = (lineAt t).toNat ∨
      (lineAt (t + 1)).toNat = (lineAt t).toNat + 1 ∨
      (t + 1) % framePeriod = 0 ∧ lineAt t = 0x99 ∧ lineAt (t + 1) = 0) ∧
    ∀ (frame : Nat) (line : Fin lineCount),
      lineTimes frame line =
        Finset.Ico (frame * framePeriod + line * framePeriod ⌈/⌉ lineCount)
          (frame * framePeriod + (line + 1) * framePeriod ⌈/⌉ lineCount) ∧
      ((lineTimes frame line).card = framePeriod / lineCount ∨
        (lineTimes frame line).card = framePeriod ⌈/⌉ lineCount) := by
  refine ⟨by decide, rfl, fun time => ⟨time.fits, time.line_eq⟩, fun t line => toNat_lineAt_eq_iff,
    lineAt_add_framePeriod, fun frame t ht t' ht' h => ?_, fun frame => ⟨?_, ?_⟩, lineAt_next,
    fun frame line => ⟨lineTimes_eq frame line.isLt, card_lineTimes frame line.isLt⟩⟩
  · exact UInt8.le_iff_toNat_le.mp
      (lineAt_mono h ((div_of_frame ht).trans (div_of_frame ht').symm))
  · exact lineAt_of_begins (Nat.mul_mod_left frame framePeriod)
  · exact lineAt_of_ends (frame_mod frame (by decide))

end GameBoy

import GameBoy.CommandLine.TickCount
import Mathlib.Tactic.Lemma

/-!
# What a tick count means

A tick count is read exactly if it is a decimal number of 64 bits, and then as that number
(`readTicks_eq_ok_iff`). That the value is checked after each digit makes no difference, since it
only grows.
-/

namespace GameBoy.CommandLine

/-- A text without the plus sign in front of it, if there is one. -/
def unsigned : List Char → List Char
  | '+' :: rest => rest
  | chars => chars

/-- A text that spells a number of 64 bits: decimal digits, at least one, behind a plus sign or
not. -/
structure Spells (text : String) (n : Nat) : Prop where
  nonempty : unsigned text.toList ≠ []
  digits : ∀ c ∈ unsigned text.toList, c.isDigit = true
  value : Nat.ofDigitChars 10 (unsigned text.toList) 0 = n
  fits : n < UInt64.size

/-- Further digits make no number smaller. -/
lemma le_ofDigitChars (value : Nat) (digits : List Char) :
    value ≤ Nat.ofDigitChars 10 digits value := by
  induction digits generalizing value with
  | nil => exact Nat.le_refl value
  | cons c rest ih =>
    rw [Nat.ofDigitChars_cons]
    exact Nat.le_trans (by omega) (ih _)

/-- Digits are read as the number that they spell, if it fits a word of 64 bits. -/
lemma readDigits_eq_ok_iff {value n : Nat} {digits : List Char} (hv : value < UInt64.size) :
    readDigits value digits = .ok n ↔
      (∀ c ∈ digits, c.isDigit = true) ∧ Nat.ofDigitChars 10 digits value = n ∧ n < UInt64.size := by
  induction digits generalizing value with
  | nil =>
    rw [readDigits, Except.ok.injEq, Nat.ofDigitChars_nil]
    refine ⟨fun h => ⟨nofun, h, h ▸ hv⟩, fun h => h.2.1⟩
  | cons c rest ih =>
    rw [readDigits, List.forall_mem_cons, Nat.ofDigitChars_cons, Nat.mul_comm 10 value]
    dsimp only
    by_cases hc : c.isDigit = true
    · rw [if_pos hc]
      by_cases hsize : value * 10 + (c.toNat - '0'.toNat) < UInt64.size
      · rw [if_pos hsize, and_iff_right hc]
        exact ih hsize
      · -- the value has grown too large and does not become smaller
        rw [if_neg hsize]
        refine iff_of_false nofun fun ⟨_, hn, hlt⟩ => hsize (Nat.lt_of_le_of_lt ?_ hlt)
        exact hn ▸ le_ofDigitChars _ rest
    · rw [if_neg hc]
      exact iff_of_false nofun fun h => hc h.1.1

/-- Digits behind an optional sign are read as the number that the text spells. -/
lemma readDigits_eq_ok_iff_spells {text : String} {digits : List Char} {n : Nat}
    (h : unsigned text.toList = digits) (hne : digits ≠ []) :
    readDigits 0 digits = .ok n ↔ Spells text n := by
  subst h
  rw [readDigits_eq_ok_iff (by decide)]
  exact ⟨fun ⟨hd, hn, hlt⟩ => ⟨hne, hd, hn, hlt⟩, fun hs => ⟨hs.digits, hs.value, hs.fits⟩⟩

/-- A text is read as a number if and only if it spells it. -/
lemma readNumber_eq_ok_iff {text : String} {n : Nat} :
    readNumber text = .ok n ↔ Spells text n := by
  unfold readNumber
  split
  · next h => exact iff_of_false nofun fun hs => hs.nonempty (by rw [h]; rfl)
  · next h => exact iff_of_false nofun fun hs => hs.nonempty (by rw [h]; rfl)
  · next digits hsign h =>
    refine readDigits_eq_ok_iff_spells (by rw [h]; rfl) ?_
    rintro rfl
    exact hsign rfl
  · next hempty _ hsign =>
    refine readDigits_eq_ok_iff_spells ?_ hempty
    unfold unsigned
    split
    · next rest e => exact absurd e (hsign rest)
    · rfl

/-- A tick count is read exactly if it spells a number of 64 bits. -/
lemma readTicks_eq_ok_iff {text : String} {n : Nat} :
    readTicks text = .ok n ↔ Spells text n := by
  rw [← readNumber_eq_ok_iff, readTicks]
  cases readNumber text <;> simp

end GameBoy.CommandLine

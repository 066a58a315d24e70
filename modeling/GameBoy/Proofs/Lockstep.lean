import GameBoy.Action
import Mathlib.Tactic.Lemma

/-!
# Two runs in lockstep

A relation between states and a kind of bad event describe how two runs compare: from related states
they answer alike, make the same events and come to related states, unless something bad happens in
the first (`Lockstep`). Actions do so as soon as their parts do (`Lockstep.bind`).
-/

namespace GameBoy.Action

variable {σ α β : Type}

/-- From related states, two actions go the same way as long as nothing bad happens. -/
def Lockstep (S : σ → σ → Prop) (bad : Event → Prop) (x y : Action σ α) : Prop :=
  ∀ s t, S s t → (∀ e ∈ (x s).events, ¬bad e) →
    (y t).value = (x s).value ∧ (y t).events = (x s).events ∧ S (x s).state (y t).state

namespace Lockstep

variable {S : σ → σ → Prop} {bad : Event → Prop} {x y : Action σ α} {f g : α → Action σ β}

/-- The same answer keeps states in step. -/
protected lemma pure (a : α) : Lockstep S bad (Pure.pure a) (Pure.pure a) :=
  fun _ _ h _ => ⟨rfl, rfl, h⟩

/-- Two actions in a row keep states in step if each does, for the same answers. -/
protected lemma bind (hx : Lockstep S bad x y) (hf : ∀ a, Lockstep S bad (f a) (g a)) :
    Lockstep S bad (x >>= f) (y >>= g) := by
  intro s t h hgood
  obtain ⟨hv, he, hs⟩ := hx s t h fun e he => hgood e (List.mem_append_left _ he)
  obtain ⟨hv', he', hs'⟩ := hf (x s).value (x s).state (y t).state hs
    fun e he => hgood e (List.mem_append_right _ he)
  simp only [bind_apply, hv, he]
  exact ⟨hv', by rw [he'], hs'⟩

/-- What is done next may depend on the state if it is the same in related states. -/
protected lemma get {f g : σ → Action σ β} (h : ∀ s t, S s t → Lockstep S bad (f s) (g t)) :
    Lockstep S bad (Action.get >>= f) (Action.get >>= g) :=
  fun s t hst => h s t hst s t hst

/-- Changes that preserve the relation keep states in step. -/
protected lemma modify {f g : σ → σ} (h : ∀ s t, S s t → S (f s) (g t)) :
    Lockstep S bad (modify f) (modify g) :=
  fun s t hst _ => ⟨rfl, rfl, h s t hst⟩

/-- The same event keeps states in step. -/
protected lemma emit (e : Event) : Lockstep S bad (emit e) (emit e) :=
  fun _ _ h _ => ⟨rfl, rfl, h⟩

/-- The same choice keeps states in step. -/
protected lemma ite {c : Prop} [Decidable c] {x' y' : Action σ α} (hx : Lockstep S bad x y)
    (hy : Lockstep S bad x' y') : Lockstep S bad (if c then x else x') (if c then y else y') := by
  split
  · exact hx
  · exact hy

end Lockstep

end GameBoy.Action

import GameBoy.Action
import Mathlib.Tactic.Lemma

/-!
# What actions ensure

A relation between a state, some events and a next state describes a property of actions, such as
that a field is kept or that only certain events change it. If the relation holds of doing nothing
and composes (`Composes`), then an action ensures it as soon as all its parts do (`Ensures.bind`).
-/

namespace GameBoy

variable {σ α β : Type}

/-- A relation that holds of doing nothing and composes along the events. -/
structure Composes (R : σ → List Event → σ → Prop) : Prop where
  refl (s : σ) : R s [] s
  trans {s s' s'' : σ} {es es' : List Event} : R s es s' → R s' es' s'' → R s (es ++ es') s''

/-- That all events have a property composes. -/
lemma Composes.all (p : Event → Prop) :
    Composes fun (_ : σ) (es : List Event) (_ : σ) => ∀ e ∈ es, p e where
  refl _ := nofun
  trans h h' e he := (List.mem_append.mp he).elim (h e) (h' e)

/-- Whatever state an action begins in, a relation holds of what it does. -/
def Action.Ensures (x : Action σ α) (R : σ → List Event → σ → Prop) : Prop :=
  ∀ s, R s (x s).events (x s).state

namespace Action.Ensures

variable {R : σ → List Event → σ → Prop} {x y : Action σ α} {f : α → Action σ β}

/-- An answer without an effect ensures what composes. -/
protected lemma pure (hR : Composes R) (a : α) : (Pure.pure a : Action σ α).Ensures R :=
  fun s => hR.refl s

/-- Looking at the state ensures what composes. -/
protected lemma get (hR : Composes R) : (Action.get : Action σ σ).Ensures R :=
  fun s => hR.refl s

/-- Of two actions in a row each ensures its part. -/
protected lemma bind (hR : Composes R) (hx : x.Ensures R) (hf : ∀ a, (f a).Ensures R) :
    (x >>= f).Ensures R :=
  fun s => hR.trans (hx s) (hf _ _)

/-- A choice ensures what both of its ways ensure. -/
protected lemma ite {c : Prop} [Decidable c] (hx : c → x.Ensures R) (hy : ¬c → y.Ensures R) :
    (if c then x else y).Ensures R := by
  split
  · next h => exact hx h
  · next h => exact hy h

/-- An optional part, followed by the rest. -/
protected lemma optional (hR : Composes R) {c : Prop} [Decidable c] {x : Action σ Unit}
    {f : Unit → Action σ β} (hx : x.Ensures R) (hf : (f ()).Ensures R) :
    (if c then x >>= f else f ()).Ensures R :=
  .ite (fun _ => .bind hR hx fun _ => hf) fun _ => hf

end Action.Ensures

end GameBoy

import GameBoy.Log.Notice

/-!
# Actions and their events

Every operation of the machine is an action on a state: from a state it makes an answer, the next
state and a list of events, oldest first. Events are what an observer of the machine can notice:
accesses to the bus, log records, and bytes for the terminal. They never influence what happens
next.
-/

namespace GameBoy

/-- What an observer of the machine can notice. -/
inductive Event where
  | read (addr : UInt16) (value : UInt8)
  | write (addr : UInt16) (value : UInt8)
  | notice (n : Notice)
  /-- A byte copied to the terminal. -/
  | echo (byte : UInt8)
  deriving DecidableEq, Repr

/-- Whether an event is meant for the user, as log records and terminal output are. -/
def Event.isReport : Event → Bool
  | .notice _ | .echo _ => true
  | .read _ _ | .write _ _ => false

/-- What an action makes of a state. -/
structure Outcome (σ α : Type) where
  value : α
  state : σ
  events : List Event

/-- An action on states of type `σ` with an answer of type `α`. -/
def Action (σ α : Type) : Type := σ → Outcome σ α

/-- How a repeated action goes on: again, not again, or not again and without effect. -/
inductive Verdict where
  | again | last | refused
  deriving DecidableEq, Repr

/-- How often an action was repeated with effect, and whether it ended by itself. -/
structure Tally where
  count : Nat
  ended : Bool
  deriving DecidableEq, Repr

namespace Action

variable {σ α β : Type}

/-- An answer without an effect. -/
@[inline] protected def pure (a : α) : Action σ α := fun s => ⟨a, s, []⟩

/-- One action after the other, the second of which may depend on the answer of the first. -/
@[inline] protected def bind (x : Action σ α) (f : α → Action σ β) : Action σ β := fun s =>
  let first := x s
  let second := f first.value first.state
  ⟨second.value, second.state, first.events ++ second.events⟩

instance : Monad (Action σ) where
  pure := Action.pure
  bind := Action.bind

/-- Answers with the state. -/
@[inline] def get : Action σ σ := fun s => ⟨s, s, []⟩

/-- Changes the state. -/
@[inline] def modify (f : σ → σ) : Action σ Unit := fun s => ⟨(), f s, []⟩

/-- Lets one event happen. -/
@[inline] def emit (e : Event) : Action σ Unit := fun s => ⟨(), s, [e]⟩

/-- Reports a log record. -/
@[inline] def note (n : Notice) : Action σ Unit := emit (.notice n)

@[simp] theorem pure_apply (a : α) (s : σ) : (pure a : Action σ α) s = ⟨a, s, []⟩ := rfl

@[simp] theorem bind_apply (x : Action σ α) (f : α → Action σ β) (s : σ) :
    (x >>= f) s =
      ⟨(f (x s).value (x s).state).value, (f (x s).value (x s).state).state,
        (x s).events ++ (f (x s).value (x s).state).events⟩ := rfl

@[simp] theorem get_apply (s : σ) : (get : Action σ σ) s = ⟨s, s, []⟩ := rfl

@[simp] theorem modify_apply (f : σ → σ) (s : σ) : modify f s = ⟨(), f s, []⟩ := rfl

@[simp] theorem emit_apply (e : Event) (s : σ) : emit e s = ⟨(), s, [e]⟩ := rfl

@[simp] theorem note_apply (n : Notice) (s : σ) : note n s = ⟨(), s, [.notice n]⟩ := rfl

/-- An answer that is handed on as it is. -/
theorem bind_pure_apply (x : Action σ α) (s : σ) : (x >>= pure) s = x s := by
  rw [bind_apply, pure_apply, List.append_nil]

/-- Actions can be regrouped: the events are the same in the same order. -/
theorem bind_assoc_apply {γ : Type} (x : Action σ α) (f : α → Action σ β) (g : β → Action σ γ)
    (s : σ) : (x >>= f >>= g) s = (x >>= fun a => f a >>= g) s := by
  simp only [bind_apply, List.append_assoc]

instance : LawfulMonad (Action σ) :=
  LawfulMonad.mk' (Action σ) (fun x => funext (bind_pure_apply x)) (fun _ _ => rfl)
    (fun x f g => funext (bind_assoc_apply x f g))

@[simp] theorem map_apply (f : α → β) (x : Action σ α) (s : σ) :
    (f <$> x) s = ⟨f (x s).value, (x s).state, (x s).events⟩ := by
  rw [map_eq_pure_bind]
  simp only [bind_apply, pure_apply, List.append_nil]

@[simp] theorem ite_apply (c : Prop) [Decidable c] (x y : Action σ α) (s : σ) :
    (if c then x else y) s = if c then x s else y s := by
  split <;> rfl

/-- Keeps only some of the events. -/
def keeping (p : Event → Bool) (x : Action σ α) : Action σ α := fun s =>
  let first := x s
  { first with events := first.events.filter p }

/-- Repeats an action from a state, given how often it was repeated before and the events so far,
the newest first. -/
def repeatFrom (x : Action σ Verdict) : Nat → Nat → List Event → Action σ Tally
  | 0, count, seen, s => ⟨⟨count, false⟩, s, seen.reverse⟩
  | limit + 1, count, seen, s =>
    let first := x s
    let seen := first.events.reverseAux seen
    match first.value with
    | .again => repeatFrom x limit (count + 1) seen first.state
    | .last => ⟨⟨count + 1, true⟩, first.state, seen.reverse⟩
    | .refused => ⟨⟨count, true⟩, first.state, seen.reverse⟩

/-- Repeats an action until it ends by itself, at most `limit` times. -/
def upTo (limit : Nat) (x : Action σ Verdict) : Action σ Tally := repeatFrom x limit 0 []

end Action

end GameBoy

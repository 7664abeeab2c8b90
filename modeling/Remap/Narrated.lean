/-!
Computations that narrate their steps. A `Narrated ν ε α` is the list of notes a computation
made, in order, and its outcome: a result of type `α` or a failure of type `ε`. Binding runs the
second computation only after a result, and keeps the notes of both.

The outcome never depends on the notes: `outcome_bind`, `outcome_note` and `outcome_pure` push
`outcome` through a computation, so statements about results need not mention notes at all.
-/

namespace Remap

/-- The notes of a computation and its outcome. -/
structure Narrated (ν ε α : Type) where
  notes : List ν
  outcome : Except ε α

namespace Narrated

variable {ν ε α β : Type}

/-- A result, with no notes. -/
def pure (a : α) : Narrated ν ε α := ⟨[], .ok a⟩

/-- Runs `f` on the result of `x`; a failure of `x` is the failure of the whole. -/
def bind (x : Narrated ν ε α) (f : α → Narrated ν ε β) : Narrated ν ε β :=
  match x.outcome with
  | .ok a =>
    let y := f a
    ⟨x.notes ++ y.notes, y.outcome⟩
  | .error e => ⟨x.notes, .error e⟩

instance : Monad (Narrated ν ε) where
  pure := Narrated.pure
  bind := Narrated.bind

/-- Makes one note. -/
def note (n : ν) : Narrated ν ε Unit := ⟨[n], .ok ()⟩

/-- Fails, with no notes. -/
def fail (e : ε) : Narrated ν ε α := ⟨[], .error e⟩

/-- Changes the failure of a computation, keeping its notes and its result. -/
def mapFailure {ε' : Type} (f : ε → ε') (x : Narrated ν ε α) : Narrated ν ε' α :=
  ⟨x.notes, match x.outcome with
    | .ok a => .ok a
    | .error e => .error (f e)⟩

@[simp] theorem outcome_pure (a : α) : (Pure.pure a : Narrated ν ε α).outcome = .ok a := rfl

@[simp] theorem outcome_bind (x : Narrated ν ε α) (f : α → Narrated ν ε β) :
    (x >>= f).outcome = (x.outcome >>= fun a => (f a).outcome) := by
  show (Narrated.bind x f).outcome = _
  unfold Narrated.bind
  cases x.outcome <;> rfl

@[simp] theorem outcome_note (n : ν) : (note n : Narrated ν ε Unit).outcome = .ok () := rfl

@[simp] theorem outcome_fail (e : ε) : (fail e : Narrated ν ε α).outcome = .error e := rfl

@[simp] theorem outcome_mapFailure {ε' : Type} (f : ε → ε') (x : Narrated ν ε α) :
    (x.mapFailure f).outcome = match x.outcome with
      | .ok a => .ok a
      | .error e => .error (f e) := rfl

end Narrated

end Remap

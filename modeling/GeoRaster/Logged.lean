import GeoRaster.Fault

/-! Computations that may fail and keep a log. The log survives a failure: what was noted
before it is still reported. The result of a sequence is the sequence of the results, so
reasoning about values may forget the log. -/
namespace GeoRaster

/-- A sequence of computations that may fail succeeds exactly with what its second part makes of
the value of the first. -/
theorem bind_eq_ok {α β ε : Type} {x : Except ε α} {f : α → Except ε β} {b : β} :
    (x >>= f) = .ok b ↔ ∃ a, x = .ok a ∧ f a = .ok b := by
  cases x <;> simp [bind, Except.bind]

theorem toOption_bind {α β ε : Type} (x : Except ε α) (f : α → Except ε β) :
    (x >>= f).toOption = x.toOption.bind fun a => (f a).toOption := by
  cases x <;> rfl

theorem exists_of_toOption_any {α ε : Type} {x : Except ε α} {p : α → Bool}
    (found : x.toOption.any p = true) : ∃ a, x = .ok a ∧ p a = true := by
  cases x with
  | error e => contradiction
  | ok a => exact ⟨a, rfl, found⟩

inductive LogLevel where
  | debug
  | warning
deriving DecidableEq, Repr

structure LogEntry where
  level : LogLevel
  text : String
deriving DecidableEq, Repr

/-- A result together with what was logged on the way to it. -/
structure Logged (α : Type) where
  log : List LogEntry
  result : Except Fault α

namespace Logged

variable {α β : Type}

def done (a : α) : Logged α :=
  ⟨[], .ok a⟩

def ofExcept (r : Except Fault α) : Logged α :=
  ⟨[], r⟩

/-- Goes on with the value of a successful result; a failure keeps its log. -/
def andThen (x : Logged α) (f : α → Logged β) : Logged β :=
  match x.result with
  | .ok a => ⟨x.log ++ (f a).log, (f a).result⟩
  | .error e => ⟨x.log, .error e⟩

instance : Monad Logged where
  pure := done
  bind := andThen

instance : LawfulMonad Logged := LawfulMonad.mk' Logged
  (by
    intro α x
    rcases x with ⟨log, result⟩
    cases result <;> simp [Functor.map, andThen, done])
  (by
    intro α β x f
    simp [Bind.bind, Pure.pure, andThen, done])
  (by
    intro α β γ x f g
    rcases x with ⟨log, result⟩
    cases result with
    | error e => rfl
    | ok a =>
      simp only [Bind.bind, andThen]
      cases h : (f a).result <;> simp)

def debug (text : String) : Logged Unit :=
  ⟨[⟨.debug, text⟩], .ok ()⟩

def warning (text : String) : Logged Unit :=
  ⟨[⟨.warning, text⟩], .ok ()⟩

@[simp] theorem result_pure (a : α) : (pure a : Logged α).result = .ok a :=
  rfl

@[simp] theorem result_ofExcept (r : Except Fault α) : (ofExcept r).result = r :=
  rfl

theorem ofExcept_ok (a : α) : ofExcept (.ok a) = pure a :=
  rfl

@[simp] theorem result_debug (text : String) : (debug text).result = .ok () :=
  rfl

@[simp] theorem result_warning (text : String) : (warning text).result = .ok () :=
  rfl

@[simp] theorem result_bind (x : Logged α) (f : α → Logged β) :
    (x >>= f).result = x.result.bind fun a => (f a).result := by
  show (andThen x f).result = _
  unfold andThen Except.bind
  split <;> rename_i h <;> simp [h]

theorem result_map (f : α → β) (x : Logged α) : (f <$> x).result = x.result.map f := by
  rw [← bind_pure_comp, result_bind]
  cases x.result <;> rfl

/-- What a second part makes of values that the first one does not have plays no role. -/
theorem bind_congr_of_ok {x : Logged α} {f g : α → Logged β}
    (same : ∀ a, x.result = .ok a → f a = g a) : x >>= f = x >>= g := by
  show andThen x f = andThen x g
  unfold andThen
  cases result : x.result with
  | error e => rfl
  | ok a => simp only [same a result]

/-- A sequence succeeds exactly with what its second part makes of the value of the first. -/
theorem result_bind_eq_ok {x : Logged α} {f : α → Logged β} {b : β} :
    (x >>= f).result = .ok b ↔ ∃ a, x.result = .ok a ∧ (f a).result = .ok b := by
  rw [result_bind]
  cases x.result <;> simp [Except.bind]

end Logged

end GeoRaster

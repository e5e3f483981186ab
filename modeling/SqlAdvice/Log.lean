/-!
# Logged computations

Some computations note on the way what their caller should know. `Logged ε α` is the outcome of such
a computation next to the lines that it noted, oldest first; a failure keeps the lines noted before
it.
-/

namespace SqlAdvice

/-- How much a line of the log matters. -/
inductive LogLevel where
  | info | warning
  deriving DecidableEq

/-- The written name of a level. -/
def LogLevel.name : LogLevel → String
  | .info => "INFO"
  | .warning => "WARNING"

/-- A line of the log. -/
structure LogLine where
  level : LogLevel
  message : String
  deriving DecidableEq

/-- An outcome and the lines noted on the way to it. -/
structure Logged (ε α : Type) where
  outcome : Except ε α
  log : List LogLine := []

namespace Logged

variable {ε ε' α β : Type}

/-- Goes on with the value of a computation; the lines of both parts are kept. -/
def bind (x : Logged ε α) (f : α → Logged ε β) : Logged ε β :=
  match x.outcome with
  | .ok a =>
    let y := f a
    ⟨y.outcome, x.log ++ y.log⟩
  | .error e => ⟨.error e, x.log⟩

instance : Monad (Logged ε) where
  pure a := ⟨.ok a, []⟩
  bind := bind

/-- Fails. -/
def fail (e : ε) : Logged ε α :=
  ⟨.error e, []⟩

/-- An outcome without lines. -/
def ofExcept (x : Except ε α) : Logged ε α :=
  ⟨x, []⟩

/-- Notes a warning. -/
def warn (message : String) : Logged ε Unit :=
  ⟨.ok (), [⟨.warning, message⟩]⟩

/-- Rephrases a failure. -/
def mapError (f : ε → ε') (x : Logged ε α) : Logged ε' α :=
  ⟨x.outcome.mapError f, x.log⟩

@[simp]
theorem outcome_pure (a : α) : (pure a : Logged ε α).outcome = .ok a := rfl

@[simp]
theorem log_pure (a : α) : (pure a : Logged ε α).log = [] := rfl

theorem outcome_bind (x : Logged ε α) (f : α → Logged ε β) :
    (x >>= f).outcome = x.outcome >>= fun a => (f a).outcome := by
  change (bind x f).outcome = _
  cases h : x.outcome <;> simp [bind, h] <;> rfl

/-- A computation goes on with its value, and its lines come first. -/
theorem ok_bind (a : α) (log : List LogLine) (f : α → Logged ε β) :
    (⟨.ok a, log⟩ >>= f : Logged ε β) = ⟨(f a).outcome, log ++ (f a).log⟩ := rfl

/-- Nothing comes behind a failure. -/
theorem error_bind (e : ε) (log : List LogLine) (f : α → Logged ε β) :
    (⟨.error e, log⟩ >>= f : Logged ε β) = ⟨.error e, log⟩ := rfl

theorem bind_assoc {γ : Type} (x : Logged ε α) (f : α → Logged ε β) (g : β → Logged ε γ) :
    (x >>= f) >>= g = x >>= fun a => f a >>= g := by
  obtain ⟨outcome, log⟩ := x
  cases outcome with
  | error e => rfl
  | ok a =>
    rw [ok_bind, ok_bind]
    obtain ⟨_ | b, more⟩ := f a
    · rfl
    · rw [ok_bind, ok_bind, List.append_assoc]

end Logged

end SqlAdvice

/-!
# Log records

Every step of a run reports what it does. A `Logged` computation carries its records beside its result
and keeps those made before a failure, so the result can be studied without them:
`bind_result` says that forgetting the records turns it into a plain `Except`.
-/

namespace CrateHeader

inductive Level where
  | debug
  | info
  | warning
  | error
  deriving DecidableEq, Repr

namespace Level

def rank : Level → Nat
  | debug => 0
  | info => 1
  | warning => 2
  | error => 3

def name : Level → String
  | debug => "DEBUG"
  | info => "INFO"
  | warning => "WARNING"
  | error => "ERROR"

end Level

structure LogRecord where
  level : Level
  message : String
  deriving DecidableEq, Repr

abbrev Log := List LogRecord

namespace Log

def debug (message : String) : Log := [⟨.debug, message⟩]
def info (message : String) : Log := [⟨.info, message⟩]
def warning (message : String) : Log := [⟨.warning, message⟩]

/-- The records at or above a level. -/
def above (level : Level) (log : Log) : Log := log.filter fun r => level.rank ≤ r.level.rank

@[simp] theorem above_debug (log : Log) : above .debug log = log := by
  simp [above, Level.rank]

end Log

structure Logged (ε α : Type) where
  result : Except ε α
  log : Log

namespace Logged

variable {ε α β : Type}

instance : Monad (Logged ε) where
  pure a := ⟨.ok a, []⟩
  bind x f := match x.result with
    | .error e => ⟨.error e, x.log⟩
    | .ok a => ⟨(f a).result, x.log ++ (f a).log⟩

def fail (e : ε) : Logged ε α := ⟨.error e, []⟩

def note (log : Log) : Logged ε Unit := ⟨.ok (), log⟩

def ofExcept (x : Except ε α) : Logged ε α := ⟨x, []⟩

def mapError {δ : Type} (f : ε → δ) (x : Logged ε α) : Logged δ α := ⟨x.result.mapError f, x.log⟩

@[simp] theorem pure_result (a : α) : (pure a : Logged ε α).result = .ok a := rfl
@[simp] theorem note_result (log : Log) : (note log : Logged ε Unit).result = .ok () := rfl
@[simp] theorem fail_result (e : ε) : (fail e : Logged ε α).result = .error e := rfl
@[simp] theorem ofExcept_result (x : Except ε α) : (ofExcept x).result = x := rfl

@[simp] theorem bind_result (x : Logged ε α) (f : α → Logged ε β) :
    (x >>= f).result = x.result.bind fun a => (f a).result := by
  rcases x with ⟨_ | _, _⟩ <;> rfl

@[simp] theorem map_result (f : α → β) (x : Logged ε α) : (f <$> x).result = x.result.map f := by
  rcases x with ⟨_ | _, _⟩ <;> rfl

theorem bind_ok {x : Logged ε α} {f : α → Logged ε β} {b : β} (h : (x >>= f).result = .ok b) :
    ∃ a, x.result = .ok a ∧ (f a).result = .ok b := by
  rw [bind_result] at h
  cases hx : x.result with
  | error e => rw [hx] at h; cases h
  | ok a => rw [hx] at h; exact ⟨a, rfl, h⟩

instance : LawfulMonad (Logged ε) := LawfulMonad.mk' _
  (by rintro α ⟨_ | _, l⟩ <;> simp [Functor.map])
  (by intro α β a f; simp [bind, pure])
  (by
    rintro α β γ ⟨_ | a, l⟩ f g
    · rfl
    · simp only [bind]
      rcases f a with ⟨_ | b, m⟩ <;> simp)

end Logged

end CrateHeader

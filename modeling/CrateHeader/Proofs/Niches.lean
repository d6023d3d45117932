import CrateHeader.Proofs.Lowering

/-!
# Options that disappear

An `Option` around a value that is never null needs no room of its own, since null stands for its absence. Lowering
drops an `Option` around whatever has become a pointer or a function type: that is what is never null, but also a raw
pointer, and an `Option` that was dropped itself. `lower_option_iff` says that these are all, and that the last two
are the only ones around which no `Option` should go.
-/

namespace CrateHeader

/-- Is a type a pointer, to a value or to a function? -/
def Ty.isAddress : Ty → Bool
  | pointer _ _ _ => true
  | function _ _ _ => true
  | _ => false

namespace Expr

variable {name : String} {e inner : Expr}

/-- An expression that may be absent. -/
abbrev option (e : Expr) : Expr := path "Option" [e]

/-- Is an expression a reference, a pointer wrapper or a function type, none of whose values is null? -/
def isNeverNull : Expr → Bool
  | pointer _ _ isReference => isReference
  | path name [_] => isPointerWrapper name
  | function _ _ => true
  | _ => false

def isRawPointer : Expr → Bool
  | pointer _ _ isReference => !isReference
  | _ => false

def isOption : Expr → Bool
  | path name [_] => name == "Option"
  | _ => false

/-- May a wrapper be gone when its argument has become a pointer? -/
def leavesNoTrace (name : String) : Bool := isTransparentWrapper name || name == "Option"

/-- What an expression is inside of all wrappers that may be gone. -/
def payload : Expr → Expr
  | path name [inner] => if leavesNoTrace name then inner.payload else path name [inner]
  | e => e

/-! ### Paths with one argument -/

theorem isPointerWrapper_of_leavesNoTrace (h : leavesNoTrace name = true) : isPointerWrapper name = false := by
  rcases Bool.or_eq_true_iff.1 h with hcell | hoption
  · exact Ty.isPointerWrapper_of_isTransparentWrapper hcell
  · rw [beq_iff_eq.1 hoption]
    decide

theorem isAddress_ofOption? (t : Ty) (args : List Ty) :
    ((Ty.ofOption? t).getD (.path name args)).isAddress = t.isAddress := by
  cases t <;> rfl

/-- A path with one argument lowers to a pointer if it is a pointer wrapper, or if the argument does and the path
leaves no trace. -/
theorem isAddress_lower_singleton (name : String) (inner : Expr) : ((path name [inner]).lower []).isAddress =
    (isPointerWrapper name || leavesNoTrace name && (inner.lower []).isAddress) := by
  rw [lower_path _ rfl, lowerAll, lowerAll, Ty.wrap]
  split
  · next hbox => simp [hbox, Ty.isAddress]
  split
  · next hbox hcell => simp [hbox, hcell, leavesNoTrace]
  split
  · next hoption =>
    rw [hoption, isAddress_ofOption?]
    rfl
  · next hbox hcell hoption => simp [hbox, hcell, hoption, leavesNoTrace, Ty.isAddress]

theorem payload_singleton (name : String) (inner : Expr) : (path name [inner]).payload =
    if leavesNoTrace name then inner.payload else path name [inner] := rfl

/-! ### What becomes a pointer -/

/-- An expression lowers to a pointer exactly if what it is inside of all wrappers is never null or a raw pointer. -/
theorem isAddress_lower : (e : Expr) →
    (e.lower []).isAddress = (e.payload.isNeverNull || e.payload.isRawPointer)
  | path name [] => by
    rcases lower_nil [] name with h | ⟨_, k, h⟩ <;> rw [h] <;> rfl
  | path name [inner] => by
    rw [isAddress_lower_singleton, payload_singleton]
    split
    · next htrace =>
      rw [isPointerWrapper_of_leavesNoTrace htrace, htrace, Bool.false_or, Bool.true_and, isAddress_lower inner]
    · next htrace => simp [htrace, isNeverNull, isRawPointer]
  | path name (a :: b :: rest) => rfl
  | pointer _ _ isReference => by cases isReference <;> rfl
  | array _ _ => rfl
  | function _ _ => rfl
  | unit => rfl
  | never => rfl

/-- Wrappers with the layout of their argument are taken off first. -/
theorem payload_core : (e : Expr) → e.core.payload = e.payload
  | path name [inner] => by
    rw [core, payload_singleton]
    split
    · next hcell => rw [payload_core inner, leavesNoTrace, hcell, Bool.true_or, if_pos rfl]
    · exact payload_singleton name inner
  | path _ [] => rfl
  | path _ (_ :: _ :: _) => rfl
  | pointer _ _ _ => rfl
  | array _ _ => rfl
  | function _ _ => rfl
  | unit => rfl
  | never => rfl

/-- Inside of the wrappers with the layout of their argument, only an `Option` leaves no trace. -/
theorem isAddress_lower_core : (e : Expr) → (e.core.lower []).isAddress =
    (e.core.isNeverNull || e.core.isRawPointer || e.core.isOption && (e.core.lower []).isAddress)
  | path name [inner] => by
    rw [core]
    split
    · exact isAddress_lower_core inner
    · next hcell =>
      have hcell : isTransparentWrapper name = false := by simpa using hcell
      rw [isAddress_lower_singleton, leavesNoTrace, hcell]
      rcases Bool.eq_false_or_eq_true (isPointerWrapper name) with hbox | hbox
      · simp [hbox, isNeverNull]
      · simp [hbox, isNeverNull, isRawPointer, isOption]
  | path name [] => by
    have hcore : (path name []).core = path name [] := rfl
    rw [hcore]
    rcases lower_nil [] name with h | ⟨_, k, h⟩ <;> rw [h] <;> rfl
  | path _ (_ :: _ :: _) => rfl
  | pointer _ _ isReference => by cases isReference <;> rfl
  | array _ _ => rfl
  | function _ _ => rfl
  | unit => rfl
  | never => rfl

theorem isAddress_lower_option (e : Expr) : ((option e).lower []).isAddress = (e.lower []).isAddress := by
  rw [isAddress_lower_singleton]
  rfl

/-- An `Option` disappears around an expression exactly if what the expression is inside of all wrappers is never
null or a raw pointer. Inside of the wrappers with the layout of their argument alone, that is an expression that is
never null, or a raw pointer, or an `Option` that disappears itself. -/
theorem lower_option_iff (e : Expr) :
    (((option e).lower []).isAddress = true ↔ e.payload.isNeverNull = true ∨ e.payload.isRawPointer = true) ∧
      (((option e).lower []).isAddress = true ↔ e.core.isNeverNull = true ∨ e.core.isRawPointer = true ∨
        e.core.isOption = true ∧ (e.core.lower []).isAddress = true) := by
  have hcore : (e.lower []).isAddress = (e.core.lower []).isAddress := by
    rw [isAddress_lower, isAddress_lower, payload_core]
  rw [isAddress_lower_option]
  constructor
  · rw [isAddress_lower, Bool.or_eq_true]
  · have hiff := Bool.eq_iff_iff.1 (isAddress_lower_core e)
    rw [hcore]
    rwa [Bool.or_eq_true, Bool.or_eq_true, Bool.and_eq_true, or_assoc] at hiff

/-- An `Option` around a raw pointer, or around an `Option` that disappears, is dropped though what it is around may
be null already. -/
theorem lower_option_drops :
    let raw := pointer (path "Foo" []) false false
    let maybe := option (pointer (path "Foo" []) false true)
    (option raw).lower [] = raw.lower [] ∧ raw.core.isNeverNull = false ∧
      (option (path "Cell" [maybe])).lower [] = maybe.lower [] ∧ (path "Cell" [maybe]).core.isNeverNull = false ∧
      ¬ ∀ e : Expr, ((option e).lower []).isAddress = true → e.core.isNeverNull = true := by
  refine ⟨by decide, by decide, by decide, by decide, fun h => ?_⟩
  exact absurd (h (pointer (path "Foo" []) false false) (by decide)) (by decide)

end Expr

end CrateHeader

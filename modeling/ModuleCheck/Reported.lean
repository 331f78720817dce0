import ModuleCheck.Diagnostic

namespace ModuleCheck

/-!
Values together with the diagnostics that were found on the way to them.

Rules that look at types and names only, and change no state, yield such pairs.  In a sequence
of rules the diagnostics stand in the order of the rules.
-/

/-- A value and the diagnostics found while it was computed. -/
structure Reported (α : Type) where
  value : α
  diagnostics : List Diagnostic

namespace Reported

variable {α β : Type}

instance : Monad Reported where
  pure value := ⟨value, []⟩
  bind r next := ⟨(next r.value).value, r.diagnostics ++ (next r.value).diagnostics⟩

/-- Reports an error. -/
def error (issue : Issue) (span : Option Span) : Reported Unit :=
  ⟨(), [Diagnostic.error issue span]⟩

/-- Reports an error if the condition fails, and yields the condition. -/
def test (condition : Bool) (issue : Issue) (span : Option Span) : Reported Bool :=
  ⟨condition, if condition then [] else [Diagnostic.error issue span]⟩

/-- Reports an error if the condition fails. -/
def require (condition : Bool) (issue : Issue) (span : Option Span) : Reported Unit :=
  ⟨(), if condition then [] else [Diagnostic.error issue span]⟩

@[simp]
theorem value_pure (value : α) : (pure value : Reported α).value = value := rfl

@[simp]
theorem diagnostics_pure (value : α) : (pure value : Reported α).diagnostics = [] := rfl

@[simp]
theorem value_bind (r : Reported α) (next : α → Reported β) :
    (r >>= next).value = (next r.value).value := rfl

@[simp]
theorem diagnostics_bind (r : Reported α) (next : α → Reported β) :
    (r >>= next).diagnostics = r.diagnostics ++ (next r.value).diagnostics := rfl

@[simp]
theorem value_map (f : α → β) (r : Reported α) : (f <$> r).value = f r.value := rfl

@[simp]
theorem diagnostics_map (f : α → β) (r : Reported α) :
    (f <$> r).diagnostics = r.diagnostics := by
  change r.diagnostics ++ [] = r.diagnostics
  rw [List.append_nil]

instance : LawfulMonad Reported :=
  LawfulMonad.mk' Reported
    (fun _ => by simp [Functor.map])
    (fun _ _ => by simp [bind, pure])
    (fun _ _ _ => by simp [bind])

end Reported

end ModuleCheck

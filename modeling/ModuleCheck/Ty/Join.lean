import ModuleCheck.Ty.Compatible

namespace ModuleCheck

namespace Ty

/-!
Joining the types of branches, arms or returns into one type.
-/

/-- Two concrete types that cannot stand in one join. -/
structure Conflict where
  left : Ty
  right : Ty
deriving DecidableEq

/-- What the concrete members `first :: rest` of a join disagree on, if anything: a unit
against the first member that is not one, or else the first member against the first later
one that is not compatible with it. -/
def conflict? (first : Ty) (rest : List Ty) : Option Conflict :=
  let other? :=
    if (first :: rest).any isUnit then (first :: rest).find? fun t => !t.isUnit else none
  match other? with
  | some other => some ⟨unit, other⟩
  | none => (rest.find? fun t => !compatible first t).map (Conflict.mk first)

/-- The common type of `members`: that of the first concrete one, provided that the concrete
ones do not conflict.  Without a concrete member it is `any` if that occurs and `unknown`
otherwise. -/
def join (members : List Ty) : Except Conflict Ty :=
  match members.filter isConcrete with
  | [] => .ok (if members.any (· = any) then any else unknown)
  | first :: rest =>
    match conflict? first rest with
    | some conflict => .error conflict
    | none => .ok first

end Ty

end ModuleCheck

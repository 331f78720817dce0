import ModuleCheck.Ty.Join

namespace ModuleCheck

namespace Ty

/-!
Compatible types and common types.

Compatibility is reflexive and symmetric.  A list of types has a common type exactly if its
first concrete member, which is the common type, is compatible with all members; the special
treatment of unit makes a difference for the text of a conflict only.
-/

mutual

@[simp]
theorem compatible_self : (t : Ty) → compatible t t = true
  | int | bool | string | unit | any | unknown => by simp [compatible]
  | struct name => by simp [compatible]
  | enum name => by simp [compatible]
  | fn params result => by
    simp [compatible, compatibleList_self params, compatible_self result]

theorem compatibleList_self : (ts : List Ty) → compatibleList ts ts = true
  | [] => rfl
  | t :: rest => by simp [compatibleList, compatible_self t, compatibleList_self rest]

end

mutual

theorem compatible_comm : (t u : Ty) → compatible t u = compatible u t
  | int, u => by cases u <;> simp [compatible]
  | bool, u => by cases u <;> simp [compatible]
  | string, u => by cases u <;> simp [compatible]
  | unit, u => by cases u <;> simp [compatible]
  | any, u => by cases u <;> simp [compatible]
  | unknown, u => by cases u <;> simp [compatible]
  | struct name, u => by cases u <;> simp [compatible, BEq.comm]
  | enum name, u => by cases u <;> simp [compatible, BEq.comm]
  | fn params result, u => by
    cases u with
    | fn params' result' =>
      simp only [compatible]
      rw [compatibleList_comm params params', compatible_comm result result']
    | _ => simp [compatible]

theorem compatibleList_comm : (ts us : List Ty) → compatibleList ts us = compatibleList us ts
  | [], us => by cases us <;> rfl
  | t :: rest, us => by
    cases us with
    | nil => rfl
    | cons u others =>
      simp only [compatibleList]
      rw [compatible_comm t u, compatibleList_comm rest others]

end

theorem compatible_of_isAbsorbing {t : Ty} (absorbing : t.isAbsorbing = true) (u : Ty) :
    compatible t u = true := by
  cases t <;> cases absorbing <;> cases u <;> rfl

/-- Unit is compatible with no other concrete type. -/
theorem compatible_unit {t : Ty} (concrete : t.isConcrete = true) :
    compatible unit t = t.isUnit := by
  cases t <;> first | rfl | cases concrete

/-- The given type is the common type of the members: the first concrete one, with which all
others are compatible.  Without a concrete member it is `any` if that occurs and `unknown`
otherwise. -/
structure Joins (members : List Ty) (ty : Ty) : Prop where
  compatible : ∀ member ∈ members, Ty.compatible ty member = true
  origin : ty = (members.find? isConcrete).getD (if any ∈ members then any else unknown)

/-- Concrete types conflict exactly if one of them is incompatible with the first. -/
theorem conflict?_eq_none (first : Ty) (rest : List Ty)
    (concrete : ∀ t ∈ first :: rest, t.isConcrete = true) :
    conflict? first rest = none ↔ ∀ t ∈ first :: rest, compatible first t = true := by
  have start : first.isConcrete = true := concrete first List.mem_cons_self
  unfold conflict?
  dsimp only
  split
  · rename_i other found
    split at found
    · -- There is a unit, and it is not compatible with the other one.
      rename_i unitary
      rcases List.any_eq_true.mp unitary with ⟨one, oneMember, oneUnit⟩
      have otherMember := List.mem_of_find?_eq_some found
      have otherValue : other.isUnit = false := by simpa using List.find?_some found
      cases one <;> cases oneUnit
      refine iff_of_false (by simp) fun all => ?_
      have fits := all unit oneMember
      rw [compatible_comm, compatible_unit start] at fits
      cases first <;> cases fits
      have clash := all other otherMember
      rw [compatible_unit (concrete other otherMember), otherValue] at clash
      cases clash
    · cases found
  · simp [List.find?_eq_none]

/-- Joining succeeds exactly with the common type of the members. -/
theorem join_eq_ok_iff {members : List Ty} {ty : Ty} :
    join members = .ok ty ↔ Joins members ty := by
  have absorbing {member : Ty} (held : ¬ member.isConcrete = true) : member.isAbsorbing = true := by
    simpa [isConcrete] using held
  unfold join
  cases concrete : members.filter isConcrete with
  | nil =>
    have none : members.find? isConcrete = none := by
      rw [List.find?_eq_none]
      exact fun member held => List.filter_eq_nil_iff.mp concrete member held
    have source : (if members.any (· = any) then any else unknown) =
        (members.find? isConcrete).getD (if any ∈ members then any else unknown) := by
      simp [none]
    constructor
    · intro joined
      have same : (if members.any (· = any) then any else unknown) = ty := Except.ok.inj joined
      refine ⟨?_, same.symm.trans source⟩
      intro member held
      rw [compatible_comm]
      exact compatible_of_isAbsorbing (absorbing (List.filter_eq_nil_iff.mp concrete member held)) _
    · intro joins
      exact congrArg Except.ok (source.trans joins.origin.symm)
  | cons first rest =>
    have head : members.find? isConcrete = some first := by
      rw [← List.head?_filter, concrete]
      rfl
    have members_iff (member : Ty) :
        member ∈ first :: rest ↔ member ∈ members ∧ member.isConcrete = true := by
      rw [← concrete, List.mem_filter]
    have all : (∀ t ∈ first :: rest, compatible first t = true) ↔
        ∀ member ∈ members, compatible first member = true := by
      constructor
      · intro fits member held
        by_cases kept : member.isConcrete = true
        · exact fits member ((members_iff member).mpr ⟨held, kept⟩)
        · rw [compatible_comm]
          exact compatible_of_isAbsorbing (absorbing kept) _
      · exact fun fits t held => fits t ((members_iff t).mp held).1
    have clear := conflict?_eq_none first rest
      fun t held => ((members_iff t).mp held).2
    dsimp only
    constructor
    · intro joined
      split at joined
      · cases joined
      · rename_i quiet
        cases joined
        exact ⟨all.mp (clear.mp quiet), by rw [head]; rfl⟩
    · intro joins
      have same : ty = first := by rw [joins.origin, head]; rfl
      subst same
      rw [clear.mpr (all.mpr joins.compatible)]

end Ty

end ModuleCheck

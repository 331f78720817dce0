import ModuleCheck.Proofs.CommonTypes

namespace ModuleCheck

/-!
Compatibility is consistency of gradual types.

An absorbing part of a type stands for a type that is not told.  A type with absorbing parts can
be completed: each of them is replaced by some type, and two parts need not be replaced by the
same one.  Two types are compatible exactly if they have a static completion in common.
-/

namespace Ty

mutual

/-- The second type comes from the first one by putting some type in the place of each absorbing
part. -/
inductive Completes : Ty → Ty → Prop
  | any {t : Ty} : Completes any t
  | unknown {t : Ty} : Completes unknown t
  | int : Completes int int
  | bool : Completes bool bool
  | string : Completes string string
  | unit : Completes unit unit
  | struct {name : String} : Completes (struct name) (struct name)
  | enum {name : String} : Completes (enum name) (enum name)
  | fn {params params' : List Ty} {result result' : Ty} (inParams : CompletesList params params')
      (inResult : Completes result result') :
      Completes (fn params result) (fn params' result')

/-- The second list comes from the first one by completing its members. -/
inductive CompletesList : List Ty → List Ty → Prop
  | nil : CompletesList [] []
  | cons {t t' : Ty} {rest rest' : List Ty} (first : Completes t t')
      (others : CompletesList rest rest') : CompletesList (t :: rest) (t' :: rest')

end

theorem completes_of_isAbsorbing {t : Ty} (absorbing : t.isAbsorbing = true) (u : Ty) :
    Completes t u := by
  cases t <;> first | exact .any | exact .unknown | cases absorbing

mutual

/-- A type is compatible with what it can be completed to. -/
theorem Completes.compatible : {t c : Ty} → Completes t c → Ty.compatible t c = true
  | _, _, .any | _, _, .unknown => compatible_of_isAbsorbing rfl _
  | _, _, .int | _, _, .bool | _, _, .string | _, _, .unit | _, _, .struct | _, _, .enum =>
    compatible_self _
  | _, _, .fn inParams inResult => by
    rw [Ty.compatible, inParams.compatible, inResult.compatible, Bool.and_self]

theorem CompletesList.compatible : {ts cs : List Ty} → CompletesList ts cs →
    compatibleList ts cs = true
  | _, _, .nil => rfl
  | _, _, .cons first others => by
    rw [compatibleList, first.compatible, others.compatible, Bool.and_self]

end

mutual

/-- A static type has nothing to complete. -/
theorem Completes.eq_of_isStatic : {t c : Ty} → Completes t c → t.isStatic = true → c = t
  | _, _, .any, static | _, _, .unknown, static => by cases static
  | _, _, .int, _ | _, _, .bool, _ | _, _, .string, _ | _, _, .unit, _ | _, _, .struct, _
  | _, _, .enum, _ => rfl
  | _, _, .fn inParams inResult, static => by
    rw [isStatic, Bool.and_eq_true] at static
    rw [inParams.eq_of_isStatic static.1, inResult.eq_of_isStatic static.2]

theorem CompletesList.eq_of_isStatic : {ts cs : List Ty} → CompletesList ts cs →
    isStaticList ts = true → cs = ts
  | _, _, .nil, _ => rfl
  | _, _, .cons first others, static => by
    rw [isStaticList, Bool.and_eq_true] at static
    rw [first.eq_of_isStatic static.1, others.eq_of_isStatic static.2]

end

/-! Common completions. -/

/-- The two types have a static completion in common. -/
def Consistent (t u : Ty) : Prop := ∃ c, c.isStatic = true ∧ Completes t c ∧ Completes u c

theorem Consistent.symm {t u : Ty} (consistent : Consistent t u) : Consistent u t := by
  rcases consistent with ⟨c, static, first, second⟩
  exact ⟨c, static, second, first⟩

mutual

/-- Every type has a static completion. -/
theorem exists_completes : (t : Ty) → ∃ c, c.isStatic = true ∧ Completes t c
  | any => ⟨unit, rfl, .any⟩
  | unknown => ⟨unit, rfl, .unknown⟩
  | int => ⟨int, rfl, .int⟩
  | bool => ⟨bool, rfl, .bool⟩
  | string => ⟨string, rfl, .string⟩
  | unit => ⟨unit, rfl, .unit⟩
  | struct name => ⟨struct name, rfl, .struct⟩
  | enum name => ⟨enum name, rfl, .enum⟩
  | fn params result => by
    rcases exists_completesList params with ⟨params', staticParams, inParams⟩
    rcases exists_completes result with ⟨result', staticResult, inResult⟩
    exact ⟨fn params' result', by rw [isStatic, staticParams, staticResult, Bool.and_self],
      .fn inParams inResult⟩

theorem exists_completesList : (ts : List Ty) →
    ∃ cs, isStaticList cs = true ∧ CompletesList ts cs
  | [] => ⟨[], rfl, .nil⟩
  | t :: rest => by
    rcases exists_completes t with ⟨c, static, first⟩
    rcases exists_completesList rest with ⟨cs, statics, others⟩
    exact ⟨c :: cs, by rw [isStaticList, static, statics, Bool.and_self], .cons first others⟩

end

/-- An absorbing type can be completed to whatever the other one is. -/
theorem consistent_of_isAbsorbing {t : Ty} (absorbing : t.isAbsorbing = true) (u : Ty) :
    Consistent t u := by
  rcases exists_completes u with ⟨c, static, completes⟩
  exact ⟨c, static, completes_of_isAbsorbing absorbing c, completes⟩

theorem consistent_self (t : Ty) : Consistent t t := by
  rcases exists_completes t with ⟨c, static, completes⟩
  exact ⟨c, static, completes, completes⟩

mutual

/-- Compatible types have a common completion, which is put together along the first type. -/
theorem consistent_of_compatible : (t u : Ty) → compatible t u = true → Consistent t u
  | .any, u, _ | .unknown, u, _ => consistent_of_isAbsorbing rfl u
  | .fn params result, u, fits => by
    rcases compatible_cases rfl fits with
      absorbing | rfl | ⟨_, _, params', result', ⟨⟩, rfl, paramsFit, resultFits⟩
    · exact (consistent_of_isAbsorbing absorbing _).symm
    · exact consistent_self _
    · rcases consistentList_of_compatibleList params params' paramsFit with
        ⟨cs, statics, first, second⟩
      rcases consistent_of_compatible result result' resultFits with ⟨c, static, third, fourth⟩
      exact ⟨fn cs c, by rw [isStatic, statics, static, Bool.and_self], .fn first third,
        .fn second fourth⟩
  | .int, u, fits | .bool, u, fits | .string, u, fits | .unit, u, fits | .struct _, u, fits
  | .enum _, u, fits => by
    rcases compatible_cases rfl fits with absorbing | rfl | ⟨_, _, _, _, ⟨⟩, _⟩
    · exact (consistent_of_isAbsorbing absorbing _).symm
    · exact consistent_self _

theorem consistentList_of_compatibleList : (ts us : List Ty) → compatibleList ts us = true →
    ∃ cs, isStaticList cs = true ∧ CompletesList ts cs ∧ CompletesList us cs
  | [], [], _ => ⟨[], rfl, .nil, .nil⟩
  | t :: rest, u :: others, fits => by
    rw [compatibleList, Bool.and_eq_true] at fits
    rcases consistent_of_compatible t u fits.1 with ⟨c, static, first, second⟩
    rcases consistentList_of_compatibleList rest others fits.2 with ⟨cs, statics, third, fourth⟩
    exact ⟨c :: cs, by rw [isStaticList, static, statics, Bool.and_self], .cons first third,
      .cons second fourth⟩

end

/-- Types with a common static completion agree, since both agree with the completion. -/
theorem Consistent.compatible {t u : Ty} (consistent : Consistent t u) :
    Ty.compatible t u = true := by
  rcases consistent with ⟨c, static, first, second⟩
  refine compatible_of_static c static ?_ ?_
  · rw [compatible_comm]
    exact first.compatible
  · rw [compatible_comm]
    exact second.compatible

/-- Static types are their only completions, so compatible ones are equal. -/
theorem eq_of_compatible {t u : Ty} (static : t.isStatic = true)
    (static' : u.isStatic = true) (fits : compatible t u = true) : t = u := by
  rcases consistent_of_compatible t u fits with ⟨c, _, first, second⟩
  rw [← first.eq_of_isStatic static, ← second.eq_of_isStatic static']

/-- Compatibility is consistency: two types are compatible exactly if some static type comes from
both by replacing their absorbing parts.  It is reflexive and symmetric, and between static types
it is equality. -/
theorem compatible_iff_consistent :
    (∀ t u, compatible t u = true ↔
        ∃ c, c.isStatic = true ∧ Completes t c ∧ Completes u c) ∧
      (∀ t, compatible t t = true) ∧
      (∀ t u, compatible t u = compatible u t) ∧
      ∀ t u, t.isStatic = true → u.isStatic = true → (compatible t u = true ↔ t = u) := by
  refine ⟨?_, compatible_self, compatible_comm, ?_⟩
  · intro t u
    exact ⟨consistent_of_compatible t u, Consistent.compatible⟩
  · intro t u static static'
    constructor
    · exact eq_of_compatible static static'
    · rintro rfl
      exact compatible_self t

/-- Functions that tell different parts of one type, and static ones that differ in a result. -/
theorem compatible_iff_consistent_function :
    let first : Ty := fn [any, int] (fn [] unknown)
    let second : Ty := fn [string, unknown] (fn [] (struct "Point"))
    let third : Ty := fn [string, int] (fn [] (enum "Point"))
    let common : Ty := fn [string, int] (fn [] (struct "Point"))
    compatible first second = true ∧ (third.isStatic = true ∧ common.isStatic = true ∧
      ¬ compatible third common = true) := by
  intro first second third common
  rcases compatible_iff_consistent with ⟨consistent, _, _, static⟩
  refine ⟨(consistent first second).mpr ⟨common, rfl, ?_, ?_⟩, rfl, rfl, ?_⟩
  · exact .fn (.cons .any (.cons .int .nil)) (.fn .nil .unknown)
  · exact .fn (.cons .string (.cons .unknown .nil)) (.fn .nil .struct)
  · rw [static third common rfl rfl]
    decide

end Ty

end ModuleCheck

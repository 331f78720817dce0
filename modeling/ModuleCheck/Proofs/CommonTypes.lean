import ModuleCheck.Proofs.Joining
import ModuleCheck.Proofs.Runs

namespace ModuleCheck

/-!
What joining reports, and what it yields.

Two concrete members can be compatible with a third one and not with each other, if the third
one is a function with an absorbing part.  Joining compares every member with the first concrete
one, so it finds every clash with that member and may miss one between two later members.
Nothing is missed if the first concrete member has no absorbing part at any depth, for then it
is a common instance of all that it is compatible with.
-/

namespace Ty

/-! Types without absorbing parts. -/

mutual

/-- Whether the type has no absorbing part at any depth. -/
def isStatic : Ty → Bool
  | any | unknown => false
  | fn params result => isStaticList params && isStatic result
  | _ => true

def isStaticList : List Ty → Bool
  | [] => true
  | t :: rest => isStatic t && isStaticList rest

end

/-- What a concrete type is compatible with: absorbing types, itself, and in case of a function
those that it agrees with part by part. -/
theorem compatible_cases {s t : Ty} (concrete : s.isConcrete = true)
    (fits : compatible s t = true) :
    t.isAbsorbing = true ∨ t = s ∨
      ∃ params result params' result', s = fn params result ∧ t = fn params' result' ∧
        compatibleList params params' = true ∧ compatible result result' = true := by
  cases s with
  | any | unknown => cases concrete
  | fn params result =>
    cases t with
    | fn params' result' =>
      rw [compatible, Bool.and_eq_true] at fits
      exact Or.inr (Or.inr ⟨_, _, _, _, rfl, rfl, fits.1, fits.2⟩)
    | any | unknown => exact Or.inl rfl
    | _ => simp [compatible] at fits
  | _ => cases t <;> simp_all [compatible, isAbsorbing]

mutual

/-- Types that are compatible with one static type are compatible with each other. -/
theorem compatible_of_static : (s : Ty) → s.isStatic = true → {t u : Ty} →
    compatible s t = true → compatible s u = true → compatible t u = true
  | .fn params result, static, t, u, first, second => by
    rw [isStatic, Bool.and_eq_true] at static
    rcases compatible_cases rfl first with absorbing | rfl | ⟨_, _, ps, r, ⟨⟩, rfl, paramsFit, fits⟩
    · exact compatible_of_isAbsorbing absorbing u
    · exact second
    · rcases compatible_cases rfl second with
        absorbing | rfl | ⟨_, _, qs, q, ⟨⟩, rfl, paramsFit', fits'⟩
      · rw [compatible_comm]
        exact compatible_of_isAbsorbing absorbing _
      · rw [compatible_comm]
        exact first
      · rw [compatible, Bool.and_eq_true]
        exact ⟨compatibleList_of_static params static.1 paramsFit paramsFit',
          compatible_of_static result static.2 fits fits'⟩
  | .int, _, t, _, first, second | .bool, _, t, _, first, second | .string, _, t, _, first, second
  | .unit, _, t, _, first, second | .struct _, _, t, _, first, second
  | .enum _, _, t, _, first, second => by
    cases t <;> simp_all [compatible]

theorem compatibleList_of_static : (ss : List Ty) → isStaticList ss = true → {ts us : List Ty} →
    compatibleList ss ts = true → compatibleList ss us = true → compatibleList ts us = true
  | [], _, ts, us, first, second => by
    cases ts <;> cases us <;> simp_all [compatibleList]
  | s :: rest, static, ts, us, first, second => by
    rw [isStaticList, Bool.and_eq_true] at static
    cases ts with
    | nil => cases first
    | cons t ts =>
      cases us with
      | nil => cases second
      | cons u us =>
        rw [compatibleList, Bool.and_eq_true] at first second ⊢
        exact ⟨compatible_of_static s static.1 first.1 second.1,
          compatibleList_of_static rest static.2 first.2 second.2⟩

end

/-! Members of a join. -/

/-- Every two concrete members are compatible. -/
def PairwiseCompatible (members : List Ty) : Prop :=
  ∀ t ∈ members, ∀ u ∈ members, t.isConcrete = true → u.isConcrete = true →
    compatible t u = true

/-- Two concrete members that cannot stand in one join.  Unit stands in front if the concrete
members mix it with other types. -/
structure Clash (members : List Ty) (left right : Ty) : Prop where
  left_mem : left ∈ members
  right_mem : right ∈ members
  left_concrete : left.isConcrete = true
  right_concrete : right.isConcrete = true
  incompatible : compatible left right = false
  unit_first : unit ∈ members → (∃ t ∈ members, t.isConcrete = true ∧ t ≠ unit) → left = unit

theorem isUnit_iff {t : Ty} : t.isUnit = true ↔ t = unit := by
  cases t <;> simp [isUnit]

/-- What concrete types disagree on are two of them that clash. -/
theorem clash_of_conflict? {first : Ty} {rest : List Ty} {conflict : Conflict}
    (concrete : ∀ t ∈ first :: rest, t.isConcrete = true)
    (found : conflict? first rest = some conflict) :
    Clash (first :: rest) conflict.left conflict.right := by
  unfold conflict? at found
  dsimp only at found
  split at found
  · rename_i other mixed
    cases found
    split at mixed
    · rename_i unitary
      rcases List.any_eq_true.mp unitary with ⟨one, oneMember, oneUnit⟩
      rw [isUnit_iff.mp oneUnit] at oneMember
      have otherMember := List.mem_of_find?_eq_some mixed
      have otherValue : other.isUnit = false := by simpa using List.find?_some mixed
      exact {
        left_mem := oneMember
        right_mem := otherMember
        left_concrete := rfl
        right_concrete := concrete other otherMember
        incompatible := by rw [compatible_unit (concrete other otherMember), otherValue]
        unit_first := fun _ _ => rfl }
    · cases mixed
  · rename_i unmixed
    rcases Option.map_eq_some_iff.mp found with ⟨later, there, rfl⟩
    have laterMember := List.mem_cons_of_mem first (List.mem_of_find?_eq_some there)
    refine {
      left_mem := List.mem_cons_self
      right_mem := laterMember
      left_concrete := concrete first List.mem_cons_self
      right_concrete := concrete later laterMember
      incompatible := by simpa using List.find?_some there
      unit_first := ?_ }
    -- Unit and another concrete member would have been found first.
    rintro unitary ⟨t, member, _, differs⟩
    rw [if_pos (List.any_eq_true.mpr ⟨unit, unitary, rfl⟩), List.find?_eq_none] at unmixed
    exact absurd (isUnit_iff.mp (by simpa using unmixed t member)) differs

/-- A join fails over two of its members that clash. -/
theorem clash_of_join {members : List Ty} {conflict : Conflict}
    (failed : join members = .error conflict) : Clash members conflict.left conflict.right := by
  unfold join at failed
  cases concrete : members.filter isConcrete with
  | nil => rw [concrete] at failed; cases failed
  | cons first rest =>
    have kept (t : Ty) : t ∈ first :: rest ↔ t ∈ members ∧ t.isConcrete = true := by
      rw [← concrete, List.mem_filter]
    rw [concrete] at failed
    dsimp only at failed
    split at failed
    · rename_i found
      cases failed
      have clash := clash_of_conflict? (fun t member => ((kept t).mp member).2) found
      exact { clash with
        left_mem := ((kept _).mp clash.left_mem).1
        right_mem := ((kept _).mp clash.right_mem).1
        unit_first := fun unitary ⟨t, member, concrete, differs⟩ =>
          clash.unit_first ((kept unit).mpr ⟨unitary, rfl⟩)
            ⟨t, (kept t).mpr ⟨member, concrete⟩, concrete, differs⟩ }
    · cases failed

/-- The type stands for all members: it is compatible with each of them, and it is the first
concrete one.  Without a concrete member it is `any` or `unknown`, according to whether `any`
occurs. -/
structure StandsFor (ty : Ty) (members : List Ty) : Prop where
  compatible : ∀ member ∈ members, Ty.compatible ty member = true
  any_iff : ty = any ↔ (∀ t ∈ members, t.isConcrete = false) ∧ any ∈ members
  unknown_iff : ty = unknown ↔ (∀ t ∈ members, t.isConcrete = false) ∧ any ∉ members
  unit_iff : ty = unit ↔
    (∃ t ∈ members, t.isConcrete = true) ∧ ∀ t ∈ members, t.isConcrete = true → t = unit
  first_concrete : ∀ first, members.find? isConcrete = some first → ty = first

theorem Joins.standsFor {members : List Ty} {ty : Ty} (joins : Joins members ty) :
    ty.StandsFor members := by
  have origin := joins.origin
  cases found : members.find? isConcrete with
  | none =>
    have absorbing : ∀ t ∈ members, t.isConcrete = false := by
      simpa using List.find?_eq_none.mp found
    have without : ¬ ∃ t ∈ members, t.isConcrete = true := by
      rintro ⟨t, member, concrete⟩
      rw [absorbing t member] at concrete
      cases concrete
    have unfound : ∀ first, members.find? isConcrete = some first → ty = first := by
      rw [found]
      exact fun _ first => by cases first
    rw [found, Option.getD_none] at origin
    by_cases occurs : any ∈ members
    · rw [if_pos occurs] at origin
      subst origin
      exact {
        compatible := joins.compatible
        any_iff := iff_of_true rfl ⟨absorbing, occurs⟩
        unknown_iff := iff_of_false (fun same => by cases same) fun both => both.2 occurs
        unit_iff := iff_of_false (fun same => by cases same) fun both => without both.1
        first_concrete := unfound }
    · rw [if_neg occurs] at origin
      subst origin
      exact {
        compatible := joins.compatible
        any_iff := iff_of_false (fun same => by cases same) fun both => occurs both.2
        unknown_iff := iff_of_true rfl ⟨absorbing, occurs⟩
        unit_iff := iff_of_false (fun same => by cases same) fun both => without both.1
        first_concrete := unfound }
  | some first =>
    have member := List.mem_of_find?_eq_some found
    have concrete := List.find?_some found
    rw [found, Option.getD_some] at origin
    subst origin
    have some_concrete : ¬ ∀ t ∈ members, t.isConcrete = false := fun none => by
      rw [none ty member] at concrete
      cases concrete
    exact {
      compatible := joins.compatible
      any_iff := iff_of_false (fun same => by subst same; cases concrete)
        fun both => some_concrete both.1
      unknown_iff := iff_of_false (fun same => by subst same; cases concrete)
        fun both => some_concrete both.1
      unit_iff := by
        constructor
        · rintro rfl
          refine ⟨⟨unit, member, concrete⟩, fun t tMember tConcrete => ?_⟩
          have fits := joins.compatible t tMember
          rw [compatible_unit tConcrete] at fits
          exact isUnit_iff.mp fits
        · exact fun units => units.2 ty member concrete
      first_concrete := fun _ same => Option.some.inj (found.symm.trans same) }

end Ty

namespace Rules

open Ty (PairwiseCompatible)

variable (members : List Ty) (context : String) (span : Option Span)

/-- Joining reports nothing exactly if every member is compatible with the first concrete
one. -/
theorem diagnostics_join_eq_nil_iff :
    (join members context span).diagnostics = [] ↔
      ∀ first, members.find? Ty.isConcrete = some first →
        ∀ t ∈ members, first.compatible t = true := by
  have silent : (join members context span).diagnostics = [] ↔ ∃ ty, Ty.join members = .ok ty := by
    unfold join
    cases Ty.join members <;> simp [Reported.error]
  rw [silent]
  constructor
  · rintro ⟨ty, joined⟩ first found t member
    have joins := Ty.join_eq_ok_iff.mp joined
    rw [← joins.standsFor.first_concrete first found]
    exact joins.compatible t member
  · intro fits
    cases found : members.find? Ty.isConcrete with
    | none =>
      refine ⟨if .any ∈ members then .any else .unknown,
        Ty.join_eq_ok_iff.mpr ⟨?_, by rw [found]; rfl⟩⟩
      intro t member
      have absorbing : t.isAbsorbing = true := by
        simpa [Ty.isConcrete] using List.find?_eq_none.mp found t member
      rw [Ty.compatible_comm]
      exact Ty.compatible_of_isAbsorbing absorbing _
    | some first =>
      exact ⟨first, Ty.join_eq_ok_iff.mpr ⟨fits first found, by rw [found]; rfl⟩⟩

/-- Members of which every two are compatible are joined without a report. -/
theorem diagnostics_join_of_pairwise (pairwise : PairwiseCompatible members) :
    (join members context span).diagnostics = [] := by
  rw [diagnostics_join_eq_nil_iff]
  intro first found t member
  by_cases concrete : t.isConcrete = true
  · exact pairwise first (List.mem_of_find?_eq_some found) t member (List.find?_some found) concrete
  · rw [Ty.compatible_comm]
    exact Ty.compatible_of_isAbsorbing (by simpa [Ty.isConcrete] using concrete) _

/-- Members that are joined without a report are compatible with each other, provided that the
first concrete one is static. -/
theorem pairwise_of_diagnostics_join {first : Ty}
    (found : members.find? Ty.isConcrete = some first) (static : first.isStatic = true)
    (silent : (join members context span).diagnostics = []) : PairwiseCompatible members := by
  have fits := (diagnostics_join_eq_nil_iff members context span).mp silent first found
  intro t tMember u uMember _ _
  exact Ty.compatible_of_static first static (fits t tMember) (fits u uMember)

/-- When joining reports nothing: if every member is compatible with the first concrete one.
That is the case if every two concrete members are compatible, and it is the same if the first
concrete member is static. -/
theorem join_silent_iff :
    ((join members context span).diagnostics = [] ↔
        ∀ first, members.find? Ty.isConcrete = some first →
          ∀ t ∈ members, first.compatible t = true) ∧
      (PairwiseCompatible members → (join members context span).diagnostics = []) ∧
      ∀ first, members.find? Ty.isConcrete = some first → first.isStatic = true →
        ((join members context span).diagnostics = [] ↔ PairwiseCompatible members) :=
  ⟨diagnostics_join_eq_nil_iff members context span,
    diagnostics_join_of_pairwise members context span,
    fun _ found static => ⟨pairwise_of_diagnostics_join members context span found static,
      diagnostics_join_of_pairwise members context span⟩⟩

/-- Functions behind one that is static: they are joined without a report as long as they agree
with it, and then they agree with each other. -/
theorem join_silent_iff_functions :
    let first : Ty := .fn [.int] .bool
    let agreeing : List Ty := [.unknown, first, .fn [.any] .bool]
    let clashing : List Ty := agreeing ++ [.fn [.int] .string]
    agreeing.find? Ty.isConcrete = some first ∧ clashing.find? Ty.isConcrete = some first ∧
      first.isStatic = true ∧
      ((join agreeing "if branches" none).diagnostics = [] ∧ PairwiseCompatible agreeing) ∧
      (join clashing "if branches" none).diagnostics ≠ [] ∧ ¬ PairwiseCompatible clashing := by
  intro first agreeing clashing
  have static : first.isStatic = true := by decide
  have found : agreeing.find? Ty.isConcrete = some first := by decide
  have found' : clashing.find? Ty.isConcrete = some first := by decide
  have silent : (join agreeing "if branches" none).diagnostics = [] := by decide +kernel
  have reported : (join clashing "if branches" none).diagnostics ≠ [] := by decide +kernel
  have agree := (join_silent_iff agreeing "if branches" none).2.2 first found static
  have clash := (join_silent_iff clashing "if branches" none).2.2 first found' static
  exact ⟨found, found', static, ⟨silent, agree.mp silent⟩, reported,
    fun pairwise => reported (clash.mpr pairwise)⟩

/-- Behind a function whose result is `any`, two functions with different results are joined
without a report, and in another order they are not. -/
theorem join_misses_clash :
    let loose : Ty := .fn [] .any
    let number : Ty := .fn [] .int
    let truth : Ty := .fn [] .bool
    (join [loose, number, truth] "if branches" none).diagnostics = [] ∧
      (join [number, loose, truth] "if branches" none).diagnostics ≠ [] ∧
      ¬ PairwiseCompatible [loose, number, truth] := by
  refine ⟨by decide +kernel, by decide +kernel, fun pairwise => ?_⟩
  have fits := pairwise (.fn [] .int) (by decide) (.fn [] .bool) (by decide) rfl rfl
  simp [Ty.compatible] at fits

end Rules

namespace Check

/-- The outcome of joining.  Either two concrete members clash, and nothing happens but one
report that shows them; then the type is not known.  Or nothing happens at all, and the type
stands for all members. -/
theorem join_outcome (members : List Ty) (context : String) (span : Option Span) (c : Checker) :
    (∃ left right, Ty.Clash members left right ∧ left ≠ right ∧
        result (settle (Rules.join members context span)) c = .unknown ∧
        after (settle (Rules.join members context span)) c =
          { c with
            diagnostics := c.diagnostics ++
              [Diagnostic.error (.incompatibleTypes context left.text right.text) span] }) ∨
      (after (settle (Rules.join members context span)) c = c ∧
        (result (settle (Rules.join members context span)) c).StandsFor members) := by
  rw [after_settle, result_settle]
  unfold Rules.join
  cases joined : Ty.join members with
  | ok ty =>
    refine Or.inr ⟨?_, (Ty.join_eq_ok_iff.mp joined).standsFor⟩
    simp
  | error conflict =>
    have clash := Ty.clash_of_join joined
    refine Or.inl ⟨conflict.left, conflict.right, clash, ?_, rfl, rfl⟩
    intro same
    have fits := clash.incompatible
    rw [same, Ty.compatible_self] at fits
    cases fits

end Check

end ModuleCheck

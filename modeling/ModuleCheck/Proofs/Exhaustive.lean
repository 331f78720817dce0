import ModuleCheck.Proofs.Invariant

namespace ModuleCheck

/-!
Matches on values of an enum.

In a module without an error, a match on a value of an enum is about that enum, wherever the
enum was taken from: the literal that is matched, the literal that a variable was initialized
with, or the type of the value.  Its variant patterns name the enum and a declared variant,
and its arms leave no variant out.
-/

open Check

namespace Arms

/-- Without an error on the arms as a whole every declared variant has an unguarded arm, unless
there is an unguarded wildcard. -/
theorem covered_of_findings {r : Registry} {enum : String} {m : Match} {variants : Variants}
    (found : r.enums.get? enum = some variants)
    (clean : Diagnostic.errorCount (findings r (some enum) m) = 0) :
    m.arms.any Arm.isCatchAll = true ∨
      ∀ variant ∈ variants.keys, variant ∈ covered enum m.arms := by
  have missing : Diagnostic.errorCount (missingVariants r enum m) = 0 := by
    simp only [findings, Diagnostic.errorCount_append] at clean
    omega
  unfold missingVariants at missing
  by_cases catchAll : m.arms.any Arm.isCatchAll = true
  · exact Or.inl catchAll
  · refine Or.inr fun variant declared => ?_
    rw [if_neg catchAll, found] at missing
    dsimp only at missing
    rw [Diagnostic.errorCount_map_error, List.length_eq_zero_iff, List.filter_eq_nil_iff] at missing
    simpa using missing variant declared

theorem exists_of_any_isCatchAll {arms : List Arm} (catchAll : arms.any Arm.isCatchAll = true) :
    ∃ arm ∈ arms, arm.guard = none ∧ ∃ span, arm.pattern = .wildcard span := by
  rcases List.any_eq_true.mp catchAll with ⟨⟨pattern, guard, body, span⟩, member, takes⟩
  refine ⟨_, member, ?_⟩
  cases pattern with
  | wildcard place =>
    cases guard with
    | none => exact ⟨rfl, place, rfl⟩
    | some guard => cases takes
  | _ => cases takes

/-- A covered variant has an unguarded arm that names it. -/
theorem exists_of_mem_covered {enum variant : String} {arms : List Arm}
    (member : variant ∈ covered enum arms) :
    ∃ arm ∈ arms, arm.guard = none ∧
      ∃ field binding span, arm.pattern = .variant enum variant field binding span := by
  rcases List.mem_map.mp member with ⟨found, kept, rfl⟩
  rcases List.mem_filter.mp kept with ⟨listed, unguarded⟩
  rcases List.mem_filterMap.mp listed with ⟨arm, armMember, shown⟩
  rcases Option.map_eq_some_iff.mp shown with ⟨named, pattern, rfl⟩
  refine ⟨arm, armMember, by simpa [Arm.isGuarded] using unguarded, ?_⟩
  unfold Pattern.variantOf? at pattern
  split at pattern
  · rename_i enumNamed member field binding span shape
    split at pattern
    · rename_i same
      cases pattern
      subst same
      exact ⟨_, _, _, shape⟩
    · cases pattern
  · cases pattern

end Arms

/-- The arms are about the enum and leave none of its variants out. -/
structure Arms.Exhaust (r : Registry) (enum : String) (arms : List Arm) (variants : Variants) :
    Prop where
  declared : r.enums.get? enum = some variants
  named : ∀ arm ∈ arms, ∀ named variant field binding span,
    arm.pattern = .variant named variant field binding span →
      named = enum ∧ variants.contains variant = true
  covered : (∃ arm ∈ arms, arm.guard = none ∧ ∃ span, arm.pattern = .wildcard span) ∨
    ∀ variant, variants.contains variant = true → ∃ arm ∈ arms, arm.guard = none ∧
      ∃ field binding span, arm.pattern = .variant enum variant field binding span

namespace Check

/-- The enum that a match is about. -/
theorem result_matchedEnum? (m : Match) (ty : Ty) (c : Checker) :
    result (matchedEnum? m ty) c =
      ((match m.value with
        | .variant enum .. => some enum
        | .identifier name _ => c.environment.lookup? name >>= Binding.enumTag
        | _ => none).or
        (match ty with
        | .enum name => some name
        | _ => none)).or (Arms.commonEnum? m.arms) := by
  rcases m with ⟨value, arms, span⟩
  cases value <;> rfl

/-- A match on a value of an enum is about that enum, as long as there is no error. -/
theorem matchedEnum?_of_enum {r : Registry} {c : Checker} {m : Match} {enum : String}
    (consistent : c.Consistent r) (accepting : (after (visitExpr m.value) c).Accepting)
    (typed : (result (visitExpr m.value) c).ty = .enum enum) :
    result (do
      let matched ← visitExpr m.value
      matchedEnum? m matched.ty) c = some enum := by
  rw [result_bind, result_matchedEnum?, typed]
  split
  · rename_i named _ _ _ _ literal
    rw [literal] at accepting typed
    have same := (ty_of_literal accepting).1.symm.trans typed
    cases same
    rfl
  · rename_i name span identifier
    rw [identifier] at accepting typed ⊢
    rw [visitExpr] at accepting typed ⊢
    simp only [result_bind, after_bind, result_pure, after_pure] at accepting typed ⊢
    cases bound : c.environment.lookup? name with
    | none =>
      rw [(useName_of_unbound bound (some span)).1] at typed
      cases typed
    | some binding =>
      rw [(useName_of_bound bound (some span)).1] at typed
      rw [(useName_of_bound bound (some span)).2] at accepting ⊢
      have seen : (c.environment.modify name Binding.markUsed).lookup? name =
          some binding.markUsed := by
        rw [Environment.lookup?_modify, if_pos rfl, bound]
        rfl
      rw [seen]
      have fits := (consistent.tagged accepting).lookup? bound
      cases tag : binding.enumTag with
      | none => simp [Binding.markUsed, tag]
      | some tagged =>
        rcases (fits tagged tag).1 with same | free
        · have both := same.symm.trans typed
          cases both
          simp [Binding.markUsed, tag]
        · have both := free.symm.trans typed
          cases both
  · rfl

/-- Every pattern of a list of arms is visited. -/
theorem reaches_pattern (valued : Bool) (enum? : Option String) {arms : List Arm} {arm : Arm}
    (member : arm ∈ arms) (c : Checker) :
    ∃ c', Reaches ⟨.arms valued enum? arms, c⟩ ⟨.pattern enum? arm.pattern, c'⟩ := by
  induction arms generalizing c with
  | nil => cases member
  | cons first rest ih =>
    rcases List.mem_cons.mp member with rfl | later
    · rcases arm with ⟨pattern, guard, body, span⟩
      exact ⟨_, .tail (.tail .refl .firstArm) .pattern⟩
    · rcases ih later (after (visitArm valued enum? first) c) with ⟨c', reaches⟩
      exact ⟨c', .head .moreArms reaches⟩

end Check

namespace Module

variable {m : Module} {options : Options}

/-- In an accepted module every visited variant pattern names the matched enum, if there is one,
and a declared variant. -/
theorem variant_of_visits (accepted : Diagnostic.hasErrors (m.check options) = false)
    {enum? : Option String} {enum variant : String} {field binding : Option String} {span : Span}
    {c : Checker}
    (visits : m.Visits options ⟨.pattern enum? (.variant enum variant field binding span), c⟩) :
    (∀ expected ∈ enum?, expected = enum) ∧
      ∃ payload, (m.checked options).registry.variant? enum variant = some payload := by
  have silent : Silent (visitPattern enum? (.variant enum variant field binding span)) c :=
    silent_of_visits accepted visits
  have clean : (Arms.bindingType c.registry enum? enum variant binding.isSome span).errorCount =
      0 := by
    rw [visitPattern, bindVariant] at silent
    cases binding <;> exact (Silent.split (Silent.split silent).2).1.clean
  rcases Arms.bindingType_clean clean with ⟨named, payload, declared, _⟩
  refine ⟨named, payload, ?_⟩
  rw [registry_eq_of_visits visits]
  exact declared

/-- In an accepted module the arms of a match as a whole are reported on without an error. -/
theorem findings_of_visits (accepted : Diagnostic.hasErrors (m.check options) = false)
    {valued : Bool} {choice : Match} {enum? : Option String} {c : Checker}
    (visits : m.Visits options ⟨.matching valued choice, c⟩)
    (matched : result (do
      let matched ← visitExpr choice.value
      matchedEnum? choice matched.ty) c = enum?) :
    Diagnostic.errorCount (Arms.findings (m.checked options).registry enum? choice) = 0 := by
  rcases choice with ⟨value, arms, span⟩
  have silent : Silent (visitMatch valued ⟨value, arms, span⟩) c := silent_of_visits accepted visits
  have sameRegistry : (m.checked options).registry = (after (visitExpr value) c).registry := by
    rw [registry_eq_of_visits visits]
    exact (visitExpr_keeps value c).registry.symm
  rw [visitMatch] at silent
  rcases silent.split with ⟨_, silent⟩
  rcases silent.split with ⟨_, silent⟩
  rcases silent.split with ⟨_, silent⟩
  have clean := silent.split.1.emitted
  rw [result_bind] at matched
  rw [after_matchedEnum?, matched, result_registry] at clean
  rw [sameRegistry]
  exact clean

/-- As long as no error is reported, the enum tags of all bindings fit their types and are
declared.  In a module without an error, every match on a value of an enum is about that enum,
and its arms exhaust it. -/
theorem matches_exhaustive (m : Module) (options : Options) :
    (∀ v, m.Visits options v →
      (v.start.Accepting →
        v.start.environment.Each (Binding.TagFits (m.checked options).registry)) ∧
      (v.finish.Accepting →
        v.finish.environment.Each (Binding.TagFits (m.checked options).registry))) ∧
    (Diagnostic.hasErrors (m.check options) = false →
      ∀ valued choice c enum, m.Visits options ⟨.matching valued choice, c⟩ →
        (result (visitExpr choice.value) c).ty = .enum enum →
        result (do
          let matched ← visitExpr choice.value
          matchedEnum? choice matched.ty) c = some enum ∧
        ∃ variants, Arms.Exhaust (m.checked options).registry enum choice.arms variants) := by
  refine ⟨fun v visits => ?_, ?_⟩
  · have consistent := consistent_of_visits visits
    exact ⟨consistent.tagged, (consistent.visit v.task).tagged⟩
  · rintro accepted valued ⟨value, arms, span⟩ c enum visits typed
    have consistent := consistent_of_visits visits
    have valueVisits : m.Visits options ⟨.expr value, c⟩ := .tail visits .matched
    have armsVisits := Relation.ReflTransGen.tail visits .arms
    have accepting := (accepting_of_visits accepted valueVisits).2
    have matched : result (do
        let matched ← visitExpr value
        matchedEnum? ⟨value, arms, span⟩ matched.ty) c = some enum :=
      matchedEnum?_of_enum consistent accepting typed
    have known := known_visitExpr value consistent
    rw [typed] at known
    cases known with
    | enum declared =>
      rw [← Table.isSome_get?] at declared
      rcases Option.isSome_iff_exists.mp declared with ⟨variants, found⟩
      refine ⟨matched, variants, found, ?_, ?_⟩
      · intro arm member named variant field binding place shape
        rw [matched] at armsVisits
        rcases reaches_pattern valued (some enum) member _ with ⟨c', reaches⟩
        rw [shape] at reaches
        rcases variant_of_visits accepted (armsVisits.trans reaches) with ⟨same, payload, known⟩
        have named_eq : enum = named := same enum rfl
        subst named_eq
        rw [Registry.variant?, found, Option.bind_some] at known
        exact ⟨rfl, by rw [← Table.isSome_get?, known]; rfl⟩
      · rcases Arms.covered_of_findings found (findings_of_visits accepted visits matched) with
          catchAll | all
        · exact Or.inl (Arms.exists_of_any_isCatchAll catchAll)
        · exact Or.inr fun variant declared =>
            Arms.exists_of_mem_covered (all variant ((variants.contains_iff variant).mp declared))

/-- A variable that is initialized with a literal and matched under a guard. -/
theorem matches_exhaustive_tagged :
    let s := Span.null
    let literal (variant : String) : Expr := .variant "Color" variant none none s
    let arm (variant : String) (guard : Option Expr) : Arm :=
      ⟨.variant "Color" variant none none s, guard, .int 0 s, s⟩
    let choice : Match := ⟨.identifier "x" s,
      [arm "Red" (some (.bool true s)), arm "Blue" none, arm "Red" none], s⟩
    let m : Module := ⟨[.enum ⟨"Color", [⟨"Red", none, none, s⟩, ⟨"Blue", none, none, s⟩], s⟩,
      .var ⟨"x", false, some (.named "Color" s), literal "Red", false, s⟩,
      .expr (.matching choice) s]⟩
    Diagnostic.hasErrors (m.check {}) = false ∧ ∃ c,
      m.Visits {} ⟨.matching true choice, c⟩ ∧
      (result (visitExpr choice.value) c).ty = .enum "Color" ∧
      ∃ variants, Arms.Exhaust (m.checked {}).registry "Color" choice.arms variants := by
  intro s literal arm choice m
  have accepted : Diagnostic.hasErrors (m.check {}) = false := by decide +kernel
  have visits : m.Visits {} ⟨.matching true choice, _⟩ :=
    .tail (.tail (.tail (.tail (.tail .refl .others) .others) .first) (.used rfl)) .matching
  have exhausted := (matches_exhaustive m {}).2 accepted _ _ _ "Color" visits (by decide +kernel)
  exact ⟨accepted, _, visits, by decide +kernel, exhausted.2⟩

end Module

end ModuleCheck

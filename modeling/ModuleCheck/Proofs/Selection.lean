import Mathlib.Data.List.Induction
import Mathlib.Data.List.Nodup
import ModuleCheck.Checker.Arms
import ModuleCheck.Table.Lemmas

namespace ModuleCheck

/-!
Which arm of a match is taken, and what the findings on the arms say about it.

A match takes the first arm whose pattern accepts the value and whose guard, if it has one, holds.
How guards turn out is not known ahead, so a variant is safe only if it is matched however they
turn out, and an arm is dead only if no value and no outcome of the guards leads to it.  The
findings on the arms are exactly the variants that are not safe and the dead arms.
-/

/-- A value that is matched: a variant of an enum, or a value outside of all enums, which is known
by the literals that it equals. -/
inductive Value where
  | variant (enum variant : String)
  | other (equals : Expr → Bool)

namespace Pattern

/-- Whether the pattern accepts a value. -/
def accepts : Pattern → Value → Bool
  | wildcard _, _ => true
  | literal e _, .other equals => equals e
  | variant enum member _ _ _, .variant named given => named = enum && given = member
  | _, _ => false

theorem accepts_variant_iff {p : Pattern} {enum variant : String} :
    p.accepts (.variant enum variant) = true ↔
      p.isWildcard = true ∨ p.variantOf? enum = some variant := by
  cases p with
  | wildcard => simp [accepts, isWildcard]
  | literal => simp [accepts, isWildcard, variantOf?]
  | variant named member =>
    simp only [accepts, isWildcard, variantOf?]
    grind

/-- A variant pattern accepts its own variant only. -/
theorem eq_of_accepts {p : Pattern} {enum variant : String} {v : Value}
    (shape : p.variantOf? enum = some variant) (accepted : p.accepts v = true) :
    v = .variant enum variant := by
  cases p with
  | wildcard | literal => cases shape
  | variant named member =>
    cases v with
    | other => cases accepted
    | variant given taken =>
      simp only [accepts, variantOf?] at shape accepted
      grind

end Pattern

namespace Arm

/-- Whether the arm takes a value, given how its guard turns out if it has one. -/
def takes (arm : Arm) (holds : Bool) (v : Value) : Bool :=
  arm.pattern.accepts v && (!arm.isGuarded || holds)

/-- Whether the arm takes the variant of the enum, without a guard to ask. -/
def isSureOf (arm : Arm) (enum variant : String) : Bool :=
  !arm.isGuarded && arm.pattern.variantOf? enum = some variant

/-- Without a guard that holds, an arm takes a variant only if it is made for it or a
catch-all. -/
theorem takes_false_iff {arm : Arm} {enum variant : String} :
    arm.takes false (.variant enum variant) = true ↔
      arm.isCatchAll = true ∨ arm.isSureOf enum variant = true := by
  simp only [takes, isCatchAll, isSureOf, Bool.and_eq_true, Bool.or_false, Bool.not_eq_true',
    Pattern.accepts_variant_iff, decide_eq_true_eq]
  tauto

/-- A guard that holds leads to no fewer values. -/
theorem takes_of_takes_false {arm : Arm} {v : Value} (taken : arm.takes false v = true)
    (holds : Bool) : arm.takes holds v = true := by
  simp only [takes, Bool.and_eq_true, Bool.or_eq_true, Bool.not_eq_true'] at taken ⊢
  exact ⟨taken.1, Or.inl (taken.2.resolve_right (by simp))⟩

end Arm

namespace Arms

/-- The position of the arm that is taken, which is the first one that takes the value.  `guards`
tells for each position how the guard there turns out. -/
def selected? (guards : Nat → Bool) (v : Value) (arms : List Arm) : Option Nat :=
  arms.zipIdx.findIdx? fun entry => entry.1.takes (guards entry.2) v

theorem selected?_eq_none_iff {guards : Nat → Bool} {v : Value} {arms : List Arm} :
    selected? guards v arms = none ↔
      ∀ (i : Nat) (arm : Arm), arms[i]? = some arm → arm.takes (guards i) v = false := by
  unfold selected?
  rw [List.findIdx?_eq_none_iff]
  constructor
  · intro none i arm found
    exact none (arm, i) (List.mem_zipIdx_iff_getElem?.mpr found)
  · rintro none ⟨arm, i⟩ member
    exact none i arm (List.mem_zipIdx_iff_getElem?.mp member)

theorem selected?_eq_some_iff {guards : Nat → Bool} {v : Value} {arms : List Arm} {i : Nat} :
    selected? guards v arms = some i ↔
      (∃ arm, arms[i]? = some arm ∧ arm.takes (guards i) v = true) ∧
        ∀ j < i, ∀ arm, arms[j]? = some arm → arm.takes (guards j) v = false := by
  unfold selected?
  rw [List.findIdx?_eq_some_iff_getElem]
  constructor
  · rintro ⟨inside, taken, first⟩
    rw [List.length_zipIdx] at inside
    simp only [List.getElem_zipIdx, Nat.zero_add] at taken first
    refine ⟨⟨arms[i], List.getElem?_eq_getElem inside, taken⟩, fun j before arm found => ?_⟩
    rcases List.getElem?_eq_some_iff.mp found with ⟨_, rfl⟩
    exact Bool.eq_false_iff.mpr (first j before)
  · rintro ⟨⟨arm, found, taken⟩, first⟩
    rcases List.getElem?_eq_some_iff.mp found with ⟨inside, rfl⟩
    refine ⟨by rwa [List.length_zipIdx], ?_, fun j before => ?_⟩
    · simpa using taken
    · have passed := first j before _ (List.getElem?_eq_getElem (by omega))
      simpa using passed

/-! Variants that are left out. -/

/-- Some outcome of the guards leaves the value without an arm. -/
def Escapes (v : Value) (arms : List Arm) : Prop := ∃ guards, selected? guards v arms = none

/-- The worst that can happen to a value is that all guards fail. -/
theorem escapes_iff {v : Value} {arms : List Arm} :
    Escapes v arms ↔ ∀ arm ∈ arms, arm.takes false v = false := by
  constructor
  · rintro ⟨guards, unmatched⟩ arm member
    rcases List.mem_iff_getElem?.mp member with ⟨i, found⟩
    have passed := selected?_eq_none_iff.mp unmatched i arm found
    rw [Bool.eq_false_iff] at passed ⊢
    exact fun taken => passed (Arm.takes_of_takes_false taken (guards i))
  · intro each
    refine ⟨fun _ => false, selected?_eq_none_iff.mpr fun i arm found => ?_⟩
    exact each arm (List.mem_of_getElem? found)

instance (v : Value) (arms : List Arm) : Decidable (Escapes v arms) :=
  decidable_of_iff (∀ arm ∈ arms, arm.takes false v = false) escapes_iff.symm

theorem not_escapes_iff {v : Value} {arms : List Arm} :
    ¬ Escapes v arms ↔ ∀ guards, ∃ i, selected? guards v arms = some i := by
  unfold Escapes
  simp only [not_exists, ← Option.isSome_iff_exists, Option.isSome_iff_ne_none, ne_eq]

/-- The unguarded arms for a variant are those that are sure of it. -/
theorem exists_variantArm_iff {enum variant : String} {arms : List Arm} :
    (∃ arm ∈ variantArms enum arms, arm.guarded = false ∧ arm.variant = variant) ↔
      ∃ arm ∈ arms, arm.isSureOf enum variant = true := by
  unfold variantArms Arm.isSureOf
  simp only [List.mem_filterMap, Option.map_eq_some_iff, Bool.and_eq_true, Bool.not_eq_true',
    decide_eq_true_eq]
  constructor
  · rintro ⟨_, ⟨arm, member, _, named, rfl⟩, unguarded, rfl⟩
    exact ⟨arm, member, unguarded, named⟩
  · rintro ⟨arm, member, unguarded, named⟩
    exact ⟨_, ⟨arm, member, variant, named, rfl⟩, unguarded, rfl⟩

theorem mem_covered_iff {enum variant : String} {arms : List Arm} :
    variant ∈ covered enum arms ↔ ∃ arm ∈ arms, arm.isSureOf enum variant = true := by
  rw [← exists_variantArm_iff, covered]
  simp only [List.mem_map, List.mem_filter, Bool.not_eq_true', and_assoc]

/-- A variant escapes exactly if there is neither a catch-all nor an unguarded arm for it. -/
theorem escapes_variant_iff {enum variant : String} {arms : List Arm} :
    Escapes (.variant enum variant) arms ↔
      arms.any Arm.isCatchAll = false ∧ variant ∉ covered enum arms := by
  rw [escapes_iff, List.any_eq_false, mem_covered_iff]
  simp only [Bool.eq_false_iff, ne_eq, Arm.takes_false_iff, not_or, not_exists, not_and]
  exact forall₂_and

/-- The missing variants of a declared enum are exactly those that some outcome of the guards leaves
without an arm, in the order of their declaration and each once.  So none is missing exactly if
every variant is matched however the guards turn out. -/
theorem missingVariants_eq_escaping {r : Registry} {enum : String} {variants : Variants}
    (declared : r.enums.get? enum = some variants) (m : Match) :
    missingVariants r enum m =
        (variants.keys.filter fun variant => Escapes (.variant enum variant) m.arms).map
          (fun variant => Diagnostic.error (.nonExhaustiveMatch enum variant) (some m.span)) ∧
      (missingVariants r enum m).Nodup ∧
      (missingVariants r enum m = [] ↔
        ∀ variant ∈ variants.keys, ∀ guards,
          ∃ i, selected? guards (.variant enum variant) m.arms = some i) := by
  have listed : missingVariants r enum m =
      (variants.keys.filter fun variant => Escapes (.variant enum variant) m.arms).map
        fun variant => Diagnostic.error (.nonExhaustiveMatch enum variant) (some m.span) := by
    unfold missingVariants
    simp only [escapes_variant_iff, declared]
    cases m.arms.any Arm.isCatchAll <;> simp
  refine ⟨listed, ?_, ?_⟩
  · rw [listed]
    refine List.Nodup.map ?_ (variants.keys_nodup.filter _)
    intro one other same
    cases same
    rfl
  · rw [listed, List.map_eq_nil_iff, List.filter_eq_nil_iff]
    simp only [decide_eq_true_eq, not_escapes_iff]

/-- A match with a guarded arm, an unguarded one and one for another enum. -/
theorem missingVariants_eq_escaping_guarded :
    let s := Span.null
    let arm (enum variant : String) (guard : Option Expr) : Arm :=
      ⟨.variant enum variant none none s, guard, .int 0 s, s⟩
    let m : Match := ⟨.identifier "x" s, [arm "Color" "Red" (some (.bool true s)),
      arm "Color" "Green" none, arm "Shade" "Blue" none], s⟩
    let variants : Variants :=
      ((Table.empty.insert "Red" none).insert "Green" none).insert "Blue" none
    let r : Registry := ⟨Table.empty, Table.empty.insert "Color" variants⟩
    r.enums.get? "Color" = some variants ∧
      missingVariants r "Color" m =
        [Diagnostic.error (.nonExhaustiveMatch "Color" "Red") (some s),
          Diagnostic.error (.nonExhaustiveMatch "Color" "Blue") (some s)] := by
  intro s arm m variants r
  have declared : r.enums.get? "Color" = some variants := by
    simp [r, Table.get?_insert]
  refine ⟨declared, ?_⟩
  rw [(missingVariants_eq_escaping declared m).1]
  decide +kernel

/-! Arms that are never taken. -/

/-- No value and no outcome of the guards leads to the arm at the position. -/
def Dead (arms : List Arm) (i : Nat) : Prop := ∀ guards v, selected? guards v arms ≠ some i

/-- The variant of the enum that the arm at the position is for. -/
def variantAt? (enum : String) (arms : List Arm) (i : Nat) : Option String :=
  arms[i]?.bind fun arm => arm.pattern.variantOf? enum

/-- Whether the arm at the position is for a variant of the enum that an unguarded arm in front of
it is for, too. -/
def isOvertaken (enum : String) (arms : List Arm) (i : Nat) : Bool :=
  (variantAt? enum arms i).any fun variant => (arms.take i).any fun arm => arm.isSureOf enum variant

/-- The positions of the overtaken arms, in order. -/
def overtaken (enum : String) (arms : List Arm) : List Nat :=
  (List.range arms.length).filter (isOvertaken enum arms)

/-- The report on the arm at the position, if it is for a variant of the enum. -/
def reportAt (issue : String → Issue) (enum : String) (arms : List Arm) (i : Nat) :
    Option Diagnostic :=
  arms[i]?.bind fun arm => (arm.pattern.variantOf? enum).map fun variant =>
    Diagnostic.error (issue variant) (some arm.span)

/-- Whether the arm at the position has no guard. -/
def isUnguardedAt (arms : List Arm) (i : Nat) : Bool := arms[i]?.any fun arm => !arm.isGuarded

theorem isOvertaken_eq_true_iff {enum variant : String} {arms : List Arm} {arm : Arm} {i : Nat}
    (found : arms[i]? = some arm) (named : arm.pattern.variantOf? enum = some variant) :
    isOvertaken enum arms i = true ↔
      ∃ j < i, ∃ front, arms[j]? = some front ∧ front.isSureOf enum variant = true := by
  have inside := (List.getElem?_eq_some_iff.mp found).1
  simp only [isOvertaken, variantAt?, found, Option.bind_some, named, Option.any_some,
    List.any_eq_true]
  constructor
  · rintro ⟨front, member, sure⟩
    rcases List.mem_take_iff_getElem.mp member with ⟨j, before, rfl⟩
    exact ⟨j, by omega, _, List.getElem?_eq_getElem (by omega), sure⟩
  · rintro ⟨j, before, front, there, sure⟩
    refine ⟨front, List.mem_of_getElem? (i := j) ?_, sure⟩
    rw [List.getElem?_take_of_lt before, there]

/-- The arm for a variant is dead exactly if it is overtaken or stands behind a catch-all. -/
theorem dead_iff {enum variant : String} {arms : List Arm} {arm : Arm} {i : Nat}
    (found : arms[i]? = some arm) (named : arm.pattern.variantOf? enum = some variant) :
    Dead arms i ↔ isOvertaken enum arms i = true ∨
      ∃ w < i, ∃ front, arms[w]? = some front ∧ front.isCatchAll = true := by
  rw [isOvertaken_eq_true_iff found named]
  constructor
  · intro dead
    by_contra reachable
    -- The variant itself, while no other guard holds, comes through to the arm.
    refine dead (fun j => j = i) (.variant enum variant) (selected?_eq_some_iff.mpr ⟨?_, ?_⟩)
    · refine ⟨arm, found, ?_⟩
      simp [Arm.takes, Pattern.accepts_variant_iff.mpr (Or.inr named)]
    · intro j before front there
      have other : decide (j = i) = false := decide_eq_false (Nat.ne_of_lt before)
      rw [other, Bool.eq_false_iff, ne_eq, Arm.takes_false_iff]
      rintro (catchAll | sure)
      · exact reachable (Or.inr ⟨j, before, front, there, catchAll⟩)
      · exact reachable (Or.inl ⟨j, before, front, there, sure⟩)
  · intro covered guards v selected
    rcases selected?_eq_some_iff.mp selected with ⟨⟨taken, foundTaken, takes⟩, first⟩
    rw [found] at foundTaken
    cases foundTaken
    have accepted : arm.pattern.accepts v = true := by
      simp only [Arm.takes, Bool.and_eq_true] at takes
      exact takes.1
    rw [Pattern.eq_of_accepts named accepted] at first
    -- The arm in front takes the variant however the guards turn out.
    have blocks {j : Nat} {front : Arm} (before : j < i) (there : arms[j]? = some front)
        (takes : front.takes false (.variant enum variant) = true) : False := by
      have passed := first j before front there
      rw [Arm.takes_of_takes_false takes] at passed
      cases passed
    rcases covered with ⟨j, before, front, there, sure⟩ | ⟨j, before, front, there, catchAll⟩
    · exact blocks before there (Arm.takes_false_iff.mpr (Or.inr sure))
    · exact blocks before there (Arm.takes_false_iff.mpr (Or.inl catchAll))

/-! The reports of the passes, arm by arm. -/

/-- One more arm for a variant is reported if it repeats a variant that is handled. -/
theorem unreachableAfter_concat (handled : List String) (arms : List VariantArm)
    (last : VariantArm) :
    unreachableAfter handled (arms ++ [last]) =
      unreachableAfter handled arms ++
        if last.variant ∈ handled ∨
            ∃ arm ∈ arms, arm.guarded = false ∧ arm.variant = last.variant then
          [Diagnostic.error (.unreachableArm last.variant) (some last.span)]
        else [] := by
  induction arms generalizing handled with
  | nil =>
    by_cases known : last.variant ∈ handled <;> simp [unreachableAfter, known]
  | cons arm rest ih =>
    rw [List.cons_append, unreachableAfter, unreachableAfter]
    split
    · rw [ih, List.cons_append]
      grind
    · split
      · rw [ih]
        grind
      · rw [ih]
        grind

/-- One more unguarded arm for a variant is reported if it repeats a variant that was seen. -/
theorem duplicatesAfter_concat (seen : List String) (arms : List VariantArm)
    (last : VariantArm) :
    duplicatesAfter seen (arms ++ [last]) =
      duplicatesAfter seen arms ++
        if last.guarded = false ∧ (last.variant ∈ seen ∨
            ∃ arm ∈ arms, arm.guarded = false ∧ arm.variant = last.variant) then
          [Diagnostic.error (.duplicateArm last.variant) (some last.span)]
        else [] := by
  induction arms generalizing seen with
  | nil =>
    by_cases known : last.variant ∈ seen <;> cases guarded : last.guarded <;>
      simp [duplicatesAfter, known, guarded]
  | cons arm rest ih =>
    rw [List.cons_append, duplicatesAfter, duplicatesAfter]
    split
    · rw [ih]
      grind
    · split
      · rw [ih, List.cons_append]
        grind
      · rw [ih]
        grind

/-- The report on an arm, if it is for a variant of the enum that an unguarded arm among those in
front of it is for. -/
def repeatReport (issue : String → Issue) (enum : String) (front : List Arm) (arm : Arm) :
    List Diagnostic :=
  match arm.pattern.variantOf? enum with
  | none => []
  | some variant =>
    if front.any fun other => other.isSureOf enum variant then
      [Diagnostic.error (issue variant) (some arm.span)]
    else []

theorem variantArms_concat (enum : String) (arms : List Arm) (arm : Arm) :
    variantArms enum (arms ++ [arm]) = variantArms enum arms ++
      ((arm.pattern.variantOf? enum).map fun variant =>
        (⟨variant, arm.isGuarded, arm.span⟩ : VariantArm)).toList := by
  rw [variantArms, List.filterMap_append]
  cases named : arm.pattern.variantOf? enum <;> simp [variantArms, named]

theorem unreachable_concat (enum : String) (arms : List Arm) (arm : Arm) :
    unreachable enum (arms ++ [arm]) =
      unreachable enum arms ++ repeatReport .unreachableArm enum arms arm := by
  unfold unreachable repeatReport
  rw [variantArms_concat]
  cases arm.pattern.variantOf? enum with
  | none => simp
  | some variant =>
    simp only [Option.map_some, Option.toList_some, unreachableAfter_concat, List.not_mem_nil,
      false_or, exists_variantArm_iff, List.any_eq_true]

theorem duplicates_concat (enum : String) (arms : List Arm) (arm : Arm) :
    duplicates enum (arms ++ [arm]) =
      duplicates enum arms ++
        if arm.isGuarded then [] else repeatReport .duplicateArm enum arms arm := by
  unfold duplicates repeatReport
  rw [variantArms_concat]
  cases arm.pattern.variantOf? enum with
  | none => simp
  | some variant =>
    simp only [Option.map_some, Option.toList_some, duplicatesAfter_concat, List.not_mem_nil,
      false_or, exists_variantArm_iff, List.any_eq_true]
    cases arm.isGuarded <;> simp

section Positions

variable (issue : String → Issue) (enum : String) (arms : List Arm) (arm : Arm)

/-! What stands in front of an arm, and so whether it is overtaken, does not change when another
arm is added at the end. -/

theorem isOvertaken_concat_of_lt {i : Nat} (inside : i < arms.length) :
    isOvertaken enum (arms ++ [arm]) i = isOvertaken enum arms i := by
  rw [isOvertaken, variantAt?, List.getElem?_append_left inside,
    List.take_append_of_le_length (Nat.le_of_lt inside), isOvertaken, variantAt?]

theorem reportAt_concat_of_lt {i : Nat} (inside : i < arms.length) :
    reportAt issue enum (arms ++ [arm]) i = reportAt issue enum arms i := by
  rw [reportAt, List.getElem?_append_left inside, reportAt]

theorem isOvertaken_concat_length :
    isOvertaken enum (arms ++ [arm]) arms.length =
      (arm.pattern.variantOf? enum).any fun variant =>
        arms.any fun front => front.isSureOf enum variant := by
  rw [isOvertaken, variantAt?, List.getElem?_concat_length, List.take_left, Option.bind_some]

theorem reportAt_concat_length :
    reportAt issue enum (arms ++ [arm]) arms.length =
      (arm.pattern.variantOf? enum).map fun variant =>
        Diagnostic.error (issue variant) (some arm.span) := by
  rw [reportAt, List.getElem?_concat_length, Option.bind_some]

/-- A pass that reports arm by arm on repeated variants reports on the overtaken arms. -/
theorem reports_eq_overtaken (wanted : Arm → Bool) (reports : List Arm → List Diagnostic)
    (start : reports [] = [])
    (step : ∀ arms arm, reports (arms ++ [arm]) =
      reports arms ++ if wanted arm then repeatReport issue enum arms arm else []) :
    reports arms = ((overtaken enum arms).filter fun i => arms[i]?.any wanted).filterMap
      (reportAt issue enum arms) := by
  induction arms using List.reverseRecOn with
  | nil => exact start
  | append_singleton arms arm ih =>
    simp only [overtaken, List.filter_filter, List.filterMap_filter] at ih ⊢
    rw [step, ih, List.length_append, List.length_singleton, List.range_succ, List.filterMap_append]
    congr 1
    · refine List.filterMap_congr fun i member => ?_
      have inside := List.mem_range.mp member
      rw [List.getElem?_append_left inside, isOvertaken_concat_of_lt enum arms arm inside,
        reportAt_concat_of_lt issue enum arms arm inside]
    · rw [List.filterMap_cons, List.filterMap_nil, List.getElem?_concat_length,
        isOvertaken_concat_length, reportAt_concat_length, repeatReport, Option.any_some]
      cases arm.pattern.variantOf? enum with
      | none => cases wanted arm <;> rfl
      | some variant =>
        dsimp only
        rw [Option.any_some]
        cases wanted arm <;> cases (arms.any fun front => front.isSureOf enum variant) <;> rfl

end Positions

theorem unreachable_eq_overtaken (enum : String) (arms : List Arm) :
    unreachable enum arms =
      (overtaken enum arms).filterMap (reportAt .unreachableArm enum arms) := by
  have listed := reports_eq_overtaken .unreachableArm enum arms (fun _ => true) (unreachable enum)
    rfl (unreachable_concat enum)
  rw [listed, List.filter_eq_self.mpr]
  intro i member
  have inside := List.mem_range.mp (List.mem_of_mem_filter member)
  rw [List.getElem?_eq_getElem inside, Option.any_some]

theorem duplicates_eq_overtaken (enum : String) (arms : List Arm) :
    duplicates enum arms =
      ((overtaken enum arms).filter (isUnguardedAt arms)).filterMap
        (reportAt .duplicateArm enum arms) := by
  refine reports_eq_overtaken .duplicateArm enum arms (fun arm => !arm.isGuarded)
    (duplicates enum) rfl fun arms arm => ?_
  rw [duplicates_concat]
  cases arm.isGuarded <;> rfl

/-! The first catch-all. -/

theorem misplacedWildcard_of_none {arms : List Arm}
    (absent : arms.findIdx? Arm.isCatchAll = none) : misplacedWildcard arms = [] := by
  induction arms with
  | nil => rfl
  | cons arm rest ih =>
    rw [List.findIdx?_cons] at absent
    unfold misplacedWildcard
    split at absent
    · cases absent
    · rename_i passes
      rw [if_neg passes]
      exact ih (Option.map_eq_none_iff.mp absent)

/-- The first catch-all is reported if it is not the last arm. -/
theorem misplacedWildcard_of_some {arms : List Arm} {arm : Arm} {w : Nat}
    (first : arms.findIdx? Arm.isCatchAll = some w) (there : arms[w]? = some arm) :
    misplacedWildcard arms =
      if w + 1 < arms.length then [Diagnostic.error .armsAfterWildcard (some arm.span)]
      else [] := by
  induction arms generalizing w with
  | nil => cases there
  | cons front rest ih =>
    rw [List.findIdx?_cons] at first
    unfold misplacedWildcard
    split at first
    · rename_i takes
      cases first
      cases there
      rw [if_pos takes]
      cases rest <;> simp
    · rename_i passes
      rcases Option.map_eq_some_iff.mp first with ⟨w, found, rfl⟩
      rw [if_neg passes, ih found there]
      simp

theorem exists_catchAll_iff {arms : List Arm} {i : Nat} :
    (∃ w < i, ∃ front, arms[w]? = some front ∧ front.isCatchAll = true) ↔
      ∃ w < i, arms.findIdx? Arm.isCatchAll = some w := by
  constructor
  · rintro ⟨j, before, front, there, catchAll⟩
    cases found : arms.findIdx? Arm.isCatchAll with
    | none =>
      have passed := List.findIdx?_eq_none_iff.mp found front (List.mem_of_getElem? there)
      rw [catchAll] at passed
      cases passed
    | some w =>
      refine ⟨w, ?_, rfl⟩
      rcases List.findIdx?_eq_some_iff_getElem.mp found with ⟨_, _, earlier⟩
      rcases List.getElem?_eq_some_iff.mp there with ⟨_, rfl⟩
      -- The first catch-all does not stand behind this one.
      exact Nat.lt_of_le_of_lt (Nat.le_of_not_lt fun behind => earlier j behind catchAll) before
  · rintro ⟨w, before, found⟩
    rcases List.findIdx?_eq_some_iff_getElem.mp found with ⟨inside, catchAll, _⟩
    exact ⟨w, before, _, List.getElem?_eq_getElem inside, catchAll⟩

/-- The dead arms are the reported ones.  Exactly the overtaken arms are reported as unreachable,
and those of them that have no guard as duplicates.  The arm for a variant is dead exactly if it is
overtaken or stands behind the first catch-all; if an arm stands there, the first catch-all is
reported once, and otherwise there is no such report. -/
theorem dead_arms_reported (enum : String) (arms : List Arm) :
    unreachable enum arms =
        (overtaken enum arms).filterMap (reportAt .unreachableArm enum arms) ∧
      duplicates enum arms =
        ((overtaken enum arms).filter (isUnguardedAt arms)).filterMap
          (reportAt .duplicateArm enum arms) ∧
      (∀ i variant, variantAt? enum arms i = some variant →
        (Dead arms i ↔ i ∈ overtaken enum arms ∨
          ∃ w < i, arms.findIdx? Arm.isCatchAll = some w)) ∧
      (∀ w arm, arms.findIdx? Arm.isCatchAll = some w → arms[w]? = some arm →
        misplacedWildcard arms =
          if w + 1 < arms.length then [Diagnostic.error .armsAfterWildcard (some arm.span)]
          else []) ∧
      (arms.findIdx? Arm.isCatchAll = none → misplacedWildcard arms = []) := by
  refine ⟨unreachable_eq_overtaken enum arms, duplicates_eq_overtaken enum arms, ?_,
    fun w arm => misplacedWildcard_of_some, misplacedWildcard_of_none⟩
  intro i variant named
  rcases Option.bind_eq_some_iff.mp named with ⟨arm, found, shape⟩
  have inside := (List.getElem?_eq_some_iff.mp found).1
  rw [dead_iff found shape, exists_catchAll_iff, overtaken, List.mem_filter, List.mem_range]
  simp [inside]

/-- A variant that is matched four times, and arms behind a catch-all. -/
theorem dead_arms_reported_repeats :
    let s := Span.null
    let arm (variant : String) (guard : Option Expr) : Arm :=
      ⟨.variant "Color" variant none none s, guard, .int 0 s, s⟩
    let asked : Option Expr := some (.bool true s)
    let arms : List Arm := [arm "Red" asked, arm "Red" none, arm "Red" asked, arm "Red" none,
      ⟨.wildcard s, none, .int 1 s, s⟩, arm "Blue" none]
    unreachable "Color" arms = [Diagnostic.error (.unreachableArm "Red") (some s),
        Diagnostic.error (.unreachableArm "Red") (some s)] ∧
      duplicates "Color" arms = [Diagnostic.error (.duplicateArm "Red") (some s)] ∧
      misplacedWildcard arms = [Diagnostic.error .armsAfterWildcard (some s)] ∧
      ¬ Dead arms 0 ∧ ¬ Dead arms 1 ∧ Dead arms 2 ∧ Dead arms 3 ∧ Dead arms 5 := by
  intro s arm asked arms
  rcases dead_arms_reported "Color" arms with ⟨unreachable, duplicates, dead, misplaced, _⟩
  have first : arms.findIdx? Arm.isCatchAll = some 4 := by decide +kernel
  have verdict {i : Nat} {variant : String} (named : variantAt? "Color" arms i = some variant) :
      Dead arms i ↔ i ∈ overtaken "Color" arms ∨ 4 < i := by
    rw [dead i variant named, first]
    simp
  refine ⟨?_, ?_, (misplaced 4 _ first rfl).trans rfl, ?_, ?_, ?_, ?_, ?_⟩
  · rw [unreachable]
    decide +kernel
  · rw [duplicates]
    decide +kernel
  · exact (verdict (i := 0) rfl).not.mpr (by decide +kernel)
  · exact (verdict (i := 1) rfl).not.mpr (by decide +kernel)
  · exact (verdict (i := 2) rfl).mpr (by decide +kernel)
  · exact (verdict (i := 3) rfl).mpr (by decide +kernel)
  · exact (verdict (i := 5) rfl).mpr (by decide +kernel)

end Arms

end ModuleCheck

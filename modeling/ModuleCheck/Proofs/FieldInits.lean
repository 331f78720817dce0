import Mathlib.Data.List.Perm.Basic
import ModuleCheck.Proofs.Registered
import ModuleCheck.Proofs.Surroundings

namespace ModuleCheck

/-!
The initializers of struct literals and updates.

Literals and updates visit their initializers by the same loop.  What the loop reports comes from
three sources: the name of an initializer, the visit of its value, and the type of the value.  The
reports on names count the initializers that the struct does not have and those that repeat a name.
A literal adds the fields that no initializer names, and so its names raise no report exactly if
they are the fields of the struct in some order.  An update visits its target first; since the
visit of an expression leaves nothing behind but marks, the loop then reports the same.
-/

open Check

/-! Visits behind the visit of an expression. -/

namespace Scope

namespace SameButMarks

variable {scope scope' : Scope} {scopes scopes' : List Scope}

/-- What gains marks and nothing else keeps its entries. -/
theorem of_grows (grows : Grows [] scope scope') : SameButMarks scope scope' := by
  intro name
  cases found : scope.get? name with
  | none => rw [grows.missing List.not_mem_nil found]
  | some binding =>
    rcases grows.kept name binding List.not_mem_nil found with ⟨later, foundLater, marks⟩
    rw [foundLater]
    rcases marks with rfl | rfl <;> rfl

theorem findSome? (same : List.Forall₂ SameButMarks scopes scopes') (name : String) :
    (scopes'.findSome? fun scope => scope.get? name).map Binding.unmarked =
      (scopes.findSome? fun scope => scope.get? name).map Binding.unmarked := by
  induction same with
  | nil => rfl
  | @cons scope scope' _ _ first _ ih =>
    have here := first name
    rw [List.findSome?_cons, List.findSome?_cons]
    cases found : scope.get? name <;> cases found' : scope'.get? name <;>
      simp only [found, found', Option.map_none, Option.map_some, reduceCtorEq] at here ⊢
    · exact ih
    · exact here

theorem modifyFirst (same : List.Forall₂ SameButMarks scopes scopes') (name : String) :
    List.Forall₂ SameButMarks (Environment.modifyFirst name Binding.markUsed scopes)
      (Environment.modifyFirst name Binding.markUsed scopes') := by
  induction same with
  | nil => exact .nil
  | cons first rest ih =>
    simp only [Environment.modifyFirst, Around.contains_eq first]
    split
    · exact .cons (Alike.modify first name fun _ => rfl) rest
    · exact .cons first ih

end SameButMarks

/-- The second surroundings are the first ones but for marks. -/
def MarkedSince (scopes scopes' : List Scope) : Prop :=
  scopes ≠ [] ∧ List.Forall₂ SameButMarks scopes scopes'

instance : Surrounding MarkedSince where
  open_left := fun related => related.1
  open_right := by
    rintro _ _ ⟨nonempty, same⟩ rfl
    cases same
    exact nonempty rfl
  findSome? := fun related => SameButMarks.findSome? related.2
  use := fun related name =>
    ⟨modifyFirst_ne_nil related.1 name _, SameButMarks.modifyFirst related.2 name⟩

end Scope

theorem FramesGrow.framesInside {frames frames' : List Frame} (grows : FramesGrow frames frames') :
    ∃ past past', FramesInside past past' 0 frames frames' := by
  cases grows with
  | outside => exact ⟨[], [], .outside⟩
  | inside expected returns more rest =>
    have around := @FramesInside.around returns (returns ++ more) expected [] rest
    rw [List.append_nil, List.append_nil] at around
    exact ⟨_, _, around⟩

/-- A visit that declares nothing leaves surroundings that are the same but for marks. -/
theorem Checker.Extends.inside {c c' : Checker} (extended : c.Extends [] c') :
    ∃ past past', Inside Scope.MarkedSince ⟨c.diagnostics, c'.diagnostics, past, past'⟩ ⟨0, 0⟩
      c c' := by
  rcases extended.frames.framesInside with ⟨past, past', frames⟩
  exact ⟨past, past', {
    options := extended.options
    registry := extended.registry
    environment := .around ⟨List.cons_ne_nil _ _, .cons (.of_grows extended.environment.current)
      (extended.environment.outer.imp fun _ _ grows => .of_grows grows)⟩
    frames := frames
    fault := extended.fault
    reports := ⟨[], (List.append_nil _).symm, (List.append_nil _).symm⟩ }⟩

namespace Check

/-- A loop over initializers reports the same whatever expression was visited before. -/
theorem reported_visitFields_behind (struct : String) (declared : Fields) (given : List String)
    (inits : List FieldInit) (e : Expr) (c : Checker) :
    reported (visitFields struct declared given inits) (after (visitExpr e) c) =
      reported (visitFields struct declared given inits) c := by
  rcases (visitExpr_keeps e c).inside with ⟨past, past', inside⟩
  have visited := visitFields_local struct declared given inits _ _ _ inside
  rcases visited.2.reports with ⟨ds, grown, grown'⟩
  rw [reported_eq grown, reported_eq grown']

end Check

/-! The reports on initializers. -/

/-- The reports on one initializer, in their order: those on its name, those of the visit of its
value, and those on the type of the value. -/
structure InitReports where
  name : List Diagnostic
  value : List Diagnostic
  type : List Diagnostic

namespace InitReports

def all (r : InitReports) : List Diagnostic := r.name ++ r.value ++ r.type

/-- The reports apart from those of the visit of the value. -/
def own (r : InitReports) : List Diagnostic := r.name ++ r.type

end InitReports

namespace Check

/-- The reports on the initializers of a struct, from a given state on.  Those in `front` were
visited before. -/
def initReports (struct : String) (declared : Fields) (front : List FieldInit) :
    List FieldInit → Checker → List InitReports
  | [], _ => []
  | init :: rest, c =>
    let named := Rules.fieldName struct declared (front.map FieldInit.name) init.name init.span
    let start := after (settle named) c
    let typed := Rules.fieldValue struct declared init.name
      ⟨(result (visitExpr init.value) start).ty, init.value.span⟩
    ⟨named.diagnostics, reported (visitExpr init.value) start, typed.diagnostics⟩ ::
      initReports struct declared (front ++ [init]) rest
        (after (settle typed) (after (visitExpr init.value) start))

theorem fieldName_congr {given given' : List String} (struct : String) (declared : Fields)
    (field : String) (span : Span) (same : given.contains field = given'.contains field) :
    Rules.fieldName struct declared given field span =
      Rules.fieldName struct declared given' field span := by
  unfold Rules.fieldName
  rw [same]

/-- The loop reports on one initializer after the other. -/
theorem diagnostics_visitFields_given (struct : String) (declared : Fields) {given : List String}
    (front inits : List FieldInit)
    (same : ∀ name, given.contains name = (front.map FieldInit.name).contains name) (c : Checker) :
    (after (visitFields struct declared given inits) c).diagnostics =
      c.diagnostics ++ (initReports struct declared front inits c).flatMap InitReports.all := by
  induction inits generalizing given front c with
  | nil => exact (List.append_nil _).symm
  | cons init rest ih =>
    rcases init with ⟨field, value, span⟩
    have next : ∀ name, (field :: given).contains name =
        ((front ++ [FieldInit.mk field value span]).map FieldInit.name).contains name := by
      intro name
      rw [List.contains_cons, same, Bool.eq_iff_iff]
      simp [or_comm]
    have visited := fun c => diagnostics_after (visitExpr_keeps value c).diagnostics
    have settled : ∀ (r : Reported Unit) c,
        (after (settle r) c).diagnostics = c.diagnostics ++ r.diagnostics := fun _ _ => rfl
    rw [visitFields, fieldName_congr struct declared field span (same field)]
    simp only [after_bind, ih _ next, initReports, List.flatMap_cons, InitReports.all, settled,
      visited, List.append_assoc]

theorem diagnostics_visitFields (struct : String) (declared : Fields) (inits : List FieldInit)
    (c : Checker) :
    (after (visitFields struct declared [] inits) c).diagnostics =
      c.diagnostics ++ (initReports struct declared [] inits c).flatMap InitReports.all :=
  diagnostics_visitFields_given struct declared [] inits (fun _ => rfl) c

/-! The reports of one kind. -/

open Diagnostic (ofKind)

/-- The reports on the name of an initializer behind others. -/
def nameReports (struct : String) (declared : Fields) (placed : List FieldInit × FieldInit) :
    List Diagnostic :=
  (Rules.fieldName struct declared (placed.1.map FieldInit.name) placed.2.name
    placed.2.span).diagnostics

theorem ofKind_test {kind : String} {issue : Issue} (other : issue.kind ≠ kind) (condition : Bool)
    (span : Option Span) :
    ofKind kind (Reported.test condition issue span).diagnostics = [] := by
  cases condition <;> simp [Reported.test, ofKind, Diagnostic.error, other]

theorem ofKind_fieldValue {kind : String} (value : "ExpectedValue" ≠ kind)
    (mismatch : "FieldTypeMatchError" ≠ kind) (struct : String) (declared : Fields)
    (field : String) (operand : Operand) :
    ofKind kind (Rules.fieldValue struct declared field operand).diagnostics = [] := by
  unfold Rules.fieldValue
  rw [Reported.diagnostics_bind, Diagnostic.ofKind_append, List.append_eq_nil_iff]
  constructor
  · rw [Rules.requireValue, Reported.diagnostics_bind, Diagnostic.ofKind_append]
    refine List.append_eq_nil_iff.mpr ⟨ofKind_test ?_ _ _, rfl⟩
    exact value
  · cases declared.get? field with
    | none => rfl
    | some ty =>
      dsimp only
      rw [Rules.requireCompatible, Reported.diagnostics_bind, Diagnostic.ofKind_append]
      refine List.append_eq_nil_iff.mpr ⟨ofKind_test ?_ _ _, rfl⟩
      exact mismatch

/-- A kind of report that is not on a type is on a name. -/
theorem ofKind_own {kind : String} (value : "ExpectedValue" ≠ kind)
    (mismatch : "FieldTypeMatchError" ≠ kind) (struct : String) (declared : Fields)
    (front inits : List FieldInit) (c : Checker) :
    ofKind kind ((initReports struct declared front inits c).flatMap InitReports.own) =
      (placedBehind front inits).flatMap fun placed =>
        ofKind kind (nameReports struct declared placed) := by
  induction inits generalizing front c with
  | nil => rfl
  | cons init rest ih =>
    rw [initReports, List.flatMap_cons, Diagnostic.ofKind_append, ih, InitReports.own,
      Diagnostic.ofKind_append, ofKind_fieldValue value mismatch, List.append_nil, placedBehind,
      List.flatMap_cons]
    rfl

theorem unknownFields_nameReports (struct : String) (declared : Fields)
    (placed : List FieldInit × FieldInit) :
    ofKind "UnknownField" (nameReports struct declared placed) =
      if !declared.contains placed.2.name then
        [Diagnostic.error (.unknownField struct placed.2.name) (some placed.2.span)]
      else [] := by
  unfold nameReports Rules.fieldName Reported.require
  cases declared.contains placed.2.name <;>
    cases (placed.1.map FieldInit.name).contains placed.2.name <;> rfl

theorem duplicates_nameReports (struct : String) (declared : Fields)
    (placed : List FieldInit × FieldInit) :
    ofKind "DuplicateFieldInit" (nameReports struct declared placed) =
      if isRepeat FieldInit.name placed then
        [Diagnostic.error (.duplicateFieldInit struct placed.2.name) (some placed.2.span)]
      else [] := by
  unfold nameReports Rules.fieldName Reported.require isRepeat
  cases declared.contains placed.2.name <;>
    cases (placed.1.map FieldInit.name).contains placed.2.name <;> rfl

theorem missing_nameReports (struct : String) (declared : Fields)
    (placed : List FieldInit × FieldInit) :
    ofKind "MissingField" (nameReports struct declared placed) = [] := by
  unfold nameReports Rules.fieldName Reported.require
  cases declared.contains placed.2.name <;>
    cases (placed.1.map FieldInit.name).contains placed.2.name <;> rfl

/-! Literals and updates. -/

section Literal

variable (struct : String) (declared : Fields) (inits : List FieldInit)

/-- The reports of a literal on the fields that no initializer names, in the order of their
declaration. -/
def missingReports (span : Span) : List Diagnostic :=
  (declared.keys.filter fun field => field ∉ inits.map FieldInit.name).map fun field =>
    Diagnostic.error (.missingField struct field) (some span)

/-- The reports of a literal apart from those in the values of its initializers. -/
def ownReports (span : Span) (c : Checker) : List Diagnostic :=
  (initReports struct declared [] inits c).flatMap InitReports.own ++
    missingReports struct declared inits span

theorem ofKind_missingReports {kind : String} (other : "MissingField" ≠ kind) (span : Span) :
    ofKind kind (missingReports struct declared inits span) = [] := by
  rw [Diagnostic.ofKind_eq_nil_iff]
  intro d member
  rcases List.mem_map.mp member with ⟨field, _, rfl⟩
  exact other

/-- There is one report for each initializer that is not a field. -/
theorem unknownFields_ownReports (span : Span) (c : Checker) :
    ofKind "UnknownField" (ownReports struct declared inits span c) =
      (inits.filter fun init => init.name ∉ declared.keys).map fun init =>
        Diagnostic.error (.unknownField struct init.name) (some init.span) := by
  have known : (fun init : FieldInit => decide (init.name ∉ declared.keys)) =
      fun init => !declared.contains init.name := by
    funext init
    simp [← Table.contains_iff]
  rw [ownReports, Diagnostic.ofKind_append, ofKind_own (by decide) (by decide),
    ofKind_missingReports _ _ _ (by decide), List.append_nil, known]
  simp only [unknownFields_nameReports]
  exact flatMap_ite_snd (fun init => !declared.contains init.name)
    (fun init => Diagnostic.error (.unknownField struct init.name) (some init.span)) inits

/-- There is one report for each initializer that repeats a name. -/
theorem duplicates_ownReports (span : Span) (c : Checker) :
    ofKind "DuplicateFieldInit" (ownReports struct declared inits span c) =
      (repeats FieldInit.name inits).map fun init =>
        Diagnostic.error (.duplicateFieldInit struct init.name) (some init.span) := by
  rw [ownReports, Diagnostic.ofKind_append, ofKind_own (by decide) (by decide),
    ofKind_missingReports _ _ _ (by decide), List.append_nil]
  simp only [duplicates_nameReports]
  exact flatMap_ite_isRepeat FieldInit.name
    (fun init => Diagnostic.error (.duplicateFieldInit struct init.name) (some init.span)) inits

/-- There is one report for each field that is missing. -/
theorem missing_ownReports (span : Span) (c : Checker) :
    ofKind "MissingField" (ownReports struct declared inits span c) =
      missingReports struct declared inits span := by
  rw [ownReports, Diagnostic.ofKind_append, ofKind_own (by decide) (by decide)]
  simp only [missing_nameReports]
  rw [List.flatMap_eq_nil_iff.mpr fun _ _ => rfl, List.nil_append]
  refine List.filter_eq_self.mpr fun d member => ?_
  rcases List.mem_map.mp member with ⟨field, _, rfl⟩
  rfl

/-- Names are the fields of a struct in some order exactly if they are distinct, each of them is a
field, and none is missing. -/
theorem perm_keys_iff (names : List String) :
    names.Perm declared.keys ↔
      names.Nodup ∧ (∀ name ∈ names, name ∈ declared.keys) ∧
        ∀ name ∈ declared.keys, name ∈ names := by
  constructor
  · intro perm
    exact ⟨perm.nodup_iff.mpr declared.keys_nodup, fun _ => perm.mem_iff.mp,
      fun _ => perm.mem_iff.mpr⟩
  · rintro ⟨distinct, known, complete⟩
    exact (List.perm_ext_iff_of_nodup distinct declared.keys_nodup).mpr fun name =>
      ⟨known name, complete name⟩

/-- The names raise no report exactly if they are the fields in some order. -/
theorem clean_ownReports_iff (span : Span) (c : Checker) :
    (∀ d ∈ ownReports struct declared inits span c,
        d.issue.kind ∉ ["UnknownField", "DuplicateFieldInit", "MissingField"]) ↔
      (inits.map FieldInit.name).Perm declared.keys := by
  have unknown := unknownFields_ownReports struct declared inits span c
  have duplicate := duplicates_ownReports struct declared inits span c
  have missing := missing_ownReports struct declared inits span c
  have silent : (∀ d ∈ ownReports struct declared inits span c,
        d.issue.kind ∉ ["UnknownField", "DuplicateFieldInit", "MissingField"]) ↔
      ofKind "DuplicateFieldInit" (ownReports struct declared inits span c) = [] ∧
      ofKind "UnknownField" (ownReports struct declared inits span c) = [] ∧
      ofKind "MissingField" (ownReports struct declared inits span c) = [] := by
    simp only [Diagnostic.ofKind_eq_nil_iff, List.mem_cons, List.not_mem_nil, or_false, not_or]
    grind
  rw [silent, unknown, duplicate, missing, perm_keys_iff, List.map_eq_nil_iff, repeats_eq_nil_iff,
    missingReports, List.map_eq_nil_iff, List.map_eq_nil_iff, List.filter_eq_nil_iff,
    List.filter_eq_nil_iff]
  simp

/-- A literal reports on its initializers one by one and then on the missing fields. -/
theorem reported_construct {c : Checker} (stored : c.registry.structs.get? struct = some declared)
    (span : Span) :
    reported (visitExpr (.construct struct inits span)) c =
      (initReports struct declared [] inits c).flatMap InitReports.all ++
        missingReports struct declared inits span := by
  have visited := diagnostics_visitFields struct declared inits c
  have missing : (Rules.missingFields struct declared (inits.map FieldInit.name) span).diagnostics =
      missingReports struct declared inits span := by
    simp only [Rules.missingFields, missingReports, List.contains_eq_mem, decide_not]
  apply reported_eq
  rw [visitExpr]
  simp only [after_bind, result_registry, after_registry, stored]
  rw [after_pure, after_settle, visited, missing, List.append_assoc]

/-- An update reports on its initializers alike, behind the reports in its target. -/
theorem reported_update {c : Checker} (stored : c.registry.structs.get? struct = some declared)
    {target : Expr} (typed : (result (visitExpr target) c).ty = .struct struct) (span : Span) :
    reported (visitExpr (.update target inits span)) c =
      reported (visitExpr target) c ++
        (initReports struct declared [] inits c).flatMap InitReports.all := by
  have kept := visitExpr_keeps target c
  have visited :
      (after (visitFields struct declared [] inits) (after (visitExpr target) c)).diagnostics =
        c.diagnostics ++ reported (visitExpr target) c ++
          (initReports struct declared [] inits c).flatMap InitReports.all := by
    rw [diagnostics_after (visitFields_keeps struct declared [] inits _).diagnostics,
      reported_visitFields_behind, diagnostics_after kept.diagnostics,
      reported_eq (diagnostics_visitFields struct declared inits c)]
  apply reported_eq
  rw [visitExpr]
  simp only [after_bind, result_registry, after_registry, typed, kept.registry, stored]
  rw [after_pure, visited, List.append_assoc]

end Literal

/-- Struct literals are complete exactly if they are clean.  A literal reports on its initializers
one by one and then on missing fields.  Apart from the reports in the values, it is silent on names
exactly if they are the fields of the struct in some order: in general there is one report for each
initializer that is not a field, one for each that repeats a name, and one for each field that is
missing, in the order of the declaration and behind all others.  An update of a value of the struct
reports the same on the same initializers, behind the reports in its target, and nothing on missing
fields. -/
theorem literals_complete_iff_clean (c : Checker) (struct : String) (declared : Fields)
    (inits : List FieldInit) (span : Span)
    (stored : c.registry.structs.get? struct = some declared) :
    let own := ownReports struct declared inits span c
    reported (visitExpr (.construct struct inits span)) c =
      (initReports struct declared [] inits c).flatMap InitReports.all ++
        missingReports struct declared inits span ∧
    ((∀ d ∈ own, d.issue.kind ∉ ["UnknownField", "DuplicateFieldInit", "MissingField"]) ↔
      (inits.map FieldInit.name).Perm declared.keys) ∧
    ofKind "UnknownField" own = (inits.filter fun init => init.name ∉ declared.keys).map
      (fun init => Diagnostic.error (.unknownField struct init.name) (some init.span)) ∧
    ofKind "DuplicateFieldInit" own = (repeats FieldInit.name inits).map
      (fun init => Diagnostic.error (.duplicateFieldInit struct init.name) (some init.span)) ∧
    ofKind "MissingField" own = missingReports struct declared inits span ∧
    ∀ (target : Expr) (span' : Span), (result (visitExpr target) c).ty = .struct struct →
      reported (visitExpr (.update target inits span')) c =
        reported (visitExpr target) c ++
          (initReports struct declared [] inits c).flatMap InitReports.all :=
  ⟨reported_construct struct declared inits stored span,
    clean_ownReports_iff struct declared inits span c,
    unknownFields_ownReports struct declared inits span c,
    duplicates_ownReports struct declared inits span c,
    missing_ownReports struct declared inits span c,
    fun _ span' typed => reported_update struct declared inits stored typed span'⟩

/-- A literal with its fields in another order, and an update of it with a field that the struct
does not have. -/
theorem literals_complete_iff_clean_point :
    let s := Span.null
    let fields : Fields := (Table.empty.insert "x" .int).insert "y" .int
    let c : Checker := { Checker.fresh {} with
      registry := ⟨Table.empty.insert "Point" fields, Table.empty⟩ }
    let swapped : List FieldInit := [⟨"y", .int 1 s, s⟩, ⟨"x", .int 2 s, s⟩]
    let unknown : List FieldInit := [⟨"z", .int 3 s, s⟩]
    let point : Expr := .construct "Point" swapped s
    c.registry.structs.get? "Point" = some fields ∧
      (result (visitExpr point) c).ty = .struct "Point" ∧
      (∀ d ∈ ownReports "Point" fields swapped s c,
        d.issue.kind ∉ ["UnknownField", "DuplicateFieldInit", "MissingField"]) ∧
      reported (visitExpr (.update point unknown s)) c =
        reported (visitExpr point) c ++
          (initReports "Point" fields [] unknown c).flatMap InitReports.all := by
  intro s fields c swapped unknown point
  have stored : c.registry.structs.get? "Point" = some fields := by
    rw [Table.get?_insert, if_pos rfl]
  have typed : (result (visitExpr point) c).ty = .struct "Point" := by decide +kernel
  have perm : (swapped.map FieldInit.name).Perm fields.keys := by decide +kernel
  have literal := literals_complete_iff_clean c "Point" fields swapped s stored
  have update := literals_complete_iff_clean c "Point" fields unknown s stored
  exact ⟨stored, typed, literal.2.1.mpr perm, update.2.2.2.2.2 point s typed⟩

end Check

end ModuleCheck

import ModuleCheck.Proofs.NameReports

namespace ModuleCheck

/-!
What a visit gains from the visits of its parts.

Some of what happens along a run adds up: the occurrences that are looked up, the declarations
whose scopes are closed, the places of a tree that are remarked on.  A visit that neither
declares a name nor opens a scope of its own gains what the visits of its parts gain, in their
order, whatever rules report in between.  There is one lemma for each form of syntax, since what
there is to gain is listed by recursion over the syntax and not told by the steps of the visit.
-/

namespace Checker

/-- Between the two states only rules have reported and only returns were recorded. -/
structure Idle (c c' : Checker) : Prop where
  environment : c'.environment = c.environment
  options : c'.options = c.options
  registry : c'.registry = c.registry
  depth : c'.frames.length = c.frames.length
  reports : ∃ ds, Diagnostic.Among [.rule] ds ∧ c'.diagnostics = c.diagnostics ++ ds

namespace Idle

variable {c c' c'' : Checker}

theorem refl (c : Checker) : c.Idle c where
  environment := rfl
  options := rfl
  registry := rfl
  depth := rfl
  reports := ⟨[], Diagnostic.among_nil, (List.append_nil _).symm⟩

theorem trans (one : c.Idle c') (two : c'.Idle c'') : c.Idle c'' := by
  rcases one.reports with ⟨ds, ruled, reported⟩
  rcases two.reports with ⟨ds', ruled', reported'⟩
  exact {
    environment := two.environment.trans one.environment
    options := two.options.trans one.options
    registry := two.registry.trans one.registry
    depth := two.depth.trans one.depth
    reports := ⟨ds ++ ds', Diagnostic.among_append.mpr ⟨ruled, ruled'⟩, by
      rw [reported', reported, List.append_assoc]⟩ }

/-- No rule reports on names. -/
theorem quiet (idle : c.Idle c') : c.Quiet c' where
  environment := idle.environment
  options := idle.options
  reports := by
    rcases idle.reports with ⟨ds, ruled, reported⟩
    exact ⟨ds, ruled.plain (by decide) (by decide), reported⟩

end Idle

/-- What the relation tells of two states adds up along a run, and idle steps add nothing. -/
class Cumulative {ι : Type} (Relates : Checker → List ι → Checker → Prop) : Prop where
  trans : ∀ {c c' c'' : Checker} {xs ys : List ι},
    Relates c xs c' → Relates c' ys c'' → Relates c (xs ++ ys) c''
  idle : ∀ {c c' : Checker}, c.Idle c' → Relates c [] c'

/-- What the relation tells is about names, so that whatever is quiet about them adds nothing. -/
class CumulativeOnNames {ι : Type} (Relates : Checker → List ι → Checker → Prop) : Prop
    extends Cumulative Relates where
  quiet : ∀ {c c' : Checker}, c.Quiet c' → Relates c [] c'

end Checker

namespace Check

variable {α β : Type}

/-- Every run of the step is idle. -/
def Idle (step : Check α) : Prop := ∀ c : Checker, c.Idle (after step c)

namespace Idle

theorem pure (value : α) : Idle (Pure.pure value : Check α) := fun c => .refl c

theorem bind {step : Check α} {next : α → Check β} (first : Idle step)
    (rest : ∀ value, Idle (next value)) : Idle (step >>= next) :=
  fun c => (first c).trans (rest _ _)

theorem emit {ds : List Diagnostic} (ruled : Diagnostic.Among [.rule] ds) : Idle (emit ds) :=
  fun _ => ⟨rfl, rfl, rfl, rfl, ds, ruled, rfl⟩

theorem settle {rule : Reported α} (ruled : rule.Among [.rule]) : Idle (settle rule) :=
  (emit ruled).bind fun _ => .pure _

theorem error {issue : Issue} (ruled : issue.origin = .rule) (span : Option Span) :
    Idle (error issue span) :=
  emit (by simp [ruled])

theorem registry : Idle registry := fun c => .refl c

theorem frame? : Idle frame? := fun c => .refl c

theorem matchedEnum? (m : Match) (ty : Ty) : Idle (matchedEnum? m ty) := by
  intro c
  rw [after_matchedEnum?]
  exact .refl c

theorem settleGuard (operand : Option Operand) : Idle (settleGuard operand) := by
  cases operand with
  | none => exact .pure _
  | some operand => exact .settle (Rules.among_guard operand)

theorem settleArmValue (valued : Bool) (body : ExprOutcome) (span : Span) :
    Idle (settleArmValue valued body span) := by
  cases valued with
  | false => exact .pure _
  | true => exact .settle (Rules.among_armValue body span)

theorem modifyReturns (f : List Ty → List Ty) : Idle (modifyReturns f) := by
  intro c
  rw [after_modifyReturns]
  refine { Checker.Idle.refl c with depth := ?_ }
  cases c.frames <;> rfl

end Idle

open Checker (Cumulative CumulativeOnNames)

variable {ι : Type} {Relates : Checker → List ι → Checker → Prop}

/-- Every run of the step gains exactly what is given. -/
def Gains (Relates : Checker → List ι → Checker → Prop) (xs : List ι) (step : Check α) : Prop :=
  ∀ c : Checker, Relates c xs (after step c)

/-- The visit of the guard and the body of an arm, behind its pattern. -/
def visitGuarded (valued : Bool) (guard : Option Expr) (body : Expr) : Check ExprOutcome := do
  let operand ← visitOptional guard
  settleGuard operand
  let outcome ← visitExpr body
  settleArmValue valued outcome body.span
  pure outcome

namespace Gains

variable [Cumulative Relates] {xs ys zs : List ι}

theorem bind {step : Check α} {next : α → Check β} (first : Gains Relates xs step)
    (rest : ∀ value, Gains Relates ys (next value)) : Gains Relates (xs ++ ys) (step >>= next) :=
  fun c => Cumulative.trans (first c) (rest _ _)

/-- An idle step gains nothing. -/
theorem idle {step : Check α} (idles : Idle step) : Gains Relates [] step :=
  fun c => Cumulative.idle (idles c)

/-- A step in front that gains nothing. -/
theorem front {step : Check α} {next : α → Check β} (first : Gains Relates [] step)
    (rest : ∀ value, Gains Relates xs (next value)) : Gains Relates xs (step >>= next) :=
  first.bind rest

/-- A step behind that gains nothing. -/
theorem behind {step : Check α} {next : α → Check β} (first : Gains Relates xs step)
    (rest : ∀ value, Gains Relates [] (next value)) : Gains Relates xs (step >>= next) := by
  have both := first.bind rest
  rwa [List.append_nil] at both

/-- An idle step in front. -/
theorem lead {step : Check α} {next : α → Check β} (first : Idle step)
    (rest : ∀ value, Gains Relates xs (next value)) : Gains Relates xs (step >>= next) :=
  (idle first).front rest

/-- An idle step behind. -/
theorem trail {step : Check α} {next : α → Check β} (first : Gains Relates xs step)
    (rest : ∀ value, Idle (next value)) : Gains Relates xs (step >>= next) :=
  first.behind fun value => idle (rest value)

/-! Expressions. -/

theorem interpolated {parts : List Part} (inside : Gains Relates xs (visitParts parts))
    (raw : Bool) (span : Span) :
    Gains Relates xs (visitExpr (.interpolated parts raw span)) := by
  rw [visitExpr]
  exact inside.trail fun _ => .pure _

theorem binary {left right : Expr} (first : Gains Relates xs (visitExpr left))
    (second : Gains Relates ys (visitExpr right)) (op : BinaryOp) (span : Span) :
    Gains Relates (xs ++ ys) (visitExpr (.binary op left right span)) := by
  rw [visitExpr]
  exact first.bind fun _ => second.trail fun _ =>
    (Idle.settle (Rules.among_binary _ _ _ _)).bind fun _ => .pure _

theorem unary {operand : Expr} (inside : Gains Relates xs (visitExpr operand)) (op : UnaryOp)
    (span : Span) : Gains Relates xs (visitExpr (.unary op operand span)) := by
  rw [visitExpr]
  exact inside.trail fun _ => (Idle.settle (Rules.among_unary _ _ _)).bind fun _ => .pure _

theorem call {callee : Expr} {args : List Expr} (called : Gains Relates xs (visitExpr callee))
    (given : Gains Relates ys (visitArgs args)) (span : Span) :
    Gains Relates (xs ++ ys) (visitExpr (.call callee args span)) := by
  rw [visitExpr]
  exact called.bind fun _ => given.trail fun _ =>
    (Idle.settle (Rules.among_call _ _ _)).bind fun _ => .pure _

theorem matching {m : Match} (inside : Gains Relates xs (visitMatch true m)) :
    Gains Relates xs (visitExpr (.matching m)) := by
  rw [visitExpr]
  exact inside.trail fun _ =>
    (Idle.settle (Rules.among_requireValue _ _ _)).bind fun _ => .pure _

/-- The values of a struct literal are visited also if there is no such struct. -/
theorem construct {fields : List FieldInit} (values : Gains Relates xs (visitFieldValues fields))
    (checked : ∀ struct declared given,
      Gains Relates xs (visitFields struct declared given fields))
    (struct : String) (span : Span) :
    Gains Relates xs (visitExpr (.construct struct fields span)) := by
  rw [visitExpr]
  refine .lead .registry fun _ => ?_
  split
  · exact .lead (.error rfl _) fun _ => values.trail fun _ => .pure _
  · exact (checked _ _ _).trail fun _ =>
      (Idle.settle (Rules.among_missingFields _ _ _ _)).bind fun _ => .pure _

/-- The values of a struct update are visited also if its target is no struct. -/
theorem update {target : Expr} {fields : List FieldInit}
    (updated : Gains Relates xs (visitExpr target))
    (values : Gains Relates ys (visitFieldValues fields))
    (checked : ∀ struct declared given,
      Gains Relates ys (visitFields struct declared given fields)) (span : Span) :
    Gains Relates (xs ++ ys) (visitExpr (.update target fields span)) := by
  rw [visitExpr]
  refine updated.bind fun _ => ?_
  split
  · refine .lead .registry fun _ => ?_
    split
    · exact .lead (.error rfl _) fun _ => values.trail fun _ => .pure _
    · exact (checked _ _ _).trail fun _ => .pure _
  · exact .lead (.error rfl _) fun _ => values.trail fun _ => .pure _

/-- The payload of an enum literal is visited also if there is no such enum or variant. -/
theorem variant {payload : Option Expr} (inside : Gains Relates xs (visitOptional payload))
    (enum variant : String) (payloadField : Option String) (span : Span) :
    Gains Relates xs (visitExpr (.variant enum variant payloadField payload span)) := by
  rw [visitExpr]
  refine .lead .registry fun _ => ?_
  split
  · exact .lead (.error rfl _) fun _ => inside.trail fun _ => .pure _
  · split
    · exact .lead (.error rfl _) fun _ => inside.trail fun _ => .pure _
    · refine .lead (.settle (Rules.among_payloadPresence _ _ _ _)) fun _ =>
        inside.trail fun operand => ?_
      cases operand with
      | none => exact .pure _
      | some _ =>
        exact (Idle.settle (Rules.among_payloadValue _ _ _ _)).bind fun _ => .pure _

theorem block {b : Block} (inside : Gains Relates xs (visitBlock true b)) :
    Gains Relates xs (visitExpr (.block b)) := by
  rw [visitExpr]
  exact inside.trail fun _ => .pure _

theorem otherwise {b : Block} (inside : Gains Relates xs (visitBlock true b)) :
    Gains Relates xs (visitOtherwise (.block b)) := by
  rw [visitOtherwise]
  exact inside.trail fun _ => .pure _

/-! Sequences of parts. -/

theorem optional {e : Expr} (inside : Gains Relates xs (visitExpr e)) :
    Gains Relates xs (visitOptional (some e)) := by
  rw [visitOptional]
  exact inside.trail fun _ => .pure _

theorem embedded {e : Expr} {rest : List Part} (first : Gains Relates xs (visitExpr e))
    (others : Gains Relates ys (visitParts rest)) (span : Span) :
    Gains Relates (xs ++ ys) (visitParts (.embedded e span :: rest)) := by
  rw [visitParts]
  exact first.bind fun _ => .lead (.settle (Rules.among_requireValue _ _ _)) fun _ => others

theorem arg {e : Expr} {rest : List Expr} (first : Gains Relates xs (visitExpr e))
    (others : Gains Relates ys (visitArgs rest)) :
    Gains Relates (xs ++ ys) (visitArgs (e :: rest)) := by
  rw [visitArgs]
  exact first.bind fun _ => others.trail fun _ => .pure _

theorem printed {e : Expr} {rest : List Expr} (first : Gains Relates xs (visitExpr e))
    (others : Gains Relates ys (visitPrinted rest)) :
    Gains Relates (xs ++ ys) (visitPrinted (e :: rest)) := by
  rw [visitPrinted]
  exact first.bind fun _ => .lead (.settle (Rules.among_requireValue _ _ _)) fun _ => others

theorem fieldValue {value : Expr} {rest : List FieldInit}
    (first : Gains Relates xs (visitExpr value))
    (others : Gains Relates ys (visitFieldValues rest)) (name : String) (span : Span) :
    Gains Relates (xs ++ ys) (visitFieldValues (⟨name, value, span⟩ :: rest)) := by
  rw [visitFieldValues]
  exact first.bind fun _ => others

theorem field {struct name : String} {declared : Fields} {given : List String} {value : Expr}
    {rest : List FieldInit} (first : Gains Relates xs (visitExpr value))
    (others : Gains Relates ys (visitFields struct declared (name :: given) rest))
    (span : Span) :
    Gains Relates (xs ++ ys)
      (visitFields struct declared given (⟨name, value, span⟩ :: rest)) := by
  rw [visitFields]
  exact .lead (.settle (Rules.among_fieldName _ _ _ _ _)) fun _ => first.bind fun _ =>
    .lead (.settle (Rules.among_fieldValue _ _ _ _)) fun _ => others

theorem arms {valued : Bool} {value : Expr} {arms : List Arm}
    (matched : Gains Relates xs (visitExpr value))
    (inside : ∀ enum?, Gains Relates ys (visitArms valued enum? arms)) (span : Span) :
    Gains Relates (xs ++ ys) (visitMatch valued ⟨value, arms, span⟩) := by
  rw [visitMatch]
  exact matched.bind fun _ => .lead (.matchedEnum? _ _) fun _ => .lead .registry fun _ =>
    .lead (.emit (Arms.among_findings _ _ _)) fun _ =>
    (inside _).trail fun _ => .settle (Rules.among_arms _ _)

theorem arm {valued : Bool} {enum? : Option String} {arm : Arm} {rest : List Arm}
    (first : Gains Relates xs (visitArm valued enum? arm))
    (others : Gains Relates ys (visitArms valued enum? rest)) :
    Gains Relates (xs ++ ys) (visitArms valued enum? (arm :: rest)) := by
  rw [visitArms]
  exact first.bind fun _ => others.trail fun _ => .pure _

/-! The parts of visits that open a scope or declare a name. -/

theorem branches {condition : Expr} {consequence : Block} {alternative : Otherwise}
    (tested : Gains Relates xs (visitExpr condition))
    (first : Gains Relates ys (visitBlock true consequence))
    (second : Gains Relates zs (visitOtherwise alternative)) (span : Span) :
    Gains Relates (xs ++ ys ++ zs) (visitBranches condition consequence alternative span) := by
  rw [List.append_assoc]
  exact tested.bind fun _ => .lead (.settle (Rules.among_condition _)) fun _ =>
    first.bind fun _ => .lead (.settle (Rules.among_requireBranchValue _ _ _)) fun _ =>
    second.trail fun _ => (Idle.settle (Rules.among_requireBranchValue _ _ _)).bind fun _ =>
    .settle (Rules.among_branches _ _ _)

theorem guarded {guard : Option Expr} {body : Expr}
    (first : Gains Relates xs (visitOptional guard))
    (second : Gains Relates ys (visitExpr body)) (valued : Bool) :
    Gains Relates (xs ++ ys) (visitGuarded valued guard body) :=
  first.bind fun _ => .lead (.settleGuard _) fun _ => second.trail fun _ =>
    (Idle.settleArmValue _ _ _).bind fun _ => .pure _

end Gains

namespace Gains

variable [CumulativeOnNames Relates] {xs : List ι}

/-- A step that is quiet about names gains nothing. -/
theorem quiet {step : Check α} (silent : Quiet step) : Gains Relates [] step :=
  fun c => CumulativeOnNames.quiet (silent c)

theorem initial {value : Expr} (inside : Gains Relates xs (visitExpr value)) (name : String)
    (ascription : Option TypeExpr) (span : Span) :
    Gains Relates xs (visitInitial name ascription value span) :=
  inside.behind fun _ => .lead .registry fun r => .quiet
    (.settle ((Rules.among_variableType r _ _ _ _).plain (by decide) (by decide)))

/-! Statements. -/

theorem returned {value : Option Expr} (inside : Gains Relates xs (visitOptional value))
    (place : Place) (span : Span) :
    Gains Relates xs (visitStmt place (.returns value span)) := by
  rw [visitStmt]
  refine .lead .frame? fun frame => ?_
  cases frame with
  | none => exact .front (.quiet (.error rfl _)) fun _ => inside.trail fun _ => .pure _
  | some frame =>
    exact inside.trail fun _ => (Idle.settle (Rules.among_returned _ _ _)).bind fun _ =>
      (Idle.modifyReturns _).bind fun _ => .pure _

theorem stated {value : Expr} (inside : Gains Relates xs (visitExpr value)) (place : Place)
    (span : Span) : Gains Relates xs (visitStmt place (.expr value span)) := by
  rw [visitStmt]
  split
  · exact inside.trail fun _ => .pure _
  · exact .front (.quiet (.error rfl _)) fun _ => inside.trail fun _ => .pure _

end Gains

end Check

end ModuleCheck

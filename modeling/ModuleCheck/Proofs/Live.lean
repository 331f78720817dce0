import ModuleCheck.Proofs.Errors

namespace ModuleCheck

/-!
Live visits: those that are made in the same function and not behind a statement that always
returns.

A visit without an error meets no dead code, so its live visits are those of everything that its
part of the tree contains, the insides of functions apart.
-/

open Check

/-- The first visit makes the second one on its way, in the same function and not behind a
statement that always returns. -/
def EntersLive (v w : Visit) : Prop := v.task.isLive = true ∧ Enters v w

/-- The first visit makes the second one, perhaps through others, in the same function and not
behind a statement that always returns. -/
abbrev ReachesLive : Visit → Visit → Prop := Relation.ReflTransGen EntersLive

theorem ReachesLive.reaches {v w : Visit} (reaches : ReachesLive v w) : Reaches v w :=
  Relation.ReflTransGen.mono (fun _ _ both => both.2) _ _ reaches

/-- The visits on the way of a silent visit are silent. -/
theorem Reaches.silent {v w : Visit} (reaches : Reaches v w) (silent : Silent v.task.step v.start) :
    Silent w.task.step w.start := by
  have front := reaches.later.1.errorCount_le
  have inside := (Checker.Later.visit w.task w.start).errorCount_le
  have behind := reaches.later.2.errorCount_le
  have whole : v.finish.errorCount = v.start.errorCount := silent
  change (after w.task.step w.start).errorCount ≤ _ at behind
  unfold Silent
  omega

/-! What a part of a tree contains. -/

/-- A part of a syntax tree that is visited as a whole. -/
inductive Fragment where
  | expr (e : Expr)
  | conditional (k : Conditional)
  | otherwise (alternative : Otherwise)
  | matching (m : Match)
  | arm (a : Arm)
  | pattern (p : Pattern)
  | block (b : Block)
  | stmt (s : Stmt)
  | var (decl : VarDecl)

namespace Fragment

def ofPart : Part → Option Fragment
  | .text .. => none
  | .embedded e _ => some (expr e)

/-- The fragments right below a fragment.  What is inside a function is left to the function. -/
def children : Fragment → List Fragment
  | expr (.interpolated parts _ _) => parts.filterMap ofPart
  | expr (.binary _ left right _) => [expr left, expr right]
  | expr (.unary _ operand _) => [expr operand]
  | expr (.call callee args _) => expr callee :: args.map expr
  | expr (.conditional k) => [conditional k]
  | expr (.matching m) => [matching m]
  | expr (.construct _ fields _) => fields.map fun field => expr field.value
  | expr (.update target fields _) => expr target :: fields.map fun field => expr field.value
  | expr (.variant _ _ _ payload _) => payload.toList.map expr
  | expr (.block b) => [block b]
  | expr (.identifier ..) | expr (.int ..) | expr (.string ..) | expr (.bool ..) => []
  | conditional k =>
    k.initializer.toList.map var ++
      [expr k.condition, block k.consequence, otherwise k.alternative]
  | otherwise (.block b) => [block b]
  | otherwise (.elseIf k) => [conditional k]
  | matching m => expr m.value :: m.arms.map arm
  | arm a => pattern a.pattern :: a.guard.toList.map expr ++ [expr a.body]
  | pattern (.literal value _) => [expr value]
  | pattern (.wildcard _) | pattern (.variant ..) => []
  | block b => b.body.map stmt
  | stmt (.var decl) => [var decl]
  | stmt (.print _ args _) => args.map expr
  | stmt (.returns value _) => value.toList.map expr
  | stmt (.expr value _) => [expr value]
  | stmt (.function ..) | stmt (.imports _) | stmt (.struct _) | stmt (.enum _) => []
  | var decl => [expr decl.value]

/-- The first fragment contains the second one, and not inside a function in between. -/
abbrev Contains : Fragment → Fragment → Prop :=
  Relation.ReflTransGen fun outer inner => inner ∈ outer.children

end Fragment

/-- The fragment that is visited as a whole by a task. -/
def Task.fragment? : Task → Option Fragment
  | expr e => some (.expr e)
  | conditional k => some (.conditional k)
  | otherwise alternative => some (.otherwise alternative)
  | matching _ m => some (.matching m)
  | arm _ _ a => some (.arm a)
  | pattern _ p => some (.pattern p)
  | block _ b => some (.block b)
  | stmt _ s => some (.stmt s)
  | var _ decl => some (.var decl)
  | _ => none

theorem Task.eq_stmt_of_fragment? {task : Task} {s : Stmt}
    (shape : task.fragment? = some (.stmt s)) :
    ∃ place, task = .stmt place s := by
  cases task with
  | stmt place other =>
    cases shape
    exact ⟨place, rfl⟩
  | _ => cases shape

/-- From the visit, the fragment is visited as a whole. -/
def ReachesFragment (v : Visit) (f : Fragment) : Prop :=
  ∃ w, ReachesLive v w ∧ w.task.fragment? = some f

namespace ReachesFragment

variable {v w : Visit} {f : Fragment}

theorem head (enters : EntersLive v w) (reaches : ReachesFragment w f) : ReachesFragment v f := by
  rcases reaches with ⟨inner, reaches, shape⟩
  exact ⟨inner, .head enters reaches, shape⟩

theorem single (enters : EntersLive v w) (shape : w.task.fragment? = some f) :
    ReachesFragment v f :=
  ⟨w, .single enters, shape⟩

/-- A walk along a list reaches every member, provided that it reaches the first one and goes on
with the others. -/
theorem of_mem {α : Type} {fragment : α → Fragment} (walk : List α → Visit → Prop)
    (first : ∀ x rest v, walk (x :: rest) v → ReachesFragment v (fragment x))
    (next : ∀ x rest v, walk (x :: rest) v → ∃ w, EntersLive v w ∧ walk rest w) {xs : List α}
    (walks : walk xs v) (member : f ∈ xs.map fragment) : ReachesFragment v f := by
  induction xs generalizing v with
  | nil => cases member
  | cons x rest ih =>
    rcases List.mem_cons.mp member with rfl | later
    · exact first x rest v walks
    · rcases next x rest v walks with ⟨w, enters, more⟩
      exact .head enters (ih more later)

theorem of_args {args : List Expr} {c : Checker} (member : f ∈ args.map .expr) :
    ReachesFragment ⟨.args args, c⟩ f := by
  refine of_mem (fun args v => ∃ c, v = ⟨.args args, c⟩) ?_ ?_ ⟨c, rfl⟩ member
  · rintro e rest _ ⟨c, rfl⟩
    exact .single ⟨rfl, .firstArg⟩ rfl
  · rintro e rest _ ⟨c, rfl⟩
    exact ⟨_, ⟨rfl, .moreArgs⟩, _, rfl⟩

theorem of_printed {args : List Expr} {c : Checker} (member : f ∈ args.map .expr) :
    ReachesFragment ⟨.printed args, c⟩ f := by
  refine of_mem (fun args v => ∃ c, v = ⟨.printed args, c⟩) ?_ ?_ ⟨c, rfl⟩ member
  · rintro e rest _ ⟨c, rfl⟩
    exact .single ⟨rfl, .firstPrinted⟩ rfl
  · rintro e rest _ ⟨c, rfl⟩
    exact ⟨_, ⟨rfl, .morePrinted⟩, _, rfl⟩

theorem of_fieldValues {fields : List FieldInit} {c : Checker}
    (member : f ∈ fields.map fun field => .expr field.value) :
    ReachesFragment ⟨.fieldValues fields, c⟩ f := by
  refine of_mem (fun fields v => ∃ c, v = ⟨.fieldValues fields, c⟩) ?_ ?_ ⟨c, rfl⟩ member
  · rintro ⟨name, value, span⟩ rest _ ⟨c, rfl⟩
    exact .single ⟨rfl, .firstValue⟩ rfl
  · rintro ⟨name, value, span⟩ rest _ ⟨c, rfl⟩
    exact ⟨_, ⟨rfl, .moreValues⟩, _, rfl⟩

theorem of_fields {struct : String} {declared : Fields} {given : List String}
    {fields : List FieldInit} {c : Checker}
    (member : f ∈ fields.map fun field => .expr field.value) :
    ReachesFragment ⟨.fields struct declared given fields, c⟩ f := by
  refine of_mem (fun fields v => ∃ given c, v = ⟨.fields struct declared given fields, c⟩) ?_ ?_
    ⟨given, c, rfl⟩ member
  · rintro ⟨name, value, span⟩ rest _ ⟨given, c, rfl⟩
    exact .single ⟨rfl, .firstField⟩ rfl
  · rintro ⟨name, value, span⟩ rest _ ⟨given, c, rfl⟩
    exact ⟨_, ⟨rfl, .moreFields⟩, _, _, rfl⟩

theorem of_arms {valued : Bool} {enum? : Option String} {arms : List Arm} {c : Checker}
    (member : f ∈ arms.map .arm) : ReachesFragment ⟨.arms valued enum? arms, c⟩ f := by
  refine of_mem (fun arms v => ∃ c, v = ⟨.arms valued enum? arms, c⟩) ?_ ?_ ⟨c, rfl⟩ member
  · rintro arm rest _ ⟨c, rfl⟩
    exact .single ⟨rfl, .firstArm⟩ rfl
  · rintro arm rest _ ⟨c, rfl⟩
    exact ⟨_, ⟨rfl, .moreArms⟩, _, rfl⟩

theorem of_parts {parts : List Part} {c : Checker}
    (member : f ∈ parts.filterMap Fragment.ofPart) : ReachesFragment ⟨.parts parts, c⟩ f := by
  induction parts generalizing c with
  | nil => cases member
  | cons part rest ih =>
    cases part with
    | text value span => exact .head ⟨rfl, .behindText⟩ (ih member)
    | embedded e span =>
      rcases List.mem_cons.mp member with rfl | later
      · exact .single ⟨rfl, .embedded⟩ rfl
      · exact .head ⟨rfl, .behindEmbedded⟩ (ih later)

theorem of_optional {e : Option Expr} {c : Checker} (member : f ∈ e.toList.map .expr) :
    ReachesFragment ⟨.optional e, c⟩ f := by
  cases e with
  | none => cases member
  | some e =>
    rw [List.mem_singleton.mp member]
    exact .single ⟨rfl, .optional⟩ rfl

/-- Without an error no statement of a block is dead. -/
theorem of_stmts {valued : Bool} {progress : Progress} {stmts : List Stmt} {c : Checker}
    (silent : Silent (visitStmts valued progress stmts) c) (member : f ∈ stmts.map .stmt) :
    ReachesFragment ⟨.stmts valued progress stmts, c⟩ f := by
  have reached {progress : Progress} {stmt : Stmt} {rest : List Stmt} {c : Checker}
      (silent : Silent (visitStmts valued progress (stmt :: rest)) c) :
      progress.alwaysReturns = false := by
    rcases progress with ⟨ty, stopped⟩
    cases stopped with
    | false => rfl
    | true => exact absurd silent not_silent_dead
  refine of_mem (fun stmts v => ∃ progress c, v = ⟨.stmts valued progress stmts, c⟩ ∧
    Silent (visitStmts valued progress stmts) c) ?_ ?_ ⟨progress, c, rfl, silent⟩ member
  · rintro stmt rest _ ⟨progress, c, rfl, silent⟩
    have live := reached silent
    exact .single ⟨by simp [Task.isLive, live], .live live⟩ rfl
  · rintro stmt rest _ ⟨progress, c, rfl, silent⟩
    have live := reached silent
    have enters : Enters ⟨.stmts valued progress (stmt :: rest), c⟩ _ := .behindLive live rfl
    exact ⟨_, ⟨by simp [Task.isLive, live], enters⟩, _, _, rfl,
      Reaches.silent (.single enters) silent⟩

/-! The children of fragments. -/

theorem of_expr {e : Expr} {c : Checker} (child : f ∈ (Fragment.expr e).children) :
    ReachesFragment ⟨.expr e, c⟩ f := by
  cases e with
  | identifier | int | string | bool => cases child
  | interpolated parts raw span => exact .head ⟨rfl, .interpolated⟩ (of_parts child)
  | binary op left right span =>
    rcases List.mem_pair.mp child with rfl | rfl
    · exact .single ⟨rfl, .left⟩ rfl
    · exact .single ⟨rfl, .right⟩ rfl
  | unary op operand span =>
    rw [List.mem_singleton.mp child]
    exact .single ⟨rfl, .operand⟩ rfl
  | call callee args span =>
    rcases List.mem_cons.mp child with rfl | later
    · exact .single ⟨rfl, .callee⟩ rfl
    · exact .head ⟨rfl, .args⟩ (of_args later)
  | conditional k =>
    rw [List.mem_singleton.mp child]
    exact .single ⟨rfl, .conditional⟩ rfl
  | matching m =>
    rw [List.mem_singleton.mp child]
    exact .single ⟨rfl, .matching⟩ rfl
  | construct struct fields span =>
    cases found : c.registry.structs.get? struct with
    | none => exact .head ⟨rfl, .literalOfUnknown found⟩ (of_fieldValues child)
    | some declared => exact .head ⟨rfl, .literalOfStruct found⟩ (of_fields child)
  | update target fields span =>
    rcases List.mem_cons.mp child with rfl | later
    · exact .single ⟨rfl, .target⟩ rfl
    · by_cases typed : ∃ struct, (result (visitExpr target) c).ty = .struct struct
      · rcases typed with ⟨struct, typed⟩
        cases found : (after (visitExpr target) c).registry.structs.get? struct with
        | none => exact .head ⟨rfl, .updateOfUnknown typed found⟩ (of_fieldValues later)
        | some declared => exact .head ⟨rfl, .updateOfStruct typed found⟩ (of_fields later)
      · have other (struct : String) : (result (visitExpr target) c).ty ≠ .struct struct :=
          fun same => typed ⟨struct, same⟩
        exact .head ⟨rfl, .updateOfOther other⟩ (of_fieldValues later)
  | variant enum variant field payload span =>
    cases found : c.registry.enums.get? enum with
    | none => exact .head ⟨rfl, .payloadOfUnknownEnum found⟩ (of_optional child)
    | some variants =>
      cases known : variants.get? variant with
      | none => exact .head ⟨rfl, .payloadOfUnknownVariant found known⟩ (of_optional child)
      | some declared => exact .head ⟨rfl, .payloadOfVariant found known⟩ (of_optional child)
  | block b =>
    rw [List.mem_singleton.mp child]
    exact .single ⟨rfl, .block⟩ rfl

theorem of_stmt {place : Place} {stmt : Stmt} {c : Checker}
    (child : f ∈ (Fragment.stmt stmt).children) : ReachesFragment ⟨.stmt place stmt, c⟩ f := by
  cases stmt with
  | imports | struct | enum | function => cases child
  | var decl =>
    rw [List.mem_singleton.mp child]
    exact .single ⟨rfl, .var⟩ rfl
  | print raw args span => exact .head ⟨rfl, .printed⟩ (of_printed child)
  | returns value span =>
    by_cases outside : c.frames = []
    · exact .head ⟨rfl, .returnedOutside outside⟩ (of_optional child)
    · exact .head ⟨rfl, .returned outside⟩ (of_optional child)
  | expr value span =>
    rw [List.mem_singleton.mp child]
    cases used : place.valued || value.isEffectful with
    | true => exact .single ⟨rfl, .used used⟩ rfl
    | false => exact .single ⟨rfl, .useless used⟩ rfl

/-- A visit without an error reaches the children of its fragment. -/
theorem of_child {task : Task} {outer : Fragment} {c : Checker}
    (shape : task.fragment? = some outer) (silent : Silent task.step c)
    (child : f ∈ outer.children) : ReachesFragment ⟨task, c⟩ f := by
  cases task with
  | expr e =>
    cases shape
    exact of_expr child
  | conditional k =>
    cases shape
    rcases k with ⟨initializer, condition, consequence, alternative, span⟩
    rcases List.mem_append.mp child with start | branch
    · cases initializer with
      | none => cases start
      | some decl =>
        rw [List.mem_singleton.mp start]
        exact .head ⟨rfl, .initializer⟩ (.single ⟨rfl, .initialized⟩ rfl)
    · simp only [List.mem_cons, List.not_mem_nil, or_false] at branch
      rcases branch with rfl | rfl | rfl
      · exact .single ⟨rfl, .condition⟩ rfl
      · exact .single ⟨rfl, .consequence⟩ rfl
      · exact .single ⟨rfl, .alternative⟩ rfl
  | otherwise alternative =>
    cases shape
    cases alternative with
    | block b =>
      rw [List.mem_singleton.mp child]
      exact .single ⟨rfl, .otherwise⟩ rfl
    | elseIf k =>
      rw [List.mem_singleton.mp child]
      exact .single ⟨rfl, .elseIf⟩ rfl
  | matching valued m =>
    cases shape
    rcases m with ⟨value, arms, span⟩
    rcases List.mem_cons.mp child with rfl | later
    · exact .single ⟨rfl, .matched⟩ rfl
    · exact .head ⟨rfl, .arms⟩ (of_arms later)
  | arm valued enum? a =>
    cases shape
    rcases a with ⟨pattern, guard, body, span⟩
    rcases List.mem_append.mp child with front | last
    · rcases List.mem_cons.mp front with rfl | tested
      · exact .single ⟨rfl, .pattern⟩ rfl
      · exact .head ⟨rfl, .guard⟩ (of_optional tested)
    · rw [List.mem_singleton.mp last]
      exact .single ⟨rfl, .armBody⟩ rfl
  | pattern enum? p =>
    cases shape
    cases p with
    | wildcard | variant => cases child
    | literal value span =>
      rw [List.mem_singleton.mp child]
      exact .single ⟨rfl, .literal⟩ rfl
  | block valued b =>
    cases shape
    rcases b with ⟨body, span⟩
    have enters : Enters ⟨.block valued ⟨body, span⟩, c⟩ _ := .body
    exact .head ⟨rfl, enters⟩ (of_stmts (Reaches.silent (.single enters) silent) child)
  | stmt place s =>
    cases shape
    exact of_stmt child
  | var flags decl =>
    cases shape
    rcases decl with ⟨name, mutable, ascription, value, exported, span⟩
    rw [List.mem_singleton.mp child]
    exact .single ⟨rfl, .initial⟩ rfl
  | _ => cases shape

/-- A visit without an error reaches everything that its fragment contains. -/
theorem of_contains {task : Task} {outer : Fragment} {c : Checker}
    (shape : task.fragment? = some outer) (silent : Silent task.step c)
    (contains : outer.Contains f) : ReachesFragment ⟨task, c⟩ f := by
  induction contains with
  | refl => exact ⟨_, .refl, shape⟩
  | tail _ child ih =>
    rcases ih with ⟨w, reaches, inner⟩
    rcases of_child inner (reaches.reaches.silent silent) child with ⟨last, further, shape⟩
    exact ⟨last, reaches.trans further, shape⟩

end ReachesFragment

end ModuleCheck

import ModuleCheck.Proofs.Passage

namespace ModuleCheck

/-!
What the check sees of a part of a tree without visiting it.

The rules for a construct look at where its parts stand, at whether a part may act, and at the
names of an identifier or an enum literal.  The arms of a match are looked at as a whole, and the
statements of a block are searched for functions ahead of their visits, those of a module for types
as well.  None of this depends on the expressions and blocks inside of the parts.  So a part may be
replaced by another one that runs alike if the two have in common what is seen of them.
-/

open Check

/-! Expressions and arms. -/

namespace Expr

/-- Where an expression stands, whether it may act, and what it names. -/
structure Face where
  span : Span
  effectful : Bool
  name? : Option String
  enum? : Option String

def face (e : Expr) : Face where
  span := e.span
  effectful := e.isEffectful
  name? :=
    match e with
    | identifier name _ => some name
    | _ => none
  enum? :=
    match e with
    | variant enum .. => some enum
    | _ => none

variable {e e' : Expr}

theorem span_eq (same : e'.face = e.face) : e'.span = e.span := congrArg Face.span same

theorem isEffectful_eq (same : e'.face = e.face) : e'.isEffectful = e.isEffectful :=
  congrArg Face.effectful same

theorem face_conditional {k k' : Conditional} (same : k'.span = k.span) :
    (conditional k').face = (conditional k).face := by
  simp only [face, span, isEffectful, same]

theorem face_matching {m m' : Match} (same : m'.span = m.span) :
    (matching m').face = (matching m).face := by
  simp only [face, span, isEffectful, same]

theorem face_block {b b' : Block} (same : b'.span = b.span) : (block b').face = (block b).face := by
  simp only [face, span, isEffectful, same]

end Expr

namespace Pattern

/-- A pattern with another literal in place of its own. -/
def head : Pattern → Pattern
  | literal _ span => literal (.bool true span) span
  | p => p

end Pattern

namespace Arm

/-- An arm with other expressions in place of its own. -/
def head (arm : Arm) : Arm :=
  ⟨arm.pattern.head, arm.guard.map fun _ => .bool true arm.span, .bool true arm.span, arm.span⟩

theorem head_eq {pattern pattern' : Pattern} {guard guard' : Option Expr} (body body' : Expr)
    (span : Span) (same : pattern'.head = pattern.head) (guarded : guard'.isSome = guard.isSome) :
    head ⟨pattern', guard', body', span⟩ = head ⟨pattern, guard, body, span⟩ := by
  cases guard <;> cases guard' <;> simp_all [head]

theorem enum?_head (arm : Arm) : arm.head.pattern.enum? = arm.pattern.enum? := by
  rcases arm with ⟨pattern, guard, body, span⟩
  cases pattern <;> rfl

theorem variantOf?_head (enum : String) (arm : Arm) :
    arm.head.pattern.variantOf? enum = arm.pattern.variantOf? enum := by
  rcases arm with ⟨pattern, guard, body, span⟩
  cases pattern <;> rfl

theorem isGuarded_head (arm : Arm) : arm.head.isGuarded = arm.isGuarded := Option.isSome_map

theorem isCatchAll_head (arm : Arm) : arm.head.isCatchAll = arm.isCatchAll := by
  unfold isCatchAll
  rw [isGuarded_head]
  rcases arm with ⟨pattern, guard, body, span⟩
  cases pattern <;> rfl

end Arm

namespace Arms

theorem commonEnum?_map_head (arms : List Arm) :
    commonEnum? (arms.map Arm.head) = commonEnum? arms := by
  unfold commonEnum?
  rw [List.filterMap_map]
  simp only [Function.comp_def, Arm.enum?_head]

theorem variantArms_map_head (enum : String) (arms : List Arm) :
    variantArms enum (arms.map Arm.head) = variantArms enum arms := by
  unfold variantArms
  rw [List.filterMap_map]
  simp only [Function.comp_def, Arm.variantOf?_head, Arm.isGuarded_head]
  rfl

theorem misplacedWildcard_map_head (arms : List Arm) :
    misplacedWildcard (arms.map Arm.head) = misplacedWildcard arms := by
  induction arms with
  | nil => rfl
  | cons arm rest ih =>
    simp only [List.map_cons, misplacedWildcard, Arm.isCatchAll_head, ih, List.isEmpty_map]
    rfl

/-- The findings on arms do not look at expressions. -/
theorem findings_map_head (r : Registry) (enum? : Option String) (value value' : Expr)
    (arms : List Arm) (span : Span) :
    findings r enum? ⟨value', arms.map Arm.head, span⟩ = findings r enum? ⟨value, arms, span⟩ := by
  cases enum? with
  | none => exact misplacedWildcard_map_head arms
  | some enum =>
    have catchAll : (arms.map Arm.head).any Arm.isCatchAll = arms.any Arm.isCatchAll := by
      rw [List.any_map]
      simp only [Function.comp_def, Arm.isCatchAll_head]
    simp only [findings, duplicates, unreachable, missingVariants, covered, variantArms_map_head,
      misplacedWildcard_map_head, catchAll]

variable {arms arms' : List Arm}

theorem commonEnum?_congr (same : arms'.map Arm.head = arms.map Arm.head) :
    commonEnum? arms' = commonEnum? arms := by
  rw [← commonEnum?_map_head, same, commonEnum?_map_head]

theorem findings_congr (same : arms'.map Arm.head = arms.map Arm.head) (r : Registry)
    (enum? : Option String) (value value' : Expr) (span : Span) :
    findings r enum? ⟨value', arms', span⟩ = findings r enum? ⟨value, arms, span⟩ := by
  rw [← findings_map_head r enum? value' value, same, findings_map_head r enum? value]

end Arms

/-! Statements. -/

namespace Stmt

/-- What is looked at ahead of the visit of a statement: declarations of types and of functions,
and where any other statement stands. -/
def head : Stmt → Stmt
  | function signature _ => function signature ⟨[], signature.span⟩
  | struct decl => struct decl
  | enum decl => enum decl
  | s => returns none s.span

theorem span_head (s : Stmt) : s.head.span = s.span := by cases s <;> rfl

theorem span_eq {s s' : Stmt} (same : s'.head = s.head) : s'.span = s.span := by
  rw [← span_head, same, span_head]

theorem isEmpty_eq {body body' : List Stmt} (same : body'.map head = body.map head) :
    body'.isEmpty = body.isEmpty := by
  rw [← List.isEmpty_map, same, List.isEmpty_map]

end Stmt

namespace Check

theorem tagLiteral_eq (name : String) (value : Expr) :
    tagLiteral name value =
      match value.face.enum? with
      | some enum => tagEnum name enum
      | none => pure () := by
  cases value <;> rfl

theorem matchedEnum?_eq (m : Match) (ty : Ty) :
    matchedEnum? m ty = (do
      let literal? ←
        match m.value.face.enum?, m.value.face.name? with
        | some enum, _ => pure (some enum)
        | none, some name => enumTag? name
        | none, none => pure none
      let typed? :=
        match ty with
        | .enum name => some name
        | _ => none
      pure ((literal?.or typed?).or (Arms.commonEnum? m.arms))) := by
  rcases m with ⟨value, arms, span⟩
  cases value <;> rfl

theorem matchedEnum?_congr {value value' : Expr} {arms arms' : List Arm} {span : Span}
    (face : value'.face = value.face) (same : arms'.map Arm.head = arms.map Arm.head) (ty : Ty) :
    matchedEnum? ⟨value', arms', span⟩ ty = matchedEnum? ⟨value, arms, span⟩ ty := by
  rw [matchedEnum?_eq, matchedEnum?_eq]
  simp only [face, Arms.commonEnum?_congr same]

theorem hoist_map_head (topLevel : Bool) (stmts : List Stmt) :
    hoist topLevel (stmts.map Stmt.head) = hoist topLevel stmts := by
  induction stmts with
  | nil => rfl
  | cons stmt rest ih => cases stmt <;> simp only [List.map_cons, Stmt.head, hoist, ih]

theorem hoist_eq {body body' : List Stmt} (same : body'.map Stmt.head = body.map Stmt.head)
    (topLevel : Bool) : hoist topLevel body' = hoist topLevel body := by
  rw [← hoist_map_head, same, hoist_map_head]

end Check

namespace Registry

theorem register_map_head (options : Options) (r : Registry) (stmts : List Stmt) :
    register options r (stmts.map Stmt.head) = register options r stmts := by
  have names : (stmts.map Stmt.head).foldl enterName r = stmts.foldl enterName r := by
    induction stmts generalizing r with
    | nil => rfl
    | cons stmt rest ih => cases stmt <;> exact ih _
  have members : ∀ r, enterAllMembers options r (stmts.map Stmt.head) =
      enterAllMembers options r stmts := by
    clear names
    induction stmts with
    | nil => exact fun _ => rfl
    | cons stmt rest ih =>
      intro r
      cases stmt <;> simp only [List.map_cons, Stmt.head, enterAllMembers, enterMembers, ih]
  rw [register, register, names, members]

theorem register_congr {body body' : List Stmt} (same : body'.map Stmt.head = body.map Stmt.head)
    (options : Options) (r : Registry) : register options r body' = register options r body := by
  rw [← register_map_head, same, register_map_head]

end Registry

namespace Module

/-- Ahead of the visits, the check looks at heads only. -/
theorem start_congr {m m' : Module} (same : m'.body.map Stmt.head = m.body.map Stmt.head)
    (options : Options) : (m'.visit options).start = (m.visit options).start := by
  have registered : Check.register m'.body = Check.register m.body := by
    unfold Check.register
    simp only [Registry.register_congr same]
  unfold visit
  rw [registered, hoist_eq same]

end Module

/-! Tasks that run alike. -/

namespace Task

/-- From a given state the tasks run alike, and their surroundings see the same of them. -/
inductive Agree (c : Checker) : Task → Task → Prop
  | expr {e e'} (face : e'.face = e.face) (run : (visitExpr e').run c = (visitExpr e).run c) :
      Agree c (expr e) (expr e')
  | optional {e e'} (isSome : e'.isSome = e.isSome)
      (run : (visitOptional e').run c = (visitOptional e).run c) :
      Agree c (optional e) (optional e')
  | parts {pieces pieces'} (run : (visitParts pieces').run c = (visitParts pieces).run c) :
      Agree c (parts pieces) (parts pieces')
  | args {es es'} (run : (visitArgs es').run c = (visitArgs es).run c) :
      Agree c (args es) (args es')
  | printed {es es'} (run : (visitPrinted es').run c = (visitPrinted es).run c) :
      Agree c (printed es) (printed es')
  | fieldValues {inits inits'}
      (run : (visitFieldValues inits').run c = (visitFieldValues inits).run c) :
      Agree c (fieldValues inits) (fieldValues inits')
  | fields {struct declared given inits inits'}
      (names : inits'.map FieldInit.name = inits.map FieldInit.name)
      (run : (visitFields struct declared given inits').run c =
        (visitFields struct declared given inits).run c) :
      Agree c (fields struct declared given inits) (fields struct declared given inits')
  | conditional {k k'} (span : k'.span = k.span)
      (run : (visitConditional k').run c = (visitConditional k).run c) :
      Agree c (conditional k) (conditional k')
  | initializer {decl decl'} (isSome : decl'.isSome = decl.isSome)
      (run : (visitInitializer decl').run c = (visitInitializer decl).run c) :
      Agree c (initializer decl) (initializer decl')
  | otherwise {alternative alternative'} (span : alternative'.span = alternative.span)
      (run : (visitOtherwise alternative').run c = (visitOtherwise alternative).run c) :
      Agree c (otherwise alternative) (otherwise alternative')
  | matching {valued m m'} (span : m'.span = m.span)
      (run : (visitMatch valued m').run c = (visitMatch valued m).run c) :
      Agree c (matching valued m) (matching valued m')
  | arms {valued enum? cases cases'} (heads : cases'.map Arm.head = cases.map Arm.head)
      (run : (visitArms valued enum? cases').run c = (visitArms valued enum? cases).run c) :
      Agree c (arms valued enum? cases) (arms valued enum? cases')
  | arm {valued enum? case case'} (head : case'.head = case.head)
      (run : (visitArm valued enum? case').run c = (visitArm valued enum? case).run c) :
      Agree c (arm valued enum? case) (arm valued enum? case')
  | pattern {enum? p p'} (head : p'.head = p.head)
      (run : (visitPattern enum? p').run c = (visitPattern enum? p).run c) :
      Agree c (pattern enum? p) (pattern enum? p')
  | block {valued b b'} (span : b'.span = b.span)
      (run : (visitBlock valued b').run c = (visitBlock valued b).run c) :
      Agree c (block valued b) (block valued b')
  | stmts {valued progress body body'} (heads : body'.map Stmt.head = body.map Stmt.head)
      (run : (visitStmts valued progress body').run c =
        (visitStmts valued progress body).run c) :
      Agree c (stmts valued progress body) (stmts valued progress body')
  | stmt {place s s'} (head : s'.head = s.head)
      (run : (visitStmt place s').run c = (visitStmt place s).run c) :
      Agree c (stmt place s) (stmt place s')
  | var {flags decl decl'} (span : decl'.span = decl.span)
      (exported : decl'.exported = decl.exported)
      (run : (visitVar flags decl').run c = (visitVar flags decl).run c) :
      Agree c (var flags decl) (var flags decl')
  | topLevel {body body'} (heads : body'.map Stmt.head = body.map Stmt.head)
      (run : (visitTopLevel body').run c = (visitTopLevel body).run c) :
      Agree c (topLevel body) (topLevel body')

theorem agree_self (c : Checker) (task : Task) : task.Agree c task := by
  cases task <;> constructor <;> rfl

end Task

namespace Check

variable {α β : Type}

/-- Steps that run alike from a state may be followed by steps that run alike behind them. -/
theorem run_bind_congr {step step' : Check α} {next next' : α → Check β} {c : Checker}
    (first : step'.run c = step.run c)
    (rest : (next' (result step c)).run (after step c) =
      (next (result step c)).run (after step c)) :
    (step' >>= next').run c = (step >>= next).run c := by
  change (next' (step'.run c).1).run (step'.run c).2 = _
  rw [first]
  exact rest

end Check

end ModuleCheck

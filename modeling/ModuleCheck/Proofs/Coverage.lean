import ModuleCheck.Proofs.Visits

namespace ModuleCheck

/-!
Every expression is visited.

A visit goes through the whole of its part of the tree, also behind an error or a `return`, so
that no expression of a module escapes the rules.
-/

open Check Outline

/-- From wherever the task is visited, every expression among the nodes is. -/
def Covers (task : Task) (nodes : List Node) : Prop :=
  ∀ e, Node.expr e ∈ nodes → ∀ c, ∃ c', Reaches ⟨task, c⟩ ⟨.expr e, c'⟩

namespace Covers

variable {task : Task} {nodes others : List Node}

theorem of_none (none : ∀ e, Node.expr e ∉ nodes) : Covers task nodes :=
  fun e member => absurd member (none e)

theorem nil : Covers task [] := of_none fun _ => List.not_mem_nil

theorem append (first : Covers task nodes) (second : Covers task others) :
    Covers task (nodes ++ others) := by
  intro e member
  rcases List.mem_append.mp member with before | behind
  · exact first e before
  · exact second e behind

/-- A node that is no expression does not count. -/
theorem other {node : Node} (different : ∀ e, Node.expr e ≠ node) (rest : Covers task nodes) :
    Covers task (node :: nodes) := by
  intro e member
  rcases List.mem_cons.mp member with same | behind
  · exact absurd same (different e)
  · exact rest e behind

/-- The visit of an expression covers the expression itself. -/
theorem self {e : Expr} (parts : Covers (.expr e) nodes) : Covers (.expr e) (.expr e :: nodes) := by
  intro inner member c
  rcases List.mem_cons.mp member with same | behind
  · cases same
    exact ⟨c, .refl⟩
  · exact parts inner behind c

/-- A visit covers what the visits cover that it makes on its way. -/
theorem enter (entered : ∀ c, ∃ w, Enters ⟨task, c⟩ w ∧ Covers w.task nodes) :
    Covers task nodes := by
  intro e member c
  rcases entered c with ⟨w, enters, covers⟩
  rcases covers e member w.start with ⟨c', reaches⟩
  exact ⟨c', .head enters reaches⟩

end Covers

namespace Outline

theorem not_mem_ofType (written : Option TypeExpr) (e : Expr) : .expr e ∉ ofType written := by
  cases written <;> simp [ofType]

theorem not_mem_ofSignature (signature : Signature) (e : Expr) :
    .expr e ∉ ofSignature signature := by
  simp [ofSignature, not_mem_ofType]

theorem not_mem_ofStruct (decl : StructDecl) (e : Expr) : .expr e ∉ ofStruct decl := by
  simp [ofStruct, not_mem_ofType]

theorem not_mem_ofEnum (decl : EnumDecl) (e : Expr) : .expr e ∉ ofEnum decl := by
  simp [ofEnum, not_mem_ofType]

end Outline

mutual

theorem covers_expr : (e : Expr) → Covers (.expr e) (ofExpr e)
  | .identifier name span => by rw [ofExpr]; exact .self .nil
  | .int value span => by rw [ofExpr]; exact .self .nil
  | .string value span => by rw [ofExpr]; exact .self .nil
  | .bool value span => by rw [ofExpr]; exact .self .nil
  | .interpolated parts raw span => by
    rw [ofExpr]
    exact .self (.enter fun c => ⟨_, .interpolated, covers_parts parts⟩)
  | .binary op left right span => by
    rw [ofExpr, List.cons_append]
    exact .self (.append (.enter fun c => ⟨_, .left, covers_expr left⟩)
      (.enter fun c => ⟨_, .right, covers_expr right⟩))
  | .unary op operand span => by
    rw [ofExpr]
    exact .self (.enter fun c => ⟨_, .operand, covers_expr operand⟩)
  | .call callee args span => by
    rw [ofExpr, List.cons_append]
    exact .self (.append (.enter fun c => ⟨_, .callee, covers_expr callee⟩)
      (.enter fun c => ⟨_, .args, covers_args args⟩))
  | .conditional k => by
    rw [ofExpr]
    exact .self (.enter fun c => ⟨_, .conditional, covers_conditional k⟩)
  | .matching m => by
    rw [ofExpr]
    exact .self (.enter fun c => ⟨_, .matching, covers_match true m⟩)
  | .construct struct fields span => by
    rw [ofExpr]
    refine .self (.enter fun c => ?_)
    cases found : c.registry.structs.get? struct with
    | none => exact ⟨_, .literalOfUnknown found, covers_fieldValues fields⟩
    | some declared => exact ⟨_, .literalOfStruct found, covers_fields struct declared [] fields⟩
  | .update target fields span => by
    rw [ofExpr, List.cons_append]
    refine .self (.append (.enter fun c => ⟨_, .target, covers_expr target⟩) (.enter fun c => ?_))
    by_cases typed : ∃ struct, (result (visitExpr target) c).ty = .struct struct
    · rcases typed with ⟨struct, typed⟩
      cases found : (after (visitExpr target) c).registry.structs.get? struct with
      | none => exact ⟨_, .updateOfUnknown typed found, covers_fieldValues fields⟩
      | some declared =>
        exact ⟨_, .updateOfStruct typed found, covers_fields struct declared [] fields⟩
    · exact ⟨_, .updateOfOther (fun struct same => typed ⟨struct, same⟩),
        covers_fieldValues fields⟩
  | .variant enum variant field payload span => by
    rw [ofExpr]
    refine .self (.enter fun c => ?_)
    cases found : c.registry.enums.get? enum with
    | none => exact ⟨_, .payloadOfUnknownEnum found, covers_optional payload⟩
    | some variants =>
      cases known : variants.get? variant with
      | none => exact ⟨_, .payloadOfUnknownVariant found known, covers_optional payload⟩
      | some declared => exact ⟨_, .payloadOfVariant found known, covers_optional payload⟩
  | .block b => by
    rw [ofExpr]
    exact .self (.enter fun c => ⟨_, .block, covers_block true b⟩)

theorem covers_optional : (e : Option Expr) → Covers (.optional e) (ofOptional e)
  | none => by rw [ofOptional]; exact .nil
  | some e => by rw [ofOptional]; exact .enter fun c => ⟨_, .optional, covers_expr e⟩

theorem covers_parts : (parts : List Part) → Covers (.parts parts) (ofParts parts)
  | [] => by rw [ofParts]; exact .nil
  | .text value span :: rest => by
    rw [ofParts, ofPart]
    exact .other (by nofun) (.enter fun c => ⟨_, .behindText, covers_parts rest⟩)
  | .embedded e span :: rest => by
    rw [ofParts, ofPart]
    exact .append (.other (by nofun) (.enter fun c => ⟨_, .embedded, covers_expr e⟩))
      (.enter fun c => ⟨_, .behindEmbedded, covers_parts rest⟩)

theorem covers_args : (args : List Expr) → Covers (.args args) (ofExprs args)
  | [] => by rw [ofExprs]; exact .nil
  | e :: rest => by
    rw [ofExprs]
    exact .append (.enter fun c => ⟨_, .firstArg, covers_expr e⟩)
      (.enter fun c => ⟨_, .moreArgs, covers_args rest⟩)

theorem covers_printed : (args : List Expr) → Covers (.printed args) (ofExprs args)
  | [] => by rw [ofExprs]; exact .nil
  | e :: rest => by
    rw [ofExprs]
    exact .append (.enter fun c => ⟨_, .firstPrinted, covers_expr e⟩)
      (.enter fun c => ⟨_, .morePrinted, covers_printed rest⟩)

theorem covers_fieldValues : (fields : List FieldInit) →
    Covers (.fieldValues fields) (ofFieldInits fields)
  | [] => by rw [ofFieldInits]; exact .nil
  | ⟨name, value, span⟩ :: rest => by
    rw [ofFieldInits, ofFieldInit]
    exact .append (.other (by nofun) (.enter fun c => ⟨_, .firstValue, covers_expr value⟩))
      (.enter fun c => ⟨_, .moreValues, covers_fieldValues rest⟩)

theorem covers_fields (struct : String) (declared : Fields) (given : List String) :
    (fields : List FieldInit) →
      Covers (.fields struct declared given fields) (ofFieldInits fields)
  | [] => by rw [ofFieldInits]; exact .nil
  | ⟨name, value, span⟩ :: rest => by
    rw [ofFieldInits, ofFieldInit]
    exact .append (.other (by nofun) (.enter fun c => ⟨_, .firstField, covers_expr value⟩))
      (.enter fun c => ⟨_, .moreFields, covers_fields struct declared (name :: given) rest⟩)

theorem covers_conditional : (k : Conditional) → Covers (.conditional k) (ofConditional k)
  | ⟨initializer, condition, consequence, alternative, span⟩ => by
    rw [ofConditional]
    exact .append (.append (.append
      (.enter fun c => ⟨_, .initializer, covers_initializer initializer⟩)
      (.enter fun c => ⟨_, .condition, covers_expr condition⟩))
      (.enter fun c => ⟨_, .consequence, covers_block true consequence⟩))
      (.enter fun c => ⟨_, .alternative, covers_otherwise alternative⟩)

theorem covers_initializer : (decl : Option VarDecl) →
    Covers (.initializer decl) (ofInitializer decl)
  | none => by rw [ofInitializer]; exact .nil
  | some decl => by
    rw [ofInitializer]
    exact .enter fun c => ⟨_, .initialized, covers_var Flags.inner decl⟩

theorem covers_otherwise : (alternative : Otherwise) →
    Covers (.otherwise alternative) (ofOtherwise alternative)
  | .block b => by
    rw [ofOtherwise]
    exact .other (by nofun) (.enter fun c => ⟨_, .otherwise, covers_block true b⟩)
  | .elseIf k => by
    rw [ofOtherwise]
    exact .other (by nofun) (.enter fun c => ⟨_, .elseIf, covers_conditional k⟩)

theorem covers_match (valued : Bool) : (m : Match) → Covers (.matching valued m) (ofMatch m)
  | ⟨value, arms, span⟩ => by
    rw [ofMatch]
    exact .append (.enter fun c => ⟨_, .matched, covers_expr value⟩)
      (.enter fun c => ⟨_, .arms, covers_arms valued _ arms⟩)

theorem covers_arms (valued : Bool) (enum? : Option String) : (arms : List Arm) →
    Covers (.arms valued enum? arms) (ofArms arms)
  | [] => by rw [ofArms]; exact .nil
  | arm :: rest => by
    rw [ofArms]
    exact .append (.enter fun c => ⟨_, .firstArm, covers_arm valued enum? arm⟩)
      (.enter fun c => ⟨_, .moreArms, covers_arms valued enum? rest⟩)

theorem covers_arm (valued : Bool) (enum? : Option String) : (arm : Arm) →
    Covers (.arm valued enum? arm) (ofArm arm)
  | ⟨pattern, guard, body, span⟩ => by
    rw [ofArm, List.cons_append, List.cons_append]
    exact .other (by nofun) (.append (.append
      (.enter fun c => ⟨_, .pattern, covers_pattern enum? pattern⟩)
      (.enter fun c => ⟨_, .guard, covers_optional guard⟩))
      (.enter fun c => ⟨_, .armBody, covers_expr body⟩))

theorem covers_pattern (enum? : Option String) : (pattern : Pattern) →
    Covers (.pattern enum? pattern) (ofPattern pattern)
  | .wildcard span => by rw [ofPattern]; exact .other (by nofun) .nil
  | .literal value span => by
    rw [ofPattern]
    exact .other (by nofun) (.enter fun c => ⟨_, .literal, covers_expr value⟩)
  | .variant enum variant field binding span => by
    rw [ofPattern]
    exact .other (by nofun) .nil

theorem covers_block (valued : Bool) : (b : Block) → Covers (.block valued b) (ofBlock b)
  | ⟨body, span⟩ => by
    rw [ofBlock]
    exact .other (by nofun) (.enter fun c => ⟨_, .body, covers_stmts valued {} body⟩)

theorem covers_stmts (valued : Bool) (progress : Progress) : (stmts : List Stmt) →
    Covers (.stmts valued progress stmts) (ofStmts stmts)
  | [] => by rw [ofStmts]; exact .nil
  | stmt :: rest => by
    rw [ofStmts]
    cases stopped : progress.alwaysReturns with
    | false =>
      exact .append (.enter fun c => ⟨_, .live stopped, covers_stmt _ stmt⟩)
        (.enter fun c => ⟨_, .behindLive stopped rfl, covers_stmts valued _ rest⟩)
    | true =>
      exact .append (.enter fun c => ⟨_, .dead stopped, covers_stmt _ stmt⟩)
        (.enter fun c => ⟨_, .behindDead stopped, covers_stmts valued progress rest⟩)

theorem covers_stmt (place : Place) : (stmt : Stmt) → Covers (.stmt place stmt) (ofStmt stmt)
  | .struct decl => by rw [ofStmt]; exact .of_none (not_mem_ofStruct decl)
  | .enum decl => by rw [ofStmt]; exact .of_none (not_mem_ofEnum decl)
  | .imports i => by rw [ofStmt]; exact .other (by nofun) .nil
  | .var decl => by
    rw [ofStmt]
    exact .enter fun c => ⟨_, .var, covers_var _ decl⟩
  | .function signature body => by
    rw [ofStmt]
    exact .append (.of_none (not_mem_ofSignature signature))
      (.enter fun c => ⟨_, .function, covers_block _ body⟩)
  | .print raw args span => by
    rw [ofStmt]
    exact .other (by nofun) (.enter fun c => ⟨_, .printed, covers_printed args⟩)
  | .returns value span => by
    rw [ofStmt]
    refine .other (by nofun) (.enter fun c => ?_)
    by_cases outside : c.frames = []
    · exact ⟨_, .returnedOutside outside, covers_optional value⟩
    · exact ⟨_, .returned outside, covers_optional value⟩
  | .expr value span => by
    rw [ofStmt]
    refine .other (by nofun) ?_
    cases used : place.valued || value.isEffectful with
    | true => exact .enter fun c => ⟨_, .used used, covers_expr value⟩
    | false => exact .enter fun c => ⟨_, .useless used, covers_expr value⟩

theorem covers_var (flags : Flags) : (decl : VarDecl) → Covers (.var flags decl) (ofVar decl)
  | ⟨name, mutable, ascription, value, exported, span⟩ => by
    rw [ofVar, List.cons_append]
    exact .other (by nofun) (.append (.of_none (not_mem_ofType ascription))
      (.enter fun c => ⟨_, .initial, covers_expr value⟩))

end

theorem covers_topLevel (stmts : List Stmt) : Covers (.topLevel stmts) (ofStmts stmts) := by
  induction stmts with
  | nil => rw [ofStmts]; exact .nil
  | cons stmt rest ih =>
    rw [ofStmts]
    exact .append (.enter fun c => ⟨_, .first, covers_stmt _ stmt⟩)
      (.enter fun c => ⟨_, .others, ih⟩)

end ModuleCheck

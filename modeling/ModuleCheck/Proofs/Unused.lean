import ModuleCheck.Proofs.Entries
import ModuleCheck.Proofs.Resolution

namespace ModuleCheck

/-!
Reports on unused declarations.

By the time a scope closes, its names carry the marks of the occurrences that resolve to them,
so a declaration is reported exactly if nothing resolves to it.  Functions are stored twice,
ahead of the visit of their block and again by their own visit, which keeps the marks in
between.
-/

namespace Checker

open Declaration

/-- The reports so far on declarations that are not used. -/
def unused (c : Checker) : List Diagnostic := Diagnostic.unusedNames c.diagnostics

/-- Between the two states the scopes of the given declarations were closed, and no others. -/
structure Accounts (c : Checker) (ds : List Declaration) (c' : Checker) : Prop where
  options : c'.options = c.options
  unused : c'.unused = c.unused ++ localReports c.options ds

variable {c c' c'' : Checker} {ds ds' : List Declaration}

theorem Accounts.trans (one : c.Accounts ds c') (two : c'.Accounts ds' c'') :
    c.Accounts (ds ++ ds') c'' where
  options := two.options.trans one.options
  unused := by
    rw [two.unused, one.unused, one.options, localReports_append, List.append_assoc]

theorem Quiet.accounts (quiet : c.Quiet c') : c.Accounts [] c' where
  options := quiet.options
  unused := by
    rcases quiet.reports with ⟨ds, plain, reported⟩
    simp [Checker.unused, reported, plain.unusedNames_eq, localReports, Declaration.reports]

instance : CumulativeOnNames Accounts where
  trans := Accounts.trans
  idle := fun idle => idle.quiet.accounts
  quiet := Quiet.accounts

/-- Quiet steps behind. -/
theorem Accounts.trail (one : c.Accounts ds c') (two : c'.Quiet c'') : c.Accounts ds c'' := by
  have both := one.trans two.accounts
  rwa [List.append_nil] at both

/-- A change of the open scopes reports nothing. -/
theorem Accounts.withEnvironment (one : c.Accounts ds c') (env : Environment) :
    c.Accounts ds { c' with environment := env } := ⟨one.options, one.unused⟩

/-- The entries of the innermost scope. -/
def entries (c : Checker) : List Entry := Scope.entries c.environment.current

/-- Between the two states the scopes of the given declarations were closed, and in the
innermost scope the given occurrences left their marks and the given entries were added. -/
structure Settles (c : Checker) (ds : List Declaration) (xs : List Occurrence)
    (added : List Entry) (c' : Checker) : Prop where
  accounts : c.Accounts ds c'
  entries : c'.entries = c.entries.map (Entry.mark (xs.map Occurrence.name)) ++ added

variable {xs ys : List Occurrence} {added further : List Entry}

theorem Uses.settles (uses : c.Uses xs c') (accounts : c.Accounts ds c') :
    c.Settles ds xs [] c' where
  accounts := accounts
  entries := by
    rw [Checker.entries, uses.environment, Environment.current_uses, Scope.entries_markAll,
      List.append_nil]
    rfl

theorem Quiet.settles (quiet : c.Quiet c') : c.Settles [] [] [] c' :=
  quiet.uses.settles quiet.accounts

theorem Settles.trans (one : c.Settles ds xs added c') (two : c'.Settles ds' ys further c'') :
    c.Settles (ds ++ ds') (xs ++ ys)
      (added.map (Entry.mark (ys.map Occurrence.name)) ++ further) c'' where
  accounts := one.accounts.trans two.accounts
  entries := by
    rw [two.entries, one.entries]
    simp [Entry.mark_mark]

/-- Declarations behind others. -/
theorem Settles.add (one : c.Settles ds xs added c') (two : c'.Settles [] [] further c'') :
    c.Settles ds xs (added ++ further) c'' := by
  have both := one.trans two
  simpa [Entry.mark_nil] using both

/-- Quiet steps in front. -/
theorem Settles.lead (one : c.Quiet c') (two : c'.Settles ds xs added c'') :
    c.Settles ds xs added c'' := one.settles.trans two

/-- Quiet steps behind. -/
theorem Settles.trail (one : c.Settles ds xs added c') (two : c'.Quiet c'') :
    c.Settles ds xs added c'' := by
  have both := one.add two.settles
  rwa [List.append_nil] at both

/-- Closing a scope whose entries are those of local declarations. -/
theorem Settles.exitScope {declared : List String}
    (inside : (Check.after Check.enterScope c).Settles ds xs added c')
    (resolves : (Check.after Check.enterScope c).Resolves ys declared c')
    (known : added = ds'.map Declaration.entry) (inner : ∀ d ∈ ds', d.binder.topLevel = false) :
    c.Accounts (ds ++ ds') (Check.after Check.exitScope c') := by
  have opened : c.Accounts ds c' := ⟨inside.accounts.options, inside.accounts.unused⟩
  have entries : c'.entries = ds'.map Declaration.entry := by
    rw [inside.entries, known]
    rfl
  refine opened.trans ?_
  rw [Check.after_exitScope resolves.pop?_eq, Scope.unusedLocals_of_entries entries inner]
  refine ⟨rfl, ?_⟩
  simp [Checker.unused, localReports, unusedNames_reports]

/-- The names are distinct and not stored in the innermost scope. -/
structure Fresh (c : Checker) (names : List String) : Prop where
  distinct : names.Nodup
  absent : ∀ name ∈ names, c.environment.current.contains name = false

theorem Fresh.behind {names declared : List String} (fresh : c.Fresh (declared ++ names))
    (resolves : c.Resolves xs declared c') : c'.Fresh names where
  distinct := (List.nodup_append.mp fresh.distinct).2.1
  absent := by
    intro name member
    have apart := (List.nodup_append.mp fresh.distinct).2.2
    rw [← Bool.not_eq_true, resolves.contains]
    rintro (stored | again)
    · rw [fresh.absent name (List.mem_append_right _ member)] at stored
      cases stored
    · exact apart name again name member rfl

/-- The functions among the statements are stored, perhaps with marks of use, and what the
statements introduce is new. -/
structure Ready (c : Checker) (topLevel : Bool) (stmts : List Stmt) : Prop where
  hoisted : ∀ b ∈ stmts.filterMap (Stmt.hoisted? topLevel),
    ∃ used, b.entry used ∈ c.entries ∧ (b.exported = true → used = true)
  fresh : c.Fresh (stmts.flatMap Stmt.introducedNames)

theorem contains_of_mem_entries {e : Entry} (member : e ∈ c.entries) :
    c.environment.current.contains e.name = true := by
  rw [Table.contains_iff, ← Scope.map_name_entries]
  exact List.mem_map_of_mem member

namespace Ready

variable {topLevel : Bool} {stmt : Stmt} {rest stmts : List Stmt}

theorem hoists (ready : c.Ready topLevel stmts) : c.Hoists stmts := by
  intro name member
  rw [← Stmt.map_name_hoisted? topLevel] at member
  rcases List.mem_map.mp member with ⟨b, declared, rfl⟩
  rcases ready.hoisted b declared with ⟨used, stored, _⟩
  exact contains_of_mem_entries stored

theorem first (ready : c.Ready topLevel (stmt :: rest)) : c.Ready topLevel [stmt] where
  hoisted := fun b member => ready.hoisted b (by
    simp only [List.filterMap_cons] at member ⊢
    split at member <;> simp_all)
  fresh := {
    distinct := by
      have distinct := ready.fresh.distinct
      simp_all [List.nodup_append]
    absent := fun name member => ready.fresh.absent name (by simp_all) }

/-- Behind a statement everything is ready for the next. -/
theorem behind (ready : c.Ready topLevel (stmt :: rest))
    (settles : c.Settles ds xs added c')
    (resolves : c.Resolves ys stmt.introducedNames c') : c'.Ready topLevel rest where
  hoisted := by
    intro b member
    rcases ready.hoisted b (by
      simp only [List.filterMap_cons]
      split <;> simp_all) with ⟨used, stored, exported⟩
    refine ⟨used || b.name ∈ xs.map Occurrence.name, ?_, fun out => by simp [exported out]⟩
    rw [settles.entries, ← Binder.mark_entry]
    exact List.mem_append_left _ (List.mem_map_of_mem stored)
  fresh := ready.fresh.behind resolves

theorem quiet (ready : c.Ready topLevel stmts) (quiet : c.Quiet c') : c'.Ready topLevel stmts := by
  have same : c'.entries = c.entries := by rw [Checker.entries, quiet.environment, Checker.entries]
  refine ⟨by rw [same]; exact ready.hoisted, ready.fresh.distinct, ?_⟩
  rw [quiet.environment]
  exact ready.fresh.absent

end Ready

/-- A statement and those behind it.  What the statement introduces takes its uses behind it,
and the names that were stored before are not introduced again. -/
theorem Settles.cons {topLevel : Bool} {stmt : Stmt} {rest : List Stmt}
    (ready : c.Ready topLevel (stmt :: rest))
    (one : c.Settles ds (free (Sites.ofStmt [] stmt))
      ((stmt.binders topLevel).map Binder.fresh) c')
    (two : c'.Settles ds' (free (Sites.ofStmts [] rest))
      ((Declarations.introduced topLevel rest).map Declaration.entry) c'') :
    c.Settles (ds ++ ds') (free (Sites.ofStmts [] (stmt :: rest)))
      ((Declarations.introduced topLevel (stmt :: rest)).map Declaration.entry) c'' where
  accounts := one.accounts.trans two.accounts
  entries := by
    -- On the entries in front of the statement, hiding what it introduces makes no difference.
    have kept : c.entries.map (Entry.mark ((free (Sites.ofStmt [] stmt) ++
          free (Sites.ofStmts [] rest)).map Occurrence.name)) =
        c.entries.map (Entry.mark ((free (Sites.ofStmts [] (stmt :: rest))).map
          Occurrence.name)) := by
      refine List.map_congr_left fun e member => ?_
      have other : e.name ∉ stmt.introducedNames := by
        intro again
        have absent := ready.fresh.absent e.name (List.mem_append_left _ again)
        rw [contains_of_mem_entries member] at absent
        cases absent
      refine Entry.mark_congr ?_
      simp only [Sites.free_cons, List.map_append, List.mem_append, mem_map_without other]
    rw [(one.trans two).entries, kept, Declarations.introduced, List.map_append, entries_inRegion]

end Checker

namespace Check

open Declaration

variable {ds ds' : List Declaration}

theorem accounts_useName (name : String) (span : Option Span) :
    Gains Checker.Accounts [] (useName name span) := by
  intro c
  cases bound : c.environment.lookup? name with
  | none =>
    rw [(useName_of_unbound bound span).2]
    refine ⟨rfl, ?_⟩
    simp [Checker.unused, Diagnostic.unusedNames, Diagnostic.error, Issue.isUnusedName,
      localReports, reports]
  | some binding =>
    rw [(useName_of_bound bound span).2]
    exact (Quiet.pure () c).accounts.withEnvironment _

/-! Declarations. -/

variable {c c' : Checker} {xs : List Occurrence}

theorem settles_declare {name : String} (ty : Ty) (flags : Flags) (span : Option Span)
    (absent : c.environment.current.contains name = false) :
    c.Settles [] [] [⟨name, flags.used, flags.topLevel, span⟩]
      (after (declare name ty flags span) c) where
  accounts := (Quiet.pure () c).accounts.withEnvironment _
  entries := by
    rw [after_declare, Checker.entries, Environment.declare, Scope.entries_insert absent]
    simp [Binding.declared, Binding.entry, Entry.mark_nil, Checker.entries]

theorem settles_declareImports {i : Import} (topLevel : Bool) (fresh : c.Fresh i.names) :
    c.Settles [] [] (((Stmt.imports i).binders topLevel).map Binder.fresh)
      (after (declareImports topLevel i.span i.names) c) := by
  rcases i with ⟨origin, names, span⟩
  induction names generalizing c with
  | nil => exact (Quiet.pure () c).settles
  | cons name rest ih =>
    have first := settles_declare .any (Flags.atLevel topLevel) (some span)
      (fresh.absent name List.mem_cons_self)
    exact first.add (ih (fresh.behind (resolves_declare name _ _ _ c)))

theorem settles_declareParams {params : List Param} {types : List Ty}
    (sameLength : params.length = types.length) (fresh : c.Fresh (params.map Param.name)) :
    c.Settles [] [] (params.map fun p => p.binder.fresh)
      (after (declareParams params types) c) := by
  induction params generalizing types c with
  | nil => exact (Quiet.pure () c).settles
  | cons param rest ih =>
    cases types with
    | nil => cases sameLength
    | cons ty others =>
      have first := settles_declare ty Flags.inner (some param.span)
        (fresh.absent param.name List.mem_cons_self)
      exact first.add (ih (Nat.succ.inj sameLength) (fresh.behind (resolves_declare _ _ _ _ c)))

theorem settles_hoist {stmts : List Stmt} (topLevel : Bool)
    (fresh : c.Fresh (stmts.filterMap Stmt.hoistedName?)) :
    c.Settles [] [] ((stmts.filterMap (Stmt.hoisted? topLevel)).map Binder.fresh)
      (after (hoist topLevel stmts) c) := by
  induction stmts generalizing c with
  | nil => exact (Quiet.pure () c).settles
  | cons stmt rest ih =>
    cases stmt with
    | function signature body =>
      have absent := fresh.absent signature.name List.mem_cons_self
      exact (settles_declare _ (Flags.ofExport topLevel signature.exported)
        (some signature.span) absent).add (ih (fresh.behind (resolves_declare _ _ _ _ c)))
    | _ => exact ih fresh

theorem settles_bindVariant {binding : Option String} (matched : Option String)
    (enum variant : String) (span : Span)
    (absent : ∀ name ∈ binding, c.environment.current.contains name = false) :
    c.Settles [] [] ((binding.toList.map fun name => Binder.inner name span).map Binder.fresh)
      (after (bindVariant matched enum variant binding span) c) := by
  have typed := (Idle.settle
    (Arms.among_bindingType c.registry matched enum variant binding.isSome span) c).quiet
  cases binding with
  | none => exact typed.settles
  | some name =>
    exact typed.settles.add (settles_declare _ Flags.inner (some span) (absent name rfl))

/-- A change of a type or a tag is nothing that is reported on. -/
theorem settles_modifyCurrent (name : String) (f : Binding → Binding)
    (same : ∀ name b, (f b).entry name = b.entry name) (c : Checker) :
    c.Settles [] [] [] { c with environment := c.environment.modifyCurrent name f } where
  accounts := (Quiet.pure () c).accounts.withEnvironment _
  entries := by
    have kept := Scope.entries_modify c.environment.current name same
    simpa [Checker.entries, Environment.modifyCurrent, Entry.mark_nil] using kept

theorem settles_tagLiteral (name : String) (value : Expr) (c : Checker) :
    c.Settles [] [] [] (after (tagLiteral name value) c) := by
  cases value with
  | variant enum _ _ _ _ =>
    exact settles_modifyCurrent name (fun b => { b with enumTag := some enum }) (fun _ _ => rfl) c
  | _ => exact (Quiet.pure () c).settles

theorem entry_withResult (result : Ty) (name : String) (b : Binding) :
    (withResult result b).entry name = b.entry name := by
  unfold withResult
  split <;> rfl

/-! Functions. -/

/-- The second time that a function is stored its entry stays as it is. -/
theorem settles_afterSignature {signature : Signature} {topLevel used : Bool}
    (stored : ⟨signature.name, used, topLevel, some signature.span⟩ ∈ c.entries)
    (exported : signature.exported = true → used = true) :
    c.Settles [] [] [] (afterSignature signature topLevel c) where
  accounts := (Quiet.reports signature c.registry c).accounts.withEnvironment _
  entries := by
    -- The flag of the new binding is put together from the export and the old mark.
    have kept : (signature.exported ||
        (c.environment.current.get? signature.name).any Binding.used) = used := by
      rw [Scope.any_used_of_mem stored]
      cases out : signature.exported with
      | false => rfl
      | true => exact (exported out).symm
    have again : (signature.binding c.registry
        ((c.environment.current.get? signature.name).any Binding.used) topLevel).entry
          signature.name ∈ Scope.entries c.environment.current := by
      rw [Binding.entry, Signature.binding, Binding.declared]
      dsimp only
      rw [kept]
      exact stored
    have same := Scope.entries_insert_again again
    simpa [afterSignature, Checker.entries, Environment.declare, Entry.mark_nil] using same

theorem settles_afterParams {signature : Signature} (topLevel : Bool)
    (distinct : (signature.params.map Param.name).Nodup) (c : Checker) :
    (after enterScope (afterSignature signature topLevel c)).Settles [] []
      (signature.params.map fun p => p.binder.fresh) (afterParams signature topLevel c) := by
  apply settles_declareParams
  · simp [Signature.paramTypes]
  · exact ⟨distinct, fun name _ => by simp [Environment.push, ← Table.isSome_get?]⟩

theorem accounts_afterBody {signature : Signature} {topLevel : Bool}
    (distinct : (signature.params.map Param.name).Nodup)
    (visited : (after (openFunction signature topLevel) c).Uses xs c')
    (accounted : (after (openFunction signature topLevel) c).Accounts ds c')
    (expected : Option Ty) (body : BlockOutcome) :
    (afterSignature signature topLevel c).Accounts
      (ds ++ signature.params.map fun p => p.binder.inRegion xs)
      (afterBody signature expected body c') := by
  have resolved := (resolves_body visited).trail
    (quiet_functionResult signature expected body c').resolves
  rw [after_openFunction_eq] at visited accounted
  have inside := (settles_afterParams topLevel distinct c).trans
    ((Quiet.pushFrame _ _).settles.trans (visited.settles accounted))
  have settled := inside.add (quiet_functionResult signature expected body c').settles
  refine settled.exitScope resolved ?_ ?_
  · simp [Binder.entry_inRegion]
  · exact List.forall_mem_map.mpr fun _ _ => rfl

/-- The visit of a function closes the scopes in its body and that of its parameters. -/
theorem settles_function {signature : Signature} {topLevel used : Bool}
    (stored : ⟨signature.name, used, topLevel, some signature.span⟩ ∈ c.entries)
    (exported : signature.exported = true → used = true)
    (distinct : (signature.params.map Param.name).Nodup)
    (visited : (after (openFunction signature topLevel) c).Uses xs c')
    (accounted : (after (openFunction signature topLevel) c).Accounts ds c')
    (expected : Option Ty) (body : BlockOutcome) :
    c.Settles (ds ++ signature.params.map fun p => p.binder.inRegion xs)
      (without (signature.params.map Param.name) xs) []
      (after (closeFunction signature expected body) c') := by
  have opened := settles_afterSignature stored exported
  have around := (uses_afterBody visited expected body).settles
    (accounts_afterBody distinct visited accounted expected body)
  rw [after_closeFunction]
  exact (opened.trans around).add (settles_modifyCurrent signature.name _ (entry_withResult _) _)

/-! Blocks. -/

theorem topLevel_introduced (topLevel : Bool) (stmts : List Stmt) :
    ∀ d ∈ Declarations.introduced topLevel stmts, d.binder.topLevel = topLevel := by
  induction stmts with
  | nil => simp [Declarations.introduced]
  | cons stmt rest ih =>
    rw [Declarations.introduced]
    refine List.forall_mem_append.mpr ⟨List.forall_mem_map.mpr fun b member => ?_, ih⟩
    cases stmt <;> simp_all [Stmt.binders, Binder.inRegion]
    all_goals grind

theorem topLevel_ofScope (topLevel : Bool) (stmts : List Stmt) :
    ∀ d ∈ Declarations.ofScope topLevel stmts, d.binder.topLevel = topLevel := by
  refine List.forall_mem_append.mpr ⟨List.forall_mem_map.mpr fun b member => ?_,
    topLevel_introduced topLevel stmts⟩
  rcases List.mem_filterMap.mp member with ⟨stmt, _, declared⟩
  cases stmt <;> simp_all [Stmt.hoisted?, Binder.inRegion]
  grind

theorem absent_enterScope (name : String) (c : Checker) :
    (after enterScope c).environment.current.contains name = false := by
  simp [Environment.push, ← Table.isSome_get?]

/-- Behind the declaration of its functions a block is ready for its statements. -/
theorem ready_hoist {stmts : List Stmt} (topLevel : Bool)
    (fresh : c.Fresh (stmts.filterMap Stmt.hoistedName? ++
      stmts.flatMap Stmt.introducedNames)) :
    c.Settles [] [] ((stmts.filterMap (Stmt.hoisted? topLevel)).map Binder.fresh)
        (after (hoist topLevel stmts) c) ∧
      (after (hoist topLevel stmts) c).Ready topLevel stmts := by
  have names : c.Fresh (stmts.filterMap Stmt.hoistedName?) :=
    ⟨(List.nodup_append.mp fresh.distinct).1, fun name member =>
      fresh.absent name (List.mem_append_left _ member)⟩
  have settled := settles_hoist topLevel names
  refine ⟨settled, fun b member => ⟨b.exported, ?_, id⟩,
    fresh.behind (resolves_hoist topLevel stmts c)⟩
  rw [settled.entries]
  exact List.mem_append_right _ (List.mem_map_of_mem member)

/-- The entries of a scope behind its statements are those of its declarations. -/
theorem entries_ofScope (topLevel : Bool) (stmts : List Stmt) :
    ((stmts.filterMap (Stmt.hoisted? topLevel)).map Binder.fresh).map
        (Entry.mark ((free (Sites.ofStmts [] stmts)).map Occurrence.name)) ++
      (Declarations.introduced topLevel stmts).map Declaration.entry =
    (Declarations.ofScope topLevel stmts).map Declaration.entry := by
  rw [Declarations.ofScope, List.map_append, entries_inRegion]

/-! The visits. -/

mutual

theorem visitExpr_accounts : (e : Expr) → Once (Outline.ofExpr e) →
    Gains Checker.Accounts (Declarations.ofExpr e) (visitExpr e)
  | .identifier name span, _ => by
    rw [visitExpr, Declarations.ofExpr]
    exact (accounts_useName name (some span)).trail fun _ => .pure _
  | .int .., _ | .string .., _ | .bool .., _ => by
    rw [visitExpr, Declarations.ofExpr]
    exact .idle (.pure _)
  | .interpolated parts raw span, once => by
    simp only [Outline.ofExpr, once_cons] at once
    rw [Declarations.ofExpr]
    exact (visitParts_accounts parts once.2).interpolated raw span
  | .binary op left right span, once => by
    simp only [Outline.ofExpr, once_cons, once_append] at once
    rw [Declarations.ofExpr]
    exact (visitExpr_accounts left once.1.2).binary (visitExpr_accounts right once.2) op span
  | .unary op operand span, once => by
    simp only [Outline.ofExpr, once_cons] at once
    rw [Declarations.ofExpr]
    exact (visitExpr_accounts operand once.2).unary op span
  | .call callee args span, once => by
    simp only [Outline.ofExpr, once_cons, once_append] at once
    rw [Declarations.ofExpr]
    exact (visitExpr_accounts callee once.1.2).call (visitArgs_accounts args once.2) span
  | .conditional k, once => by
    simp only [Outline.ofExpr, once_cons] at once
    rw [visitExpr, Declarations.ofExpr]
    exact visitConditional_accounts k once.2
  | .matching m, once => by
    simp only [Outline.ofExpr, once_cons] at once
    rw [Declarations.ofExpr]
    exact (visitMatch_accounts true m once.2).matching
  | .construct struct fields span, once => by
    simp only [Outline.ofExpr, once_cons] at once
    rw [Declarations.ofExpr]
    exact .construct (visitFieldValues_accounts fields once.2)
      (fun struct declared given => visitFields_accounts struct declared given fields once.2)
      struct span
  | .update target fields span, once => by
    simp only [Outline.ofExpr, once_cons, once_append] at once
    rw [Declarations.ofExpr]
    exact (visitExpr_accounts target once.1.2).update (visitFieldValues_accounts fields once.2)
      (fun struct declared given => visitFields_accounts struct declared given fields once.2) span
  | .variant enum variant payloadField payload span, once => by
    simp only [Outline.ofExpr, once_cons] at once
    rw [Declarations.ofExpr]
    exact (visitOptional_accounts payload once.2).variant enum variant payloadField span
  | .block b, once => by
    simp only [Outline.ofExpr, once_cons] at once
    rw [Declarations.ofExpr]
    exact (visitBlock_accounts true b once.2).block

theorem visitOptional_accounts : (e : Option Expr) → Once (Outline.ofOptional e) →
    Gains Checker.Accounts (Declarations.ofOptional e) (visitOptional e)
  | none, _ => by
    rw [visitOptional, Declarations.ofOptional]
    exact .idle (.pure _)
  | some e, once => by
    rw [Outline.ofOptional] at once
    rw [Declarations.ofOptional]
    exact (visitExpr_accounts e once).optional

theorem visitParts_accounts : (parts : List Part) → Once (Outline.ofParts parts) →
    Gains Checker.Accounts (Declarations.ofParts parts) (visitParts parts)
  | [], _ => by
    rw [visitParts, Declarations.ofParts]
    exact .idle (.pure _)
  | .text .. :: rest, once => by
    rw [Outline.ofParts, once_append] at once
    rw [visitParts, Declarations.ofParts]
    exact visitParts_accounts rest once.2
  | .embedded e span :: rest, once => by
    simp only [Outline.ofParts, Outline.ofPart, once_cons, once_append] at once
    rw [Declarations.ofParts]
    exact (visitExpr_accounts e once.1.2).embedded (visitParts_accounts rest once.2) span

theorem visitArgs_accounts : (args : List Expr) → Once (Outline.ofExprs args) →
    Gains Checker.Accounts (Declarations.ofExprs args) (visitArgs args)
  | [], _ => by
    rw [visitArgs, Declarations.ofExprs]
    exact .idle (.pure _)
  | e :: rest, once => by
    rw [Outline.ofExprs, once_append] at once
    rw [Declarations.ofExprs]
    exact (visitExpr_accounts e once.1).arg (visitArgs_accounts rest once.2)

theorem visitPrinted_accounts : (args : List Expr) → Once (Outline.ofExprs args) →
    Gains Checker.Accounts (Declarations.ofExprs args) (visitPrinted args)
  | [], _ => by
    rw [visitPrinted, Declarations.ofExprs]
    exact .idle (.pure _)
  | e :: rest, once => by
    rw [Outline.ofExprs, once_append] at once
    rw [Declarations.ofExprs]
    exact (visitExpr_accounts e once.1).printed (visitPrinted_accounts rest once.2)

theorem visitFieldValues_accounts : (fields : List FieldInit) →
    Once (Outline.ofFieldInits fields) →
      Gains Checker.Accounts (Declarations.ofFieldInits fields) (visitFieldValues fields)
  | [], _ => by
    rw [visitFieldValues, Declarations.ofFieldInits]
    exact .idle (.pure _)
  | ⟨name, value, span⟩ :: rest, once => by
    simp only [Outline.ofFieldInits, Outline.ofFieldInit, once_cons, once_append] at once
    rw [Declarations.ofFieldInits]
    exact (visitExpr_accounts value once.1.2).fieldValue (visitFieldValues_accounts rest once.2)
      name span

theorem visitFields_accounts (struct : String) (declared : Fields) (given : List String) :
    (fields : List FieldInit) → Once (Outline.ofFieldInits fields) →
      Gains Checker.Accounts (Declarations.ofFieldInits fields)
        (visitFields struct declared given fields)
  | [], _ => by
    rw [visitFields, Declarations.ofFieldInits]
    exact .idle (.pure _)
  | ⟨name, value, span⟩ :: rest, once => by
    simp only [Outline.ofFieldInits, Outline.ofFieldInit, once_cons, once_append] at once
    rw [Declarations.ofFieldInits]
    exact (visitExpr_accounts value once.1.2).field
      (visitFields_accounts struct declared (name :: given) rest once.2) span

theorem visitConditional_accounts : (k : Conditional) → Once (Outline.ofConditional k) →
    Gains Checker.Accounts (Declarations.ofConditional k) (visitConditional k)
  | ⟨initializer, condition, consequence, alternative, span⟩, once => by
    simp only [Outline.ofConditional, once_append] at once
    rcases once with ⟨⟨⟨atInitializer, atCondition⟩, atConsequence⟩, atAlternative⟩
    have branches := (visitExpr_accounts condition atCondition).branches
      (visitBlock_accounts true consequence atConsequence)
      (visitOtherwise_accounts alternative atAlternative) span
    rw [visitConditional_eq, Declarations.ofConditional]
    cases initializer with
    | none =>
      rw [visitInitializer, Declarations.ofInitializer, Option.toList_none, List.map_nil,
        List.append_nil, List.nil_append]
      exact .lead (.pure ()) fun _ => branches.trail fun _ => (Idle.pure ()).bind
        fun _ => .pure _
    | some decl =>
      intro c
      rw [Outline.ofInitializer] at atInitializer
      have uses := (visitExpr_uses condition).branches (visitBlock_uses true consequence)
        (visitOtherwise_uses alternative) span
      have opened := visitVar_settles Flags.inner decl atInitializer (after enterScope c)
        (absent_enterScope decl.name c)
      have resolved := (visitVar_resolves Flags.inner decl (after enterScope c)).trans
        (uses _).resolves
      rw [visitInitializer, Declarations.ofInitializer]
      refine (opened.trans ((uses _).settles (branches _))).exitScope resolved ?_ ?_
      · simp [Binder.entry_inRegion]
        rfl
      · simp [Binder.inRegion, Binder.inner]

theorem visitOtherwise_accounts : (alternative : Otherwise) →
    Once (Outline.ofOtherwise alternative) →
      Gains Checker.Accounts (Declarations.ofOtherwise alternative) (visitOtherwise alternative)
  | .block b, once => by
    simp only [Outline.ofOtherwise, once_cons] at once
    rw [Declarations.ofOtherwise]
    exact (visitBlock_accounts true b once.2).otherwise
  | .elseIf k, once => by
    simp only [Outline.ofOtherwise, once_cons] at once
    rw [visitOtherwise, Declarations.ofOtherwise]
    exact visitConditional_accounts k once.2

theorem visitMatch_accounts (valued : Bool) : (m : Match) → Once (Outline.ofMatch m) →
    Gains Checker.Accounts (Declarations.ofMatch m) (visitMatch valued m)
  | ⟨value, arms, span⟩, once => by
    rw [Outline.ofMatch, once_append] at once
    rw [Declarations.ofMatch]
    exact (visitExpr_accounts value once.1).arms
      (fun enum? => visitArms_accounts valued enum? arms once.2) span

theorem visitArms_accounts (valued : Bool) (enum? : Option String) : (arms : List Arm) →
    Once (Outline.ofArms arms) →
      Gains Checker.Accounts (Declarations.ofArms arms) (visitArms valued enum? arms)
  | [], _ => by
    rw [visitArms, Declarations.ofArms]
    exact .idle (.pure _)
  | arm :: rest, once => by
    rw [Outline.ofArms, once_append] at once
    rw [Declarations.ofArms]
    exact (visitArm_accounts valued enum? arm once.1).arm
      (visitArms_accounts valued enum? rest once.2)

theorem visitArm_accounts (valued : Bool) (enum? : Option String) : (arm : Arm) →
    Once (Outline.ofArm arm) →
      Gains Checker.Accounts (Declarations.ofArm arm) (visitArm valued enum? arm)
  | ⟨pattern, guard, body, span⟩, once => by
    simp only [Outline.ofArm, once_cons, once_append] at once
    rcases once with ⟨⟨⟨_, atPattern⟩, atGuard⟩, atBody⟩
    intro c
    have uses := (visitOptional_uses guard).guarded (visitExpr_uses body) valued
    have accounts := (visitOptional_accounts guard atGuard).guarded
      (visitExpr_accounts body atBody) valued
    have bound := visitPattern_settles enum? pattern atPattern (after enterScope c)
      fun name _ => absent_enterScope name c
    have resolved := (visitPattern_resolves enum? pattern (after enterScope c)).trans
      (uses _).resolves
    rw [visitArm_eq, Declarations.ofArm]
    refine (bound.trans ((uses _).settles (accounts _))).exitScope resolved ?_ ?_
    · rw [List.append_nil, entries_inRegion, List.map_append]
    · exact List.forall_mem_map.mpr (List.forall_mem_map.mpr fun _ _ => rfl)

theorem visitPattern_settles (enum? : Option String) : (pattern : Pattern) →
    Once (Outline.ofPattern pattern) → (c : Checker) →
    (∀ name ∈ pattern.boundNames, c.environment.current.contains name = false) →
      c.Settles (Declarations.ofPattern pattern) (free (Sites.ofPattern [] pattern))
        (pattern.binders.map Binder.fresh) (after (visitPattern enum? pattern) c)
  | .wildcard _, _, c, _ => by
    rw [visitPattern, Declarations.ofPattern, Sites.ofPattern]
    exact (Quiet.pure () c).settles
  | .literal value _, once, c, _ => by
    simp only [Outline.ofPattern, once_cons] at once
    rw [visitPattern, Declarations.ofPattern, Sites.ofPattern]
    exact (visitExpr_uses value c).settles (visitExpr_accounts value once.2 c)
  | .variant _ _ _ binding span, _, c, absent => by
    rw [visitPattern, Declarations.ofPattern, Sites.ofPattern]
    exact settles_bindVariant _ _ _ span fun name bound =>
      absent name (Option.mem_toList.mpr bound)

theorem visitBlock_accounts (valued : Bool) : (b : Block) → Once (Outline.ofBlock b) →
    Gains Checker.Accounts (Declarations.ofBlock b) (visitBlock valued b)
  | ⟨body, span⟩, once => by
    simp only [Outline.ofBlock, once_cons] at once
    intro c
    have fresh : (after enterScope c).Fresh (body.filterMap Stmt.hoistedName? ++
        body.flatMap Stmt.introducedNames) :=
      ⟨(perm_declaredNames body).nodup_iff.mp once.1, fun name _ => absent_enterScope name c⟩
    rcases ready_hoist false fresh with ⟨opened, ready⟩
    have visited := visitStmts_settles valued {} body once.2 _ ready
    have resolved := (resolves_hoist false body (after enterScope c)).trans
      (visitStmts_resolves valued {} body _ ready.hoists)
    have closed := (opened.trans visited).exitScope resolved (entries_ofScope false body)
      (topLevel_ofScope false body)
    rw [visitBlock, Declarations.ofBlock]
    exact closed.trail (Quiet.returnsSince _ _)

theorem visitStmts_settles (valued : Bool) (progress : Progress) : (stmts : List Stmt) →
    Once (Outline.ofStmts stmts) → (c : Checker) → c.Ready false stmts →
      c.Settles (Declarations.ofStmts stmts) (free (Sites.ofStmts [] stmts))
        ((Declarations.introduced false stmts).map Declaration.entry)
        (after (visitStmts valued progress stmts) c)
  | [], _, c, _ => by
    rw [visitStmts, Declarations.ofStmts, Sites.ofStmts]
    exact (Quiet.pure progress c).settles
  | stmt :: rest, once, c, ready => by
    rw [Outline.ofStmts, once_append] at once
    rw [visitStmts, Declarations.ofStmts]
    split
    -- A dead statement is visited like any other; only its returns are forgotten.
    · have reported : c.Quiet (after (error .unreachableStatement (some stmt.span)) c) :=
        Quiet.error rfl _ c
      have here := (ready.quiet reported).first
      have settled := Checker.Settles.lead reported
        (visitStmt_settles ⟨false, valued && rest.isEmpty⟩ stmt once.1 _ here)
      have resolved := reported.resolves.lead
        (visitStmt_resolves ⟨false, valued && rest.isEmpty⟩ stmt _ here.hoists)
      exact (settled.trail (Quiet.modifyReturns _ _)).cons ready
        (visitStmts_settles valued progress rest once.2 _
          ((ready.behind settled resolved).quiet (Quiet.modifyReturns _ _)))
    · have settled := visitStmt_settles ⟨false, valued && rest.isEmpty⟩ stmt once.1 c ready.first
      have resolved := visitStmt_resolves ⟨false, valued && rest.isEmpty⟩ stmt c
        ready.first.hoists
      exact settled.cons ready
        (visitStmts_settles valued _ rest once.2 _ (ready.behind settled resolved))

theorem visitStmt_settles (place : Place) : (stmt : Stmt) → Once (Outline.ofStmt stmt) →
    (c : Checker) → c.Ready place.topLevel [stmt] →
      c.Settles (Declarations.ofStmt stmt) (free (Sites.ofStmt [] stmt))
        ((stmt.binders place.topLevel).map Binder.fresh) (after (visitStmt place stmt) c)
  | .struct _, _, c, _ | .enum _, _, c, _ => by
    rw [visitStmt, Declarations.ofStmt, Sites.ofStmt]
    exact (Quiet.pure () c).settles
  | .imports i, _, c, ready => by
    rw [visitStmt, Declarations.ofStmt, Sites.ofStmt]
    have fresh := ready.fresh
    rw [List.flatMap_singleton] at fresh
    exact settles_declareImports place.topLevel fresh
  | .var decl, once, c, ready => by
    rw [Outline.ofStmt] at once
    rw [visitStmt, Declarations.ofStmt, Sites.ofStmt]
    exact visitVar_settles (Flags.ofExport place.topLevel decl.exported) decl once c
      (ready.fresh.absent decl.name List.mem_cons_self)
  | .function signature body, once, c, ready => by
    simp only [Outline.ofStmt, once_append] at once
    have distinct := once.1 (.function signature) (by simp [Outline.ofSignature])
    rcases ready.hoisted _ List.mem_cons_self with ⟨used, stored, exported⟩
    rw [visitStmt, Declarations.ofStmt, Sites.free_function]
    exact settles_function stored exported distinct (visitBlock_uses _ body _)
      (visitBlock_accounts _ body once.2 _) _ _
  | .print _ args _, once, c, _ => by
    simp only [Outline.ofStmt, once_cons] at once
    rw [visitStmt, Declarations.ofStmt, Sites.ofStmt]
    exact (visitPrinted_uses args c).settles (visitPrinted_accounts args once.2 c)
  | .returns value span, once, c, _ => by
    simp only [Outline.ofStmt, once_cons] at once
    rw [Declarations.ofStmt, Sites.ofStmt]
    exact ((visitOptional_uses value).returned place span c).settles
      ((visitOptional_accounts value once.2).returned place span c)
  | .expr value span, once, c, _ => by
    simp only [Outline.ofStmt, once_cons] at once
    rw [Declarations.ofStmt, Sites.ofStmt]
    exact ((visitExpr_uses value).stated place span c).settles
      ((visitExpr_accounts value once.2).stated place span c)

theorem visitVar_settles (flags : Flags) : (decl : VarDecl) → Once (Outline.ofVar decl) →
    (c : Checker) → c.environment.current.contains decl.name = false →
      c.Settles (Declarations.ofVar decl) (free (Sites.ofVar [] decl))
        [⟨decl.name, flags.used, flags.topLevel, some decl.span⟩] (after (visitVar flags decl) c)
  | ⟨name, _, ascription, value, _, span⟩, once, c, absent => by
    simp only [Outline.ofVar, once_cons, once_append] at once
    have looked := (visitExpr_uses value).initial name ascription span c
    have typed := looked.settles ((visitExpr_accounts value once.2).initial name ascription span c)
    have free : (after (visitInitial name ascription value span) c).environment.current.contains
        name = false := by
      rw [looked.environment, Environment.current_uses, Scope.contains_markAll, absent]
    rw [visitVar_eq, Declarations.ofVar, Sites.ofVar]
    exact (typed.add (settles_declare _ flags (some span) free)).add
      (settles_tagLiteral name value _)

end

theorem visitTopLevel_settles (stmts : List Stmt) (once : Once (Outline.ofStmts stmts))
    (c : Checker) (ready : c.Ready true stmts) :
    c.Settles (Declarations.ofStmts stmts) (free (Sites.ofStmts [] stmts))
      ((Declarations.introduced true stmts).map Declaration.entry)
      (after (visitTopLevel stmts) c) := by
  induction stmts generalizing c with
  | nil =>
    rw [Declarations.ofStmts, Sites.ofStmts]
    exact (Quiet.pure () c).settles
  | cons stmt rest ih =>
    rw [Outline.ofStmts, once_append] at once
    have settled := visitStmt_settles ⟨true, false⟩ stmt once.1 c ready.first
    have resolved := visitStmt_resolves ⟨true, false⟩ stmt c ready.first.hoists
    rw [Declarations.ofStmts]
    exact settled.cons ready (ih once.2 _ (ready.behind settled resolved))

end Check

namespace Module

open Check Declaration

/-- Behind the visit of a module its scopes are accounted for, and the entries of the global
scope are those of its own declarations. -/
theorem settles_visit {m : Module} (once : m.DeclaresOnce) (options : Options) :
    (Checker.fresh options).Accounts (Declarations.ofStmts m.body) (m.visit options).finish ∧
      (m.visit options).finish.entries =
        (Declarations.ofScope true m.body).map Declaration.entry := by
  rcases once_cons.mp once with ⟨distinct, inside⟩
  have registered := Quiet.register m.body (Checker.fresh options)
  have fresh : (after (register m.body) (Checker.fresh options)).Fresh
      (m.body.filterMap Stmt.hoistedName? ++ m.body.flatMap Stmt.introducedNames) := by
    refine ⟨(perm_declaredNames m.body).nodup_iff.mp distinct, fun name _ => ?_⟩
    rw [registered.environment, ← Table.isSome_get?]
    simp [Checker.fresh, Environment.empty]
  rcases ready_hoist true fresh with ⟨opened, ready⟩
  have visited := opened.trans (visitTopLevel_settles m.body inside _ ready)
  have whole := Checker.Settles.lead registered visited
  refine ⟨whole.accounts, ?_⟩
  rw [← entries_ofScope]
  exact whole.entries

/-- With the default options, the ignored names are those that begin with an underscore. -/
theorem isIgnored_default (name : String) :
    Options.isIgnored {} name = (name.toList.head? == some '_') := by
  have underscore : ({} : Options).ignoredPrefix.toList = ['_'] := by decide
  have nonempty : ({} : Options).ignoredPrefix ≠ "" := by decide
  rw [Bool.eq_iff_iff, Options.isIgnored_iff, underscore, and_iff_right nonempty]
  cases name.toList with
  | nil => simp
  | cons first rest => simp [eq_comm (a := '_')]

/-- The reports of a check on unused declarations, those on the local ones first. -/
theorem unusedNames_check {m : Module} (once : m.DeclaresOnce) (options : Options) :
    Diagnostic.unusedNames (m.check options) =
      localReports options (Declarations.ofStmts m.body) ++
        if options.warnUnusedTopLevel then reports options (Declarations.ofScope true m.body)
        else [] := by
  rcases settles_visit once options with ⟨accounts, known⟩
  have outer := topLevel_ofScope true m.body
  have scope := Scope.unusedTopLevel_of_entries known outer options
  have inner := Scope.unusedLocals_eq_nil known outer options
  have same : (m.visit options).finish.options = options := accounts.options
  have seen : Diagnostic.unusedNames (m.visit options).finish.diagnostics =
      localReports options (Declarations.ofStmts m.body) := accounts.unused
  rw [check, checked_eq]
  simp only [reportUnusedLocals, warnUnusedTopLevel, after_bind, result_get, after_get,
    after_emit, same, Diagnostic.unusedNames_append, seen, inner, scope, unusedNames_reports]
  simp [Diagnostic.unusedNames]

/-- Reports on unused declarations are exact where no scope declares a name twice: in the order
in which the scopes end, a declaration is reported at its place exactly if nothing resolves to
it, it is not exported and its name does not begin with an underscore, as an error if it is
local and as a warning at top level, and nothing else is reported as unused.  The declarations
are all that the module declares, and every occurrence of a name is free in the module or
resolves to one declaration of that name. -/
theorem unusedNames_exact (m : Module) (once : m.DeclaresOnce) :
    Diagnostic.unusedNames (m.check {}) =
      (m.declarations.filter fun d => d.uses.isEmpty && !d.binder.exported &&
        d.binder.name.toList.head? != some '_').map Declaration.report ∧
    ((Outline.ofModule m).flatMap Node.declares).Perm
      (m.declarations.map fun d => (d.binder.name, d.binder.span)) ∧
    (Outline.occurrences (Outline.ofModule m)).Perm
      (free (Sites.ofModule m) ++ m.declarations.flatMap Declaration.uses) ∧
    (∀ d ∈ m.declarations, ∀ o ∈ d.uses, o.name = d.binder.name) := by
  have tallies := Module.tallies once
  refine ⟨?_, by simpa [Function.comp_def, Binder.key] using tallies.declared,
    tallies.occurrences, tallies.named⟩
  rw [unusedNames_check once {}]
  change reports {} _ ++ reports {} _ = _
  rw [← reports_append, reports]
  simp [isIgnored_default, isUnused, Module.declarations, bne]

/-- A variable whose name is used only where another declaration hides it, next to a function
that is called ahead of its declaration, an unused parameter and an unused import. -/
theorem unusedNames_exact_hidden :
    let place (n : Nat) : Span := ⟨n, n, "hidden"⟩
    let use (name : String) (n : Nat) : Expr := .identifier name (place n)
    let var (name : String) (value : Expr) (n : Nat) : Stmt :=
      .var ⟨name, false, none, value, false, place n⟩
    let inner : Stmt := .function ⟨"inner", [⟨"_p", none, place 7⟩], none, false, place 6⟩
      ⟨[var "x" (use "a" 9) 8, .returns (some (use "x" 10)) (place 10)], place 6⟩
    let outer : Stmt :=
      .function ⟨"outer", [⟨"p", none, place 2⟩, ⟨"q", none, place 3⟩], none, true, place 1⟩
        ⟨[var "x" (.call (use "inner" 5) [use "p" 5] (place 5)) 4, inner], place 1⟩
    let m : Module := ⟨[.imports ⟨"origin", ["a", "b"], place 0⟩, outer]⟩
    m.DeclaresOnce ∧
      Diagnostic.unusedNames (m.check {}) =
        [.error (.unusedVariable "x") (some (place 4)),
          .error (.unusedVariable "q") (some (place 3)),
          .warn (.unusedTopLevel "b") (some (place 0))] ∧
      (Outline.occurrences (Outline.ofModule m)).Perm
        (m.declarations.flatMap Declaration.uses) := by
  intro place use var inner outer m
  have once : m.DeclaresOnce := by decide +kernel
  have closed : free (Sites.ofModule m) = [] := by decide +kernel
  rcases unusedNames_exact m once with ⟨reported, _, resolved, _⟩
  rw [closed] at resolved
  exact ⟨once, reported.trans (by decide +kernel), resolved⟩

end Module

end ModuleCheck

import ModuleCheck.Checker.Arms
import ModuleCheck.Checker.Basic
import ModuleCheck.Checker.Rules
import ModuleCheck.Checker.Run
import ModuleCheck.Checker.Visit
import ModuleCheck.Diagnostic
import ModuleCheck.Environment
import ModuleCheck.Issue
import ModuleCheck.Options
import ModuleCheck.Registry
import ModuleCheck.Report.Graphical
import ModuleCheck.Report.Plain
import ModuleCheck.Reported
import ModuleCheck.Scope
import ModuleCheck.Source.Line
import ModuleCheck.Source.Span
import ModuleCheck.Table
import ModuleCheck.Table.Lemmas
import ModuleCheck.Text.Alphanumeric
import ModuleCheck.Text.Blank
import ModuleCheck.Text.BreakClass
import ModuleCheck.Text.Columns
import ModuleCheck.Text.Escape
import ModuleCheck.Text.LineBreak
import ModuleCheck.Text.Range
import ModuleCheck.Text.Wrap
import ModuleCheck.Tree.Basic
import ModuleCheck.Tree.Exports
import ModuleCheck.Tree.Operator
import ModuleCheck.Tree.Outline
import ModuleCheck.Ty.Basic
import ModuleCheck.Ty.Compatible
import ModuleCheck.Ty.Join
import ModuleCheck.Proofs.Runs
import ModuleCheck.Proofs.Frame
import ModuleCheck.Proofs.Passage
import ModuleCheck.Proofs.Safety
import ModuleCheck.Proofs.Nominal
import ModuleCheck.Proofs.Errors
import ModuleCheck.Proofs.Invariant
import ModuleCheck.Proofs.Joining
import ModuleCheck.Proofs.Rules
import ModuleCheck.Proofs.Exhaustive
import ModuleCheck.Proofs.Selection
import ModuleCheck.Proofs.Typing
import ModuleCheck.Proofs.Contexts
import ModuleCheck.Proofs.Coverage
import ModuleCheck.Proofs.Soundness
import ModuleCheck.Proofs.Live
import ModuleCheck.Proofs.Returns
import ModuleCheck.Proofs.ControlFlow
import ModuleCheck.Proofs.DeadCode
import ModuleCheck.Proofs.Footprint
import ModuleCheck.Proofs.Marks
import ModuleCheck.Proofs.Origins
import ModuleCheck.Proofs.NameReports
import ModuleCheck.Proofs.Gains
import ModuleCheck.Proofs.Scoping
import ModuleCheck.Proofs.Resolution
import ModuleCheck.Proofs.Bindings
import ModuleCheck.Proofs.Entries
import ModuleCheck.Proofs.Unused
import ModuleCheck.Proofs.Reached
import ModuleCheck.Proofs.Faces
import ModuleCheck.Proofs.InferredTypes
import ModuleCheck.Proofs.Relabel
import ModuleCheck.Proofs.Correspondence
import ModuleCheck.Proofs.Lockstep
import ModuleCheck.Proofs.Filtering
import ModuleCheck.Proofs.Labels
import ModuleCheck.Proofs.Remarks
import ModuleCheck.Proofs.Registration
import ModuleCheck.Proofs.Registered
import ModuleCheck.Proofs.Ascriptions
import ModuleCheck.Proofs.Alike
import ModuleCheck.Proofs.Surroundings
import ModuleCheck.Proofs.Transparency
import ModuleCheck.Proofs.FieldInits
import ModuleCheck.Proofs.TypeOrder
import ModuleCheck.Proofs.FunctionOrder
import ModuleCheck.Proofs.CommonTypes
import ModuleCheck.Proofs.Consistency
import ModuleCheck.Proofs.History
import ModuleCheck.Proofs.Findings
import ModuleCheck.Proofs.Levels
import ModuleCheck.Proofs.Warnings
import ModuleCheck.Proofs.Lines
import ModuleCheck.Proofs.Pointing
import ModuleCheck.Proofs.Exports
import ModuleCheck.Proofs.TypeTexts
import ModuleCheck.Proofs.Mismatches
import ModuleCheck.Proofs.Carets
import ModuleCheck.Proofs.Edits

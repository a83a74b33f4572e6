import CppTemplates.Interner
import CppTemplates.Program.TemplateInstance
import CppTemplates.ConfigurationFile
import CppTemplates.Frontend
import CppTemplates.Proofs.Evaluation.CycleGuard
import CppTemplates.Proofs.Literal.Grammar
import CppTemplates.Proofs.Literal.RoundTrip
import CppTemplates.Proofs.Literal.Characters
import CppTemplates.Proofs.Program.Growth
import CppTemplates.Proofs.Tree.Extension
import CppTemplates.Proofs.Evaluation.Growth
import CppTemplates.Proofs.Evaluation.SkippedOperands
import CppTemplates.Proofs.Instantiation.Injection
import CppTemplates.Proofs.Program.ClassTemplates
import CppTemplates.Proofs.Instantiation.BoundInstance
import CppTemplates.Proofs.Instantiation.PassiveRun
import CppTemplates.Proofs.Instantiation.ArgumentBinding
import CppTemplates.Proofs.Evaluation.Reification
import CppTemplates.Proofs.Instantiation.Substitution
import CppTemplates.Proofs.Instantiation.Watching
import CppTemplates.Proofs.Instantiation.Contracts
import CppTemplates.Proofs.Instantiation.SingleBuild
import CppTemplates.Proofs.Program.Declarations
import CppTemplates.Proofs.Instantiation.Dialogue
import CppTemplates.Proofs.Instantiation.Erasure
import CppTemplates.Proofs.Instantiation.History
import CppTemplates.Proofs.Instantiation.HistorySteps
import CppTemplates.Proofs.Instantiation.HistoryPath
import CppTemplates.Proofs.Instantiation.Books
import CppTemplates.Proofs.Instantiation.Discipline
import CppTemplates.Proofs.Instantiation.FunctionBuilds
import CppTemplates.Proofs.Instantiation.Sparing
import CppTemplates.Proofs.Instantiation.ClassOrder
import CppTemplates.Proofs.Instantiation.InstanceNames
import CppTemplates.Proofs.Program.Lookup
import CppTemplates.Proofs.Program.Extension
import CppTemplates.Proofs.Evaluation.Stability
import CppTemplates.Proofs.Evaluation.Seclusion
import CppTemplates.Proofs.Evaluation.Copies
import CppTemplates.Proofs.Instantiation.Upkeep
import CppTemplates.Proofs.Program.SymbolTable
import CppTemplates.Proofs.Instantiation.SymbolTableRuns
import CppTemplates.Proofs.Instantiation.Frame
import CppTemplates.Proofs.Program.Seclusion
import CppTemplates.Proofs.Program.Templates
import CppTemplates.Proofs.Instantiation.TemplateRuns
import CppTemplates.Proofs.Program.Matching
import CppTemplates.Proofs.Instantiation.Memoisation
import CppTemplates.Proofs.Evaluation.Viewpoint
import CppTemplates.Proofs.Instantiation.SharedInstances
import CppTemplates.Proofs.Program.ScopeChains
import CppTemplates.Proofs.Program.Contexts
import CppTemplates.Proofs.Instantiation.ContextOperations
import CppTemplates.Proofs.Instantiation.ContextRuns
import CppTemplates.Proofs.Instantiation.Switches
import CppTemplates.Proofs.Instantiation.Maturity
import CppTemplates.Proofs.Instantiation.TruthfulRecord
import CppTemplates.Proofs.Instantiation.Seclusion
import CppTemplates.Proofs.Instantiation.Attempts
import CppTemplates.Proofs.Instantiation.ParameterResults
import CppTemplates.Proofs.Instantiation.Commutation
import CppTemplates.Proofs.Evaluation.Nesting
import CppTemplates.Proofs.Value.Kinds
import CppTemplates.Proofs.Value.Promotion
import CppTemplates.Proofs.Value.Arithmetic
import CppTemplates.Proofs.Value.UnaryOperators
import CppTemplates.Proofs.Program.QualifiedNames
import CppTemplates.Proofs.Evaluation.Faults
import CppTemplates.Proofs.Tree.FreshCopies
import CppTemplates.Proofs.Instantiation.SingleInjection
import CppTemplates.Proofs.Instantiation.DeductionOrder
import CppTemplates.Proofs.Instantiation.FailedClasses
import CppTemplates.Proofs.Program.TypedefTransparency
import CppTemplates.Proofs.Instantiation.TypedefRequests
import CppTemplates.Proofs.Frontend.Reports
import CppTemplates.Proofs.Program.SelfNaming
import CppTemplates.Proofs.Program.CandidateLists
import CppTemplates.Proofs.Instantiation.OlderScopes
import CppTemplates.Proofs.Instantiation.MemberDeclarations
import CppTemplates.Proofs.Instantiation.InjectedNames

import Generics.Ident
import Generics.Distinct
import Generics.Ordered
import Generics.TypeExpr.Basic
import Generics.TypeExpr.Variables
import Generics.TypeExpr.Written
import Generics.Substitution.Basic
import Generics.Substitution.Apply
import Generics.Registry.Declaration
import Generics.Registry.Basic
import Generics.Registry.Edit
import Generics.Registry.Standard
import Generics.Registry.Application
import Generics.Hierarchy.Search
import Generics.Hierarchy.Supertypes
import Generics.Hierarchy.View
import Generics.Erasure
import Generics.Assignability
import Generics.Inference.Implied
import Generics.Inference.Arguments
import Generics.Resolution.Basic
import Generics.Resolution.Candidates
import Generics.Resolution.Instantiate
import Generics.Resolution.Boundaries
import Generics.Resolution.Members
import Generics.Resolution.Reparameterize
import Generics.Rebinding
import Generics.Session.Pool
import Generics.Session.Basic
import Generics.Text.Ranges
import Generics.Text.Alphanumeric
import Generics.Text.Printable
import Generics.Text.Blank
import Generics.Text.Quoted
import Generics.Decimal.Binary64
import Generics.Decimal.Shortest
import Generics.Toml.Value
import Generics.Toml.Reader
import Generics.Toml.Text
import Generics.Toml.Number
import Generics.Toml.Moment
import Generics.Toml.Node
import Generics.Toml.Document
import Generics.Logging.Level
import Generics.Logging.Filter
import Generics.Settings.Basic
import Generics.Settings.Reading
import Generics.Settings.Diagnostics
import Generics.Settings.Schema
import Generics.Proofs.PartialAnswers
import Generics.Proofs.Attempts
import Generics.Proofs.Substitution.Ground
import Generics.Proofs.Substitution.Formals
import Generics.Proofs.TypeExpr.Places
import Generics.Proofs.Hierarchy.Reachability
import Generics.Proofs.Hierarchy.Subclassing
import Generics.Proofs.Hierarchy.ViewWalk
import Generics.Proofs.Registry.Bounded
import Generics.Proofs.Assignability.MoreBudget
import Generics.Proofs.Assignability.ErasureGate
import Generics.Proofs.Resolution.Arguments
import Generics.Proofs.Resolution.BoundChecks
import Generics.Proofs.Resolution.Selection
import Generics.Proofs.Resolution.StepComparison
import Generics.Proofs.Resolution.Concrete
import Generics.Proofs.Resolution.ConcreteSources
import Generics.Proofs.Resolution.ProducedArguments
import Generics.Proofs.Resolution.FullBindings
import Generics.Proofs.Resolution.Truncation
import Generics.Proofs.Resolution.Reflexive
import Generics.Proofs.Resolution.Narrowing
import Generics.Proofs.Hierarchy.Acyclic
import Generics.Proofs.Assignability.Questions
import Generics.Proofs.TypeExpr.Depths
import Generics.Proofs.Assignability.Termination
import Generics.Proofs.Hierarchy.Sweep
import Generics.Proofs.Hierarchy.ViewSubstitution
import Generics.Proofs.Inference.Matching
import Generics.Proofs.Resolution.MoreBudget
import Generics.Proofs.Resolution.CheckedBindings
import Generics.Proofs.Resolution.Occurrences
import Generics.Proofs.Inference.OwnFormals
import Generics.Proofs.Resolution.FoundBindings
import Generics.Proofs.Hierarchy.Saturated
import Generics.Proofs.Inference.Inherited
import Generics.Proofs.Resolution.MemberSignatures
import Generics.Proofs.Hierarchy.Coherent
import Generics.Proofs.Assignability.Transitivity
import Generics.Proofs.AlongMaps
import Generics.Proofs.Renumbering.Expressions
import Generics.Proofs.Renumbering.Hierarchy
import Generics.Proofs.Renumbering.Assignability
import Generics.Proofs.Renumbering.Inference
import Generics.Proofs.Renumbering.Candidates
import Generics.Proofs.Renumbering.Resolution
import Generics.Proofs.Renumbering.Members
import Generics.Proofs.Renumbering.Names
import Generics.Proofs.Renumbering.Independence
import Generics.Proofs.Registry.NameIndex
import Generics.Proofs.Registry.Declarations
import Generics.Proofs.Rebinding.Parts
import Generics.Proofs.Rebinding.RoundTrip
import Generics.Proofs.Session.Reset
import Generics.Proofs.Session.History
import Generics.Proofs.Resolution.DeclaredBounds
import Generics.Proofs.Rebinding.SameRegistry
import Generics.Proofs.Registry.WellApplied
import Generics.Proofs.Rebinding.WellApplied
import Generics.Proofs.Inference.WellApplied
import Generics.Proofs.Resolution.WellApplied
import Generics.Proofs.Inference.Halting
import Generics.Proofs.Resolution.Halting
import Generics.Proofs.Resolution.RegistrySearch
import Generics.Proofs.Resolution.WildcardArguments
import Generics.Proofs.Inference.RecoveredArguments
import Generics.Proofs.Resolution.WildcardBounds
import Generics.Proofs.Hierarchy.SubclassViews
import Generics.Proofs.Assignability.Owners
import Generics.Proofs.Assignability.FollowedVariables
import Generics.Proofs.Resolution.SupertypeAgreement
import Generics.Proofs.Hierarchy.FirstPath
import Generics.Proofs.Hierarchy.SupertypeChains
import Generics.Proofs.Hierarchy.SubclassOrder
import Generics.Proofs.Hierarchy.EndlessWalks
import Generics.Proofs.Hierarchy.Expansion
import Generics.Proofs.Hierarchy.Halting
import Generics.Proofs.Rebinding.FirstFailure
import Generics.Proofs.Resolution.Results
import Generics.Proofs.Resolution.EnoughLevels
import Generics.Proofs.Resolution.ChosenArguments
import Generics.Proofs.Registry.Edits
import Generics.Proofs.Substitution.Composition
import Generics.Proofs.TypeExpr.Openness
import Generics.Proofs.Settings.UnknownKeys
import Generics.Proofs.Settings.Diagnosis

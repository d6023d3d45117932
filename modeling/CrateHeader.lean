import CrateHeader.Annotation
import CrateHeader.Attribute
import CrateHeader.Cfg
import CrateHeader.Cfg.Environment
import CrateHeader.Cfg.Reader
import CrateHeader.CommandLine
import CrateHeader.CommandLine.Options
import CrateHeader.Crate
import CrateHeader.Crate.Manifest
import CrateHeader.Crate.Order
import CrateHeader.Declaration
import CrateHeader.Declaration.Module
import CrateHeader.Declarator
import CrateHeader.Dependency.Cycles
import CrateHeader.Dependency.Graph
import CrateHeader.Dependency.Order
import CrateHeader.Dependency.Plan
import CrateHeader.Diagnostic
import CrateHeader.Document
import CrateHeader.Document.Reader
import CrateHeader.Emission
import CrateHeader.Entity
import CrateHeader.Failure
import CrateHeader.FileTree
import CrateHeader.Header
import CrateHeader.Identifier.RenameRule
import CrateHeader.Identifier.Words
import CrateHeader.Library
import CrateHeader.Library.Builder
import CrateHeader.Library.Naming
import CrateHeader.Library.Pruning
import CrateHeader.Library.Session
import CrateHeader.Library.Specialization
import CrateHeader.Log
import CrateHeader.Main
import CrateHeader.Number.Binary64
import CrateHeader.Number.Decimal
import CrateHeader.Pipeline
import CrateHeader.Primitive
import CrateHeader.Proofs.Aborting
import CrateHeader.Proofs.AlikeArguments
import CrateHeader.Proofs.Announcing
import CrateHeader.Proofs.Appending
import CrateHeader.Proofs.ArrayCalls
import CrateHeader.Proofs.Breaking
import CrateHeader.Proofs.CDeclaration
import CrateHeader.Proofs.CGrammar
import CrateHeader.Proofs.Capturing
import CrateHeader.Proofs.Coherence
import CrateHeader.Proofs.Comments
import CrateHeader.Proofs.ComponentSearch
import CrateHeader.Proofs.Declarators
import CrateHeader.Proofs.Declaring
import CrateHeader.Proofs.Disabling
import CrateHeader.Proofs.Documenting
import CrateHeader.Proofs.Ellipsis
import CrateHeader.Proofs.Ending
import CrateHeader.Proofs.Failing
import CrateHeader.Proofs.Instances
import CrateHeader.Proofs.Introducing
import CrateHeader.Proofs.LayoutParts
import CrateHeader.Proofs.LeastOrder
import CrateHeader.Proofs.Lowering
import CrateHeader.Proofs.MemberNames
import CrateHeader.Proofs.Mentioning
import CrateHeader.Proofs.Niches
import CrateHeader.Proofs.Ordering
import CrateHeader.Proofs.Outlining
import CrateHeader.Proofs.PathNames
import CrateHeader.Proofs.Placing
import CrateHeader.Proofs.Planning
import CrateHeader.Proofs.PredicateTexts
import CrateHeader.Proofs.Preserving
import CrateHeader.Proofs.Printing
import CrateHeader.Proofs.Prototypes
import CrateHeader.Proofs.Pruning
import CrateHeader.Proofs.Reachability
import CrateHeader.Proofs.Redeclaring
import CrateHeader.Proofs.Refusing
import CrateHeader.Proofs.Renaming
import CrateHeader.Proofs.RenumberedHeader
import CrateHeader.Proofs.Renumbering
import CrateHeader.Proofs.Repeating
import CrateHeader.Proofs.Requesting
import CrateHeader.Proofs.Scopes
import CrateHeader.Proofs.Settling
import CrateHeader.Proofs.Specializing
import CrateHeader.Proofs.Spelling
import CrateHeader.Proofs.Stages
import CrateHeader.Proofs.Streaming
import CrateHeader.Proofs.Stubbing
import CrateHeader.Proofs.TableOrder
import CrateHeader.Proofs.TypePieces
import CrateHeader.Proofs.TypeReading
import CrateHeader.Proofs.TypeSpelling
import CrateHeader.Proofs.TypeTexts
import CrateHeader.Proofs.Unmangling
import CrateHeader.Proofs.UsableNames
import CrateHeader.Proofs.Walking
import CrateHeader.Proofs.Withdrawing
import CrateHeader.Proofs.Writing
import CrateHeader.Settings
import CrateHeader.Settings.Reader
import CrateHeader.Sorting
import CrateHeader.Terminal
import CrateHeader.Terminal.Emoji
import CrateHeader.Terminal.Literal
import CrateHeader.Terminal.Markup
import CrateHeader.Terminal.Style
import CrateHeader.Terminal.Width
import CrateHeader.Text.Alphanumeric
import CrateHeader.Text.Blank
import CrateHeader.Text.Casing
import CrateHeader.Text.Digits
import CrateHeader.Text.Intervals
import CrateHeader.Text.Lines
import CrateHeader.Text.Printable
import CrateHeader.Text.Quoted
import CrateHeader.Text.Similarity
import CrateHeader.Ty
import CrateHeader.Ty.Expr
import CrateHeader.Ty.Lowering
import CrateHeader.Ty.Mangle
import CrateHeader.Ty.Reader
import CrateHeader.Ty.Token
import CrateHeader.Unseen
import CrateHeader.Yaml.Character
import CrateHeader.Yaml.Content
import CrateHeader.Yaml.Layout
import CrateHeader.Yaml.Node
import CrateHeader.Yaml.Scalar.Block
import CrateHeader.Yaml.Scalar.Plain
import CrateHeader.Yaml.Scalar.Quoted
import CrateHeader.Yaml.Token
import CrateHeader.Proofs.Containing
import CrateHeader.Proofs.Rejoining
import CrateHeader.Proofs.Lifetimes
import CrateHeader.Proofs.Loading
import CrateHeader.Proofs.Configuring
import CrateHeader.Proofs.ExportNames
import CrateHeader.Proofs.Substituting

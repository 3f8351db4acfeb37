import IdlCatalog.CommandLine.FileTree
import IdlCatalog.Main
import IdlCatalog.Proofs.Appending
import IdlCatalog.Proofs.Attributes
import IdlCatalog.Proofs.Comparison
import IdlCatalog.Proofs.Composition
import IdlCatalog.Proofs.Conservation
import IdlCatalog.Proofs.Coverage
import IdlCatalog.Proofs.Declarators
import IdlCatalog.Proofs.Documenting
import IdlCatalog.Proofs.Folding
import IdlCatalog.Proofs.ForwardDeclarations
import IdlCatalog.Proofs.Identity
import IdlCatalog.Proofs.Implementers
import IdlCatalog.Proofs.Influence
import IdlCatalog.Proofs.Initializers
import IdlCatalog.Proofs.Lexing
import IdlCatalog.Proofs.Meeting
import IdlCatalog.Proofs.MemberAttributes
import IdlCatalog.Proofs.MemberQueries
import IdlCatalog.Proofs.Mixins
import IdlCatalog.Proofs.Overloads
import IdlCatalog.Proofs.Ownership
import IdlCatalog.Proofs.Placeholders
import IdlCatalog.Proofs.Placement
import IdlCatalog.Proofs.Positions
import IdlCatalog.Proofs.Progress
import IdlCatalog.Proofs.Redirection
import IdlCatalog.Proofs.References
import IdlCatalog.Proofs.Refusals
import IdlCatalog.Proofs.Registration
import IdlCatalog.Proofs.Rendering
import IdlCatalog.Proofs.Reopening
import IdlCatalog.Proofs.ReverseIndex
import IdlCatalog.Proofs.Signatures
import IdlCatalog.Proofs.Skipping
import IdlCatalog.Proofs.Snippets
import IdlCatalog.Proofs.Splitting
import IdlCatalog.Proofs.Storage
import IdlCatalog.Proofs.Validity
import IdlCatalog.Proofs.Verdict
import IdlCatalog.Token.Number

import RestFlow.Files.Tree
import RestFlow.Main
import RestFlow.Proofs.Body.AccessPath
import RestFlow.Proofs.Body.Pointers
import RestFlow.Proofs.Body.Tree
import RestFlow.Proofs.Dictionary.Growth
import RestFlow.Proofs.Dictionary.PerEndpoint
import RestFlow.Proofs.Directive.Rereading
import RestFlow.Proofs.Extraction.Aliases
import RestFlow.Proofs.Extraction.Ambiguity
import RestFlow.Proofs.Extraction.Bonds
import RestFlow.Proofs.Extraction.Collection
import RestFlow.Proofs.Extraction.Directives
import RestFlow.Proofs.Extraction.Grouping
import RestFlow.Proofs.Extraction.InputChains
import RestFlow.Proofs.Extraction.ItemAccess
import RestFlow.Proofs.Extraction.LaterPasses
import RestFlow.Proofs.Extraction.MirrorChains
import RestFlow.Proofs.Extraction.Mirroring
import RestFlow.Proofs.Extraction.NamedInputs
import RestFlow.Proofs.Extraction.NamelessValues
import RestFlow.Proofs.Extraction.Readers
import RestFlow.Proofs.Extraction.Repetitions
import RestFlow.Proofs.Extraction.RequestOrder
import RestFlow.Proofs.Extraction.Run
import RestFlow.Proofs.Extraction.Suffixes
import RestFlow.Proofs.Extraction.Switches
import RestFlow.Proofs.Extraction.UserPayloads
import RestFlow.Proofs.Extraction.WritableLeaves
import RestFlow.Proofs.Extraction.WriterPass
import RestFlow.Proofs.Extraction.WriterProducers
import RestFlow.Proofs.Failure.Traversal
import RestFlow.Proofs.Flow.Placeholders
import RestFlow.Proofs.Inputs.Inspection
import RestFlow.Proofs.Naming.CamelCase
import RestFlow.Proofs.Naming.Candidates
import RestFlow.Proofs.Naming.Spelling
import RestFlow.Proofs.Naming.TypeName
import RestFlow.Proofs.Order.Keys
import RestFlow.Proofs.Order.Sorting
import RestFlow.Proofs.Request.Identity
import RestFlow.Proofs.Resolution.Additions
import RestFlow.Proofs.Resolution.Ancestors
import RestFlow.Proofs.Resolution.Availability
import RestFlow.Proofs.Resolution.ClosestMirror
import RestFlow.Proofs.Resolution.LookUps
import RestFlow.Proofs.Resolution.SingleEndpoint
import RestFlow.Proofs.Resolution.Specificity
import RestFlow.Proofs.Resolution.Validity
import RestFlow.Proofs.Sequence.Arrival
import RestFlow.Proofs.Sequence.Cycles
import RestFlow.Proofs.Sequence.Precedence
import RestFlow.Proofs.Sequence.Sources

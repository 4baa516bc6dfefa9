import RestFlow.Extraction.Result
import RestFlow.Files.Access
import RestFlow.Flow.Form

/-!
# The written form of results

How results are written, and the files that they are written to.
-/

namespace RestFlow

namespace Statistics

/-- Write the counts of a run. -/
def encode (s : Statistics) : Json :=
  .object [
    ("consumers", .ofNat s.consumers),
    ("resolved", .ofNat s.resolved),
    ("unresolved", .ofNat s.unresolved),
    ("ambiguous", .ofNat s.ambiguous),
    ("by_strategy", .ofMap .ofNat s.byStrategy),
    ("same_body", .ofNat s.sameBody),
    ("equality_aliases", .ofNat s.equalityAliases),
    ("writer_producers", .ofNat s.writerProducers),
    ("uuid_suffix_entries", .ofNat s.uuidSuffixes)]

end Statistics

namespace DependencyGroups

/-- Write dependencies by group. -/
def encode (groups : DependencyGroups) : Json :=
  .ofMap (fun ds => .array (ds.map Dependency.encode)) groups

end DependencyGroups

namespace Extraction

/-- Write everything that a run finds. -/
def encode (x : Extraction) : Json :=
  .object [
    ("dependencies", x.dependencies.encode),
    ("ordering_constraints", .array (x.orderingConstraints.map OrderingConstraint.encode)),
    ("dictionary", x.dictionary.encode),
    ("per_endpoint", x.endpointDictionaries.encode),
    ("consumers", .array (x.consumers.map Consumer.encode)),
    ("producers", .array (x.producers.map Producer.encode)),
    ("stats", x.statistics.encode)]

end Extraction

end RestFlow

namespace RestFlow.Extraction

/-!
## Diagnostic files

What a run finds is written to a folder, one document for each of its parts. The order of everything
in them is fixed, so that the files of two runs can be compared line by line.
-/

/-- The diagnostic documents of a run, each with the name of its file. -/
def diagnostics (x : Extraction) : List (String × Json) :=
  [("consumers.json", .array (x.consumers.map Consumer.encode)),
    ("producers.json", .array (x.producers.map Producer.encode)),
    ("dependencies.json", x.dependencies.encode),
    ("unresolved_dependencies.json", .array (x.unresolved.map Dependency.encode)),
    ("ordering_constraints.json", .array (x.orderingConstraints.map OrderingConstraint.encode)),
    ("dict.json", x.dictionary.encode)]

/-- Write the diagnostic documents to a folder, which is made if it is missing. -/
def writeDiagnostics {m : Type → Type} [Monad m] [FileAccess m] (x : Extraction) (folder : String) :
    Attempt m Unit := do
  Files.ensureFolder folder
  x.diagnostics.forM fun (name, document) =>
    (Files.writeJson (Path.join folder name) document).within
      ("Failed to write diagnostics to " ++ folder)

end RestFlow.Extraction

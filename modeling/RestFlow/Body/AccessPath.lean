import RestFlow.Text.Basic

/-!
# Access paths

Where a property is found inside a body: the names of the properties that lead to it, with a marker
for the elements of an array. An access path is written as a pointer, every segment after a slash.
-/

namespace RestFlow

/-- A place inside a body. -/
structure AccessPath where
  /-- Property names and array markers, from the root on. -/
  segments : List String
  deriving DecidableEq, Repr, Inhabited

namespace AccessPath

/-- The segment that stands for any element of an array. -/
def arrayMarker : String := "[0]"

/-- The body itself. -/
def root : AccessPath := ⟨[]⟩

/-- The path that a pointer leads along; empty segments do not count. -/
def ofPointer (pointer : String) : AccessPath :=
  ⟨Text.piecesOf '/' pointer⟩

/-- The pointer of a path. -/
def pointer (p : AccessPath) : String :=
  String.join (p.segments.map fun segment => "/" ++ segment)

/-- The path one segment further down. -/
def child (p : AccessPath) (segment : String) : AccessPath :=
  ⟨p.segments ++ [segment]⟩

/-- The path one segment further up. -/
def parent? (p : AccessPath) : Option AccessPath :=
  if p.segments.isEmpty then none else some ⟨p.segments.dropLast⟩

/-- The path leads nowhere but to the root. -/
def isRoot (p : AccessPath) : Bool :=
  p.segments.isEmpty

/-- The property names on the path, without array markers. -/
def propertyNames (p : AccessPath) : List String :=
  p.segments.filter (· != arrayMarker)

/-- The last property name on the path. -/
def lastName? (p : AccessPath) : Option String :=
  p.propertyNames.getLast?

/-- Whether `p` is a proper initial part of `q`. -/
def isAncestorOf (p q : AccessPath) : Bool :=
  p.segments.length < q.segments.length && p.segments.isPrefixOf q.segments

/-- The number of segments that two lists share at their start. -/
def sharedLength : List String → List String → Nat
  | a :: as, b :: bs => if a = b then sharedLength as bs + 1 else 0
  | _, _ => 0

/-- Paths are ordered segment by segment. -/
def compareSegments : List String → List String → Ordering
  | [], [] => .eq
  | [], _ :: _ => .lt
  | _ :: _, [] => .gt
  | a :: as, b :: bs => (compare a b).then (compareSegments as bs)

instance : Ord AccessPath := ⟨fun p q => compareSegments p.segments q.segments⟩

@[simp] theorem segments_root : root.segments = [] := rfl

@[simp] theorem segments_child (p : AccessPath) (segment : String) :
    (p.child segment).segments = p.segments ++ [segment] := rfl

end AccessPath

end RestFlow

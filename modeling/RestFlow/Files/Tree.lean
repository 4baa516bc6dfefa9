import RestFlow.Files.Access
import RestFlow.Order.SortedMap
import RestFlow.Order.Sorting

/-!
# Trees of files

A tree holds what lies below a working folder: files and folders, each under the path that consists
of its names alone. Paths that lead out of the working folder lead to nothing.

A tree is a model of the operations on files: `FileAccess` holds of every program state that is a
tree.
-/

namespace RestFlow

/-- A file or a folder. -/
inductive FileNode where
  | folder
  | file (content : ByteArray)
  deriving Inhabited

/-- The files and folders below a working folder, by path. -/
structure FileTree where
  nodes : SortedMap FileNode := .empty
  deriving Inhabited

namespace FileTree

/-- The path of nested names, outermost first. -/
def pathOf (names : List String) : String :=
  "/".intercalate names

/-- What nested names lead to; no names lead to the working folder. -/
def node? (t : FileTree) (names : List String) : Option FileNode :=
  if names.isEmpty then some .folder else t.nodes.get? (pathOf names)

/-- Follow the segments of a path from a place that is reached by names. Every segment needs a
folder to be followed from; the place at the end need not exist. -/
def follow (t : FileTree) (names : List String) : List String → Except FileFault (List String)
  | [] => .ok names
  | segment :: rest =>
    match t.node? names with
    | none => .error .missing
    | some (.file _) => .error .notFolder
    | some .folder =>
      if Path.isIdle segment then follow t names rest
      else if segment == ".." then
        if names.isEmpty then .error .missing else follow t names.dropLast rest
      else follow t (names ++ [segment]) rest

/-- The place that a path leads to. -/
def place (t : FileTree) (path : String) : Except FileFault (List String) :=
  if path.isEmpty || Path.isAbsolute path then .error .missing
  else t.follow [] (Path.segments path)

/-- What a path leads to. -/
def find (t : FileTree) (path : String) : Except FileFault FileNode := do
  match t.node? (← t.place path) with
  | some node => pure node
  | none => throw .missing

/-- Put a file or a folder at a place. -/
def put (t : FileTree) (names : List String) (node : FileNode) : FileTree :=
  ⟨t.nodes.insert (pathOf names) node⟩

/-- The tree without what is at a place. -/
def remove (t : FileTree) (names : List String) : FileTree :=
  ⟨t.nodes.filter fun path => path != pathOf names⟩

/-- The content of the file at a path. -/
def content (t : FileTree) (path : String) : Except FileFault ByteArray := do
  match ← t.find path with
  | .file content => pure content
  | .folder => throw .isFolder

/-- The tree with a folder at a path, which may end with slashes. -/
def makeFolder (t : FileTree) (path : String) : Except FileFault FileTree := do
  let names ← t.place (Path.ofReversed ((Path.segments path).reverse.dropWhile (· == "")))
  if (t.node? names).isSome then throw .present
  return t.put names .folder

/-- The tree with a file of some content at a path. -/
def putFile (t : FileTree) (path : String) (content : ByteArray) : Except FileFault FileTree := do
  let names ← t.place path
  match t.node? names with
  | some .folder => throw .isFolder
  | _ => return t.put names (.file content)

/-- The tree with the file at one path moved to another. -/
def rename (t : FileTree) (source target : String) : Except FileFault FileTree := do
  let content ← t.content source
  if (Path.segments target).getLast?.any Path.isIdle then throw .notFolder
  let moved ← t.putFile target content
  let places := (← t.place source, ← t.place target)
  return if places.1 = places.2 then moved else moved.remove places.1

/-- Change the tree, unless that is a fault. -/
def change (f : FileTree → Except FileFault FileTree) :
    StateM FileTree (Except FileFault Unit) := do
  match f (← get) with
  | .ok t => set t; pure (.ok ())
  | .error fault => pure (.error fault)

instance : FileAccess (StateM FileTree) where
  isPresent path := return ((← get).find path).isOk
  isFolder path := return match (← get).find path with
    | .ok .folder => true
    | _ => false
  makeFolder path := change (·.makeFolder path)
  read path := return (← get).content path
  create path := change (·.putFile path .empty)
  fill path content := change (·.putFile path content)
  rename source target := change (·.rename source target)

/-- The paths of everything in the tree, those of folders with a slash at the end, in order. -/
def listing (t : FileTree) : List String :=
  sortBy compare (t.nodes.entries.map fun
    | (path, .folder) => path ++ "/"
    | (path, .file _) => path)

/-- A tree with some files in it, and the folders above them. -/
def ofFiles (files : List (String × ByteArray)) : FileTree :=
  ((files.forM fun f => do
    match Path.parent? f.1 with
    | some folder => Files.makeFolders folder
    | none => pure ()
    .ofAccess (FileAccess.fill f.1 f.2) : Attempt (StateM FileTree) Unit).run.run {}).2

end FileTree

end RestFlow

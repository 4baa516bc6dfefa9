import RestFlow.Body.Tree
import RestFlow.Proofs.Body.AccessPath

/-!
# Paths met on a walk through a tree

The path of every node is made of the names of the nodes on the way and of array markers, so
whatever holds of the start and is kept by names and markers holds of every path (`forall_visits`).

A leaf is nameless when no node on the way to it has a name.  At the root this is as it should be,
but the elements of an array at the root are nameless too: `hasNamelessLeaf` finds such leaves by
recursion on the tree, and `exists_isNamelessVisit_iff` says that it finds all of them.
-/

namespace RestFlow

namespace AccessPath

/-- No property has a part in the path. -/
def IsNameless (p : AccessPath) : Prop :=
  p.propertyNames = []

instance (p : AccessPath) : Decidable p.IsNameless :=
  inferInstanceAs (Decidable (p.propertyNames = []))

/-- A property name makes a path a named one. -/
lemma not_isNameless_child {segment : String} (h : segment ≠ arrayMarker) (p : AccessPath) :
    ¬(p.child segment).IsNameless := by
  simp [IsNameless, propertyNames, h]

/-- Paths below a named one are named. -/
lemma not_isNameless_child_of_not {p : AccessPath} (h : ¬p.IsNameless) (segment : String) :
    ¬(p.child segment).IsNameless := by
  intro hc
  rw [IsNameless, propertyNames, segments_child, List.filter_append,
    List.append_eq_nil_iff] at hc
  exact h hc.1

lemma isNameless_child_arrayMarker {p : AccessPath} :
    (p.child arrayMarker).IsNameless ↔ p.IsNameless := by
  simp [IsNameless, propertyNames]

@[simp] lemma isRoot_child (p : AccessPath) (segment : String) :
    (p.child segment).isRoot = false := by
  simp [isRoot]

end AccessPath

namespace Tree

/-! ## Names in a tree -/

mutual

/-- Every name in a tree, and every lack of one, passes a test. -/
def allNames (test : String → Bool) : Tree → Bool
  | leaf node => test node.name
  | internal name _ _ _ children => test name && allNamesOf test children

/-- The same for several trees. -/
def allNamesOf (test : String → Bool) : List Tree → Bool
  | [] => true
  | tree :: rest => allNames test tree && allNamesOf test rest

end

mutual

/-- Only the node at the top, if it `mayBeUnnamed`, and the elements of arrays have no name. -/
def isNamedWithin (mayBeUnnamed : Bool) : Tree → Bool
  | leaf node => mayBeUnnamed || !node.name.isEmpty
  | internal name nesting _ _ children =>
    (mayBeUnnamed || !name.isEmpty) && areNamedWithin (nesting = .array) children

/-- The same for the children of a node. -/
def areNamedWithin (mayBeUnnamed : Bool) : List Tree → Bool
  | [] => true
  | tree :: rest => isNamedWithin mayBeUnnamed tree && areNamedWithin mayBeUnnamed rest

end

/-! ## Invariants of paths -/

/-- A property of paths that every step of a walk keeps, if names pass a test. -/
structure KeptByWalk (P : AccessPath → Prop) (test : String → Bool) : Prop where
  child : ∀ p name, P p → name ≠ "" → test name = true → P (p.child name)
  arrayMarker : ∀ p, P p → P (p.child AccessPath.arrayMarker)

namespace KeptByWalk

variable {P : AccessPath → Prop} {test : String → Bool} {base : AccessPath}

/-- The step to a node keeps the property. -/
lemma step (k : KeptByWalk P test) (hbase : P base) {name : String} (h : test name = true) :
    P (Tree.step base name) := by
  by_cases he : name.isEmpty
  · simpa [Tree.step, he] using hbase
  · simpa [Tree.step, he] using k.child base name hbase (by simpa using he) h

/-- The step to the children of a node keeps the property. -/
lemma inside (k : KeptByWalk P test) (hbase : P base) (nesting : Nesting) :
    P (Tree.inside base nesting) := by
  cases nesting with
  | object => exact hbase
  | array => exact k.arrayMarker base hbase

end KeptByWalk

mutual

/-- What holds of the start of a walk and is kept by it holds of every path. -/
theorem forall_visits {P : AccessPath → Prop} {test : String → Bool} (k : KeptByWalk P test)
    {base : AccessPath} (hbase : P base) :
    ∀ tree : Tree, tree.allNames test = true → ∀ v ∈ tree.visits base, P v.1
  | leaf node, h, v, hv => by
    rw [visits, List.mem_singleton] at hv
    rw [hv]
    exact k.step hbase (by simpa [allNames] using h)
  | internal name nesting isRequired isReadonly children, h, v, hv => by
    rw [allNames, Bool.and_eq_true] at h
    have hpath : P (step base name) := k.step hbase h.1
    have hbelow := forall_visitsOfAll k (k.inside hpath nesting) children h.2
    rw [visits] at hv
    by_cases hroot : (step base name).isRoot
    · rw [if_pos hroot] at hv
      exact hbelow v hv
    · rw [if_neg hroot, List.mem_cons] at hv
      rcases hv with rfl | hv
      · exact hpath
      · exact hbelow v hv

/-- The same for the nodes of several trees. -/
theorem forall_visitsOfAll {P : AccessPath → Prop} {test : String → Bool}
    (k : KeptByWalk P test) {base : AccessPath} (hbase : P base) :
    ∀ trees : List Tree, allNamesOf test trees = true → ∀ v ∈ visitsOfAll base trees, P v.1
  | [], _, v, hv => by simp [visitsOfAll] at hv
  | tree :: rest, h, v, hv => by
    rw [allNamesOf, Bool.and_eq_true] at h
    rw [visitsOfAll, List.mem_append] at hv
    rcases hv with hv | hv
    · exact forall_visits k hbase tree h.1 v hv
    · exact forall_visitsOfAll k hbase rest h.2 v hv

end

mutual

lemma allNames_true : ∀ tree : Tree, tree.allNames (fun _ => true) = true
  | leaf _ => rfl
  | internal _ _ _ _ children => by rw [allNames, allNamesOf_true children, Bool.and_true]

/-- The same for several trees. -/
lemma allNamesOf_true : ∀ trees : List Tree, allNamesOf (fun _ => true) trees = true
  | [] => rfl
  | tree :: rest => by
    rw [allNamesOf, allNames_true tree, allNamesOf_true rest, Bool.and_true]

end

/-- No path has an empty segment. -/
lemma segments_ne_empty_of_mem_visits {tree : Tree} {v : AccessPath × Node}
    (hv : v ∈ tree.visits .root) : ∀ segment ∈ v.1.segments, segment ≠ "" := by
  have k : KeptByWalk (fun p => ∀ segment ∈ p.segments, segment ≠ "") fun _ => true :=
    { child := fun p name hp hne _ => by simpa [or_imp, forall_and] using ⟨hp, hne⟩
      arrayMarker := fun p hp => by
        simpa [or_imp, forall_and] using ⟨hp, by decide⟩ }
  exact forall_visits k (by simp) tree (allNames_true tree) v hv

/-- No name in the tree has a slash in it. -/
def isSlashFree (tree : Tree) : Bool :=
  tree.allNames fun name => !name.toList.contains '/'

/-- Paths are plain if no name has a slash in it. -/
lemma plain_of_mem_visits {tree : Tree} (h : tree.isSlashFree = true) {v : AccessPath × Node}
    (hv : v ∈ tree.visits .root) : v.1.Plain := by
  have k : KeptByWalk AccessPath.Plain fun name => !name.toList.contains '/' :=
    { child := fun p name hp hne hslash => hp.child ⟨hne, by simpa using hslash⟩
      arrayMarker := fun p hp => hp.child AccessPath.isPlainSegment_arrayMarker }
  exact forall_visits k AccessPath.plain_root tree h v hv

/-- The leaves are the nodes that carry a payload. -/
lemma mem_leaves {tree : Tree} {path : AccessPath} {node : Leaf} :
    (path, node) ∈ tree.leaves ↔ (path, Node.leaf node) ∈ tree.visits .root := by
  rw [leaves, List.mem_filterMap]
  constructor
  · rintro ⟨⟨q, n⟩, hv, h⟩
    cases n with
    | leaf m =>
      simp only [Option.some.injEq, Prod.mk.injEq] at h
      rw [← h.1, ← h.2]
      exact hv
    | internal nesting isReadonly => simp at h
  · intro hv
    exact ⟨_, hv, rfl⟩

/-! ## Nameless leaves -/

mutual

/-- A leaf of the tree passes a test, no node on the way to it has a name, and an array is on the
way, or was met before when `inArray` is set. -/
def hasNamelessLeaf (test : Leaf → Bool) (inArray : Bool) : Tree → Bool
  | leaf node => node.name.isEmpty && inArray && test node
  | internal name nesting _ _ children =>
    name.isEmpty && haveNamelessLeaf test (inArray || nesting = .array) children

/-- The same for the children of a node. -/
def haveNamelessLeaf (test : Leaf → Bool) (inArray : Bool) : List Tree → Bool
  | [] => false
  | tree :: rest => hasNamelessLeaf test inArray tree || haveNamelessLeaf test inArray rest

end

/-- A visit to a leaf below the root that passes a test and has no name on its path. -/
def IsNamelessVisit (test : Leaf → Bool) (v : AccessPath × Node) : Prop :=
  v.1.IsNameless ∧ v.1.isRoot = false ∧ ∃ node, v.2 = .leaf node ∧ test node = true

/-- A walk never leaves the paths that a name is on. -/
lemma keptByWalk_named : KeptByWalk (fun p => ¬p.IsNameless) fun _ => true where
  child _ name hp _ _ := AccessPath.not_isNameless_child_of_not hp name
  arrayMarker _ hp := AccessPath.not_isNameless_child_of_not hp _

/-- The children of a node at a nameless path are at a nameless path. -/
lemma isNameless_inside {path : AccessPath} (h : path.IsNameless) (nesting : Nesting) :
    (inside path nesting).IsNameless := by
  cases nesting with
  | object => exact h
  | array => exact AccessPath.isNameless_child_arrayMarker.mpr h

/-- The children of an array are below the root. -/
lemma isRoot_inside (path : AccessPath) (nesting : Nesting) :
    (!(inside path nesting).isRoot) = (!path.isRoot || decide (nesting = .array)) := by
  cases nesting <;> simp [inside]

mutual

/-- A nameless leaf is visited exactly when the tree has one. -/
theorem exists_isNamelessVisit_iff (test : Leaf → Bool) {base : AccessPath}
    (hbase : base.IsNameless) :
    ∀ tree : Tree, tree.allNames (· != AccessPath.arrayMarker) = true →
      ((∃ v ∈ tree.visits base, IsNamelessVisit test v) ↔
        tree.hasNamelessLeaf test (!base.isRoot) = true)
  | leaf node, h => by
    rw [allNames, bne_iff_ne] at h
    by_cases he : node.name.isEmpty
    · simp [visits, step, he, hasNamelessLeaf, IsNamelessVisit, hbase]
    · have hnamed := AccessPath.not_isNameless_child h base
      simp [visits, step, he, hasNamelessLeaf, IsNamelessVisit, hnamed]
  | internal name nesting isRequired isReadonly children, h => by
    rw [allNames, Bool.and_eq_true, bne_iff_ne] at h
    by_cases he : name.isEmpty
    · -- children of a node without a name start from where the node is
      have hbelow := exists_isNamelessVisitOfAll_iff test (isNameless_inside hbase nesting)
        children h.2
      have hstep : step base name = base := by simp [step, he]
      rw [hasNamelessLeaf, he, Bool.true_and, ← isRoot_inside, ← hbelow, visits, hstep]
      by_cases hroot : base.isRoot
      · rw [if_pos hroot]
      · rw [if_neg hroot, List.exists_mem_cons_iff]
        simp [IsNamelessVisit]
    · have hnamed := AccessPath.not_isNameless_child h.1 base
      have hstep : step base name = base.child name := by simp [step, he]
      -- below a name no place is nameless
      have hall : ∀ v ∈ (internal name nesting isRequired isReadonly children).visits base,
          ¬v.1.IsNameless := by
        rw [visits, hstep, AccessPath.isRoot_child]
        intro v hv
        rcases List.mem_cons.mp hv with rfl | hv
        · exact hnamed
        · exact forall_visitsOfAll keptByWalk_named (keptByWalk_named.inside hnamed nesting)
            children (allNamesOf_true children) v hv
      rw [hasNamelessLeaf]
      simp only [he, Bool.false_and, Bool.false_eq_true, iff_false]
      rintro ⟨v, hv, hn, -⟩
      exact hall v hv hn

/-- The same for several trees. -/
theorem exists_isNamelessVisitOfAll_iff (test : Leaf → Bool) {base : AccessPath}
    (hbase : base.IsNameless) :
    ∀ trees : List Tree, allNamesOf (· != AccessPath.arrayMarker) trees = true →
      ((∃ v ∈ visitsOfAll base trees, IsNamelessVisit test v) ↔
        haveNamelessLeaf test (!base.isRoot) trees = true)
  | [], _ => by simp [visitsOfAll, haveNamelessLeaf]
  | tree :: rest, h => by
    rw [allNamesOf, Bool.and_eq_true] at h
    rw [haveNamelessLeaf, Bool.or_eq_true, ← exists_isNamelessVisit_iff test hbase tree h.1,
      ← exists_isNamelessVisitOfAll_iff test hbase rest h.2, visitsOfAll]
    simp only [List.mem_append, or_and_right, exists_or]

end

end Tree

end RestFlow

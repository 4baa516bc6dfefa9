import RestFlow.Proofs.Extraction.Collection

/-!
# Writable leaves of a body

Leaves of a body may be marked as readonly, and so may the objects and arrays around them.
`Tree.enclosedLeaves` lists the leaves of a tree as a walk meets them, together with what is around
them; a leaf is writable if neither it nor anything around it is marked. The collection asks a leaf
for its own mark only. So the consumers of a body are the writable leaves whose value may be chosen
exactly if no such leaf without a mark of its own is inside a marked object or array
(`Setup.bodyConsumers_writable_iff`).
-/

namespace RestFlow

/-- If one test is stricter than another, what is made of the elements that pass is the same only if
the same elements pass. -/
lemma map_filter_eq_map_filter_iff {α β : Type} {f : α → β} {p q : α → Bool} {l : List α}
    (hqp : ∀ a ∈ l, q a = true → p a = true) :
    (l.filter p).map f = (l.filter q).map f ↔ ∀ a ∈ l, p a = true → q a = true := by
  constructor
  · intro h a ha hp
    have htwice : (l.filter p).filter q = l.filter q := by
      rw [List.filter_filter]
      refine List.filter_congr fun b hb => ?_
      cases hq : q b with
      | false => rfl
      | true => rw [hqp b hb hq, Bool.and_self]
    have hlength : ((l.filter p).filter q).length = (l.filter p).length := by
      rw [htwice, ← List.length_map f, ← h, List.length_map]
    exact List.length_filter_eq_length_iff.mp hlength a (List.mem_filter.mpr ⟨ha, hp⟩)
  · intro h
    congr 1
    refine List.filter_congr fun a ha => Bool.eq_iff_iff.mpr ⟨h a ha, hqp a ha⟩

/-! ## Leaves and what is around them -/

/-- A leaf that a walk meets. -/
structure EnclosedLeaf where
  place : AccessPath
  leaf : Leaf
  /-- The objects and arrays that the leaf is in, the outermost one first. -/
  around : List Node

namespace EnclosedLeaf

/-- The leaf is below the root, and its value may be chosen. -/
def isChoice (l : EnclosedLeaf) : Bool :=
  !l.place.isRoot && l.leaf.payload.isFuzzable

/-- Nothing around the leaf is marked as readonly. -/
def isReachable (l : EnclosedLeaf) : Bool :=
  l.around.all fun n => !n.isReadonly

/-- Neither the leaf nor anything around it is marked as readonly. -/
def isWritable (l : EnclosedLeaf) : Bool :=
  !l.leaf.isReadonly && l.isReachable

end EnclosedLeaf

namespace Tree

mutual

/-- The leaves of a tree below `base`, in document order, when the nodes `around` are already
around all of them. -/
def enclosedLeaves (base : AccessPath) (around : List Node) : Tree → List EnclosedLeaf
  | leaf node => [⟨step base node.name, node, around⟩]
  | internal name nesting _ isReadonly children =>
    enclosedLeavesOfAll (inside (step base name) nesting)
      (around ++ [.internal nesting isReadonly]) children

/-- The leaves of several trees below `base`. -/
def enclosedLeavesOfAll (base : AccessPath) (around : List Node) : List Tree → List EnclosedLeaf
  | [] => []
  | tree :: rest => enclosedLeaves base around tree ++ enclosedLeavesOfAll base around rest

end

/-- The leaf that is visited, if it is one. -/
def visitedLeaf? : AccessPath × Node → Option (AccessPath × Leaf)
  | (place, .leaf node) => some (place, node)
  | (_, .internal ..) => none

mutual

/-- The leaves are those that the walk visits. -/
theorem map_enclosedLeaves (base : AccessPath) (around : List Node) :
    ∀ tree : Tree, (tree.enclosedLeaves base around).map (fun l => (l.place, l.leaf)) =
      (tree.visits base).filterMap visitedLeaf?
  | leaf _ => rfl
  | internal name nesting _ isReadonly children => by
    have hbelow := map_enclosedLeavesOfAll (inside (step base name) nesting)
      (around ++ [.internal nesting isReadonly]) children
    rw [enclosedLeaves, hbelow, visits]
    -- the node itself, if it is listed, is not a leaf
    split
    · rfl
    · rw [List.filterMap_cons_none rfl]

/-- The same for several trees. -/
theorem map_enclosedLeavesOfAll (base : AccessPath) (around : List Node) :
    ∀ trees : List Tree, (enclosedLeavesOfAll base around trees).map (fun l => (l.place, l.leaf)) =
      (visitsOfAll base trees).filterMap visitedLeaf?
  | [] => rfl
  | tree :: rest => by
    rw [enclosedLeavesOfAll, List.map_append, map_enclosedLeaves base around tree,
      map_enclosedLeavesOfAll base around rest, visitsOfAll, List.filterMap_append]

end

/-- Without what is around them these are the leaves of the tree. -/
lemma map_enclosedLeaves_root (tree : Tree) :
    (tree.enclosedLeaves .root []).map (fun l => (l.place, l.leaf)) = tree.leaves := by
  rw [map_enclosedLeaves, leaves]
  refine List.filterMap_congr fun v _ => ?_
  obtain ⟨place, node | ⟨nesting, isReadonly⟩⟩ := v <;> rfl

end Tree

/-! ## Consumers -/

namespace Setup

/-- The consumer for a leaf of the body. -/
def leafConsumer (s : Setup) (e : RequestEntry) (l : EnclosedLeaf) : Consumer where
  resource := s.situated .input e.id (.ofPlace l.place) l.leaf.payload.type
  kind := .body

variable {s : Setup} {e : RequestEntry} {cs : List Consumer} {tree : Tree}

/-- The leaves of a body that are looked at. -/
lemma placedLeaves_eq (tree : Tree) (test : Leaf → Bool) :
    (placedLeaves (some tree)).filter (fun l => test l.2) =
      ((tree.enclosedLeaves .root []).filter fun l => !l.place.isRoot && test l.leaf).map
        fun l => (l.place, l.leaf) := by
  rw [placedLeaves, ← Tree.map_enclosedLeaves_root, List.filter_map, List.filter_map,
    List.filter_filter]
  refine congrArg _ (List.filter_congr fun l _ => Bool.and_comm _ _)

/-- The consumers of a body are the leaves below the root whose value may be chosen and that are not
marked as readonly themselves. -/
lemma ofKind_body_consumers (h : s.consumers e = .ok cs) (hbody : s.config.resolveBody = true)
    (htree : e.data.body = some tree) :
    Consumer.ofKind .body cs =
      ((tree.enclosedLeaves .root []).filter fun l => l.isChoice && !l.leaf.isReadonly).map
        (s.leafConsumer e) := by
  have hinputs := ofKind_consumers h .body
  rw [show s.asks .body = true from hbody] at hinputs
  have hinputs : s.bodyConsumers e = .ok (Consumer.ofKind .body cs) := hinputs
  rw [bodyConsumers, htree, placedLeaves_eq] at hinputs
  have hmap := map_eq_of_mapM (g := id)
    (k := fun l : AccessPath × Leaf => Consumer.mk
      (s.situated .input e.id (.ofPlace l.1) l.2.payload.type) .body none) hinputs ?_
  · rw [List.map_id, List.map_map] at hmap
    rw [hmap]
    refine congrArg _ (List.filter_congr fun l _ => (Bool.and_assoc _ _ _).symm)
  · rintro ⟨place, leaf⟩ c hc
    obtain ⟨resource, hresource, hc⟩ := bind_eq_ok_iff.mp hc
    rw [← Except.ok.inj hc, eq_situated_of_situate hresource]
    rfl

/-- The consumers of a body, where bodies are resolved, are made of the leaves that a walk meets
below the root, in the same order and at the same places: of those whose value may be chosen and
that are not marked as readonly themselves.  These are the writable leaves exactly if none of them
is inside an object or array that is marked as readonly. -/
theorem bodyConsumers_writable_iff (h : s.consumers e = .ok cs)
    (hbody : s.config.resolveBody = true) (htree : e.data.body = some tree) :
    let leaves := tree.enclosedLeaves .root []
    leaves.map (fun l => (l.place, l.leaf)) = tree.leaves ∧
      Consumer.ofKind .body cs =
        (leaves.filter fun l => l.isChoice && !l.leaf.isReadonly).map (s.leafConsumer e) ∧
      (Consumer.ofKind .body cs =
          (leaves.filter fun l => l.isChoice && l.isWritable).map (s.leafConsumer e) ↔
        ∀ l ∈ leaves, l.isChoice = true → l.leaf.isReadonly = false →
          ∀ n ∈ l.around, n.isReadonly = false) := by
  intro leaves
  have hconsumers := ofKind_body_consumers h hbody htree
  refine ⟨Tree.map_enclosedLeaves_root tree, hconsumers, ?_⟩
  -- writable leaves pass the test of a leaf by itself
  have hstricter : ∀ l ∈ leaves, (l.isChoice && l.isWritable) = true →
      (l.isChoice && !l.leaf.isReadonly) = true := by
    intro l _ hl
    rw [EnclosedLeaf.isWritable, ← Bool.and_assoc, Bool.and_eq_true] at hl
    exact hl.1
  rw [hconsumers, map_filter_eq_map_filter_iff hstricter]
  refine forall₂_congr fun l _ => ?_
  rw [EnclosedLeaf.isWritable, EnclosedLeaf.isReachable]
  cases l.isChoice <;> cases l.leaf.isReadonly <;> simp

/-- The request `POST /accounts`: a body with a readonly number, a name, and a readonly object that
has an author. -/
def postAccounts : RequestEntry where
  id := { endpoint := "/accounts", method := .post }
  data := { body := some (.internal "" .object true false [
    .leaf ⟨"number", .fuzzable .int none, true, true⟩,
    .leaf ⟨"name", .fuzzable .string none, true, false⟩,
    .internal "audit" .object true true [
      .leaf ⟨"author", .fuzzable .string none, true, false⟩]]) }

/-- The request can be looked at. -/
lemma exists_consumers_postAccounts : ∃ cs, ({} : Setup).consumers postAccounts = .ok cs :=
  exists_of_isOk (by decide +kernel)

/-- The author in the readonly object is a consumer of `POST /accounts`, and the number is none. -/
theorem bodyConsumers_postAccounts :
    ∃ cs tree, ({} : Setup).consumers postAccounts = .ok cs ∧
      ({} : Setup).config.resolveBody = true ∧ postAccounts.data.body = some tree ∧
      (Consumer.ofKind .body cs).map (fun c => c.resource.mapKey) = ["/name", "/audit/author"] ∧
      Consumer.ofKind .body cs ≠
        ((tree.enclosedLeaves .root []).filter fun l => l.isChoice && l.isWritable).map
          (({} : Setup).leafConsumer postAccounts) := by
  obtain ⟨cs, hcs⟩ := exists_consumers_postAccounts
  refine ⟨cs, _, hcs, rfl, rfl, ?_⟩
  obtain ⟨-, hconsumers, hwritable⟩ := bodyConsumers_writable_iff hcs rfl rfl
  constructor
  · rw [hconsumers]
    decide +kernel
  · intro heq
    have hnone := hwritable.mp heq
    revert hnone
    decide +kernel

/-- Consumers of a body may be inside a readonly object. -/
theorem not_forall_bodyConsumers_writable :
    ¬∀ (s : Setup) (e : RequestEntry) (cs : List Consumer) (tree : Tree),
      s.consumers e = .ok cs → s.config.resolveBody = true → e.data.body = some tree →
      Consumer.ofKind .body cs =
        ((tree.enclosedLeaves .root []).filter fun l => l.isChoice && l.isWritable).map
          (s.leafConsumer e) := by
  intro h
  obtain ⟨cs, hcs⟩ := exists_consumers_postAccounts
  have hlength := congrArg List.length (h {} postAccounts cs _ hcs rfl rfl)
  rw [ofKind_body_consumers hcs rfl rfl] at hlength
  revert hlength
  decide +kernel

end Setup

end RestFlow

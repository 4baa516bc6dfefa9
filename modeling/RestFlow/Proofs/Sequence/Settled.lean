import RestFlow.Proofs.Order.Keys
import RestFlow.Proofs.Order.SortedMap
import RestFlow.Proofs.Order.Sorting
import RestFlow.Proofs.Resource.Equality
import RestFlow.Sequence.Constraints

/-!
# Settled constraints do not depend on the order of arrival

Constraints are sorted by normalized endpoints and methods, and of several spellings of one
constraint one is kept.  Which spelling it is depends on the order of arrival, but not which
constraint: the keys of settled constraints are the sorted keys of all constraints, without
repetitions, so that only the constraints between different requests matter
(`OrderingConstraint.settled_congr`).  Up to spelling none of these is lost
(`OrderingConstraint.exists_mem_settled`), and further ones make no difference exactly if they are
there already (`OrderingConstraint.settled_beq_settled_iff`).
-/

namespace RestFlow

namespace OrderingConstraint

/-- What decides equality and order of a constraint: the keys of its source and of its target. -/
def key (c : OrderingConstraint) : (String × Method) × (String × Method) :=
  (c.source.key, c.target.key)

/-- Constraints are equal when their keys are. -/
lemma beq_iff_key_eq {a b : OrderingConstraint} : (a == b) = true ↔ a.key = b.key := by
  show (a.source == b.source && a.target == b.target) = true ↔ _
  rw [Bool.and_eq_true, RequestId.beq_iff, RequestId.beq_iff]
  exact (Iff.of_eq (Prod.mk.injEq _ _ _ _)).symm

lemma forall₂_iff_map_key_eq {l l' : List OrderingConstraint} :
    List.Forall₂ (fun a b => (a == b) = true) l l' ↔ l.map key = l'.map key :=
  forall₂_beq_iff_map_eq fun _ _ => beq_iff_key_eq

/-- The order of keys. -/
def compareKeys : (String × Method) × (String × Method) → (String × Method) × (String × Method) →
    Ordering :=
  compareLex (compareLex (compareOn fun k => k.1.1) (compareOn fun k => k.1.2))
    (compareLex (compareOn fun k => k.2.1) (compareOn fun k => k.2.2))

instance : Std.TransCmp compareKeys :=
  inferInstanceAs (Std.TransCmp
    (compareLex (compareLex (compareOn fun k : (String × Method) × (String × Method) => k.1.1)
        (compareOn fun k => k.1.2))
      (compareLex (compareOn fun k => k.2.1) (compareOn fun k => k.2.2))))

instance : Std.LawfulEqCmp compareKeys where
  eq_of_compare {a b} h := by
    obtain ⟨⟨a₁, a₂⟩, a₃, a₄⟩ := a
    obtain ⟨⟨b₁, b₂⟩, b₃, b₄⟩ := b
    change ((compare a₁ b₁).then (compare a₂ b₂)).then
      ((compare a₃ b₃).then (compare a₄ b₄)) = .eq at h
    simp only [Ordering.then_eq_eq, Std.LawfulEqOrd.compare_eq_iff_eq] at h
    obtain ⟨⟨rfl, rfl⟩, rfl, rfl⟩ := h
    rfl

/-- The keys of settled constraints are the sorted keys of the constraints between different
requests. -/
lemma map_key_settled (constraints : List OrderingConstraint) :
    (settled constraints).map key =
      dropRepeats (sortBy compareKeys
        ((constraints.filter fun c => c.source != c.target).reverse.map key)) := by
  have hbeq : ∀ a b : OrderingConstraint, (a.key == b.key) = (a == b) := by
    intro a b
    rw [Bool.eq_iff_iff, beq_iff_eq, beq_iff_key_eq]
  have hsort : ∀ l : List OrderingConstraint,
      (sortBy compare l).map key = sortBy compareKeys (l.map key) :=
    map_sortBy fun _ _ => rfl
  rw [settled, map_dropRepeats hbeq, hsort]

/-- A constraint is between different requests if the two parts of its key differ. -/
lemma source_beq_target_eq_false_iff {c : OrderingConstraint} :
    (c.source == c.target) = false ↔ c.key.1 ≠ c.key.2 := by
  rw [← Bool.not_eq_true, RequestId.beq_iff]
  rfl

/-- Constraints settle to equal ones if those between different requests have the same keys. -/
theorem settled_congr {l l' : List OrderingConstraint}
    (h : ∀ k : (String × Method) × (String × Method), k.1 ≠ k.2 →
      ((∃ c ∈ l, c.key = k) ↔ ∃ c ∈ l', c.key = k)) :
    List.Forall₂ (fun a b => (a == b) = true) (settled l) (settled l') := by
  have hmem : ∀ (m : List OrderingConstraint) (k : (String × Method) × (String × Method)),
      k ∈ (m.filter fun c => c.source != c.target).reverse.map key ↔
        k.1 ≠ k.2 ∧ ∃ c ∈ m, c.key = k := by
    intro m k
    simp only [List.mem_map, List.mem_reverse, List.mem_filter, bne, Bool.not_eq_true',
      source_beq_target_eq_false_iff]
    constructor
    · rintro ⟨c, ⟨hc, hne⟩, rfl⟩
      exact ⟨hne, c, hc, rfl⟩
    · rintro ⟨hne, c, hc, rfl⟩
      exact ⟨c, ⟨hc, hne⟩, rfl⟩
  -- requests are compared by their keys, so the keys settle alike
  have hkeys : (settled l).map key = (settled l').map key := by
    rw [map_key_settled, map_key_settled]
    refine dropRepeats_sortBy_eq fun k => ?_
    rw [hmem, hmem]
    exact and_congr_right (h k)
  exact forall₂_iff_map_key_eq.mpr hkeys

/-- Constraints settle to equal ones in whatever order they arrive. -/
theorem settled_perm {l l' : List OrderingConstraint} (hp : l.Perm l') :
    List.Forall₂ (fun a b => (a == b) = true) (settled l) (settled l') :=
  settled_congr fun _ _ => exists_congr fun _ => and_congr_left fun _ => hp.mem_iff

lemma mem_of_mem_settled {l : List OrderingConstraint} {c : OrderingConstraint}
    (hc : c ∈ settled l) : c ∈ l :=
  (List.mem_filter.mp (List.mem_reverse.mp (mem_sortBy.mp (mem_of_mem_dropRepeats hc)))).1

/-- A constraint between different requests, or an equal one, is among the settled ones. -/
lemma exists_mem_settled {l : List OrderingConstraint} {c : OrderingConstraint} (hc : c ∈ l)
    (hne : (c.source == c.target) = false) : ∃ c' ∈ settled l, (c' == c) = true := by
  have htest : (c.source != c.target) = true := by rw [bne, hne, Bool.not_false]
  have hmem : c ∈ (l.filter fun c => c.source != c.target).reverse :=
    List.mem_reverse.mpr (List.mem_filter.mpr ⟨hc, htest⟩)
  exact exists_mem_dropRepeats (mem_sortBy.mpr hmem)

/-- Further constraints make no difference exactly if each of them that is between different
requests equals one that is settled without them. -/
theorem settled_beq_settled_iff {l l' more : List OrderingConstraint} (hp : l.Perm (more ++ l')) :
    (settled l == settled l') = true ↔
      ∀ c ∈ more, (c.source == c.target) = false → ∃ c' ∈ settled l', (c' == c) = true := by
  constructor
  · intro h c hc hne
    have hcl : c ∈ l := hp.mem_iff.mpr (List.mem_append_left l' hc)
    -- a constraint that is settled along with the others equals one settled without it
    obtain ⟨a, ha, hac⟩ := exists_mem_settled hcl hne
    have hkey : a.key ∈ (settled l').map key := by
      rw [← forall₂_iff_map_key_eq.mp (forall₂_of_beq h)]
      exact List.mem_map_of_mem ha
    obtain ⟨b, hb, hba⟩ := List.mem_map.mp hkey
    exact ⟨b, hb, beq_iff_key_eq.mpr (hba.trans (beq_iff_key_eq.mp hac))⟩
  · intro h
    refine beq_of_forall₂ (settled_congr fun k hk => ⟨?_, ?_⟩)
    · rintro ⟨c, hc, rfl⟩
      rcases List.mem_append.mp (hp.mem_iff.mp hc) with hmore | hl'
      · obtain ⟨c', hc', heq⟩ := h c hmore (source_beq_target_eq_false_iff.mpr hk)
        exact ⟨c', mem_of_mem_settled hc', beq_iff_key_eq.mp heq⟩
      · exact ⟨c, hl', rfl⟩
    · rintro ⟨c, hc, rfl⟩
      exact ⟨c, hp.mem_iff.mpr (List.mem_append_right more hc), rfl⟩

/-- Whoever is bound to an input of another request is to run after this request. -/
lemma mem_implied {l : List Dependency} {d : Dependency} {input : Resource} {origin : InputOrigin}
    (hd : d ∈ l) (hp : d.producer = some (.inputOnly input origin))
    (hne : (input.request == d.consumer.request) = false) :
    ⟨input.request, d.consumer.request⟩ ∈ implied l := by
  refine List.mem_flatMap.mpr ⟨d, hd, ?_⟩
  rw [impliedBy, hp]
  simp only [hne]
  exact List.mem_cons_self

end OrderingConstraint

end RestFlow

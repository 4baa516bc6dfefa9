import RestFlow.Proofs.Sequence.Cycles
import RestFlow.Proofs.Sequence.Settled

/-!
# What settled constraints say

Settled constraints are strictly increasing (`OrderingConstraint.pairwise_settled`), and up to
spelling they are the constraints between different requests
(`OrderingConstraint.contains_settled_iff`). Constraints that are like this already stay as they are
(`OrderingConstraint.settled_eq_self`), and other constraints settle to equal ones exactly if they
say the same (`OrderingConstraint.settled_beq_iff_contains_eq`). Constraints say of some requests
that they precede others (`OrderingConstraint.Precedes`), and a warning is given exactly if some
request would have to precede itself (`OrderingConstraint.cycleWarnings_of_isCyclic`,
`OrderingConstraint.cycleWarnings_eq_nil_iff`). The graph that is searched has its edges the other
way round, from requests to those that precede them.
-/

namespace RestFlow.OrderingConstraint

variable {l l' : List OrderingConstraint} {a b c : OrderingConstraint}

/-! ## Settling as a set -/

lemma compare_eq_iff : compare a b = .eq ↔ (a == b) = true := by
  rw [beq_eq_true_iff, ← RequestId.compare_eq_iff, ← RequestId.compare_eq_iff]
  exact Ordering.then_eq_eq

/-- Settled constraints are strictly increasing, by their sources and then by their targets. -/
theorem pairwise_settled (l : List OrderingConstraint) :
    (settled l).Pairwise fun a b => compare a b = .lt := by
  have hkeys : ((settled l).map key).Pairwise fun j k => compareKeys j k = .lt := by
    rw [map_key_settled]
    exact pairwise_dropRepeats (pairwise_sortBy _)
  exact List.pairwise_map.mp hkeys

/-- A constraint is among others, up to its spelling, if its key is. -/
lemma contains_iff_exists_key : l.contains c = true ↔ ∃ c' ∈ l, c'.key = c.key := by
  rw [List.contains_iff_exists_mem_beq]
  exact exists_congr fun x => and_congr_right fun _ => beq_iff_key_eq.trans eq_comm

/-- No settled constraint is between a request and itself. -/
lemma source_beq_target_of_mem_settled (hc : c ∈ settled l) : (c.source == c.target) = false := by
  have hmem := List.mem_reverse.mp (mem_sortBy.mp (mem_of_mem_dropRepeats hc))
  exact Bool.not_eq_true' _ ▸ (List.mem_filter.mp hmem).2

/-- Up to spelling the settled constraints are those between different requests. -/
theorem contains_settled_iff :
    (settled l).contains c = true ↔ l.contains c = true ∧ (c.source == c.target) = false := by
  constructor
  · intro h
    obtain ⟨x, hx, hkey⟩ := contains_iff_exists_key.mp h
    have hne := source_beq_target_eq_false_iff.mp (source_beq_target_of_mem_settled hx)
    rw [hkey] at hne
    exact ⟨contains_iff_exists_key.mpr ⟨x, mem_of_mem_settled hx, hkey⟩,
      source_beq_target_eq_false_iff.mpr hne⟩
  · rintro ⟨h, hne⟩
    obtain ⟨x, hx, hkey⟩ := contains_iff_exists_key.mp h
    have hxne : (x.source == x.target) = false := by
      rw [source_beq_target_eq_false_iff, hkey]
      exact source_beq_target_eq_false_iff.mp hne
    obtain ⟨y, hy, hyx⟩ := exists_mem_settled hx hxne
    exact contains_iff_exists_key.mpr ⟨y, hy, (beq_iff_key_eq.mp hyx).trans hkey⟩

/-- Strictly increasing constraints between different requests are settled. -/
theorem settled_eq_self (hsorted : l.Pairwise fun a b => compare a b = .lt)
    (hne : ∀ c ∈ l, (c.source == c.target) = false) : settled l = l := by
  have hfilter : l.filter (fun c => c.source != c.target) = l := by
    rw [List.filter_eq_self]
    intro c hc
    rw [bne, hne c hc, Bool.not_false]
  -- no two of the constraints tie, so they may be reversed before they are sorted
  have hdistinct : ∀ a ∈ l, ∀ b ∈ l, a ≠ b → compare a b ≠ .eq := by
    have hsymm : Std.Symm fun a b : OrderingConstraint => compare a b ≠ .eq :=
      ⟨fun a b hab hba => hab (Std.OrientedCmp.eq_symm hba)⟩
    have hpairwise : l.Pairwise fun a b => compare a b ≠ .eq :=
      hsorted.imp fun hlt heq => by rw [hlt] at heq; cases heq
    exact fun a ha b hb hab => hpairwise.forall ha hb hab
  have hreverse : sortBy compare l.reverse = sortBy compare l := by
    refine sortBy_eq_of_perm_of_ne (List.reverse_perm l) fun a ha b hb => ?_
    exact hdistinct a (List.mem_reverse.mp ha) b (List.mem_reverse.mp hb)
  have hself : sortBy compare l = l :=
    sortBy_eq_self (hsorted.imp fun hlt => by rw [hlt]; rfl)
  rw [settled, hfilter, hreverse, hself]
  refine dropRepeats_eq_self (hsorted.imp fun {a b} hlt => Bool.eq_false_iff.mpr fun hab => ?_)
  rw [compare_eq_iff.mpr hab] at hlt
  cases hlt

/-- Constraints settle to equal ones exactly if they say the same of different requests. -/
theorem settled_beq_iff_contains_eq :
    (settled l == settled l') = true ↔
      ∀ c : OrderingConstraint, (c.source == c.target) = false → l.contains c = l'.contains c := by
  constructor
  · intro h c hne
    have hkeys := forall₂_iff_map_key_eq.mp (forall₂_of_beq h)
    have hsettled : (settled l).contains c = true ↔ (settled l').contains c = true := by
      rw [contains_iff_exists_key, contains_iff_exists_key, ← List.mem_map, hkeys, List.mem_map]
    rw [contains_settled_iff, contains_settled_iff] at hsettled
    rw [Bool.eq_iff_iff]
    simpa only [hne, and_true] using hsettled
  · intro h
    refine beq_of_forall₂ (settled_congr fun k hk => ?_)
    constructor
    · rintro ⟨c, hc, rfl⟩
      rw [← contains_iff_exists_key, ← h c (source_beq_target_eq_false_iff.mpr hk)]
      exact contains_iff_exists_key.mpr ⟨c, hc, rfl⟩
    · rintro ⟨c, hc, rfl⟩
      rw [← contains_iff_exists_key, h c (source_beq_target_eq_false_iff.mpr hk)]
      exact contains_iff_exists_key.mpr ⟨c, hc, rfl⟩

/-! ## Cycles -/

/-- Some constraint says that the first request runs before the second. -/
def Precedes (constraints : List OrderingConstraint) (earlier later : RequestId) : Prop :=
  ∃ c ∈ constraints, (c.source == earlier) = true ∧ (c.target == later) = true

/-- Some request would have to run before itself. -/
def IsCyclic (constraints : List OrderingConstraint) : Prop :=
  ∃ r, Relation.TransGen (Precedes constraints) r r

lemma isSound_graph (l : List OrderingConstraint) : (graph l).IsSound :=
  RequestGraph.isSound_ofPairs _

/-- An edge of the graph leads from a request to one that precedes it. -/
lemma hasEdge_graph_eq (l : List OrderingConstraint) :
    (fun later earlier => (graph l).hasEdge later earlier = true) =
      fun later earlier => Precedes l earlier later := by
  funext later earlier
  refine propext (RequestGraph.hasEdge_ofPairs_iff.trans ⟨?_, ?_⟩)
  · rintro ⟨p, hp, hlater, hearlier⟩
    obtain ⟨c, hc, rfl⟩ := List.mem_map.mp hp
    exact ⟨c, hc, hearlier, hlater⟩
  · rintro ⟨c, hc, hearlier, hlater⟩
    exact ⟨(c.target, c.source), List.mem_map_of_mem hc, hlater, hearlier⟩

/-- A warning shows the cycle that is found in the graph. -/
lemma cycleWarnings_eq (l : List OrderingConstraint) :
    cycleWarnings l = ((graph l).findCycle.map fun chain =>
      Warning.tolerated (.circularDependency (RequestGraph.chainText chain))).toList := by
  rw [cycleWarnings, RequestGraph.cycleFailure?]
  cases (graph l).findCycle <;> rfl

/-- No warning is given exactly if no request would have to precede itself. -/
theorem cycleWarnings_eq_nil_iff : cycleWarnings l = [] ↔ ¬IsCyclic l := by
  have hnone := (isSound_graph l).findCycle_eq_none_iff
  rw [hasEdge_graph_eq] at hnone
  rw [cycleWarnings_eq, Option.toList_eq_nil_iff, Option.map_eq_none_iff, hnone, IsCyclic,
    not_exists]
  exact forall_congr' fun r => not_congr Relation.transGen_swap

/-- If some request would have to precede itself, there is one warning, which shows a cycle. -/
theorem cycleWarnings_of_isCyclic (h : IsCyclic l) :
    ∃ chain, cycleWarnings l =
        [.tolerated (.circularDependency (RequestGraph.chainText chain))] ∧
      RequestGraph.IsCycle (fun later earlier => Precedes l earlier later) chain := by
  cases hfound : (graph l).findCycle with
  | none =>
    have hnil : cycleWarnings l = [] := by
      rw [cycleWarnings_eq, hfound]
      rfl
    exact absurd h (cycleWarnings_eq_nil_iff.mp hnil)
  | some chain =>
    have hcycle := (isSound_graph l).isCycle_of_findCycle hfound
    rw [hasEdge_graph_eq] at hcycle
    refine ⟨chain, ?_, hcycle⟩
    rw [cycleWarnings_eq, hfound]
    rfl

/-- Settled constraints are a strictly increasing list of all constraints between different
requests. Settling them again changes nothing, and lists settle to equal ones exactly if they say
the same, in whatever order and however often.  There is a warning exactly if the settled
constraints are cyclic, and it shows a cycle of them. -/
theorem settled_exact (l : List OrderingConstraint) :
    (settled l).Pairwise (fun a b => compare a b = .lt) ∧
      (∀ c, (settled l).contains c = true ↔
        l.contains c = true ∧ (c.source == c.target) = false) ∧
      settled (settled l) = settled l ∧
      (∀ l', (settled l == settled l') = true ↔
        ∀ c, (c.source == c.target) = false → l.contains c = l'.contains c) ∧
      (∀ l', l ⊆ l' → l' ⊆ l → (settled l == settled l') = true) ∧
      (IsCyclic (settled l) ↔ ∃ chain, cycleWarnings (settled l) =
          [.tolerated (.circularDependency (RequestGraph.chainText chain))] ∧
        RequestGraph.IsCycle (fun later earlier => Precedes (settled l) earlier later) chain) ∧
      (¬IsCyclic (settled l) ↔ cycleWarnings (settled l) = []) := by
  refine ⟨pairwise_settled l, fun c => contains_settled_iff,
    settled_eq_self (pairwise_settled l) fun c => source_beq_target_of_mem_settled,
    fun l' => settled_beq_iff_contains_eq, fun l' hl hl' => ?_, ⟨cycleWarnings_of_isCyclic, ?_⟩,
    cycleWarnings_eq_nil_iff.symm⟩
  · refine settled_beq_iff_contains_eq.mpr fun c _ => ?_
    rw [Bool.eq_iff_iff, contains_iff_exists_key, contains_iff_exists_key]
    exact ⟨fun ⟨x, hx, hkey⟩ => ⟨x, hl hx, hkey⟩, fun ⟨x, hx, hkey⟩ => ⟨x, hl' hx, hkey⟩⟩
  · rintro ⟨chain, hwarnings, -⟩
    -- without a cycle there would be no warning
    by_contra hacyclic
    rw [cycleWarnings_eq_nil_iff.mpr hacyclic] at hwarnings
    cases hwarnings

end RestFlow.OrderingConstraint

import RestFlow.Proofs.Extraction.RequestOrder

/-!
# Requests that are described again

The collection passes over a request that was described before, but the directives of the second
description are still read: they name inputs and make constraints like any others.  So a repetition
can be left out exactly if it is idle (`Setup.RepetitionsAreIdle`), that is, if the inputs that
directives name are the same without it, and all its constraints are there without it.
-/

namespace RestFlow

namespace RequestEntry

/-- The requests of a list that repeat each other or one of those seen before. -/
def repeatedFrom (seen : List RequestId) : List RequestEntry → List RequestEntry
  | [] => []
  | e :: rest =>
    if seen.contains e.id then e :: repeatedFrom seen rest else repeatedFrom (e.id :: seen) rest

/-- Every request counts or is a repetition. -/
lemma distinctFrom_append_repeatedFrom_perm (seen : List RequestId) (l : List RequestEntry) :
    (distinctFrom seen l ++ repeatedFrom seen l).Perm l := by
  induction l generalizing seen with
  | nil => exact List.Perm.refl _
  | cons e rest ih =>
    rw [distinctFrom, repeatedFrom]
    by_cases he : seen.contains e.id
    · rw [if_pos he, if_pos he]
      exact List.perm_middle.trans ((ih seen).cons e)
    · rw [if_neg he, if_neg he, List.cons_append]
      exact (ih (e.id :: seen)).cons e

end RequestEntry

namespace Interface

/-- The requests of an interface that were described before. -/
def repeated (i : Interface) : List RequestEntry :=
  RequestEntry.repeatedFrom [] i.requests

/-- The interface with the first description of every request only. -/
def withoutRepetitions (i : Interface) : Interface where
  requests := i.distinct

/-- The constraints that directives of repetitions make. -/
def repeatedConstraints (i : Interface) : List OrderingConstraint :=
  OrderingConstraint.ofDirectives <|
    i.repeated.flatMap fun e => e.directives.map (·, some e.id)

/-- Without repetitions every request counts. -/
@[simp] lemma distinct_withoutRepetitions (i : Interface) :
    i.withoutRepetitions.distinct = i.distinct :=
  RequestEntry.distinctFrom_eq_self (RequestEntry.pairwise_distinctFrom [] i.requests)
    fun _ _ => rfl

end Interface

namespace Producer

/-- The input, if a directive made one a producer. -/
def directiveInput? : Producer → Option Resource
  | inputOnly r .directive => some r
  | _ => none

/-- Equal producers are both inputs that directives named, or neither is. -/
lemma directiveInput?_of_beq {p q : Producer} (h : (p == q) = true) :
    p.directiveInput? = none ∧ q.directiveInput? = none ∨
      ∃ a b, p.directiveInput? = some a ∧ q.directiveInput? = some b ∧ (a == b) = true := by
  cases p with
  | inputOnly a origin =>
    cases q with
    | inputOnly b origin' =>
      change (a == b && origin == origin') = true at h
      rw [Bool.and_eq_true, beq_iff_eq (a := origin)] at h
      obtain ⟨hab, rfl⟩ := h
      cases origin with
      | directive => exact .inr ⟨a, b, rfl, rfl, hab⟩
      | writer => exact .inl ⟨rfl, rfl⟩
    | _ => cases h
  | _ =>
    cases q with
    | inputOnly b origin' => cases h
    | _ => exact .inl ⟨rfl, rfl⟩

/-- Equal lists of producers have equal inputs that directives named. -/
lemma filterMap_directiveInput? {ps qs : List Producer} (h : (ps == qs) = true) :
    (ps.filterMap directiveInput? == qs.filterMap directiveInput?) = true := by
  have hforall := forall₂_of_beq h
  clear h
  induction hforall with
  | nil => rfl
  | cons hpq _ ih =>
    rcases directiveInput?_of_beq hpq with ⟨hp, hq⟩ | ⟨a, b, hp, hq, hab⟩
    · rw [List.filterMap_cons_none hp, List.filterMap_cons_none hq]
      exact ih
    · rw [List.filterMap_cons_some hp, List.filterMap_cons_some hq, List.cons_beq_cons, hab, ih]
      rfl

/-- The inputs among the producers of a result that directives named. -/
lemma filterMap_producers (index : ProducerIndex) (constraints : List OrderingConstraint) :
    (index.producers ++ OrderingConstraint.producers constraints).filterMap directiveInput? =
      ((sortOn (fun i => i.1.name) index.inputs).filter fun i => i.2 = .directive).map
        Prod.fst := by
  have hinputs : ∀ l : List (Resource × InputOrigin),
      (l.map fun i => inputOnly i.1 i.2).filterMap directiveInput? =
        (l.filter fun i => i.2 = .directive).map Prod.fst := by
    intro l
    induction l with
    | nil => rfl
    | cons i rest ih =>
      obtain ⟨r, origin⟩ := i
      cases origin with
      | directive => exact congrArg (r :: ·) ih
      | writer => exact ih
  -- producers of the other kinds are no inputs
  have hnone : ∀ {α : Type} (f : α → Producer) (l : List α),
      (∀ a, (f a).directiveInput? = none) → (l.map f).filterMap directiveInput? = [] := by
    intro α f l hf
    rw [List.filterMap_map, List.filterMap_eq_nil_iff]
    exact fun a _ => hf a
  rw [ProducerIndex.producers, OrderingConstraint.producers, List.filterMap_append,
    List.filterMap_append, List.filterMap_append, hnone response _ fun _ => rfl,
    hnone sameBody _ fun _ => rfl, hinputs, hnone ordering _ fun _ => rfl, List.nil_append,
    List.nil_append, List.append_nil]

end Producer

namespace Setup

variable {s : Setup} {i : Interface} {c : Collection} {d : Dictionary}

variable (s i) in
/-- Repetitions add nothing to the collection. -/
lemma collect_withoutRepetitions : (s.collect i.withoutRepetitions).2 = (s.collect i).2 := by
  rw [collect_snd, collect_snd, Interface.distinct_withoutRepetitions]

/-! ## Repetitions that make no difference -/

/-- Repetitions are idle in a run if the inputs that directives name are the same without them, and
if every constraint of theirs is there without them, up to spelling. -/
structure RepetitionsAreIdle (s : Setup) (i : Interface) (c : Collection) (d : Dictionary) :
    Prop where
  inputs : (s.initialPool i c).index.inputs = (s.initialPool i.withoutRepetitions c).index.inputs
  constraints : ∀ k ∈ i.repeatedConstraints, (k.source == k.target) = false →
    ∃ k' ∈ s.constraints i.withoutRepetitions
      (s.mirrored i.withoutRepetitions c d).dependencies, (k' == k) = true

/-- Two runs with one dictionary agree: both fail, or both succeed with results that agree. -/
structure RunsAgree (s : Setup) (i i' : Interface) (d : Dictionary) : Prop where
  success : (∃ x, (s.extract i d).2 = .ok x) ↔ ∃ y, (s.extract i' d).2 = .ok y
  results : ∀ x y, (s.extract i d).2 = .ok x → (s.extract i' d).2 = .ok y → x.Agrees y

/-- Pools whose inputs are sorted alike have the same index at the start of runs over one
collection. -/
lemma index_initialPool_eq {i' : Interface}
    (h : (s.initialPool i c).index.inputs = (s.initialPool i' c).index.inputs) :
    (s.initialPool i c).index = (s.initialPool i' c).index := by
  have hresponses : ∀ j, (s.initialPool j c).responses = c.responses :=
    fun j => ProducerPool.responses_addAll _ _ _
  have hsameBody : ∀ j, (s.initialPool j c).sameBody = c.sameBody :=
    fun j => ProducerPool.sameBody_addAll _ _ _
  refine ProducerIndex.mk.injEq .. |>.mpr ⟨?_, ?_, h⟩
  · rw [hresponses, hresponses]
  · rw [hsameBody, hsameBody]

variable (s i) in
/-- The constraints of directives are those of repetitions and those of other directives. -/
lemma ofDirectives_perm :
    (OrderingConstraint.ofDirectives (s.ownedDirectives i)).Perm (i.repeatedConstraints ++
      OrderingConstraint.ofDirectives (s.ownedDirectives i.withoutRepetitions)) := by
  have hrequests : i.requests.Perm (i.repeated ++ i.distinct) :=
    (RequestEntry.distinctFrom_append_repeatedFrom_perm [] i.requests).symm.trans
      List.perm_append_comm
  have howned : (s.ownedDirectives i).Perm
      ((i.repeated.flatMap fun e => e.directives.map (·, some e.id)) ++
        s.ownedDirectives i.withoutRepetitions) := by
    have hdirectives := hrequests.flatMap_right fun e => e.directives.map (·, some e.id)
    rw [List.flatMap_append] at hdirectives
    have happend := hdirectives.append_right (s.directives.map (·, none))
    rwa [List.append_assoc] at happend
  rw [Interface.repeatedConstraints, OrderingConstraint.ofDirectives,
    OrderingConstraint.ofDirectives, OrderingConstraint.ofDirectives, ← List.filterMap_append]
  exact howned.filterMap _

/-- What is settled is the same with and without repetitions exactly if every constraint that they
make is there without them. -/
lemma constraints_beq_iff (l : List Dependency) :
    (s.constraints i l == s.constraints i.withoutRepetitions l) = true ↔
      ∀ k ∈ i.repeatedConstraints, (k.source == k.target) = false →
        ∃ k' ∈ s.constraints i.withoutRepetitions l, (k' == k) = true := by
  refine OrderingConstraint.settled_beq_settled_iff ?_
  rw [← List.append_assoc]
  exact (ofDirectives_perm s i).append_right (OrderingConstraint.implied l)

/-- The inputs that directives named are the inputs at the start, by name. -/
lemma filterMap_producers_assembled (groups : DependencyGroups) :
    (s.assembled i c d groups).producers.filterMap Producer.directiveInput? =
      (sortOn (fun j => j.1.name) (s.initialPool i c).index.inputs).map Prod.fst := by
  show ((s.writers i c d).pool.index.producers ++ _).filterMap Producer.directiveInput? = _
  rw [Producer.filterMap_producers, ← sortOn_filter]
  congr 2
  show (sortOn _ (s.writers i c d).pool.inputs).filter _ = sortOn _ (s.initialPool i c).inputs
  rw [← sortOn_filter, writers_pool, ProducerPool.filter_inputs_addAll fun _ => rfl]
  congr 1
  rw [List.filter_eq_self]
  intro input hinput
  exact decide_eq_true (exists_consumer_of_mem_initialPool hinput).1

/-- Inputs at the start are equal if their resources are, because directives named them all. -/
lemma eq_of_map_fst_eq {i' : Interface} {l l' : List (Resource × InputOrigin)}
    (hl : ∀ input ∈ l, input ∈ (s.initialPool i c).inputs)
    (hl' : ∀ input ∈ l', input ∈ (s.initialPool i' c).inputs)
    (h : l.map Prod.fst = l'.map Prod.fst) : l = l' := by
  have horigin : ∀ {j : Interface} {inputs : List (Resource × InputOrigin)},
      (∀ input ∈ inputs, input ∈ (s.initialPool j c).inputs) →
        (inputs.map Prod.fst).map (·, InputOrigin.directive) = inputs := by
    intro j inputs hmem
    rw [List.map_map]
    refine (List.map_congr_left fun input hinput => ?_).trans (List.map_id _)
    exact Prod.ext rfl (exists_consumer_of_mem_initialPool (hmem input hinput)).1.symm
  rw [← horigin hl, h, horigin hl']

/-- Results with equal producers come from the same inputs at the start. -/
lemma inputs_eq_of_producers_beq {i' : Interface} (hc : (s.collect i).2 = .ok c)
    {groups groups' : DependencyGroups}
    (h : ((s.assembled i c d groups).producers == (s.assembled i' c d groups').producers) = true) :
    (s.initialPool i c).index.inputs = (s.initialPool i' c).index.inputs := by
  have hbeq := Producer.filterMap_directiveInput? h
  rw [filterMap_producers_assembled, filterMap_producers_assembled] at hbeq
  have hmem : ∀ j, ∀ input ∈ sortOn (fun j => j.1.name) (s.initialPool j c).index.inputs,
      input ∈ (s.initialPool j c).inputs := fun j input hinput => mem_sortOn.mp (mem_sortOn.mp hinput)
  refine ProducerPool.inputs_index_eq (eq_of_map_fst_eq (hmem i) (hmem i') ?_)
  -- inputs are resources of consumers, and these are the same if they are equal
  refine eq_of_beq_of_mem hbeq fun a ha b hb hab => ?_
  obtain ⟨input, hinput, rfl⟩ := List.mem_map.mp ha
  obtain ⟨input', hinput', rfl⟩ := List.mem_map.mp hb
  obtain ⟨-, x, hx, hxres⟩ := exists_consumer_of_mem_initialPool (hmem i input hinput)
  obtain ⟨-, y, hy, hyres⟩ := exists_consumer_of_mem_initialPool (hmem i' input' hinput')
  rw [← hxres, ← hyres] at hab ⊢
  rw [eq_of_beq_resource hc hx hy hab]

/-! ## Leaving repetitions out -/

/-- Over one collection, idle repetitions make no difference. -/
lemma RepetitionsAreIdle.agrees (h : s.RepetitionsAreIdle i c d) (groups : DependencyGroups) :
    (s.assembled i c d groups).Agrees (s.assembled i.withoutRepetitions c d groups) :=
  agrees_assembled rfl (index_initialPool_eq h.inputs) ((constraints_beq_iff _).mpr h.constraints)
    groups

/-- Over one collection, repetitions that make no difference are idle. -/
lemma repetitionsAreIdle_of_agrees (hc : (s.collect i).2 = .ok c)
    {groups groups' : DependencyGroups}
    (h : (s.assembled i c d groups).Agrees (s.assembled i.withoutRepetitions c d groups')) :
    s.RepetitionsAreIdle i c d := by
  have hinputs := inputs_eq_of_producers_beq hc h.producers
  refine ⟨hinputs, (constraints_beq_iff _).mp ?_⟩
  have hconstraints := h.orderingConstraints
  simp only [assembled] at hconstraints
  rwa [mirrored_eq_of_index_eq rfl (index_initialPool_eq hinputs)] at hconstraints

/-- Repetitions can be left out of a run exactly if it fails anyway, with and without them, or if
they are idle. -/
theorem runsAgree_withoutRepetitions_iff (s : Setup) (i : Interface) (d : Dictionary) :
    s.RunsAgree i i.withoutRepetitions d ↔
      ((∀ x, (s.extract i d).2 ≠ .ok x) ∧ ∀ y, (s.extract i.withoutRepetitions d).2 ≠ .ok y) ∨
        ∃ c, (s.collect i).2 = .ok c ∧ s.RepetitionsAreIdle i c d := by
  have hcollect := collect_withoutRepetitions s i
  constructor
  · intro h
    by_cases hx : ∃ x, (s.extract i d).2 = .ok x
    · obtain ⟨x, hx⟩ := hx
      obtain ⟨y, hy⟩ := h.success.mp ⟨x, hx⟩
      have hagrees := h.results x y hx hy
      obtain ⟨c, groups, hc, -, rfl⟩ := extract_eq_ok_iff.mp hx
      obtain ⟨c', groups', hc', -, rfl⟩ := extract_eq_ok_iff.mp hy
      rw [hcollect, hc] at hc'
      obtain rfl := Except.ok.inj hc'
      exact .inr ⟨c, hc, repetitionsAreIdle_of_agrees hc hagrees⟩
    · exact .inl ⟨fun x h' => hx ⟨x, h'⟩, fun y h' => hx (h.success.mpr ⟨y, h'⟩)⟩
  · rintro (⟨hfails, hfails'⟩ | ⟨c, hc, hidle⟩)
    · exact ⟨⟨fun ⟨x, hx⟩ => absurd hx (hfails x), fun ⟨y, hy⟩ => absurd hy (hfails' y)⟩,
        fun x _ hx => absurd hx (hfails x)⟩
    · have hrun := fun x => extract_eq_ok_iff_of_collect (d := d) (x := x) hc
      have hrun' := fun y => extract_eq_ok_iff_of_collect (d := d) (x := y) (hcollect.trans hc)
      -- idle repetitions leave the index as it is, so the same dependencies are grouped
      rw [← mirrored_eq_of_index_eq rfl (index_initialPool_eq hidle.inputs)] at hrun'
      refine ⟨⟨fun ⟨x, hx⟩ => ?_, fun ⟨y, hy⟩ => ?_⟩, fun x y hx hy => ?_⟩
      · obtain ⟨groups, hgroups, -⟩ := (hrun x).mp hx
        exact ⟨_, (hrun' _).mpr ⟨groups, hgroups, rfl⟩⟩
      · obtain ⟨groups, hgroups, -⟩ := (hrun' y).mp hy
        exact ⟨_, (hrun _).mpr ⟨groups, hgroups, rfl⟩⟩
      · obtain ⟨groups, hgroups, rfl⟩ := (hrun x).mp hx
        obtain ⟨groups', hgroups', rfl⟩ := (hrun' y).mp hy
        obtain rfl : groups = groups' := Except.ok.inj (hgroups.symm.trans hgroups')
        exact hidle.agrees groups

end Setup

namespace Interface

/-- Reports are described twice, and only the second description says that sessions come first. -/
def reportsTwice : Interface where
  requests := [
    { id := { endpoint := "/reports", method := .get }, data := {} },
    { id := { endpoint := "/reports", method := .get }
      data := {
        localDirectives := [{
          producer := { endpoint := "/sessions", method := .post }
          consumer := none
          producerParameter := none
          consumerParameter := none
          exceptions := [] }] } }]

end Interface

namespace Setup

open Interface

/-- The directive of the second description makes a constraint, although the description is
passed over. -/
theorem not_forall_runsAgree :
    ¬∀ (s : Setup) (i : Interface) (d : Dictionary), s.RunsAgree i i.withoutRepetitions d := by
  intro h
  have hrun : (({} : Setup).extract reportsTwice .standard).2.toOption.map
      (fun r => r.orderingConstraints.length) = some 1 := by
    decide +kernel
  have hrun' : (({} : Setup).extract reportsTwice.withoutRepetitions .standard).2.toOption.map
      (fun r => r.orderingConstraints.length) = some 0 := by
    decide +kernel
  obtain ⟨x, hx, hlength⟩ := exists_of_toOption_map hrun
  obtain ⟨y, hy, hlength'⟩ := exists_of_toOption_map hrun'
  have hagrees := (h {} reportsTwice .standard).results x y hx hy
  have heq := (forall₂_of_beq hagrees.orderingConstraints).length_eq
  rw [hlength, hlength'] at heq
  cases heq

end Setup

end RestFlow

import RestFlow.Proofs.Order.Sorting
import RestFlow.Proofs.Resolution.Outcome

/-!
# What the strategies find

Look-ups select from the index, so whatever a strategy finds there is a response or an input of the
index.  For every strategy that looks at types there is one lemma that says where a producer that it
finds comes from (`Strategy.cases_of_outcome_byExactType`, `Strategy.exists_of_outcome_byTypes`,
`Strategy.exists_of_outcome_byCreation`, `Strategy.exists_of_outcome_byNestedObject`).
-/

namespace RestFlow

namespace Resource

/-- The most specific type of the resource is the one of this name. -/
def IsOfType (r : Resource) (type : String) : Prop :=
  ∃ t, r.primaryType? = some t ∧ Naming.sameType t type = true

lemma any_sameType_iff {r : Resource} {type : String} :
    (r.primaryType?.any fun t => Naming.sameType t type) = true ↔ r.IsOfType type :=
  Option.any_eq_true _ _

end Resource

/-! ## Look-ups -/

namespace ProducerIndex

variable {index : ProducerIndex} {r : Resource}

/-- The responses of a request are responses. -/
lemma mem_of_mem_responsesOf {request : RequestId} {name : Option String}
    {place : Option AccessPath} (h : r ∈ index.responsesOf request name place) :
    r ∈ index.responses := by
  have hsorted := mem_of_mem_dropRepeats (List.mem_filter.mp h).1
  exact (List.mem_filter.mp (mem_sortOn.mp hsorted)).1

lemma mem_of_mem_responsesNamed {name endpoint : String}
    (h : r ∈ index.responsesNamed name endpoint) : r ∈ index.responses :=
  (List.mem_filter.mp (mem_of_mem_dropRepeats h)).1

/-- The responses of a type are responses whose most specific type is this one. -/
lemma of_mem_responsesOfType {type : String} (h : r ∈ index.responsesOfType type) :
    r ∈ index.responses ∧ r.IsOfType type := by
  obtain ⟨hmem, htype⟩ := List.mem_filter.mp (mem_of_mem_dropRepeats h)
  exact ⟨hmem, Resource.any_sameType_iff.mp htype⟩

lemma mem_of_mem_sameBodyNamed {name : String} (h : r ∈ index.sameBodyNamed name) :
    r ∈ index.sameBody :=
  (List.mem_filter.mp (mem_of_mem_dropRepeats h)).1

/-- The inputs of a name are inputs. -/
lemma mem_of_find?_inputsNamed {name : String} {test : Resource × InputOrigin → Bool}
    {i : Resource × InputOrigin} (h : (index.inputsNamed name).find? test = some i) :
    i ∈ index.inputs :=
  (List.mem_filter.mp (List.mem_of_find?_eq_some h)).1

end ProducerIndex

namespace Strategy

variable {c : Consumer} {around : Surroundings} {type : String} {r : Resource} {p : Producer}

/-- The responses above a consumer are responses of the type. -/
lemma of_mem_ancestorResponses (h : r ∈ ancestorResponses c around type) :
    r ∈ around.index.responses ∧ r.IsOfType type := by
  obtain ⟨hmem, htest⟩ := List.mem_filter.mp h
  obtain ⟨ancestor, -, hr⟩ := List.mem_flatMap.mp hmem
  rw [Bool.and_eq_true] at htest
  exact ⟨ProducerIndex.mem_of_mem_responsesNamed hr, Resource.any_sameType_iff.mp htest.1⟩

lemma of_mem_responsesAnywhere (h : r ∈ responsesAnywhere c around type) :
    r ∈ around.index.responses ∧ r.IsOfType type :=
  ProducerIndex.of_mem_responsesOfType (List.mem_filter.mp h).1

lemma of_mem_containerResponses (h : r ∈ containerResponses c around type) :
    r ∈ around.index.responses ∧ r.IsOfType type :=
  ProducerIndex.of_mem_responsesOfType (List.mem_filter.mp h).1

/-! ## Candidates -/

/-- The candidate that is chosen is one of them. -/
lemma exists_of_outcome_atSingleEndpoint {candidates : List Resource}
    (h : (atSingleEndpoint c type candidates).outcome = .resolved p) :
    ∃ r ∈ candidates, p = .response r := by
  unfold atSingleEndpoint at h
  cases candidates with
  | nil => cases h
  | cons first rest =>
    dsimp only at h
    split at h
    · cases h
    · cases h
      exact ⟨first, List.mem_cons_self, rfl⟩

/-- Only a lack of candidates leaves their choice undecided. -/
lemma outcome_atSingleEndpoint_eq_undecided_iff {candidates : List Resource} :
    (atSingleEndpoint c type candidates).outcome = .undecided ↔ candidates = [] := by
  unfold atSingleEndpoint
  cases candidates with
  | nil => exact iff_of_true rfl rfl
  | cons first rest =>
    refine iff_of_false ?_ (List.cons_ne_nil first rest)
    dsimp only
    split
    · exact (nomatch ·)
    · exact (nomatch ·)

/-! ## The exact type -/

/-- The response that is found above a consumer is one of its type there. -/
lemma exists_of_fromAncestors (h : fromAncestors c around = some p) :
    ∃ type r, c.resource.primaryType? = some type ∧ r ∈ ancestorResponses c around type ∧
      p = .response r := by
  obtain ⟨type, htype, h⟩ := Option.bind_eq_some_iff.mp h
  obtain ⟨first, hfirst, h⟩ := Option.bind_eq_some_iff.mp h
  have hmem : first ∈ ancestorResponses c around type :=
    mem_sortOn.mp (List.mem_of_mem_head? hfirst)
  exact ⟨type, first, htype, hmem, (Option.some.inj h).symm⟩

/-- No response is found above a consumer if there is none of its type. -/
lemma ancestorResponses_eq_nil (htype : c.resource.primaryType? = some type)
    (h : fromAncestors c around = none) : ancestorResponses c around type = [] := by
  rw [fromAncestors, htype, Option.bind_eq_bind, Option.bind_some] at h
  cases hsorted : sortOn Resource.sortKey (ancestorResponses c around type) with
  | nil =>
    refine List.eq_nil_iff_forall_not_mem.mpr fun r hr => ?_
    have hmem : r ∈ sortOn Resource.sortKey (ancestorResponses c around type) :=
      mem_sortOn.mpr hr
    rw [hsorted] at hmem
    cases hmem
  | cons first rest =>
    rw [hsorted] at h
    cases h

/-- The input that is found for a consumer has its name, is at the endpoint that ends with the path
parameter, and is accepted. -/
lemma input_of_fromInputs (h : fromInputs c around = some p) :
    ∃ scope i, c.resource.reference.scope? = some scope ∧ i ∈ around.index.inputs ∧
      i.1.name = c.name ∧ i.1.request.place = Endpoint.normalize scope ∧
      c.accepts around i.1 = true ∧ p = .inputOnly i.1 i.2 := by
  obtain ⟨scope, hscope, h⟩ := Option.bind_eq_some_iff.mp h
  obtain ⟨i, hi, h⟩ := Option.bind_eq_some_iff.mp h
  have htest := List.find?_some hi
  rw [Bool.and_eq_true, beq_iff_eq] at htest
  obtain ⟨hmem, hname⟩ := List.mem_filter.mp (List.mem_of_find?_eq_some hi)
  exact ⟨scope, i, hscope, hmem, beq_iff_eq.mp hname, htest.1, htest.2, (Option.some.inj h).symm⟩

/-- An input of the consumer's name at the endpoint that ends with the path parameter is found, or
another one is, if it is accepted. -/
lemma exists_fromInputs {i : Resource × InputOrigin} (hi : i ∈ around.index.inputs)
    (hname : i.1.name = c.name)
    (hplace : c.resource.reference.scope?.map Endpoint.normalize = some i.1.request.place)
    (haccepts : c.accepts around i.1 = true) : ∃ q, fromInputs c around = some q := by
  obtain ⟨scope, hscope, hplace⟩ := Option.map_eq_some_iff.mp hplace
  unfold fromInputs
  rw [hscope, Option.bind_eq_bind, Option.bind_some]
  cases hfind : (around.index.inputsNamed c.name).find? fun i =>
      i.1.request.place == Endpoint.normalize scope && c.accepts around i.1 with
  | some found => exact ⟨_, rfl⟩
  | none =>
    have hnamed : i ∈ around.index.inputsNamed c.name :=
      List.mem_filter.mpr ⟨hi, beq_iff_eq.mpr hname⟩
    have hreject := List.find?_eq_none.mp hfind i hnamed
    rw [hplace, haccepts, beq_self_eq_true] at hreject
    exact absurd rfl hreject

/-- The input that is found for a consumer is one of the index. -/
lemma exists_of_fromInputs (h : fromInputs c around = some p) :
    ∃ i ∈ around.index.inputs, p = .inputOnly i.1 i.2 := by
  obtain ⟨_, i, -, hi, -, -, -, hp⟩ := input_of_fromInputs h
  exact ⟨i, hi, hp⟩

/-- The exact type leads to one of its candidates, or to an input. -/
lemma candidate_of_outcome_byExactType (h : (byExactType c around).outcome = .resolved p) :
    (∃ type r, c.resource.primaryType? = some type ∧
        (r ∈ ancestorResponses c around type ∨ r ∈ responsesAnywhere c around type) ∧
        p = .response r) ∨
      fromInputs c around = some p := by
  unfold byExactType at h
  split at h
  · rename_i found hfound
    cases h
    rw [Option.orElse_eq_orElse, Option.orElse_eq_or, Option.or_eq_some_iff] at hfound
    rcases hfound with hancestors | ⟨-, hinputs⟩
    · obtain ⟨type, r, htype, hr, rfl⟩ := exists_of_fromAncestors hancestors
      exact .inl ⟨type, r, htype, .inl hr, rfl⟩
    · exact .inr hinputs
  · split at h
    · rename_i type htype
      split at h
      · obtain ⟨r, hr, rfl⟩ := exists_of_outcome_atSingleEndpoint h
        exact .inl ⟨type, r, htype, .inr hr, rfl⟩
      · cases h
    · cases h

/-- The exact type leads to a response of it, or to an input. -/
lemma cases_of_outcome_byExactType (h : (byExactType c around).outcome = .resolved p) :
    (∃ type r, c.resource.primaryType? = some type ∧ r ∈ around.index.responses ∧
        r.IsOfType type ∧ p = .response r) ∨
      ∃ i ∈ around.index.inputs, p = .inputOnly i.1 i.2 := by
  rcases candidate_of_outcome_byExactType h with ⟨type, r, htype, hr, rfl⟩ | hinputs
  · obtain ⟨hmem, hsame⟩ := hr.elim of_mem_ancestorResponses of_mem_responsesAnywhere
    exact .inl ⟨type, r, htype, hmem, hsame, rfl⟩
  · exact .inr (exists_of_fromInputs hinputs)

/-- If the exact type does not decide, there is no response of it above the consumer, and none
anywhere if the consumer has no container. -/
lemma of_outcome_byExactType_eq_undecided (htype : c.resource.primaryType? = some type)
    (h : (byExactType c around).outcome = .undecided) :
    ancestorResponses c around type = [] ∧
      (c.kind ≠ .path → c.resource.container = none → responsesAnywhere c around type = []) := by
  unfold byExactType at h
  split at h
  · cases h
  · rename_i hnone
    rw [Option.orElse_eq_orElse, Option.orElse_eq_or, Option.or_eq_none_iff] at hnone
    refine ⟨ancestorResponses_eq_nil htype hnone.1, fun hkind hcontainer => ?_⟩
    rw [htype] at h
    simp only [hcontainer, bne_iff_ne.mpr hkind] at h
    exact outcome_atSingleEndpoint_eq_undecided_iff.mp h

/-! ## Other types -/

/-- Less specific types are gone through in order, and those before the one that decides have no
responses. -/
lemma exists_of_outcome_byTypes {types : List String}
    (h : (byTypes c around types).outcome = .resolved p) :
    ∃ before type after r, types = before ++ type :: after ∧
      (∀ t ∈ before, responsesAnywhere c around t = []) ∧
      r ∈ responsesAnywhere c around type ∧ p = .response r := by
  induction types with
  | nil => cases h
  | cons type rest ih =>
    rw [outcome_byTypes_cons] at h
    by_cases hundecided :
        (atSingleEndpoint c type (responsesAnywhere c around type)).outcome = .undecided
    · rw [hundecided] at h
      -- the search goes on only where nothing was found
      have hnil := outcome_atSingleEndpoint_eq_undecided_iff.mp hundecided
      obtain ⟨before, later, after, r, rfl, hbefore, hr, hp⟩ := ih h
      exact ⟨type :: before, later, after, r, rfl, List.forall_mem_cons.mpr ⟨hnil, hbefore⟩, hr, hp⟩
    · rw [Outcome.orElse_of_ne hundecided] at h
      obtain ⟨r, hr, hp⟩ := exists_of_outcome_atSingleEndpoint h
      exact ⟨[], type, rest, r, rfl, List.forall_mem_nil _, hr, hp⟩

/-- The response is that of another PUT, at an endpoint of the same shape. -/
structure IsSibling (c : Consumer) (r : Resource) : Prop where
  consumer : c.request.method = .put
  method : r.request.method = .put
  shape : Endpoint.shape r.request.endpoint = Endpoint.shape c.request.endpoint
  ne : (r.request == c.request) = false

/-- A creating request leads to a sibling's response of the type that it creates. -/
lemma sibling_of_outcome_byCreation (h : (byCreation c around).outcome = .resolved p) :
    ∃ type r, c.resource.primaryType? = some type ∧ r ∈ around.index.responsesOfType type ∧
      IsSibling c r ∧ p = .response r := by
  unfold byCreation at h
  split at h
  · rename_i hcreates
    rw [Bool.and_eq_true, decide_eq_true_eq] at hcreates
    dsimp only at h
    split at h
    · rename_i r hr
      cases h
      obtain ⟨type, htype, hfind⟩ := Option.bind_eq_some_iff.mp hr
      have htest := List.find?_some hfind
      simp only [Bool.and_eq_true, decide_eq_true_eq, beq_iff_eq, bne, Bool.not_eq_true'] at htest
      obtain ⟨⟨⟨hmethod, -⟩, hshape⟩, hne⟩ := htest
      exact ⟨type, r, htype, List.mem_of_find?_eq_some hfind, ⟨hcreates.1, hmethod, hshape, hne⟩,
        rfl⟩
    · cases h
  · cases h

/-- A creating request leads to a response of the type that it creates. -/
lemma exists_of_outcome_byCreation (h : (byCreation c around).outcome = .resolved p) :
    ∃ type r, c.resource.primaryType? = some type ∧ r ∈ around.index.responses ∧
      r.IsOfType type ∧ p = .response r := by
  obtain ⟨type, r, htype, hr, -, hp⟩ := sibling_of_outcome_byCreation h
  obtain ⟨hmem, hsame⟩ := ProducerIndex.of_mem_responsesOfType hr
  exact ⟨type, r, htype, hmem, hsame, hp⟩

/-- The type of an enclosing object leads to one of its candidates. -/
lemma candidate_of_outcome_byNestedObject (h : (byNestedObject c around).outcome = .resolved p) :
    ∃ type r, c.resource.primaryType? = some type ∧ r ∈ containerResponses c around type ∧
      p = .response r := by
  unfold byNestedObject at h
  split at h
  · rename_i type htype
    split at h
    · split at h
      · cases h
      · rename_i first rest hcandidates
        split at h
        · cases h
          refine ⟨type, first, htype, ?_, rfl⟩
          rw [hcandidates]
          exact List.mem_cons_self
        · cases h
    · cases h
  · cases h

/-- The type of an enclosing object leads to a response of it. -/
lemma exists_of_outcome_byNestedObject (h : (byNestedObject c around).outcome = .resolved p) :
    ∃ type r, c.resource.primaryType? = some type ∧ r ∈ around.index.responses ∧
      r.IsOfType type ∧ p = .response r := by
  obtain ⟨type, r, htype, hr, hp⟩ := candidate_of_outcome_byNestedObject h
  obtain ⟨hmem, hsame⟩ := of_mem_containerResponses hr
  exact ⟨type, r, htype, hmem, hsame, hp⟩

end Strategy

end RestFlow

import RestFlow.Proofs.Request.Identity
import RestFlow.Proofs.Resolution.Findings
import RestFlow.Proofs.Resource.Equality

/-!
# Which response is taken for a body property

A body property inside an object has several candidate types, and the strategies do not go through
them in one go: `Strategy.exactType` looks for the first type above the consumer's endpoint,
`Strategy.approximateType` then looks for the others anywhere, and `Strategy.nestedObject` looks for
the first one anywhere.

So a response of a less specific type may be taken although there is one of a more specific type
(`Consumer.IsOffer`).  This happens in one way only: the type that is passed over is the first one,
the consumer has a container, and the response that has this type is not above the consumer's
endpoint.
-/

namespace RestFlow

/-! ## Look-ups do not depend on spellings -/

namespace RequestId

variable {a b : RequestId}

/-- Equal requests may feed the same requests. -/
lemma mayFeed_eq_of_beq (h : (a == b) = true) (consumer : RequestId) (allowGet : Bool) :
    a.mayFeed consumer allowGet = b.mayFeed consumer allowGet := by
  obtain ⟨hplace, hmethod⟩ := Prod.mk.inj (beq_iff.mp h)
  have hne : (a != consumer) = (b != consumer) := by
    rw [bne, bne, BEq.congr_left h]
  have hsegments : Endpoint.segments a.endpoint = Endpoint.segments b.endpoint :=
    segments_eq_of_place_eq hplace
  rw [mayFeed, mayFeed, hmethod, hplace, hne, Endpoint.isStrictAncestor,
    Endpoint.isStrictAncestor, hsegments]

end RequestId

namespace Consumer

/-- Equal responses are accepted alike. -/
lemma accepts_eq_of_beq {r r' : Resource} (h : (r == r') = true) (c : Consumer)
    (around : Surroundings) : c.accepts around r = c.accepts around r' := by
  have hrequest := (Resource.beq_eq_true_iff.mp h).1
  rw [accepts, accepts, bne, bne, BEq.congr_left hrequest,
    RequestId.mayFeed_eq_of_beq hrequest]

end Consumer

namespace Resource

variable {a b : Resource}

lemma name_eq_of_beq (h : (a == b) = true) : a.name = b.name := by
  rw [name, name, reference_eq_of_beq h]

/-- Equal resources are of the same types. -/
lemma IsOfType.of_beq {type : String} (ha : b.IsOfType type) (h : (a == b) = true) :
    a.IsOfType type := by
  obtain ⟨t, ht, hsame⟩ := ha
  rw [(beq_eq_true_iff.mp h).2] at ht
  exact ⟨t, ht, hsame⟩

end Resource

namespace ProducerIndex

variable {index : ProducerIndex} {r : Resource}

/-- A response of a type, or an equal one, is found by the type. -/
lemma exists_mem_responsesOfType {type : String} (hr : r ∈ index.responses)
    (htype : r.IsOfType type) : ∃ r' ∈ index.responsesOfType type, (r' == r) = true :=
  exists_mem_dropRepeats (List.mem_filter.mpr ⟨hr, Resource.any_sameType_iff.mpr htype⟩)

/-- A response at an endpoint, or an equal one, is found by name and endpoint. -/
lemma exists_mem_responsesNamed {endpoint : String} (hr : r ∈ index.responses)
    (hplace : r.request.place = Endpoint.normalize endpoint) :
    ∃ r' ∈ index.responsesNamed r.name endpoint, (r' == r) = true := by
  refine exists_mem_dropRepeats (List.mem_filter.mpr ⟨hr, ?_⟩)
  rw [hplace, beq_self_eq_true, beq_self_eq_true, Bool.and_self]

end ProducerIndex

/-! ## Responses that could have been taken -/

namespace Strategy

/-- The proper ancestors of an endpoint are the endpoints strictly above it. -/
lemma mem_properAncestors {ancestor endpoint : String}
    (h : Endpoint.isStrictAncestor ancestor endpoint = true) :
    Endpoint.normalize ancestor ∈ properAncestors endpoint := by
  rw [Endpoint.isStrictAncestor, Bool.and_eq_true, decide_eq_true_eq,
    List.isPrefixOf_iff_prefix] at h
  obtain ⟨hlength, hprefix⟩ := h
  refine List.mem_map.mpr ⟨_, List.mem_range.mpr hlength, ?_⟩
  rw [← List.prefix_iff_eq_take.mp hprefix, Endpoint.normalize]

end Strategy

namespace Consumer

/-- The index has a response of a type for the consumer, from a creating request at another
endpoint. -/
structure IsOffer (c : Consumer) (around : Surroundings) (type : String) (q : Resource) : Prop where
  mem : q ∈ around.index.responses
  creates : q.request.method = .put ∨ q.request.method = .post
  elsewhere : q.request.place ≠ c.request.place
  accepted : c.accepts around q = true
  name : q.name = c.resource.producerParameter
  type : q.IsOfType type

variable {c : Consumer} {around : Surroundings} {type : String} {q : Resource}

/-- An offer, or an equal response, is among the responses of its type anywhere. -/
lemma IsOffer.responsesAnywhere_ne_nil (h : c.IsOffer around type q) :
    Strategy.responsesAnywhere c around type ≠ [] := by
  obtain ⟨q', hq', heq⟩ := ProducerIndex.exists_mem_responsesOfType h.mem h.type
  refine List.ne_nil_of_mem (a := q') (List.mem_filter.mpr ⟨hq', ?_⟩)
  rw [Resource.name_eq_of_beq heq, h.name, accepts_eq_of_beq heq, h.accepted, beq_self_eq_true,
    Bool.and_self]

/-- An offer above the consumer, or an equal response, is among the responses of its type there. -/
lemma IsOffer.ancestorResponses_ne_nil (h : c.IsOffer around type q)
    (hancestor : Endpoint.isStrictAncestor q.request.endpoint c.anchor = true) :
    Strategy.ancestorResponses c around type ≠ [] := by
  have hplace : q.request.place = Endpoint.normalize (Endpoint.normalize q.request.endpoint) :=
    (Endpoint.normalize_normalize q.request.endpoint).symm
  obtain ⟨q', hq', heq⟩ := ProducerIndex.exists_mem_responsesNamed h.mem hplace
  rw [h.name] at hq'
  have habove := List.mem_flatMap.mpr ⟨_, Strategy.mem_properAncestors hancestor, hq'⟩
  refine List.ne_nil_of_mem (a := q') (List.mem_filter.mpr ⟨habove, ?_⟩)
  rw [Bool.and_eq_true, accepts_eq_of_beq heq]
  exact ⟨Resource.any_sameType_iff.mpr (h.type.of_beq heq), h.accepted⟩

end Consumer

/-! ## The type that is passed over -/

namespace Consumer

variable {c : Consumer} {around : Surroundings} {d : Dictionary} {s : Strategy} {r q : Resource}
  {t n : String} {i j : Nat}

/-- The strategies that lead to a response because of its type. -/
def typeStrategies : List Strategy :=
  [.exactType, .approximateType, .createOrUpdate, .nestedObject]

/-- For a response of the first candidate type no later one comes into question. -/
lemma findIdx?_eq_zero {type : String} (hprimary : c.resource.primaryType? = some type)
    (hsame : r.IsOfType type) (htype : r.primaryType? = some t)
    (hi : c.resource.candidateTypes.findIdx? (Naming.sameType t ·) = some i) : i = 0 := by
  obtain ⟨t', ht', hsame⟩ := hsame
  rw [htype] at ht'
  obtain rfl := Option.some.inj ht'
  obtain ⟨rest, hcandidates⟩ := List.head?_eq_some_iff.mp hprimary
  rw [hcandidates, List.findIdx?_cons, if_pos hsame] at hi
  exact (Option.some.inj hi).symm

/-- If a less specific type leads to a response, there is nothing to take for the types between the
first one and that of the response. -/
lemma responsesAnywhere_eq_nil_of_lt
    (houtcome : (Strategy.byApproximateType c around).outcome = .resolved (.response r))
    (htype : r.primaryType? = some t)
    (hi : c.resource.candidateTypes.findIdx? (Naming.sameType t ·) = some i)
    (hpos : 0 < j) (hj : j < i) (hn : c.resource.candidateTypes[j]? = some n) :
    Strategy.responsesAnywhere c around n = [] := by
  obtain ⟨before, type, after, r', hsplit, hbefore, hr, hr'⟩ :=
    Strategy.exists_of_outcome_byTypes houtcome
  obtain rfl := Producer.response.inj hr'
  obtain ⟨t', ht', hsame⟩ := (Strategy.of_mem_responsesAnywhere hr).2
  rw [htype] at ht'
  obtain rfl := Option.some.inj ht'
  cases hcandidates : c.resource.candidateTypes with
  | nil =>
    rw [hcandidates] at hsplit
    simp at hsplit
  | cons head tail =>
    rw [hcandidates, List.tail_cons] at hsplit
    rw [hcandidates, hsplit] at hi hn
    -- the type that leads to the response comes right after those before it
    have hle : i ≤ before.length + 1 := by
      obtain ⟨hlt, -, hleast⟩ := List.findIdx?_eq_some_iff_getElem.mp hi
      by_contra hgt
      refine hleast (before.length + 1) (by omega) ?_
      simpa using hsame
    obtain ⟨k, rfl⟩ := Nat.exists_eq_add_of_lt hpos
    have hk : k < before.length := by omega
    rw [Nat.zero_add, List.getElem?_cons_succ, List.getElem?_append_left hk] at hn
    exact hbefore n (List.mem_of_getElem? hn)

/-- Where the exact type does not decide for a body property, offers of it are not above the
consumer, and the consumer has a container. -/
lemma of_isOffer_of_undecided (hkind : c.kind = .body)
    (hprimary : c.resource.primaryType? = some n)
    (hexact : (Strategy.byExactType c around).outcome = .undecided) (hq : c.IsOffer around n q) :
    c.resource.container.isSome = true ∧
      Endpoint.isStrictAncestor q.request.endpoint c.anchor = false := by
  obtain ⟨habove, hanywhere⟩ := Strategy.of_outcome_byExactType_eq_undecided hprimary hexact
  constructor
  · rw [Option.isSome_iff_ne_none]
    intro hcontainer
    have hne : c.kind ≠ .path := by
      rw [hkind]
      decide
    exact hq.responsesAnywhere_ne_nil (hanywhere hne hcontainer)
  · rw [Bool.eq_false_iff]
    intro hancestor
    exact hq.ancestorResponses_ne_nil hancestor habove

/-- If a body property is bound to a response because of its type, and the index has an offer of a
more specific type, then this type is the first one, a less specific one has led to the response,
the consumer has a container, and the offer is not above the consumer's endpoint. -/
theorem eq_approximateType_of_isOffer (hkind : c.kind = .body) (hs : s ∈ typeStrategies)
    (hstrategy : (c.resolve around d).1.strategy = some s)
    (hproducer : (c.resolve around d).1.producer = some (.response r))
    (htype : r.primaryType? = some t)
    (hi : c.resource.candidateTypes.findIdx? (Naming.sameType t ·) = some i) (hj : j < i)
    (hn : c.resource.candidateTypes[j]? = some n) (hq : c.IsOffer around n q) :
    s = .approximateType ∧ j = 0 ∧ c.resource.container.isSome = true ∧
      Endpoint.isStrictAncestor q.request.endpoint c.anchor = false := by
  obtain ⟨hrun, hbefore⟩ := of_resolve_eq_some hstrategy hproducer
  have houtcome := Outcome.eq_resolved_of_producer?_eq hrun
  -- the offer is of a more specific type, so the response is not of the first one
  have hfirst : ∀ type, c.resource.primaryType? = some type → ¬r.IsOfType type := by
    intro type hprimary hsame
    have hzero := findIdx?_eq_zero hprimary hsame htype hi
    omega
  cases s with
  | directive => simp [typeStrategies] at hs
  | dictionary => simp [typeStrategies] at hs
  | exactType =>
    rcases Strategy.cases_of_outcome_byExactType houtcome with
      ⟨type, r', hprimary, -, hsame, hr'⟩ | ⟨input, -, hinput⟩
    · obtain rfl := Producer.response.inj hr'
      exact absurd hsame (hfirst type hprimary)
    · cases hinput
  | createOrUpdate =>
    obtain ⟨type, r', hprimary, -, hsame, hr'⟩ := Strategy.exists_of_outcome_byCreation houtcome
    obtain rfl := Producer.response.inj hr'
    exact absurd hsame (hfirst type hprimary)
  | nestedObject =>
    obtain ⟨type, r', hprimary, -, hsame, hr'⟩ :=
      Strategy.exists_of_outcome_byNestedObject houtcome
    obtain rfl := Producer.response.inj hr'
    exact absurd hsame (hfirst type hprimary)
  | approximateType =>
    -- a type in between would have been tried before, with the offer to be found
    have hzero : j = 0 := by
      by_contra hpos
      exact hq.responsesAnywhere_ne_nil
        (responsesAnywhere_eq_nil_of_lt houtcome htype hi (Nat.pos_of_ne_zero hpos) hj hn)
    have hprimary : c.resource.primaryType? = some n := by
      rw [Resource.primaryType?, List.head?_eq_getElem?, ← hzero, hn]
    have hexact : (Strategy.byExactType c around).outcome = .undecided :=
      hbefore .exactType (by decide)
    obtain ⟨hcontainer, habove⟩ := of_isOffer_of_undecided hkind hprimary hexact hq
    exact ⟨rfl, hzero, hcontainer, habove⟩

end Consumer

/-! ### An item of an order -/

namespace Producer

/-- The resource, if the producer is a response. -/
def response? : Producer → Option Resource
  | response r => some r
  | _ => none

lemma response?_eq_some_iff {p : Producer} {r : Resource} :
    p.response? = some r ↔ p = .response r := by
  cases p <;> simp [response?]

end Producer

namespace Consumer

/-- The `id` of a line item in the body with which an order is placed. -/
def lineItemId : Consumer where
  resource := .situated .input { endpoint := "/orders", method := .post }
    (.ofPlace ⟨["lineItems", "[0]", "id"]⟩) (Convention.infer "id") .string
  kind := .body

/-- The `id` that a POST returns. -/
def returnedId (endpoint : String) : Resource :=
  .situated .output { endpoint, method := .post } (.ofPlace ⟨["id"]⟩) (Convention.infer "id")
    .string

/-- Items and line items are created by a POST each. -/
def itemsAndLineItems : Surroundings where
  index := { responses := [returnedId "/items", returnedId "/lineItems"] }
  endpointDictionaries := .empty
  allowGet := false

/-- The `id` is taken from an item, the third of its candidate types. -/
lemma resolve_lineItemId :
    (lineItemId.resolve itemsAndLineItems .standard).1.strategy = some .approximateType ∧
      ∃ r, (lineItemId.resolve itemsAndLineItems .standard).1.producer = some (.response r) ∧
        r.request.endpoint = "/items" ∧ r.primaryType? = some "item" := by
  have hrun : ((lineItemId.resolve itemsAndLineItems .standard).1.producer.bind
      Producer.response?).map (fun r => (r.request.endpoint, r.primaryType?)) =
        some ("/items", some "item") := by
    decide +kernel
  obtain ⟨r, hr, hfound⟩ := Option.map_eq_some_iff.mp hrun
  obtain ⟨p, hp, hresponse⟩ := Option.bind_eq_some_iff.mp hr
  obtain rfl := Producer.response?_eq_some_iff.mp hresponse
  exact ⟨by decide +kernel, r, hp, Prod.mk.inj hfound⟩

/-- The candidate types of the `id`: a line item comes first, and an item is the third one. -/
lemma candidateTypes_lineItemId :
    lineItemId.resource.candidateTypes.findIdx? (Naming.sameType "item" ·) = some 2 ∧
      lineItemId.resource.candidateTypes[0]? = some "lineItem" := by
  decide +kernel

/-- A line item is an offer of the first candidate type. -/
lemma isOffer_lineItem :
    lineItemId.IsOffer itemsAndLineItems "lineItem" (returnedId "/lineItems") where
  mem := List.mem_cons_of_mem _ (List.mem_singleton_self _)
  creates := .inr rfl
  elsewhere := by decide +kernel
  accepted := by decide +kernel
  name := by decide +kernel
  type := ⟨"lineItem", by decide +kernel, by decide +kernel⟩

/-- The line item that is passed over is not above the endpoint of orders. -/
theorem not_isStrictAncestor_lineItems :
    ∃ r, (lineItemId.resolve itemsAndLineItems .standard).1.producer = some (.response r) ∧
      r.request.endpoint = "/items" ∧
      lineItemId.IsOffer itemsAndLineItems "lineItem" (returnedId "/lineItems") ∧
      lineItemId.resource.container.isSome = true ∧
      Endpoint.isStrictAncestor "/lineItems" lineItemId.anchor = false := by
  obtain ⟨hstrategy, r, hproducer, hendpoint, htype⟩ := resolve_lineItemId
  obtain ⟨hi, hn⟩ := candidateTypes_lineItemId
  obtain ⟨-, -, hcontainer, habove⟩ := eq_approximateType_of_isOffer rfl (by decide) hstrategy
    hproducer htype hi (by decide) hn isOffer_lineItem
  exact ⟨r, hproducer, hendpoint, isOffer_lineItem, hcontainer, habove⟩

/-- A body property may be bound to a response of a less specific type although the index has an
offer of a more specific one. -/
theorem not_forall_not_isOffer :
    ¬∀ (c : Consumer) (around : Surroundings) (d : Dictionary) (s : Strategy) (r : Resource)
        (t : String) (i : Nat),
      c.kind = .body → c.directive = none → s ∈ typeStrategies →
        (c.resolve around d).1.strategy = some s →
          (c.resolve around d).1.producer = some (.response r) → r.primaryType? = some t →
            c.resource.candidateTypes.findIdx? (Naming.sameType t ·) = some i →
              ∀ (j : Nat) (n : String) (q : Resource), j < i →
                c.resource.candidateTypes[j]? = some n → ¬c.IsOffer around n q := by
  intro h
  obtain ⟨hstrategy, r, hproducer, -, htype⟩ := resolve_lineItemId
  obtain ⟨hi, hn⟩ := candidateTypes_lineItemId
  exact h lineItemId itemsAndLineItems .standard .approximateType r "item" 2 rfl rfl (by decide)
    hstrategy hproducer htype hi 0 "lineItem" _ (by decide) hn isOffer_lineItem

end Consumer

end RestFlow

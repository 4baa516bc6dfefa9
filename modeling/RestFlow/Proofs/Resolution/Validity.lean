import RestFlow.Proofs.Resolution.Specificity

/-!
# Whatever is found may feed its consumer

`RequestId.Feeds` lists what is asked of a request that supplies values to another one, and
`RequestId.mayFeed_iff_feeds` says that the test asks just this.

Most strategies apply the test to each of their candidates.  The strategy for creating requests does
not: it takes the response of another PUT at an endpoint of the same shape.  Endpoints of one shape
have equally many segments, so that neither is below the other, and two different PUTs are never at
one place.  So all strategies that go by types lead to requests that may feed the consumer's
(`Strategy.mayFeed_of_run`).
-/

namespace RestFlow

/-! ## Which requests feed which -/

namespace Endpoint

variable {a b : String}

/-- An endpoint of no more segments than another one is not below it. -/
lemma isStrictAncestor_eq_false_of_length_le (h : (segments b).length ≤ (segments a).length) :
    isStrictAncestor a b = false := by
  rw [isStrictAncestor, decide_eq_false (by omega), Bool.false_and]

/-- Endpoints of one shape have equally many segments. -/
lemma length_segments_eq_of_shape_eq (h : shape a = shape b) :
    (segments a).length = (segments b).length := by
  have hlength := congrArg List.length h
  rwa [shape, shape, List.length_map, List.length_map] at hlength

end Endpoint

namespace RequestId

/-- A request may supply values to another one. -/
structure Feeds (producer consumer : RequestId) (allowGet : Bool) : Prop where
  /-- Requests with its method produce values. -/
  produces : producer.method.produces allowGet = true
  /-- No request feeds itself. -/
  ne : (producer == consumer) = false
  /-- At one endpoint the methods decide. -/
  precedence : producer.place = consumer.place →
    producer.method.feedsAtSameEndpoint consumer.method = true
  /-- No request feeds one at an endpoint above its own. -/
  not_below : Endpoint.isStrictAncestor consumer.endpoint producer.endpoint = false

/-- The test asks for all that is asked of a request. -/
theorem mayFeed_iff_feeds {producer consumer : RequestId} {allowGet : Bool} :
    producer.mayFeed consumer allowGet = true ↔ producer.Feeds consumer allowGet := by
  unfold mayFeed
  rw [Bool.and_eq_true, Bool.and_eq_true, bne, Bool.not_eq_true']
  by_cases hplace : producer.place = consumer.place
  · rw [if_pos (beq_iff_eq.mpr hplace)]
    -- at one endpoint the other one has the same segments
    have hsegments : Endpoint.segments producer.endpoint = Endpoint.segments consumer.endpoint :=
      segments_eq_of_place_eq hplace
    have hbelow := Endpoint.isStrictAncestor_eq_false_of_length_le
      (Nat.le_of_eq (congrArg List.length hsegments))
    exact ⟨fun ⟨⟨hproduces, hne⟩, hmethods⟩ => ⟨hproduces, hne, fun _ => hmethods, hbelow⟩,
      fun h => ⟨⟨h.produces, h.ne⟩, h.precedence hplace⟩⟩
  · rw [if_neg fun hbeq => hplace (beq_iff_eq.mp hbeq), Bool.not_eq_true']
    exact ⟨fun ⟨⟨hproduces, hne⟩, hbelow⟩ =>
        ⟨hproduces, hne, fun hsame => absurd hsame hplace, hbelow⟩,
      fun h => ⟨⟨h.produces, h.ne⟩, h.not_below⟩⟩

end RequestId

/-! ## The strategies that go by types -/

namespace Consumer

/-- Whatever is accepted may feed the consumer. -/
lemma mayFeed_of_accepts {c : Consumer} {around : Surroundings} {r : Resource}
    (h : c.accepts around r = true) : r.request.mayFeed c.request around.allowGet = true := by
  rw [accepts, Bool.and_eq_true] at h
  exact h.2

end Consumer

namespace Producer

/-- The producer is a response or an input of a request that may feed another one. -/
def IsFedBy (p : Producer) (consumer : RequestId) (allowGet : Bool) : Prop :=
  ∃ r, (p = response r ∨ ∃ origin, p = inputOnly r origin) ∧
    r.request.mayFeed consumer allowGet = true

end Producer

namespace Strategy

variable {c : Consumer} {around : Surroundings} {d : Dictionary} {type : String} {r : Resource}
  {p : Producer}

/-- The responses above a consumer are accepted. -/
lemma accepts_of_mem_ancestorResponses (h : r ∈ ancestorResponses c around type) :
    c.accepts around r = true := by
  obtain ⟨-, htest⟩ := List.mem_filter.mp h
  rw [Bool.and_eq_true] at htest
  exact htest.2

/-- The responses anywhere are accepted. -/
lemma accepts_of_mem_responsesAnywhere (h : r ∈ responsesAnywhere c around type) :
    c.accepts around r = true := by
  obtain ⟨-, htest⟩ := List.mem_filter.mp h
  rw [Bool.and_eq_true] at htest
  exact htest.2

/-- The responses of the type of an enclosing object are accepted. -/
lemma accepts_of_mem_containerResponses (h : r ∈ containerResponses c around type) :
    c.accepts around r = true := by
  obtain ⟨-, htest⟩ := List.mem_filter.mp h
  rw [Bool.and_eq_true] at htest
  exact htest.2

/-- A sibling feeds the consumer: it is another PUT, and neither endpoint is below the other. -/
lemma IsSibling.feeds (h : IsSibling c r) (allowGet : Bool) :
    r.request.Feeds c.request allowGet where
  produces := by
    rw [h.method]
    rfl
  ne := h.ne
  precedence hplace := by
    have hkey : r.request.key = c.request.key :=
      Prod.ext hplace (h.method.trans h.consumer.symm)
    have heq := RequestId.beq_iff.mpr hkey
    rw [h.ne] at heq
    cases heq
  not_below := Endpoint.isStrictAncestor_eq_false_of_length_le
    (Nat.le_of_eq (Endpoint.length_segments_eq_of_shape_eq h.shape))

/-- Strategies that go by types lead to requests that may feed the consumer's. -/
theorem mayFeed_of_run {s : Strategy} (hs : s ∈ Consumer.typeStrategies)
    (h : (s.run c around d).outcome = .resolved p) : p.IsFedBy c.request around.allowGet := by
  cases s with
  | directive => simp [Consumer.typeStrategies] at hs
  | dictionary => simp [Consumer.typeStrategies] at hs
  | exactType =>
    rcases candidate_of_outcome_byExactType h with ⟨type, r, -, hr, rfl⟩ | hinput
    · have haccepts :=
        hr.elim accepts_of_mem_ancestorResponses accepts_of_mem_responsesAnywhere
      exact ⟨r, .inl rfl, Consumer.mayFeed_of_accepts haccepts⟩
    · obtain ⟨_, i, -, -, -, -, haccepts, rfl⟩ := input_of_fromInputs hinput
      exact ⟨i.1, .inr ⟨i.2, rfl⟩, Consumer.mayFeed_of_accepts haccepts⟩
  | approximateType =>
    obtain ⟨_, _, _, r, -, -, hr, rfl⟩ := exists_of_outcome_byTypes h
    exact ⟨r, .inl rfl, Consumer.mayFeed_of_accepts (accepts_of_mem_responsesAnywhere hr)⟩
  | createOrUpdate =>
    obtain ⟨_, r, -, -, hsibling, rfl⟩ := sibling_of_outcome_byCreation h
    exact ⟨r, .inl rfl, RequestId.mayFeed_iff_feeds.mpr (hsibling.feeds _)⟩
  | nestedObject =>
    obtain ⟨_, r, -, hr, rfl⟩ := candidate_of_outcome_byNestedObject h
    exact ⟨r, .inl rfl, Consumer.mayFeed_of_accepts (accepts_of_mem_containerResponses hr)⟩

end Strategy

namespace Consumer

variable {c : Consumer} {around : Surroundings} {d : Dictionary} {s : Strategy} {p : Producer}
  {r : Resource}

/-- If a strategy that goes by types binds a consumer to a response or an input, the request of this
may feed the consumer's: it produces values, is another one, comes first at the same endpoint, and
is not below the consumer's endpoint. -/
theorem feeds_of_resolve (hstrategy : (c.resolve around d).1.strategy = some s)
    (hs : s ∈ typeStrategies) (hproducer : (c.resolve around d).1.producer = some p)
    (hr : p = .response r ∨ ∃ origin, p = .inputOnly r origin) :
    r.request.mayFeed c.request around.allowGet = true ∧
      r.request.Feeds c.request around.allowGet := by
  obtain ⟨hrun, -⟩ := of_resolve_eq_some hstrategy hproducer
  have houtcome : (s.run c around d).outcome = .resolved p := by
    cases ho : (s.run c around d).outcome with
    | undecided => simp [ho, Outcome.producer?] at hrun
    | ambiguous => simp [ho, Outcome.producer?] at hrun
    | resolved q =>
      rw [ho] at hrun
      rw [Option.some.inj hrun]
    | freshSuffix =>
      -- a fresh value is neither a response nor an input
      rw [ho] at hrun
      obtain rfl := Option.some.inj hrun
      rcases hr with hr | ⟨_, hr⟩
      · cases hr
      · cases hr
  obtain ⟨r', hr', hfeeds⟩ := Strategy.mayFeed_of_run hs houtcome
  have hsame : r' = r := by
    rcases hr with rfl | ⟨origin, rfl⟩
    · rcases hr' with hr' | ⟨_, hr'⟩
      · exact (Producer.response.inj hr').symm
      · cases hr'
    · rcases hr' with hr' | ⟨_, hr'⟩
      · cases hr'
      · exact (Producer.inputOnly.inj hr').1.symm
  rw [hsame] at hfeeds
  exact ⟨hfeeds, RequestId.mayFeed_iff_feeds.mp hfeeds⟩

/-- The parameter with which a store is created. -/
def newStoreId : Consumer where
  resource := .situated .input { endpoint := "/stores/\x7bid\x7d", method := .put }
    (.ofPathParameter "id" "/stores/\x7bid\x7d") (Convention.infer "id") .string
  kind := .path

/-- The `id` of a store that a PUT with a parameter of another name returns. -/
def siblingId : Resource :=
  .situated .output { endpoint := "/stores/\x7bkey\x7d", method := .put } (.ofPlace ⟨["id"]⟩)
    (Convention.infer "id") .string

/-- Stores are created by a PUT with a parameter of another name. -/
def siblingStores : Surroundings where
  index := { responses := [siblingId] }
  endpointDictionaries := .empty
  allowGet := false

/-- The parameter is bound to what the sibling returns, and the sibling may feed its request. -/
theorem feeds_siblingId :
    (newStoreId.resolve siblingStores .standard).1.strategy = some .createOrUpdate ∧
      (newStoreId.resolve siblingStores .standard).1.producer = some (.response siblingId) ∧
      siblingId.request.mayFeed newStoreId.request false = true ∧
      siblingId.request.Feeds newStoreId.request false := by
  have hstrategy : (newStoreId.resolve siblingStores .standard).1.strategy =
      some .createOrUpdate := by
    decide +kernel
  have hproducer : (newStoreId.resolve siblingStores .standard).1.producer =
      some (.response siblingId) := rfl
  exact ⟨hstrategy, hproducer, feeds_of_resolve hstrategy (by decide) hproducer (.inl rfl)⟩

end Consumer

end RestFlow

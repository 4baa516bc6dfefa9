import RestFlow.Proofs.Extraction.Bonds
import RestFlow.Proofs.Extraction.Mirroring
import RestFlow.Proofs.Extraction.WriterProducers
import RestFlow.Proofs.Resolution.Validity
import RestFlow.Proofs.Sequence.Settled

/-!
# Readers of inputs

Whoever reads an input comes after its request, with directives and without.
-/

namespace RestFlow

/-!
## Requests stay in order when inputs give way

Constraints are derived from the dependencies as they are before inputs give way to their sources.
A reader of an input may be bound to a response afterwards, and the result does not show any more
that it has read the input, but it still runs after the request of the input, and this one after the
request that supplies the input (`Setup.sequencing_survives_aliasing`).

Two steps lie between a constraint that is implied and the result.  A constraint is settled unless
it is between equal requests, possibly in another spelling
(`Setup.contains_constraints_of_mem_implied`), and the supplier of an input is read off the first
dependency that is the input and is bound to a response (`OrderingConstraint.supplier?_eq`).
-/

namespace Dependency

/-- The consumer is an input, and its value comes from a response. -/
def isSupplied (input : Resource) (d : Dependency) : Bool :=
  d.consumer.resource == input && d.producer.any fun
    | .response _ => true
    | _ => false

end Dependency

namespace OrderingConstraint

variable {l : List Dependency} {input : Resource}

/-- The supplier of an input is the request of the response that the first dependency has which is
the input and has one. -/
lemma supplier?_eq (l : List Dependency) (input : Resource) :
    supplier? l input =
      (l.find? (Dependency.isSupplied input)).bind fun d => d.producer.bind Producer.request? := by
  induction l with
  | nil => rfl
  | cons d rest ih =>
    rw [supplier?, List.findSome?_cons, ← supplier?, ih, List.find?_cons, Dependency.isSupplied]
    cases hd : d.producer with
    | none => simp
    | some p =>
      cases p with
      | response r =>
        cases hinput : d.consumer.resource == input with
        | true => simp [hd, Producer.request?, Producer.resource?]
        | false => simp
      | _ => simp

/-- The request of an input that is read is to run after the request that supplies the input. -/
lemma mem_implied_of_supplier? {d : Dependency} {origin : InputOrigin} {source : RequestId}
    (hd : d ∈ l) (hp : d.producer = some (.inputOnly input origin))
    (hne : (input.request == d.consumer.request) = false)
    (hsource : supplier? l input = some source) (hother : (source == input.request) = false) :
    ⟨source, input.request⟩ ∈ implied l := by
  refine List.mem_flatMap.mpr ⟨d, hd, ?_⟩
  rw [impliedBy, hp]
  simp only [hne, hsource, hother]
  exact List.mem_cons_of_mem _ List.mem_cons_self

end OrderingConstraint

namespace Setup

variable {s : Setup} {i : Interface} {c : Collection} {d : Dictionary}

/-- A constraint that dependencies imply is among those of a run unless it is between equal
requests. -/
lemma contains_constraints_of_mem_implied {l : List Dependency} {k : OrderingConstraint}
    (hk : k ∈ OrderingConstraint.implied l) (hne : (k.source == k.target) = false) :
    (s.constraints i l).contains k = true := by
  obtain ⟨settled, hsettled, heq⟩ :=
    OrderingConstraint.exists_mem_settled (List.mem_append_right _ hk) hne
  rw [constraints, List.contains_iff_exists_mem_beq]
  refine ⟨settled, hsettled, ?_⟩
  rw [OrderingConstraint.beq_iff_key_eq] at heq ⊢
  exact heq.symm

/-- Whoever is bound to an input of another request runs after this request. -/
lemma contains_orderingConstraints {dep : Dependency} {input : Resource} {origin : InputOrigin}
    (hdep : dep ∈ (s.mirrored i c d).dependencies)
    (hp : dep.producer = some (.inputOnly input origin))
    (hne : (input.request == dep.consumer.request) = false) :
    (s.constraints i (s.mirrored i c d).dependencies).contains
      ⟨input.request, dep.consumer.request⟩ = true :=
  contains_constraints_of_mem_implied (OrderingConstraint.mem_implied hdep hp hne) hne

/-- Whatever a dependency on an input of another request becomes in the result, its request runs
after that of the input, and the request of the input runs after the one that supplies the input, if
this is yet another one. -/
theorem sequencing_survives_aliasing {result : Extraction}
    (hresult : (s.extract i d).2 = .ok result) (hc : (s.collect i).2 = .ok c) {dep : Dependency}
    {input : Resource} {origin : InputOrigin} (hdep : dep ∈ (s.mirrored i c d).dependencies)
    (hp : dep.producer = some (.inputOnly input origin))
    (hne : (input.request == dep.consumer.request) = false) :
    Dependency.aliased (s.mirrored i c d).dependencies dep ∈ result.all ∧
      result.orderingConstraints.contains ⟨input.request, dep.consumer.request⟩ = true ∧
      ∀ e r, (s.mirrored i c d).dependencies.find? (Dependency.isSupplied input) = some e →
        e.producer = some (.response r) → (r.request == input.request) = false →
        result.orderingConstraints.contains ⟨r.request, input.request⟩ = true := by
  obtain ⟨groups, hgroups, rfl⟩ := (extract_eq_ok_iff_of_collect hc).mp hresult
  refine ⟨?_, contains_orderingConstraints hdep hp hne, fun e r hfirst hr hother => ?_⟩
  · rw [all_assembled hc hgroups]
    exact Dependency.aliased_mem_aliasInputs hdep
  · -- the first supplied dependency for the input is the one that the constraint is read off
    have hsource : OrderingConstraint.supplier? (s.mirrored i c d).dependencies input =
        some r.request := by
      rw [OrderingConstraint.supplier?_eq, hfirst, Option.bind_some, hr]
      rfl
    have himplied :=
      OrderingConstraint.mem_implied_of_supplier? hdep hp hne hsource hother
    exact contains_constraints_of_mem_implied himplied hother

end Setup

/-! ### A token that is renewed before reports are read -/

namespace Interface

/-- The `id` of reports is that of a token that was renewed. -/
def tokenDirective : Directive where
  producer := { endpoint := "/tokens/\x7bid\x7d", method := .put }
  consumer := none
  producerParameter := some (.name "id")
  consumerParameter := none
  exceptions := []

/-- Tokens are created, which yields an `id`, and renewed, and reports are read with the `id` of a
token that was renewed. -/
def tokensAndReports : Interface where
  requests := [
    { id := { endpoint := "/tokens", method := .post }
      data := {
        responseBody := some (.internal "" .object true false [(stringParameter "id").payload]) } },
    { id := { endpoint := "/tokens/\x7bid\x7d", method := .put }
      data := { pathParameters := [stringParameter "id"] } },
    { id := { endpoint := "/reports", method := .get }
      data := {
        queryParameters := [stringParameter "id"]
        localDirectives := [tokenDirective] } }]

/-- The `id` of a token that was created. -/
def createdToken : Resource :=
  .situated .output { endpoint := "/tokens", method := .post }
    (.body "id" (AccessPath.root.child "id")) (Convention.infer "id") .string

/-- The `id` of a token that is renewed. -/
def renewedToken : Consumer where
  resource := .situated .input tokenDirective.producer
    (.ofPathParameter "id" tokenDirective.producer.endpoint) (Convention.infer "id")
    .string
  kind := .path

/-- The `id` of reports. -/
def reportToken : Consumer where
  resource := .situated .input { endpoint := "/reports", method := .get } (.query "id")
    (Convention.infer "id") .string
  kind := .query
  directive := some ⟨.request, tokenDirective⟩

end Interface

namespace Setup

open Interface

/-- Before inputs give way, the `id` of reports is bound to that of the renewed token, and this one
to that of the created token. -/
lemma mirrored_tokensAndReports :
    ∃ c, (({} : Setup).collect tokensAndReports).2 = .ok c ∧
      (({} : Setup).mirrored tokensAndReports c .standard).dependencies =
        [⟨renewedToken, some (.response createdToken)⟩,
          ⟨reportToken, some (.inputOnly renewedToken.resource .directive)⟩] :=
  ⟨_, rfl, rfl⟩

/-- In the result the `id` of reports is that of the created token.  Still reports are read after
the token was renewed, and this happens after it was created. -/
theorem sequencing_survives_aliasing_tokensAndReports :
    ∃ result, (({} : Setup).extract tokensAndReports .standard).2 = .ok result ∧
      ⟨reportToken, some (.response createdToken)⟩ ∈ result.all ∧
      result.orderingConstraints.contains ⟨renewedToken.request, reportToken.request⟩ = true ∧
      result.orderingConstraints.contains ⟨createdToken.request, renewedToken.request⟩ =
        true := by
  obtain ⟨c, hc, hmirrored⟩ := mirrored_tokensAndReports
  have hok : (({} : Setup).extract tokensAndReports .standard).2.isOk = true := by decide +kernel
  obtain ⟨result, hresult⟩ := exists_of_isOk hok
  have hreport : ⟨reportToken, some (.inputOnly renewedToken.resource .directive)⟩ ∈
      (({} : Setup).mirrored tokensAndReports c .standard).dependencies := by
    rw [hmirrored]
    exact List.mem_cons_of_mem _ List.mem_cons_self
  obtain ⟨hmem, hreader, hsupplier⟩ :=
    sequencing_survives_aliasing hresult hc hreport rfl (by decide +kernel)
  rw [hmirrored] at hmem hsupplier
  exact ⟨result, hresult, hmem, hreader, hsupplier _ _ rfl rfl (by decide +kernel)⟩

end Setup

/-!
## Runs without directives

Where no directive is declared, every input among the producers is a writer that was given a uuid
suffix (`Setup.exists_writer_of_mem_inputs`), and only path parameters are ever bound to one
(`Setup.fromInputs_of_mem_mirrored`).  No input gives way to a source, so the dependencies of the
result are those after the pass over mirrored properties (`Setup.all_eq_mirrored`), and outside
bodies they are those after the pass over all consumers (`Setup.mem_mirrored_iff`).
-/

namespace Consumer

variable {c : Consumer} {around : Surroundings} {d : Dictionary} {r : Resource}
  {origin : InputOrigin}

/-- A consumer whose directive leads nowhere is bound to an input only as a path parameter. -/
lemma fromInputs_of_resolve (hnamed : c.named? around = none)
    (h : (c.resolve around d).1.producer = some (.inputOnly r origin)) :
    Strategy.fromInputs c around = some (.inputOnly r origin) := by
  rcases cases_of_resolve_producer h with ⟨-, s, hs⟩ | ⟨-, hfresh⟩
  · -- only the exact type leads to inputs
    cases s with
    | directive =>
      rw [Strategy.run, Strategy.outcome_byDirective, hnamed] at hs
      cases hs
    | dictionary =>
      rw [Strategy.run, Strategy.outcome_byDictionary, Outcome.ofSearch_eq_resolved_iff] at hs
      obtain ⟨_, -, hpayload⟩ := Option.map_eq_some_iff.mp hs
      cases hpayload
    | exactType =>
      rcases Strategy.candidate_of_outcome_byExactType hs with ⟨_, _, -, -, hresponse⟩ | hinput
      · cases hresponse
      · exact hinput
    | approximateType =>
      obtain ⟨_, _, _, _, -, -, -, hresponse⟩ := Strategy.exists_of_outcome_byTypes hs
      cases hresponse
    | createOrUpdate =>
      obtain ⟨_, _, -, -, -, hresponse⟩ := Strategy.sibling_of_outcome_byCreation hs
      cases hresponse
    | nestedObject =>
      obtain ⟨_, _, -, -, hresponse⟩ := Strategy.candidate_of_outcome_byNestedObject hs
      cases hresponse
  · cases hfresh

end Consumer

namespace Setup

variable {s : Setup} {i : Interface} {c : Collection} {d : Dictionary} {dep : Dependency}

/-! ### Inputs -/

/-- Without directives, every input among the producers is a writer that was given a suffix. -/
lemma exists_writer_of_mem_inputs (hnone : s.declaredDirectives i = [])
    {input : Resource × InputOrigin} (h : input ∈ (s.settings i c d).index.inputs) :
    input.2 = .writer ∧ ∃ y ∈ c.pathWriters, y.resource = input.1 := by
  obtain ⟨horigin, y, hy, hresource⟩ := exists_suffixed_of_mem_inputs hnone h
  exact ⟨horigin, y, Consumer.mem_of_mem_suffixed hy, hresource⟩

/-! ### Dependencies -/

/-- Outside bodies the pass over all consumers has the last word. -/
lemma mem_mirrored_iff (h : dep.consumer.resource.place? = none) :
    dep ∈ (s.mirrored i c d).dependencies ↔ dep ∈ (s.main i c d).dependencies := by
  have houtside : dep.isOutsideBodies = true := by rw [Dependency.isOutsideBodies, h]; rfl
  have hfilter : (s.mirrored i c d).dependencies.filter Dependency.isOutsideBodies =
      (s.main i c d).dependencies.filter Dependency.isOutsideBodies :=
    s.filter_sameBodyPass _ _ _
  have hmem : dep ∈ (s.mirrored i c d).dependencies.filter Dependency.isOutsideBodies ↔
      dep ∈ (s.main i c d).dependencies.filter Dependency.isOutsideBodies := by rw [hfilter]
  simpa [houtside] using hmem

/-- Without directives, whoever is bound to an input has found it as a path parameter. -/
lemma fromInputs_of_mem_mirrored (hnone : s.declaredDirectives i = [])
    (hc : (s.collect i).2 = .ok c) (hdep : dep ∈ (s.mirrored i c d).dependencies)
    {r : Resource} {origin : InputOrigin} (hp : dep.producer = some (.inputOnly r origin)) :
    Strategy.fromInputs dep.consumer (s.settings i c d) = some (.inputOnly r origin) := by
  rcases main_or_isBound_of_mem_mirrored hdep with hmain | ⟨-, q, -, ⟨hmirrors, -⟩ | ⟨hback, -⟩⟩
  · obtain ⟨hmem, hproducer⟩ := mem_dependencies_main_iff.mp hmain
    exact Consumer.fromInputs_of_resolve (named?_eq_none hnone hc hmem _)
      (hproducer.symm.trans hp)
  · rw [Dependency.Mirrors, hp] at hmirrors
    cases hmirrors
  · rw [SameBodyState.backing, hp] at hback
    cases hback

/-- Without directives, no input gives way to a source. -/
lemma aliasInputs_mirrored (hnone : s.declaredDirectives i = []) :
    Dependency.aliasInputs (s.mirrored i c d).dependencies = (s.mirrored i c d).dependencies := by
  have hkept : ∀ dep ∈ (s.mirrored i c d).dependencies,
      Dependency.aliased (s.mirrored i c d).dependencies dep = id dep := by
    intro dep hdep
    refine Dependency.aliased_eq_self fun input hinput => ?_
    have havailable := isSupported_of_mem_mirrored hdep _ hinput
    obtain ⟨horigin, -⟩ := exists_writer_of_mem_inputs hnone havailable
    cases horigin
  rw [Dependency.aliasInputs_eq, List.map_congr_left hkept, List.map_id]

/-- Without directives, the dependencies of a result are those after the pass over mirrored
properties. -/
theorem all_eq_mirrored (hnone : s.declaredDirectives i = []) (hc : (s.collect i).2 = .ok c)
    {result : Extraction} (hresult : (s.extract i d).2 = .ok result) :
    result.all = (s.mirrored i c d).dependencies := by
  obtain ⟨groups, hgroups, rfl⟩ := (extract_eq_ok_iff_of_collect hc).mp hresult
  rw [all_assembled hc hgroups, aliasInputs_mirrored hnone]

end Setup

/-!
## Readers of a writer

A writer that was given a uuid suffix is an input among the producers.  Its readers are the path
parameters of its name in other requests that end the same part of the endpoint
(`Resource.IsReadBy`).  A reader's request is at the writer's endpoint or below it, so that the
writer's PUT may feed it unless it is a POST at the same endpoint, and the reader finds at least
this input.

So every reader is resolved, to this input or to something that comes first
(`Setup.isResolved_of_isReadBy`).  Whatever input it is bound to, the constraints put the request of
the input before its own.
-/

/-! ### Scopes -/

namespace Resource

/-- The consumer is a path parameter of the resource's name in another request, other than a POST at
the same endpoint, and the part of the endpoint that it ends is the endpoint of the resource. -/
structure IsReadBy (r : Resource) (x : Consumer) : Prop where
  kind : x.kind = .path
  name : x.name = r.name
  scope : x.resource.reference.scope?.map Endpoint.normalize = some r.request.place
  ne : (x.request == r.request) = false
  not_post : ¬(x.request.method = .post ∧ x.request.place = r.request.place)

end Resource

namespace Setup

variable {s : Setup} {i : Interface} {c : Collection} {d : Dictionary} {r : Resource} {x : Consumer}

/-- The request of a reader has at least as many segments as that of the resource. -/
lemma length_segments_le_of_isReadBy (hc : (s.collect i).2 = .ok c) (hx : x ∈ c.consumers)
    (hread : r.IsReadBy x) : r.request.segments.length ≤ x.request.segments.length := by
  obtain ⟨e, -, part, hpart, hxp⟩ := exists_of_mem_collect hc hx
  have hinput := isInputOf_of_mem_collectEntry hpart x hxp
  obtain ⟨type, hres⟩ := hinput.eq_of_path hread.kind
  have hscope := hread.scope
  rw [hres] at hscope
  have hplace : Endpoint.normalize
      (Endpoint.ofSegments (Endpoint.upToParameter x.name e.id.endpoint)) = r.request.place :=
    Option.some.inj hscope
  have hsegments : r.request.segments = Endpoint.upToParameter x.name e.id.endpoint := by
    rw [RequestId.segments, ← Endpoint.segments_normalize, ← RequestId.place, ← hplace,
      Endpoint.segments_normalize, Endpoint.segments_upToParameter]
  rw [hsegments, hinput.request_eq]
  exact (Endpoint.upToParameter_prefix_segments x.name e.id.endpoint).length_le

/-- A PUT may feed the readers of its inputs. -/
lemma feeds_of_isReadBy (hc : (s.collect i).2 = .ok c) (hx : x ∈ c.consumers)
    (hput : r.request.method = .put) (hread : r.IsReadBy x) (allowGet : Bool) :
    r.request.Feeds x.request allowGet where
  produces := by
    rw [hput]
    rfl
  ne := by
    rw [BEq.comm]
    exact hread.ne
  precedence hplace := by
    have hmethod : x.request.method ≠ .post := fun hpost => hread.not_post ⟨hpost, hplace.symm⟩
    rw [hput]
    exact bne_iff_ne.mpr hmethod
  not_below := Endpoint.isStrictAncestor_eq_false_of_length_le
    (length_segments_le_of_isReadBy hc hx hread)

end Setup

/-! ### Readers find an input -/

namespace Consumer

variable {c : Consumer} {around : Surroundings} {d : Dictionary} {q : Producer}

/-- An input that is found decides for the exact type, unless a response above the consumer does. -/
lemma exists_outcome_byExactType (h : Strategy.fromInputs c around = some q) :
    ∃ p, (Strategy.byExactType c around).outcome = .resolved p := by
  unfold Strategy.byExactType
  cases Strategy.fromAncestors c around with
  | some p => exact ⟨p, rfl⟩
  | none =>
    rw [h]
    exact ⟨q, rfl⟩

/-- A consumer that finds an input is resolved, to it or to something that comes first. -/
lemma isSome_producer_of_fromInputs (h : Strategy.fromInputs c around = some q) :
    (c.resolve around d).1.producer.isSome = true := by
  obtain ⟨p, hp⟩ := exists_outcome_byExactType h
  have hindex : c.indexOutcome around d = .resolved p := by
    rw [indexOutcome, outcomeOf, List.foldr_cons, Strategy.run, hp,
      Outcome.orElse_of_ne Outcome.noConfusion]
  rw [resolve_producer, outcome_eq, hindex]
  cases c.named? around with
  | some p => rfl
  | none => cases c.entryAmong around d <;> rfl

end Consumer

namespace ProducerIndex

/-- An input that a result lists among its producers is one of the index. -/
lemma mem_inputs_of_mem_producers {index : ProducerIndex} {constraints : List OrderingConstraint}
    {r : Resource} {origin : InputOrigin}
    (h : .inputOnly r origin ∈ index.producers ++ OrderingConstraint.producers constraints) :
    (r, origin) ∈ index.inputs := by
  simpa [producers, OrderingConstraint.producers, mem_sortOn] using h

end ProducerIndex

namespace Setup

variable {s : Setup} {i : Interface} {c : Collection} {d : Dictionary} {r : Resource} {x : Consumer}

/-- Readers of an input of a PUT find an input. -/
lemma exists_fromInputs_of_isReadBy (hc : (s.collect i).2 = .ok c) (hx : x ∈ c.consumers)
    {origin : InputOrigin} (hinput : (r, origin) ∈ (s.settings i c d).index.inputs)
    (hput : r.request.method = .put) (hread : r.IsReadBy x) :
    ∃ q, Strategy.fromInputs x (s.settings i c d) = some q := by
  have hfeeds := feeds_of_isReadBy hc hx hput hread (s.settings i c d).allowGet
  have haccepts : x.accepts (s.settings i c d) r = true := by
    rw [Consumer.accepts, Bool.and_eq_true, bne, hfeeds.ne]
    exact ⟨rfl, RequestId.mayFeed_iff_feeds.mpr hfeeds⟩
  exact Strategy.exists_fromInputs hinput hread.name.symm hread.scope haccepts

/-- Without directives, every reader of a writer among the producers is resolved, and if it is bound
to an input, it runs after the request of this input. -/
theorem isResolved_of_isReadBy {result : Extraction} (hnone : s.declaredDirectives i = [])
    (hresult : (s.extract i d).2 = .ok result) (hr : .inputOnly r .writer ∈ result.producers)
    (hx : x ∈ result.consumers) (hread : r.IsReadBy x) :
    (∃ dep ∈ result.all, dep.consumer = x) ∧
      ∀ dep ∈ result.all, dep.consumer = x → dep.isResolved = true ∧
        ∀ input origin, dep.producer = some (.inputOnly input origin) →
          result.orderingConstraints.contains ⟨input.request, x.request⟩ = true := by
  obtain ⟨c, groups, hc, hgroups, rfl⟩ := extract_eq_ok_iff.mp hresult
  have hall := all_eq_mirrored hnone hc hresult
  have hinput := ProducerIndex.mem_inputs_of_mem_producers hr
  obtain ⟨-, y, hy, hyr⟩ := exists_writer_of_mem_inputs hnone hinput
  have hput : r.request.method = .put := by
    have hwriter := (Collection.mem_pathWriters_iff.mp hy).2.2.1
    rwa [Consumer.request, hyr] at hwriter
  -- the writer is among the inputs that the reader looks for, so some input is found
  obtain ⟨q, hq⟩ := exists_fromInputs_of_isReadBy hc hx hinput hput hread
  have hplace := place?_eq_none_of_path hc hx hread.kind
  rw [hall]
  refine ⟨exists_mem_mirrored s i d hx, ?_⟩
  rintro dep hdep rfl
  -- outside bodies the main pass has the last word
  have hproducer := (mem_dependencies_main_iff.mp ((mem_mirrored_iff hplace).mp hdep)).2
  refine ⟨?_, fun input origin hp => ?_⟩
  · rw [Dependency.isResolved, hproducer]
    exact Consumer.isSome_producer_of_fromInputs hq
  · obtain ⟨_, found, -, -, -, -, haccepts, hfound⟩ :=
      Strategy.input_of_fromInputs (fromInputs_of_mem_mirrored hnone hc hdep hp)
    obtain ⟨rfl, -⟩ := Producer.inputOnly.inj hfound
    exact contains_orderingConstraints hdep hp
      (RequestId.mayFeed_iff_feeds.mp (Consumer.mayFeed_of_accepts haccepts)).ne

end Setup

namespace Interface

/-- Stores are created by a PUT, and the orders of a store are read. -/
def storesAndOrders : Interface where
  requests := [
    { id := { endpoint := "/stores/\x7bstoreId\x7d", method := .put }
      data := { pathParameters := [stringParameter "storeId"] } },
    { id := { endpoint := "/stores/\x7bstoreId\x7d/orders", method := .get }
      data := { pathParameters := [stringParameter "storeId"] } }]

/-- The parameter `storeId` of a request. -/
def storeParameter (request : RequestId) : Consumer where
  resource := .situated .input request (.ofPathParameter "storeId" request.endpoint)
    (Convention.infer "storeId") .string
  kind := .path

/-- The parameter with which a store is created. -/
def createdStore : Consumer :=
  storeParameter { endpoint := "/stores/\x7bstoreId\x7d", method := .put }

/-- The parameter with which the orders of a store are read. -/
def orderedStore : Consumer :=
  storeParameter { endpoint := "/stores/\x7bstoreId\x7d/orders", method := .get }

end Interface

namespace Setup

open Interface

/-- The parameter of the PUT becomes a producer, and the other one is bound to it. -/
lemma extract_storesAndOrders :
    ∃ result, (({} : Setup).extract storesAndOrders .standard).2 = .ok result ∧
      result.consumers = [createdStore, orderedStore] ∧
      result.producers.head? = some (.inputOnly createdStore.resource .writer) ∧
      result.all.getLast? =
        some ⟨orderedStore, some (.inputOnly createdStore.resource .writer)⟩ :=
  ⟨_, rfl, rfl, rfl, rfl⟩

/-- The one that reads orders is a reader of the one that creates stores. -/
lemma isReadBy_orderedStore : createdStore.resource.IsReadBy orderedStore where
  kind := rfl
  name := rfl
  scope := by decide +kernel
  ne := by decide +kernel
  not_post h := by cases h.1

/-- Orders are read after their store was created. -/
theorem contains_orderedStore :
    ∃ result, (({} : Setup).extract storesAndOrders .standard).2 = .ok result ∧
      .inputOnly createdStore.resource .writer ∈ result.producers ∧
      createdStore.resource.IsReadBy orderedStore ∧
      ⟨orderedStore, some (.inputOnly createdStore.resource .writer)⟩ ∈ result.all ∧
      result.orderingConstraints.contains ⟨createdStore.request, orderedStore.request⟩ = true := by
  obtain ⟨result, hresult, hconsumers, hproducers, hall⟩ := extract_storesAndOrders
  have hproducer := List.mem_of_mem_head? hproducers
  have hbound := List.mem_of_getLast? hall
  have hx : orderedStore ∈ result.consumers := by
    rw [hconsumers]
    exact List.mem_cons_of_mem _ (List.mem_singleton_self _)
  obtain ⟨-, hresolved⟩ :=
    isResolved_of_isReadBy rfl hresult hproducer hx isReadBy_orderedStore
  exact ⟨result, hresult, hproducer, isReadBy_orderedStore, hbound,
    (hresolved _ hbound rfl).2 _ _ rfl⟩

end Setup

end RestFlow

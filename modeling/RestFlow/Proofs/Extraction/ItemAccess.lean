import Mathlib.Data.List.Permutation
import RestFlow.Proofs.Extraction.Bonds
import RestFlow.Proofs.Naming.TypeName
import RestFlow.Proofs.Resolution.Validity

/-!
# Items of a collection

The usual way to address what a collection holds: `POST /stores` creates a store and answers with
its `id`, and requests at `/stores/{storeId}` and below it take this value as `storeId`.
`ItemAccess` describes a pair of such requests, for any name of the collection and any words after
the type of its items.

Both sides of the pair are situated independently.  They agree on the type of the value, which is
the singular of the collection's name (`ItemAccess.candidateTypes_answer`,
`ItemAccess.candidateTypes_consumer`), and the name that is expected of the producer is the one that
the response has (`ItemAccess.producerParameter_consumer`).  The response is above the consumer and
its request may feed that of the consumer (`ItemAccess.isOffer_answer`).  So the strategy for exact
types finds it, before anything else could, and no pass takes the consumer elsewhere
(`ItemAccess.binds_answer`).
-/

namespace RestFlow

/-! ## The two requests -/

/-- A request creates the items of a collection and answers with a value, and another request
addresses an item by this value.  The parameter has the name of the value after the type of the
items. -/
structure ItemAccess where
  /-- The segments above the collection. -/
  above : List String
  /-- The name of the collection. -/
  collection : String
  /-- The words of the value. -/
  words : List String
  /-- The method of the request that addresses an item. -/
  method : Method
  /-- The segments below the item. -/
  below : List String
  /-- The body of the response. -/
  body : Tree
  /-- The only leaf of the response. -/
  value : Leaf
  /-- The parameter that addresses the item. -/
  parameter : Parameter
  /-- The only leaf of the parameter. -/
  input : Leaf
  above_plain : ∀ part ∈ above, AccessPath.IsPlainSegment part
  above_literal : ∀ part ∈ above, Endpoint.isParameter part = false
  collection_word : Naming.IsWord collection
  words_ne_nil : words ≠ []
  words_humps : ∀ w ∈ words, Naming.IsHump w
  below_plain : ∀ part ∈ below, AccessPath.IsPlainSegment part
  body_eq : ∃ required readonly, body = .internal "" .object required readonly [.leaf value]
  value_name : value.name = Convention.camelCase.join words
  parameter_name :
    parameter.name = Convention.camelCase.join (Naming.singular collection :: words)
  parameter_payload : parameter.payload = .leaf input
  input_open : input.isOpen = true
  serialization_supported : ∀ s ∈ parameter.serialization, s.style.isSupported = true

namespace ItemAccess

variable (a : ItemAccess)

/-- The segments of the collection. -/
def collectionSegments : List String :=
  a.above ++ [a.collection]

/-- The segments of an item. -/
def itemSegments : List String :=
  a.collectionSegments ++ [Endpoint.marker a.parameter.name]

/-- The request that creates an item. -/
def creation : RequestEntry where
  id := { endpoint := Endpoint.ofSegments a.collectionSegments, method := .post }
  data := { responseBody := some a.body }

/-- The request that addresses an item. -/
def access : RequestEntry where
  id := { endpoint := Endpoint.ofSegments (a.itemSegments ++ a.below), method := a.method }
  data := { pathParameters := [a.parameter] }

/-- The value in the response. -/
def answer : Resource :=
  .situated .output a.creation.id (.ofPlace (AccessPath.root.child a.value.name))
    (Convention.infer a.value.name) a.value.payload.type

/-- The parameter of the request that addresses an item. -/
def consumer : Consumer where
  resource := .situated .input a.access.id
    (.ofPathParameter a.parameter.name a.access.id.endpoint) (Convention.infer a.parameter.name)
    a.input.payload.type
  kind := .path

end ItemAccess

/-! ## Endpoints -/

namespace Endpoint

/-- A word is a literal segment. -/
lemma of_isWord {w : String} (h : Naming.IsWord w) :
    AccessPath.IsPlainSegment w ∧ isParameter w = false := by
  have hseparator : ∀ c ∈ ['-', '_', '/', '\x7b', '\x7d'], c ∉ w.toList := fun c hc hmem =>
    Text.notMem_separators (Text.isAlphanum_of_isSmall (h.small c hmem)) hc
  refine ⟨⟨h.ne_empty, hseparator '/' (by decide)⟩, ?_⟩
  have hhead : (w.toList.head? == some '\x7b') = false := by
    rw [beq_eq_false_iff_ne]
    intro hhead
    exact hseparator '\x7b' (by decide) (List.mem_of_mem_head? hhead)
  simp only [isParameter, hhead, Bool.and_false, Bool.false_and]

end Endpoint

/-! ## Situated resources -/

namespace Resource

variable (side : Side) (request : RequestId) (r : Reference) (convention : Convention)
  (type : PrimitiveType)

/-- The types of a situated resource. -/
lemma candidateTypes_situated :
    (situated side request r convention type).candidateTypes =
      Naming.candidateTypes (containerOn side request r) convention r.bodyContainer?.isSome
        (convention.split r.name) :=
  rfl

/-- The name that a situated resource expects of its producer. -/
lemma producerParameter_situated :
    (situated side request r convention type).producerParameter =
      Naming.producerParameter r.name convention
        (situated side request r convention type).candidateTypes :=
  rfl

end Resource

namespace ItemAccess

open Naming

variable (a : ItemAccess)

/-- The parameter is named by letters and digits. -/
lemma notMem_parameter : ∀ c ∈ ['-', '_', '/', '\x7b', '\x7d'], c ∉ a.parameter.name.toList := by
  rw [a.parameter_name]
  exact Convention.notMem_join_camelCase a.collection_word.singular a.words_humps

lemma parameter_ne_nil : a.parameter.name.toList ≠ [] := by
  rw [a.parameter_name]
  exact Convention.toList_join_camelCase_ne_nil a.collection_word.singular a.words

/-- The segments of the collection are plain. -/
lemma isPlainSegment_of_mem_collectionSegments :
    ∀ part ∈ a.collectionSegments, AccessPath.IsPlainSegment part := by
  intro part hpart
  rcases List.mem_append.mp hpart with hpart | hpart
  · exact a.above_plain part hpart
  · rw [List.mem_singleton.mp hpart]
    exact (Endpoint.of_isWord a.collection_word).1

/-- The segments of an item are plain. -/
lemma isPlainSegment_of_mem_itemSegments :
    ∀ part ∈ a.itemSegments, AccessPath.IsPlainSegment part := by
  intro part hpart
  rcases List.mem_append.mp hpart with hpart | hpart
  · exact a.isPlainSegment_of_mem_collectionSegments part hpart
  · rw [List.mem_singleton.mp hpart]
    exact Endpoint.isPlainSegment_marker (a.notMem_parameter '/' (by decide))

lemma segments_creation : a.creation.id.segments = a.collectionSegments :=
  Endpoint.segments_ofSegments a.isPlainSegment_of_mem_collectionSegments

/-- The segments of the request that addresses an item. -/
lemma segments_access : a.access.id.segments = a.itemSegments ++ a.below := by
  refine Endpoint.segments_ofSegments fun part hpart => ?_
  rcases List.mem_append.mp hpart with hpart | hpart
  · exact a.isPlainSegment_of_mem_itemSegments part hpart
  · exact a.below_plain part hpart

/-- No segment of the collection is the parameter. -/
lemma marker_notMem_collectionSegments :
    Endpoint.marker a.parameter.name ∉ a.collectionSegments := by
  have hparameter := Endpoint.isParameter_marker a.parameter_ne_nil
  intro hmem
  rcases List.mem_append.mp hmem with habove | hcollection
  · rw [a.above_literal _ habove] at hparameter
    cases hparameter
  · rw [List.mem_singleton.mp hcollection, (Endpoint.of_isWord a.collection_word).2] at hparameter
    cases hparameter

/-- The parameter ends the segments of the item. -/
lemma upToParameter_access :
    Endpoint.upToParameter a.parameter.name a.access.id.endpoint = a.itemSegments := by
  have hsegments := a.segments_access
  rw [itemSegments, List.append_assoc, List.singleton_append] at hsegments
  exact Endpoint.upToParameter_of_notMem hsegments a.marker_notMem_collectionSegments

/-- The collection is above the request that addresses an item. -/
lemma length_segments_lt : a.creation.id.segments.length < a.access.id.segments.length := by
  rw [segments_creation, segments_access, itemSegments]
  simp only [List.length_append, List.length_singleton]
  omega

/-- The two requests are at different places. -/
lemma place_ne : a.creation.id.place ≠ a.access.id.place := by
  intro hplace
  have hlength := a.length_segments_lt
  rw [RequestId.segments_eq_of_place_eq hplace] at hlength
  exact Nat.lt_irrefl _ hlength

/-- The request that creates an item may feed the one that addresses it. -/
lemma feeds (allowGet : Bool) : a.creation.id.Feeds a.access.id allowGet where
  produces := rfl
  ne := by
    rw [Bool.eq_false_iff]
    intro heq
    exact a.place_ne (Prod.mk.inj (RequestId.beq_iff.mp heq)).1
  precedence hplace := absurd hplace a.place_ne
  not_below :=
    Endpoint.isStrictAncestor_eq_false_of_length_le (Nat.le_of_lt a.length_segments_lt)

/-! ## Types and names -/

/-- The name of the value is joined from a word and the words after it. -/
lemma exists_value_name : ∃ w ws, IsWord w ∧ (∀ v ∈ ws, IsHump v) ∧
    a.value.name = Convention.camelCase.join (w :: ws) := by
  obtain ⟨w, ws, hwords⟩ := List.exists_cons_of_ne_nil a.words_ne_nil
  have hname := a.value_name
  have hhumps := a.words_humps
  rw [hwords] at hname hhumps
  exact ⟨w, ws, (hhumps w List.mem_cons_self).isWord,
    fun v hv => hhumps v (List.mem_cons_of_mem w hv), hname⟩

/-- The convention of the value's name is recognized. -/
lemma infer_value : Convention.infer a.value.name = .camelCase := by
  obtain ⟨w, ws, hw, hws, hname⟩ := a.exists_value_name
  rw [hname]
  exact Convention.infer_join_camelCase hw hws

lemma infer_parameter : Convention.infer a.parameter.name = .camelCase := by
  rw [a.parameter_name]
  exact Convention.infer_join_camelCase a.collection_word.singular a.words_humps

/-- The name of the value can be no mark of an array. -/
lemma lastName?_value :
    (AccessPath.root.child a.value.name).lastName? = some a.value.name := by
  obtain ⟨w, ws, hw, hws, hname⟩ := a.exists_value_name
  have halphanum := Convention.isAlphanum_join_camelCase hw hws
  rw [← hname] at halphanum
  have hne : a.value.name ≠ AccessPath.arrayMarker := by
    intro heq
    rw [heq] at halphanum
    exact absurd (halphanum '[' (by decide)) (by decide)
  have hnames : (AccessPath.root.child a.value.name).propertyNames = [a.value.name] := by
    simp [AccessPath.propertyNames, hne]
  rw [AccessPath.lastName?, hnames]
  rfl

/-- The value has the name of its leaf. -/
lemma name_answer : a.answer.name = a.value.name := by
  show (AccessPath.root.child a.value.name).lastName?.getD "" = _
  rw [lastName?_value]
  rfl

/-- The response is an item of the collection. -/
lemma candidateTypes_answer : a.answer.candidateTypes = [singular a.collection] := by
  have hbody : (Reference.ofPlace (AccessPath.root.child a.value.name)).bodyContainer? = none := rfl
  have hcontainer : Resource.containerOn .output a.creation.id
      (.ofPlace (AccessPath.root.child a.value.name)) = some a.collection := by
    have hlast : Endpoint.container a.creation.id.segments = some a.collection := by
      rw [segments_creation, collectionSegments, Endpoint.container, List.getLast?_concat]
      simp only [(Endpoint.of_isWord a.collection_word).2, Bool.false_eq_true, if_false]
    have hnone : (Reference.ofPlace (AccessPath.root.child a.value.name)).container?
        a.creation.id.segments = none := hbody
    rw [Resource.containerOn, hnone, ← hlast]
    rfl
  rw [answer, Resource.candidateTypes_situated, hcontainer, infer_value, hbody]
  exact candidateTypes_word a.collection_word _

/-- The parameter ends the item of the collection. -/
lemma reference_consumer :
    a.consumer.resource.reference = .path a.parameter.name a.itemSegments := by
  show Reference.path a.parameter.name
    (Endpoint.upToParameter a.parameter.name a.access.id.endpoint) = _
  rw [upToParameter_access]

/-- The parameter is for an item of the collection. -/
lemma candidateTypes_consumer :
    a.consumer.resource.candidateTypes = [singular a.collection] := by
  have hcontainer : Resource.containerOn .input a.access.id
      (.ofPathParameter a.parameter.name a.access.id.endpoint) = some a.collection := by
    have hparameter : Endpoint.parameterContainer a.itemSegments = some a.collection := by
      rw [Endpoint.parameterContainer, itemSegments, List.dropLast_concat, collectionSegments,
        List.getLast?_concat]
      simp only [(Endpoint.of_isWord a.collection_word).2, Bool.false_eq_true, if_false]
    rw [Reference.ofPathParameter, upToParameter_access, Resource.containerOn,
      Reference.container?, hparameter]
  have hbody : (Reference.ofPathParameter a.parameter.name a.access.id.endpoint).bodyContainer? =
      none := rfl
  rw [consumer, Resource.candidateTypes_situated, hcontainer, infer_parameter, hbody]
  exact candidateTypes_word a.collection_word _

/-- The parameter expects the value by the name that it has in the response. -/
lemma producerParameter_consumer : a.consumer.resource.producerParameter = a.value.name := by
  have hexpected : a.consumer.resource.producerParameter =
      producerParameter a.parameter.name (Convention.infer a.parameter.name)
        a.consumer.resource.candidateTypes := by
    rw [consumer, Resource.producerParameter_situated]
    rfl
  rw [hexpected, candidateTypes_consumer, infer_parameter, a.parameter_name, a.value_name]
  exact producerParameter_join a.collection_word.singular a.words_ne_nil a.words_humps

/-! ## The strategy for exact types -/

variable {a} {around : Surroundings} {d : Dictionary}

/-- The response is an offer to the parameter. -/
lemma isOffer_answer (hindex : around.index.responses = [a.answer]) :
    a.consumer.IsOffer around (singular a.collection) a.answer where
  mem := by
    rw [hindex]
    exact List.mem_singleton_self a.answer
  creates := .inr rfl
  elsewhere := a.place_ne
  accepted := by
    have hfeeds := a.feeds around.allowGet
    have hne : (a.answer.request != a.consumer.request) = true := by
      rw [bne, Bool.not_eq_true']
      exact hfeeds.ne
    rw [Consumer.accepts, hne, Bool.true_and]
    exact RequestId.mayFeed_iff_feeds.mpr hfeeds
  name := by rw [name_answer, producerParameter_consumer]
  type := by
    refine ⟨singular a.collection, ?_, beq_self_eq_true _⟩
    rw [Resource.primaryType?, candidateTypes_answer]
    rfl

/-- The collection is above the segments that the parameter ends. -/
lemma isStrictAncestor_anchor (a : ItemAccess) :
    Endpoint.isStrictAncestor a.answer.request.endpoint a.consumer.anchor = true := by
  have hanchor : a.consumer.anchor = Endpoint.ofSegments a.itemSegments := by
    rw [Consumer.anchor, reference_consumer]
    rfl
  have hcollection : Endpoint.segments a.answer.request.endpoint = a.collectionSegments :=
    a.segments_creation
  have hitem : Endpoint.segments (Endpoint.ofSegments a.itemSegments) = a.itemSegments :=
    Endpoint.segments_ofSegments a.isPlainSegment_of_mem_itemSegments
  rw [Endpoint.isStrictAncestor, hanchor, hcollection, hitem, itemSegments, Bool.and_eq_true,
    decide_eq_true_eq, List.isPrefixOf_iff_prefix, List.length_append, List.length_singleton]
  exact ⟨Nat.lt_succ_self _, List.prefix_append _ _⟩

/-- The response is found above the parameter. -/
lemma fromAncestors_consumer (hindex : around.index.responses = [a.answer]) :
    Strategy.fromAncestors a.consumer around = some (.response a.answer) := by
  have hprimary : a.consumer.resource.primaryType? = some (singular a.collection) := by
    rw [Resource.primaryType?, candidateTypes_consumer]
    rfl
  cases hfound : Strategy.fromAncestors a.consumer around with
  | none =>
    have hnil := Strategy.ancestorResponses_eq_nil hprimary hfound
    exact absurd hnil ((isOffer_answer hindex).ancestorResponses_ne_nil a.isStrictAncestor_anchor)
  | some p =>
    obtain ⟨type, r, -, hr, rfl⟩ := Strategy.exists_of_fromAncestors hfound
    have hmem := (Strategy.of_mem_ancestorResponses hr).1
    rw [hindex] at hmem
    rw [List.mem_singleton.mp hmem]

/-- No dictionary has an entry for the parameter. -/
def IsFreeIn (a : ItemAccess) (dictionaries : EndpointDictionaries) (d : Dictionary) : Prop :=
  ∀ payload : DictionaryPayload, payload.name = a.parameter.name →
    a.consumer.sees dictionaries d payload = false

/-- No dictionary is asked for an entry under another name than that of the parameter. -/
lemma entryAmong_consumer (hfree : a.IsFreeIn around.endpointDictionaries d) :
    a.consumer.entryAmong around d = none := by
  cases hentry : a.consumer.entryAmong around d with
  | none => rfl
  | some payload =>
    have hsees := Strategy.sees_of_entryAmong hentry
    obtain ⟨known, -, hknown⟩ := List.exists_of_findSome?_eq_some hentry
    rw [hfree payload (Strategy.name_of_entryIn rfl hknown)] at hsees
    cases hsees

/-- The parameter is bound to the response by the strategy for exact types. -/
theorem resolve_consumer (hindex : around.index.responses = [a.answer])
    (hfree : a.IsFreeIn around.endpointDictionaries d) :
    a.consumer.resolve around d = (⟨some (.response a.answer), some .exactType, false, []⟩, d) := by
  have hdirective : Strategy.run .directive a.consumer around d = .undecided := rfl
  have hdictionary : Strategy.run .dictionary a.consumer around d = .undecided := by
    have hentry := entryAmong_consumer hfree
    unfold Consumer.entryAmong at hentry
    rw [Strategy.run, Strategy.byDictionary, hentry]
  have hexact : Strategy.run .exactType a.consumer around d = .found (.response a.answer) := by
    rw [Strategy.run, Strategy.byExactType, fromAncestors_consumer hindex]
    rfl
  have hdecision : a.consumer.decision around d Strategy.all =
      (some (.exactType, .resolved (.response a.answer)), []) := by
    simp only [Strategy.all, Consumer.decision, hdirective, hdictionary, hexact]
    rfl
  unfold Consumer.resolve
  rw [hdecision]

/-! ## What is collected -/

/-- The value has a name. -/
lemma isEmpty_value (a : ItemAccess) : a.value.name.isEmpty = false := by
  obtain ⟨w, ws, hw, -, hname⟩ := a.exists_value_name
  have hne := Convention.toList_join_camelCase_ne_nil hw ws
  rw [← hname] at hne
  exact String.isEmpty_eq_false_iff.mpr (mt String.toList_eq_nil_iff.mpr hne)

lemma isEmpty_parameter (a : ItemAccess) : a.parameter.name.isEmpty = false :=
  String.isEmpty_eq_false_iff.mpr (mt String.toList_eq_nil_iff.mpr a.parameter_ne_nil)

/-- The value is below the root of the response. -/
lemma placedLeaves_body (a : ItemAccess) :
    Setup.placedLeaves (some a.body) = [(AccessPath.root.child a.value.name, a.value)] := by
  obtain ⟨required, readonly, hbody⟩ := a.body_eq
  have hstep : Tree.step AccessPath.root a.value.name = AccessPath.root.child a.value.name := by
    rw [Tree.step, a.isEmpty_value]
    rfl
  have hleaves : a.body.leaves = [(AccessPath.root.child a.value.name, a.value)] := by
    rw [hbody, Tree.leaves, Tree.visits, Tree.visitsOfAll, Tree.visitsOfAll, ← hstep]
    rfl
  rw [Setup.placedLeaves, hleaves]
  rfl

/-- Requests can be made of the description of the parameter. -/
lemma validate_access (a : ItemAccess) : a.access.validate = .ok () := by
  have hserialization : a.parameter.serializationFault? a.access.id = none := by
    unfold Parameter.serializationFault?
    cases hs : a.parameter.serialization with
    | none => rfl
    | some serialization => exact if_pos (a.serialization_supported serialization hs)
  have harray : a.parameter.arrayFault? a.access.id = none := by
    rw [Parameter.arrayFault?, a.parameter_payload]
    rfl
  have hfault : a.access.fault? = none := by
    show ([a.parameter].findSome? (·.serializationFault? a.access.id) <|>
      [a.parameter].findSome? (·.arrayFault? a.access.id)) = none
    simp only [List.findSome?_cons, hserialization, harray, List.findSome?_nil]
    rfl
  rw [RequestEntry.validate, hfault]

/-- What the two requests consume and produce. -/
def collected (a : ItemAccess) : Collection where
  consumers := [a.consumer]
  responses := [a.answer]

variable {s : Setup} (hconfig : s.config = {})
include hconfig

/-- The request that creates an item only produces the value. -/
lemma collectEntry_creation :
    s.collectEntry a.creation = .ok { responses := [a.answer] } := by
  have hname : (Reference.ofPlace (AccessPath.root.child a.value.name)).name = a.value.name :=
    a.name_answer
  have hsound : Resource.fault? (.ofPlace (AccessPath.root.child a.value.name)) = none := by
    rw [Resource.fault?, hname, a.isEmpty_value]
    rfl
  have hsituate : s.situate .output a.creation.id
      (.ofPlace (AccessPath.root.child a.value.name)) a.value.payload.type = .ok a.answer := by
    rw [Setup.situate_eq, hsound, Setup.situated, hconfig, hname]
    rfl
  have hleaves : Setup.placedLeaves a.creation.data.responseBody =
      [(AccessPath.root.child a.value.name, a.value)] := a.placedLeaves_body
  have hresponses : s.responses a.creation = .ok [a.answer] := by
    rw [Setup.responses, hleaves, List.mapM_cons]
    dsimp only
    rw [hsituate]
    rfl
  have hconsumers : s.consumers a.creation = .ok [] := by
    rw [Setup.consumers, hconfig]
    rfl
  rw [Setup.collectEntry, hconsumers, hresponses]
  rfl

variable (hdirectives : s.directives = [])
include hdirectives

/-- The request that addresses an item only consumes the parameter. -/
lemma collectEntry_access : s.collectEntry a.access = .ok { consumers := [a.consumer] } := by
  have hsound : Resource.fault?
      (.ofPathParameter a.parameter.name a.access.id.endpoint) = none := by
    show (if a.parameter.name.isEmpty then some _ else none) = none
    rw [a.isEmpty_parameter]
    rfl
  have hsituate : s.consumer a.access.id .path
      (.ofPathParameter a.parameter.name a.access.id.endpoint) a.input.payload.type =
        .ok a.consumer := by
    rw [Setup.consumer, Setup.situate_eq, hsound, Setup.situated, hconfig]
    rfl
  -- the parameter is a leaf whose value may be chosen
  have hopen : Setup.openPathLeaf? a.parameter = some a.input := by
    rw [Setup.openPathLeaf?, a.parameter_payload]
    exact if_pos a.input_open
  have hparameters : a.access.data.pathParameters.filterMap
      (fun p => (Setup.openPathLeaf? p).map (p, ·)) = [(a.parameter, a.input)] := by
    show [a.parameter].filterMap _ = _
    rw [List.filterMap_cons, hopen]
    rfl
  have hpaths : s.pathConsumers a.access = .ok [a.consumer] := by
    rw [Setup.pathConsumers, hparameters, List.mapM_cons]
    dsimp only
    rw [hsituate]
    rfl
  have hconsumers : s.consumers a.access = .ok [a.consumer] := by
    rw [Setup.consumers, hconfig, hpaths]
    rfl
  have hannotate : s.annotate a.access a.consumer = a.consumer := by
    rw [Setup.annotate, hdirectives]
    rfl
  rw [Setup.collectEntry, a.validate_access, hconsumers]
  show Except.ok (Collection.mk [s.annotate a.access a.consumer] [] []) = _
  rw [hannotate]

variable {i : Interface} (hi : i.requests.Perm [a.creation, a.access])
include hi

/-- The two requests are collected, in whatever order they are described. -/
lemma collect_eq : (s.collect i).2 = .ok a.collected := by
  have hcreation := collectEntry_creation (a := a) hconfig
  have haccess := collectEntry_access (a := a) hconfig hdirectives
  have hne : (a.creation.id == a.access.id) = false := (a.feeds false).ne
  have hne' : (a.access.id == a.creation.id) = false := by rw [BEq.comm, hne]
  rw [Setup.collect_snd, Interface.distinct]
  rcases List.perm_pair.mp hi with horder | horder
  · have hdistinct : RequestEntry.distinctFrom [] i.requests = [a.creation, a.access] := by
      simp [horder, RequestEntry.distinctFrom, hne']
    rw [hdistinct, List.mapM_cons, List.mapM_cons, hcreation, haccess]
    rfl
  · have hdistinct : RequestEntry.distinctFrom [] i.requests = [a.access, a.creation] := by
      simp [horder, RequestEntry.distinctFrom, hne]
    rw [hdistinct, List.mapM_cons, List.mapM_cons, hcreation, haccess]
    rfl

/-! ## The run -/

omit hconfig in
/-- No directive is declared. -/
lemma declaredDirectives_eq_nil : s.declaredDirectives i = [] := by
  have hown : ∀ e ∈ i.requests, e.directives = [] := by
    intro e he
    rcases List.mem_pair.mp (hi.mem_iff.mp he) with rfl | rfl
    · rfl
    · rfl
  rw [Setup.declaredDirectives, hdirectives, List.append_nil]
  exact List.flatMap_eq_nil_iff.mpr hown

omit hconfig in
/-- The pass over writers gives no suffix to the parameter, even if a PUT ends with it. -/
lemma writers_eq (hfree : a.IsFreeIn s.endpointDictionaries d) :
    s.writers i a.collected d = ⟨{ responses := [a.answer] }, d, [], 0⟩ := by
  have hpool : s.initialPool i a.collected = { responses := [a.answer] } := by
    rw [Setup.initialPool, declaredDirectives_eq_nil hdirectives hi]
    rfl
  have hresolve : a.consumer.resolve
      (s.surroundings (ProducerPool.index { responses := [a.answer] })) d =
        (⟨some (.response a.answer), some .exactType, false, []⟩, d) :=
    resolve_consumer rfl hfree
  rw [Setup.writers, hpool, Setup.writerPass]
  show ([a.consumer].filter _).foldl _ _ = _
  by_cases hwriter : a.consumer.isPathWriter
  · rw [List.filter_cons_of_pos hwriter, List.filter_nil, List.foldl_cons, List.foldl_nil,
      Setup.writerStep, hresolve]
    rfl
  · rw [List.filter_cons_of_neg hwriter]
    rfl

/-- A run over the two requests, without options, directives or entries for the parameter, binds the
parameter to the response, because of its exact type. -/
theorem binds_answer (hfree : a.IsFreeIn s.endpointDictionaries d) :
    ∃ result, (s.extract i d).2 = .ok result ∧
      result.all = [⟨a.consumer, some (.response a.answer)⟩] ∧
      result.statistics.byStrategy.entries = [(Strategy.exactType.word, 1)] := by
  have hc := collect_eq hconfig hdirectives hi
  have hmain : s.main i a.collected d =
      ⟨d, [(a.consumer, ⟨some (.response a.answer), some .exactType, false, []⟩)]⟩ := by
    rw [Setup.main_eq, Setup.settings, writers_eq hdirectives hi hfree]
    show MainState.mk d [(a.consumer, (a.consumer.resolve (s.surroundings _) d).1)] = _
    rw [resolve_consumer rfl hfree]
  have haliased : Dependency.aliasInputs (s.mirrored i a.collected d).dependencies =
      [⟨a.consumer, some (.response a.answer)⟩] := by
    rw [Setup.mirrored, hmain]
    rfl
  -- a single dependency contradicts nothing
  obtain ⟨groups, hgroups⟩ : ∃ groups,
      DependencyGroups.ofList [⟨a.consumer, some (.response a.answer)⟩] = .ok groups := ⟨_, rfl⟩
  rw [← haliased] at hgroups
  refine ⟨s.assembled i a.collected d groups,
    (Setup.extract_eq_ok_iff_of_collect hc).mpr ⟨groups, hgroups, rfl⟩, ?_, ?_⟩
  · rw [Setup.all_assembled hc hgroups, haliased]
  · show (s.main i a.collected d).strategyCounts.entries = _
    rw [hmain]
    rfl

omit hconfig hdirectives hi

/-- Categories are created with an `externalId`, by which they are replaced. -/
def categories : ItemAccess where
  above := ["shop"]
  collection := "categories"
  words := ["external", "id"]
  method := .put
  below := []
  body := .internal "" .object true false [.leaf ⟨"externalId", .fuzzable .string none, true, false⟩]
  value := ⟨"externalId", .fuzzable .string none, true, false⟩
  parameter := Interface.stringParameter "categoryExternalId"
  input := ⟨"categoryExternalId", .fuzzable .string none, true, false⟩
  above_plain := by simp [AccessPath.IsPlainSegment]
  above_literal := by decide
  collection_word := ⟨by decide, List.all_eq_true.mp (by decide)⟩
  words_ne_nil := by decide
  words_humps := by
    intro w hw
    rcases List.mem_pair.mp hw with rfl | rfl
    · exact ⟨'e', 'x', ['t', 'e', 'r', 'n', 'a', 'l'], rfl, rfl, List.all_eq_true.mp (by decide)⟩
    · exact ⟨'i', 'd', [], rfl, rfl, List.all_eq_true.mp (by decide)⟩
  below_plain := by simp
  body_eq := ⟨true, false, rfl⟩
  value_name := by decide +kernel
  parameter_name := by decide +kernel
  parameter_payload := rfl
  input_open := rfl
  serialization_supported := by decide

/-- The standard dictionary has no entries for parameters. -/
lemma isFreeIn_standard (a : ItemAccess) : a.IsFreeIn .empty .standard := by
  rintro ⟨kind, type, name, isObject⟩ -
  cases kind <;> cases isObject <;> rfl

/-- The `categoryExternalId` of the PUT is the `externalId` of a category. -/
theorem binds_answer_categories :
    ∃ result, (({} : Setup).extract ⟨[categories.access, categories.creation]⟩ .standard).2 =
        .ok result ∧
      result.all = [⟨categories.consumer, some (.response categories.answer)⟩] ∧
      result.statistics.byStrategy.entries = [("exact_type", 1)] :=
  binds_answer rfl rfl (List.Perm.swap categories.creation categories.access [])
    categories.isFreeIn_standard

end ItemAccess

end RestFlow

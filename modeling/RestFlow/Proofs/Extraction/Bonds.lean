import RestFlow.Proofs.Extraction.Collection
import RestFlow.Proofs.Extraction.LaterPasses
import RestFlow.Proofs.Extraction.WriterPass
import RestFlow.Proofs.Resolution.Availability
import RestFlow.Proofs.Sequence.Sources

/-!
# Bonds and listings

Consumers are bound to what there is, and every one of them is listed.
-/

namespace RestFlow

/-!
## What consumers are bound to

After every pass consumers are bound to available producers only (`Dependency.IsSupported`): the
strategies find available ones in the index of the run, and the pass over mirrored properties binds
to body properties of the index and to the uuid suffixes that it adds.  Putting the source of an
input in its place binds a consumer to what is available to somebody else.

So no pass invents a producer: every resource that a consumer is bound to is among the producers of
the result.
-/

namespace Dependency

/-- If the consumer is bound to a producer, this is available to it. -/
def IsSupported (around : Surroundings) (d : Dictionary) (dep : Dependency) : Prop :=
  ∀ p, dep.producer = some p → p.IsAvailable around d dep.consumer

/-- What supports a dependency does so when the dictionary grows. -/
lemma IsSupported.of_grows {around : Surroundings} {d d' : Dictionary} {dep : Dependency}
    (h : d.Grows d') (hdep : dep.IsSupported around d) : dep.IsSupported around d' :=
  fun p hp => (hdep p hp).of_grows h

end Dependency

/-! ### The pass over mirrored properties -/

namespace Consumer

/-- The property to mirror is a body property of the index. -/
lemma mem_sameBody_of_mirror? {c : Consumer} {index : ProducerIndex} {aliases : SortedMap String}
    {r : Resource} (h : c.mirror? index aliases = some r) : r ∈ index.sameBody := by
  obtain ⟨-, _, _, -, -, hmirrors⟩ := exists_of_mirror? h
  exact ProducerIndex.mem_of_mem_sameBodyNamed (of_mem_mirrors hmirrors).1

end Consumer

namespace SameBodyState

variable {l : List Dependency} {position : Nat} {p : Producer} {r : Resource}

/-- After a producer was given out a dependency is an old one, perhaps with this producer. -/
lemma mem_or_exists_of_mem_bind {x : Dependency} (h : x ∈ bind l position p) :
    x ∈ l ∨ ∃ d ∈ l, x = { d with producer := some p } := by
  obtain ⟨n, hn⟩ := List.mem_iff_getElem?.mp h
  rw [bind, List.getElem?_modify] at hn
  obtain ⟨d, hd, hx⟩ := Option.map_eq_some_iff.mp hn
  have hmem : d ∈ l := List.mem_of_getElem? hd
  split at hx
  · exact .inr ⟨d, hmem, hx.symm⟩
  · exact .inl (hx ▸ hmem)

/-- After a producer was given out by resource a dependency is an old one, perhaps with it. -/
lemma mem_or_exists_of_mem_bindFirst {x : Dependency} (h : x ∈ bindFirst l r p) :
    x ∈ l ∨ ∃ d ∈ l, x = { d with producer := some p } := by
  rcases bindFirst_cases l r p with ⟨hsame, -⟩ | ⟨n, z, -, -, hbind⟩
  · exact .inl (hsame ▸ h)
  · exact mem_or_exists_of_mem_bind (hbind ▸ h)

variable {around : Surroundings} {aliases : SortedMap String} {st : SameBodyState}

/-- All dependencies are supported at this stage of the pass. -/
def AllSupported (around : Surroundings) (st : SameBodyState) : Prop :=
  ∀ x ∈ st.dependencies, x.IsSupported around st.dictionary

/-- A step of the pass keeps all dependencies supported. -/
lemma AllSupported.step (h : st.AllSupported around) (position : Nat) :
    (step around.index aliases st position).AllSupported around := by
  rcases step_cases around.index aliases st position with ⟨hstep, -⟩ | ⟨x, r, -, hmirror, hstep⟩
  · rw [hstep]
    exact h
  · rw [hstep]
    have hgrows := st.dictionary.grows_withSuffix r.name
    -- the mirrored property sees the new suffix, and whoever mirrors it has it from the index
    have hbacked : ∀ x ∈ bindFirst st.dependencies r (backing r),
        x.IsSupported around (st.dictionary.withSuffix r.name) := by
      intro x hx
      rcases mem_or_exists_of_mem_bindFirst hx with hx | ⟨y, -, rfl⟩
      · exact (h x hx).of_grows hgrows
      · intro p hp
        obtain rfl := Option.some.inj hp
        exact Consumer.sees_of_offers _ _ (Dictionary.offers_withSuffix _ r.name r.type)
    intro x hx
    rcases mem_or_exists_of_mem_bind hx with hx | ⟨y, -, rfl⟩
    · exact hbacked x hx
    · intro p hp
      obtain rfl := Option.some.inj hp
      exact Consumer.mem_sameBody_of_mirror? hmirror

end SameBodyState

namespace Setup

/-- The pass over mirrored properties keeps all dependencies supported. -/
lemma allSupported_sameBodyPass (s : Setup) (around : Surroundings) {l : List Dependency}
    {d : Dictionary} (h : ∀ x ∈ l, x.IsSupported around d) :
    (s.sameBodyPass around.index l d).AllSupported around :=
  sameBodyPass_induction (SameBodyState.AllSupported around) h
    fun _ position hst => hst.step position

/-! ### The dependencies of a run -/

variable {s : Setup} {i : Interface} {c : Collection} {d : Dictionary}

variable (s i c d) in
/-- The consumers of a run stay the ones that were collected. -/
lemma map_consumer_mirrored :
    (s.mirrored i c d).dependencies.map Dependency.consumer = c.consumers := by
  rw [mirrored, map_consumer_sameBodyPass, dependencies_main, List.map_map]
  exact List.map_id _

/-- The dependencies of a run belong to consumers that were collected. -/
lemma mem_consumers_of_mem_mirrored {dep : Dependency}
    (h : dep ∈ (s.mirrored i c d).dependencies) : dep.consumer ∈ c.consumers := by
  rw [← map_consumer_mirrored s i c d]
  exact List.mem_map_of_mem h

variable (s i d) in
/-- Every consumer that was collected has a dependency in the run. -/
lemma exists_mem_mirrored {x : Consumer} (h : x ∈ c.consumers) :
    ∃ dep ∈ (s.mirrored i c d).dependencies, dep.consumer = x := by
  rw [← map_consumer_mirrored s i c d] at h
  exact List.mem_map.mp h

/-- The pass over all consumers leaves all dependencies supported. -/
lemma isSupported_of_mem_main {x : Dependency} (hx : x ∈ (s.main i c d).dependencies) :
    x.IsSupported (s.settings i c d) (s.main i c d).dictionary := by
  obtain ⟨hconsumer, hproducer⟩ := mem_dependencies_main_iff.mp hx
  intro p hp
  have havailable := Consumer.isAvailable_resolve (hproducer.symm.trans hp)
  rw [Consumer.resolve_snd_of_not_isFresh (not_isFresh_settings hconsumer)] at havailable
  rw [dictionary_main]
  exact havailable

/-- Before sources are put in the place of inputs all dependencies are supported. -/
theorem isSupported_of_mem_mirrored {x : Dependency}
    (hx : x ∈ (s.mirrored i c d).dependencies) :
    x.IsSupported (s.settings i c d) (s.mirrored i c d).dictionary :=
  s.allSupported_sameBodyPass (s.settings i c d) (fun _ => isSupported_of_mem_main) x hx

lemma mem_responses_settings {r : Resource} :
    r ∈ (s.settings i c d).index.responses ↔ r ∈ c.responses := by
  rw [responses_settings, mem_sortOn]

lemma mem_sameBody_settings {r : Resource} :
    r ∈ (s.settings i c d).index.sameBody ↔ r ∈ c.sameBody := by
  rw [sameBody_settings, mem_sortOn]

/-- What is kept of equal elements is all of them if only the same ones are equal. -/
lemma mem_dropRepeats_sortOn {l : List Resource}
    (heq : ∀ a ∈ l, ∀ b ∈ l, (a == b) = true → a = b) {r : Resource} (hr : r ∈ l) :
    r ∈ dropRepeats (sortOn Resource.name l) := by
  have hsorted : r ∈ sortOn Resource.name l := mem_sortOn.mpr hr
  obtain ⟨a, ha, har⟩ := exists_mem_dropRepeats hsorted
  have hmem : a ∈ l := mem_sortOn.mp (mem_of_mem_dropRepeats ha)
  rwa [← heq a hmem r hr har]

/-- The resources of available producers are among the producers of the index. -/
lemma mem_producers_of_isAvailable (hc : (s.collect i).2 = .ok c) {dictionary : Dictionary}
    {x : Consumer} {p : Producer} (h : p.IsAvailable (s.settings i c d) dictionary x)
    (hp : p.resource?.isSome = true) : p ∈ (s.settings i c d).index.producers := by
  unfold ProducerIndex.producers
  cases p with
  | response r =>
    -- repetitions are dropped from the index, but equal responses are one and the same
    have hkept := mem_dropRepeats_sortOn (l := (s.settings i c d).index.responses)
      (fun a ha b hb => eq_of_beq_of_mem_responses hc (mem_responses_settings.mp ha)
        (mem_responses_settings.mp hb)) h
    exact List.mem_append_left _ (List.mem_append_left _ (List.mem_map.mpr ⟨r, hkept, rfl⟩))
  | sameBody r =>
    have hkept := mem_dropRepeats_sortOn (l := (s.settings i c d).index.sameBody)
      (fun a ha b hb => eq_of_beq_of_mem_sameBody hc (mem_sameBody_settings.mp ha)
        (mem_sameBody_settings.mp hb)) h
    exact List.mem_append_left _ (List.mem_append_right _ (List.mem_map.mpr ⟨r, hkept, rfl⟩))
  | inputOnly r origin =>
    exact List.mem_append_right _ (List.mem_map.mpr ⟨(r, origin), mem_sortOn.mpr h, rfl⟩)
  | dictionary payload => cases hp
  | ordering constraint => cases hp

/-- Whatever a consumer is bound to in the end is available to somebody. -/
lemma exists_isAvailable_of_mem_aliasInputs {x : Dependency} {p : Producer}
    (hx : x ∈ Dependency.aliasInputs (s.mirrored i c d).dependencies)
    (hp : x.producer = some p) :
    ∃ y, p.IsAvailable (s.settings i c d) (s.mirrored i c d).dictionary y := by
  rcases Dependency.eq_or_exists_of_mem_aliasInputs hx with hx | ⟨y, -, q, halias, rfl⟩
  · exact ⟨x.consumer, isSupported_of_mem_mirrored hx p hp⟩
  · obtain rfl := Option.some.inj hp
    obtain ⟨input, -, -, e, hdecisive, he⟩ := Dependency.alias?_eq_some_iff.mp halias
    exact ⟨e.consumer, isSupported_of_mem_mirrored hdecisive.mem q he⟩

/-- No pass invents a producer: what consumers are bound to is among the producers of the result,
payloads aside, and nobody is bound to an ordering constraint. -/
theorem mem_producers_of_mem_all {result : Extraction} {x : Dependency} {p : Producer}
    (hresult : (s.extract i d).2 = .ok result) (hx : x ∈ result.all) (hp : x.producer = some p) :
    (p.resource?.isSome = true → p ∈ result.producers) ∧
      ∀ constraint, p ≠ .ordering constraint := by
  obtain ⟨c, groups, hc, hgroups, rfl⟩ := extract_eq_ok_iff.mp hresult
  have hmem := (DependencyGroups.mem_all_iff hgroups).mp hx
  obtain ⟨y, havailable⟩ := exists_isAvailable_of_mem_aliasInputs hmem hp
  refine ⟨fun hresource => List.mem_append_left _ ?_, ?_⟩
  · exact mem_producers_of_isAvailable hc havailable hresource
  · rintro constraint rfl
    exact havailable

end Setup

/-! ### An input that a directive names -/

namespace Interface

/-- A parameter that takes a string. -/
def stringParameter (name : String) : Parameter :=
  ⟨name, .leaf ⟨name, .fuzzable .string none, true, false⟩, none⟩

/-- The `key` of reports is the `token` with which a session is opened. -/
def keyDirective : Directive where
  producer := { endpoint := "/sessions", method := .post }
  consumer := none
  producerParameter := some (.name "token")
  consumerParameter := some (.name "key")
  exceptions := []

/-- Sessions are opened with a `token` in the query and another one in the body, and reports are
read with a `key`, which a directive takes from sessions. -/
def sessionsAndReports : Interface where
  requests := [
    { id := { endpoint := "/sessions", method := .post }
      data := {
        queryParameters := [stringParameter "token"]
        body := some (.internal "" .object true false [(stringParameter "token").payload]) } },
    { id := { endpoint := "/reports", method := .get }
      data := {
        queryParameters := [stringParameter "key"]
        localDirectives := [keyDirective] } }]

/-- The `token` in the query of sessions. -/
def sessionToken : Resource :=
  .situated .input { endpoint := "/sessions", method := .post } (.query "token")
    (Convention.infer "token") .string

/-- The `key` of reports. -/
def reportKey : Consumer where
  resource := .situated .input { endpoint := "/reports", method := .get } (.query "key")
    (Convention.infer "key") .string
  kind := .query
  directive := some ⟨.request, keyDirective⟩

end Interface

namespace Setup

open Interface

/-- Without a dictionary entry for sessions the `key` stays bound to the `token` in their query. -/
lemma extract_sessionsAndReports :
    ∃ result, (({} : Setup).extract sessionsAndReports .standard).2 = .ok result ∧
      result.all.getLast? = some ⟨reportKey, some (.inputOnly sessionToken .directive)⟩ :=
  ⟨_, rfl, rfl⟩

/-- The `token` in the query of sessions is among the producers, since the `key` is bound to it. -/
theorem sessionToken_mem_producers :
    ∃ result, (({} : Setup).extract sessionsAndReports .standard).2 = .ok result ∧
      ⟨reportKey, some (.inputOnly sessionToken .directive)⟩ ∈ result.all ∧
      .inputOnly sessionToken .directive ∈ result.producers := by
  obtain ⟨result, hresult, hlast⟩ := extract_sessionsAndReports
  have hmem := List.mem_of_getLast? hlast
  exact ⟨result, hresult, hmem, (mem_producers_of_mem_all hresult hmem rfl).1 rfl⟩

end Setup

/-!
## The dependencies of a result are its consumers

Between the collection and the result, dependencies are bound, put into groups by one part of what
they are sorted by, and listed again.  None of this loses, repeats or moves a consumer: the
dependencies of the result, in the order of listings, are the consumers of the collection, each with
a producer or without (`all_assembled`).  Consumers that tie in a listing are listed under one key,
so they keep their order inside one group.

A result is complete in this sense (`Extraction.IsComplete`), and its statistics count just these
dependencies.
-/

namespace Extraction

/-- A result has one dependency for each of its consumers, in the groups where they belong, and
counts them. -/
structure IsComplete (x : Extraction) : Prop where
  /-- No consumer is lost, repeated or moved. -/
  map_consumer : x.all.map Dependency.consumer = x.consumers
  /-- A key has a group if something is listed under it, and the group holds just that. -/
  group : ∀ key g, SortedMap.get? x.dependencies key = some g ↔
    g = DependencyGroups.underKey key x.all ∧ g ≠ []
  /-- What is unresolved are the dependencies without a producer, in the order of listings. -/
  unresolved : x.unresolved = x.all.filter fun dep => dep.producer.isNone
  /-- The consumers are counted. -/
  consumers_count : x.statistics.consumers = x.consumers.length
  /-- No more consumers are resolved than there are. -/
  resolved_le : x.statistics.resolved ≤ x.statistics.consumers
  /-- Every consumer is counted as resolved or as unresolved. -/
  resolved_add : x.statistics.resolved + x.statistics.unresolved = x.statistics.consumers
  /-- What is counted as unresolved is what is listed as unresolved. -/
  unresolved_count : x.statistics.unresolved = x.unresolved.length

end Extraction

namespace Setup

variable {s : Setup} {i : Interface} {c : Collection} {d : Dictionary}

variable (s i c d) in
/-- Putting the sources of inputs in place leaves the consumers of a run as they were collected. -/
lemma map_consumer_aliasInputs :
    (Dependency.aliasInputs (s.mirrored i c d).dependencies).map Dependency.consumer =
      c.consumers := by
  rw [Dependency.consumers_aliasInputs, map_consumer_mirrored]

variable {groups : DependencyGroups}

/-- Grouping and listing give back the dependencies as they were. -/
theorem all_assembled (hc : (s.collect i).2 = .ok c)
    (hgroups : DependencyGroups.ofList (Dependency.aliasInputs (s.mirrored i c d).dependencies) =
      .ok groups) :
    (s.assembled i c d groups).all = Dependency.aliasInputs (s.mirrored i c d).dependencies := by
  refine DependencyGroups.all_ofList hgroups ?_
  have hsorted := pairwise_consumers hc
  rw [← map_consumer_aliasInputs s i c d, List.pairwise_map] at hsorted
  exact hsorted

/-- A result that is put together from grouped dependencies is complete. -/
lemma isComplete_assembled (hc : (s.collect i).2 = .ok c)
    (hgroups : DependencyGroups.ofList (Dependency.aliasInputs (s.mirrored i c d).dependencies) =
      .ok groups) : (s.assembled i c d groups).IsComplete := by
  have hall := all_assembled hc hgroups
  have hconsumers : (s.assembled i c d groups).all.map Dependency.consumer = c.consumers := by
    rw [hall, map_consumer_aliasInputs]
  have hlength : (s.assembled i c d groups).all.length = c.consumers.length := by
    rw [← hconsumers, List.length_map]
  have hresolved : groups.resolvedCount =
      ((s.assembled i c d groups).all.filter Dependency.isResolved).length := by
    rw [hall, DependencyGroups.resolvedCount_ofList hgroups, List.countP_eq_length_filter]
  have hsplit : (s.assembled i c d groups).all.length =
      ((s.assembled i c d groups).all.filter Dependency.isResolved).length +
        (s.assembled i c d groups).unresolved.length :=
    List.length_eq_length_filter_add _
  -- the counts are those of the two parts of one list
  refine ⟨hconsumers, ?_, ?_, rfl, ?_, ?_, ?_⟩
  · intro key g
    rw [hall]
    exact DependencyGroups.get?_ofList_eq_some_iff hgroups
  · exact List.filter_congr fun dep _ => Option.not_isSome dep.producer
  · show groups.resolvedCount ≤ c.consumers.length
    omega
  · show groups.resolvedCount + (c.consumers.length - groups.resolvedCount) = c.consumers.length
    omega
  · show c.consumers.length - groups.resolvedCount = _
    omega

/-- The results of successful runs are complete. -/
theorem isComplete_of_extract {result : Extraction} (hresult : (s.extract i d).2 = .ok result) :
    result.IsComplete := by
  obtain ⟨c, groups, hc, hgroups, rfl⟩ := extract_eq_ok_iff.mp hresult
  exact isComplete_assembled hc hgroups

end Setup

namespace Interface

/-- A report is read by its `id`, which its creation returns, and by a `page`, which is described
twice. -/
def pagedReports : Interface where
  requests := [
    { id := { endpoint := "/reports", method := .post }
      data := {
        responseBody := some (.internal "" .object true false [(stringParameter "id").payload]) } },
    { id := { endpoint := "/reports/\x7bid\x7d", method := .get }
      data := {
        pathParameters := [stringParameter "id"]
        queryParameters := [
          stringParameter "page",
          ⟨"page", .leaf ⟨"page", .fuzzable .int none, true, false⟩, none⟩] } }]

end Interface

namespace Setup

open Interface

/-- The two descriptions of `page` tie in the listing, and both are kept. -/
lemma extract_pagedReports :
    ∃ result, (({} : Setup).extract pagedReports .standard).2 = .ok result ∧
      result.consumers.map (fun x => (x.name, x.resource.type)) =
        [("id", .string), ("page", .string), ("page", .int)] ∧
      result.statistics.resolved = 1 :=
  ⟨_, rfl, rfl, rfl⟩

/-- One of the three parameters is bound, and the listing of dependencies has all three. -/
theorem isComplete_pagedReports :
    ∃ result, (({} : Setup).extract pagedReports .standard).2 = .ok result ∧
      result.statistics.resolved = 1 ∧ result.all.length = 3 ∧ result.IsComplete := by
  obtain ⟨result, hresult, hconsumers, hresolved⟩ := extract_pagedReports
  have hcomplete := isComplete_of_extract hresult
  refine ⟨result, hresult, hresolved, ?_, hcomplete⟩
  have hlength := congrArg List.length hconsumers
  rw [← hcomplete.map_consumer, List.length_map, List.length_map] at hlength
  exact hlength

end Setup

end RestFlow

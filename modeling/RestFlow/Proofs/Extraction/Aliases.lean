import RestFlow.Proofs.Extraction.Bonds
import RestFlow.Proofs.Sequence.Settled

/-!
# What readers of inputs are given

A consumer that is bound to an input which a directive made a producer is given the source of this
input.  The source is looked for by request and name alone, so that it may be read from another
parameter of the name.  It is right unless another parameter overshadows the input
(`Dependency.Overshadows`).

A payload that is the source of an input is in a dictionary that applies to the input's request.
Its reader belongs to another request and need not see it: every payload that a consumer is bound to
is seen by it, or lent to it by the dictionary of an input's endpoint (`Extraction.IsLent`).
-/

namespace RestFlow

/-! ## The right source -/

namespace Dependency

variable {l : List Dependency} {input : Resource} {p : Producer}

/-- The source of an input is read from a parameter at another place, and to the producer of this
one no consumer is bound that is the input. -/
structure Overshadows (l : List Dependency) (input : Resource) (e : Dependency) : Prop where
  isDecisive : IsDecisive l input e
  elsewhere : e.consumer.resource.reference ≠ input.reference
  differs : ∀ own ∈ l, own.isFor input = true → own.producer ≠ e.producer

/-- A namesake at the place of an input is the input. -/
lemma isFor_of_reference_eq {e : Dependency} (h : e.isNamesake input = true)
    (hreference : e.consumer.resource.reference = input.reference) : e.isFor input = true := by
  rw [isFor, (isNamesake_iff.mp h).2.1, Bool.true_and, beq_iff_eq]
  exact hreference

/-- The source of an input is right unless the input is overshadowed. -/
lemma exists_isFor_iff_not_overshadowed (h : source? l input = some p) :
    (∃ own ∈ l, own.isFor input = true ∧ own.producer = some p) ↔
      ¬∃ e, Overshadows l input e := by
  constructor
  · rintro ⟨own, hown, hfor, hp⟩ ⟨e, hdecisive, -, hdiffers⟩
    obtain ⟨q, hq⟩ := (isNamesake_iff.mp hdecisive.isNamesake).1
    have hsource := source?_eq_some_iff.mpr ⟨e, hdecisive, hq⟩
    rw [h] at hsource
    refine hdiffers own hown hfor ?_
    rw [hp, hq, hsource]
  · intro hover
    obtain ⟨e, hdecisive, he⟩ := source?_eq_some_iff.mp h
    by_contra hnone
    -- no dependency of the input itself has the decisive producer
    have hdiffers : ∀ own ∈ l, own.isFor input = true → own.producer ≠ e.producer := by
      intro own hown hfor hproducer
      exact hnone ⟨own, hown, hfor, hproducer.trans he⟩
    refine hover ⟨e, hdecisive, fun hreference => ?_, hdiffers⟩
    exact hdiffers e hdecisive.mem (isFor_of_reference_eq hdecisive.isNamesake hreference) rfl

end Dependency

namespace Setup

variable {s : Setup} {i : Interface} {c : Collection} {d : Dictionary} {result : Extraction}

/-- An input that a directive made a producer is one of the consumers. -/
lemma exists_consumer_of_mem_inputs {input : Resource}
    (h : (input, InputOrigin.directive) ∈ (s.settings i c d).index.inputs) :
    ∃ x ∈ c.consumers, x.resource = input := by
  rcases mem_initialPool_or_suffixed h with hinitial | ⟨horigin, -⟩
  · exact (exists_consumer_of_mem_initialPool hinitial).2
  · cases horigin

/-- A consumer that is bound to an input which a directive made a producer, and is given its source,
has it in the result.  The input is a consumer itself, and the source is its own unless it is
overshadowed. -/
theorem isRight_iff_not_overshadowed (hresult : (s.extract i d).2 = .ok result)
    (hc : (s.collect i).2 = .ok c) {x : Dependency} {input : Resource} {p : Producer}
    (hx : x ∈ (s.mirrored i c d).dependencies)
    (hinput : x.producer = some (.inputOnly input .directive))
    (halias : Dependency.alias? (s.mirrored i c d).dependencies x = some p) :
    { x with producer := some p } ∈ result.all ∧
      (∃ own ∈ (s.mirrored i c d).dependencies, own.consumer.resource = input) ∧
      ((∃ own ∈ (s.mirrored i c d).dependencies,
          own.isFor input = true ∧ own.producer = some p) ↔
        ¬∃ e, Dependency.Overshadows (s.mirrored i c d).dependencies input e) := by
  obtain ⟨c', groups, hc', hgroups, rfl⟩ := extract_eq_ok_iff.mp hresult
  obtain rfl : c' = c := Except.ok.inj (hc'.symm.trans hc)
  refine ⟨?_, ?_, ?_⟩
  · exact (DependencyGroups.mem_all_iff hgroups).mpr
      (Dependency.mem_aliasInputs_of_alias? hx halias)
  · have havailable := isSupported_of_mem_mirrored hx _ hinput
    obtain ⟨y, hy, hresource⟩ := exists_consumer_of_mem_inputs havailable
    rw [← map_consumer_mirrored s i c' d] at hy
    obtain ⟨own, hown, rfl⟩ := List.mem_map.mp hy
    exact ⟨own, hown, hresource⟩
  · obtain ⟨input', hinput', -, hdecisive⟩ := Dependency.alias?_eq_some_iff.mp halias
    rw [hinput] at hinput'
    cases hinput'
    exact Dependency.exists_isFor_iff_not_overshadowed
      (Dependency.source?_eq_some_iff.mpr hdecisive)

/-! ### Two tokens of one request -/

open Interface

/-- The payload for the `token` in queries. -/
def queryToken : DictionaryPayload :=
  ⟨.query, .string, "token", false⟩

/-- The payload for what is at the place of the `token` in bodies. -/
def bodyToken : DictionaryPayload :=
  ⟨.string, .string, "/token", false⟩

/-- The dictionary has the `token` of queries for sessions alone. -/
def sessionSetup : Setup where
  endpointDictionaries := .ofList [("/sessions", { queryPayloads := .ofList [("token", ["t"])] })]

/-- The dictionary has the `token` of queries and another one for bodies. -/
def twoTokens : Dictionary where
  queryPayloads := .ofList [("token", ["q"])]
  payloads := .ofList [("/token", ["b"])]

/-- With an entry for the query alone the `key` is given the payload of the `token` in the query. -/
lemma alias?_sessionSetup :
    ∃ c result, (sessionSetup.collect sessionsAndReports).2 = .ok c ∧
      (sessionSetup.extract sessionsAndReports .standard).2 = .ok result ∧
      (sessionSetup.mirrored sessionsAndReports c .standard).dependencies.head? =
        some ⟨⟨sessionToken, .query, none⟩, some (.dictionary queryToken)⟩ ∧
      (sessionSetup.mirrored sessionsAndReports c .standard).dependencies.getLast? =
        some ⟨reportKey, some (.inputOnly sessionToken .directive)⟩ ∧
      Dependency.alias? (sessionSetup.mirrored sessionsAndReports c .standard).dependencies
        ⟨reportKey, some (.inputOnly sessionToken .directive)⟩ = some (.dictionary queryToken) :=
  ⟨_, _, rfl, rfl, rfl, rfl, rfl⟩

/-- The `token` in the query is not overshadowed if the dictionary has nothing for the body. -/
theorem not_overshadowed_sessionToken :
    ∃ c result, (sessionSetup.collect sessionsAndReports).2 = .ok c ∧
      (sessionSetup.extract sessionsAndReports .standard).2 = .ok result ∧
      ⟨reportKey, some (.dictionary queryToken)⟩ ∈ result.all ∧
      ¬∃ e, Dependency.Overshadows
        (sessionSetup.mirrored sessionsAndReports c .standard).dependencies sessionToken e := by
  obtain ⟨c, result, hc, hresult, hhead, hlast, halias⟩ := alias?_sessionSetup
  obtain ⟨hall, -, hright⟩ :=
    isRight_iff_not_overshadowed hresult hc (List.mem_of_getLast? hlast) rfl halias
  have hown : ∃ own ∈ (sessionSetup.mirrored sessionsAndReports c .standard).dependencies,
      own.isFor sessionToken = true ∧ own.producer = some (.dictionary queryToken) :=
    ⟨_, List.mem_of_mem_head? hhead, rfl, rfl⟩
  exact ⟨c, result, hc, hresult, hall, hright.mp hown⟩

/-- With entries for both the `key` is given the payload of the `token` in the body, to which no
consumer is bound that is the `token` in the query. -/
lemma alias?_twoTokens :
    ∃ c result, (({} : Setup).collect sessionsAndReports).2 = .ok c ∧
      (({} : Setup).extract sessionsAndReports twoTokens).2 = .ok result ∧
      (({} : Setup).mirrored sessionsAndReports c twoTokens).dependencies.getLast? =
        some ⟨reportKey, some (.inputOnly sessionToken .directive)⟩ ∧
      Dependency.alias? (({} : Setup).mirrored sessionsAndReports c twoTokens).dependencies
        ⟨reportKey, some (.inputOnly sessionToken .directive)⟩ = some (.dictionary bodyToken) ∧
      ((({} : Setup).mirrored sessionsAndReports c twoTokens).dependencies.all fun own =>
        !(own.isFor sessionToken && own.producer == some (.dictionary bodyToken))) = true :=
  ⟨_, _, rfl, rfl, rfl, rfl, rfl⟩

/-- The source of an input may be read from another parameter of its name. -/
theorem not_forall_isRight :
    ¬∀ (s : Setup) (i : Interface) (d : Dictionary) (c : Collection) (result : Extraction)
        (x : Dependency) (input : Resource) (p : Producer),
      (s.collect i).2 = .ok c → (s.extract i d).2 = .ok result →
        x ∈ (s.mirrored i c d).dependencies → x.producer = some (.inputOnly input .directive) →
          Dependency.alias? (s.mirrored i c d).dependencies x = some p →
            ∃ own ∈ (s.mirrored i c d).dependencies,
              own.isFor input = true ∧ own.producer = some p := by
  intro h
  obtain ⟨c, result, hc, hresult, hlast, halias, hnone⟩ := alias?_twoTokens
  obtain ⟨own, hown, hfor, hp⟩ := h {} sessionsAndReports twoTokens c result _ sessionToken _
    hc hresult (List.mem_of_getLast? hlast) rfl halias
  have hother := List.all_eq_true.mp hnone own hown
  rw [hfor, hp, Bool.true_and, ReflBEq.rfl] at hother
  cases hother

end Setup

/-! ## Payloads of other endpoints -/

namespace Extraction

/-- A dictionary of the result that applies to the consumer offers the payload. -/
def shows (result : Extraction) (x : Consumer) (p : DictionaryPayload) : Bool :=
  x.sees result.endpointDictionaries result.dictionary p

/-- The payload belongs to the dictionary of another endpoint, and the consumer has it from an input
there: a directive made the input a producer, the consumer is to run after its request, and a
consumer of its request and name is bound to the payload, which is not a uuid suffix. -/
structure IsLent (result : Extraction) (x : Consumer) (p : DictionaryPayload) (input : Resource) :
    Prop where
  mem_producers : .inputOnly input .directive ∈ result.producers
  ordered : ∃ constraint ∈ result.orderingConstraints,
    (constraint == ⟨input.request, x.request⟩) = true
  bound : ∃ e ∈ result.all, e.isNamesake input = true ∧ e.producer = some (.dictionary p)
  offered : ∃ own, result.endpointDictionaries.at? input.request.endpoint = some own ∧
    own.offers p = true
  elsewhere : input.request.place ≠ x.request.place
  kind : p.kind ≠ .uuidSuffix

end Extraction

namespace Consumer

variable {x y : Consumer} {dictionaries : EndpointDictionaries} {d : Dictionary}
  {p : DictionaryPayload}

/-- What one consumer sees and another one does not is offered by the dictionary of the endpoint of
the first one, which is not the endpoint of the other. -/
lemma exists_own_of_sees {request : RequestId} (hrequest : (x.request == request) = true)
    (hx : x.sees dictionaries d p = true) (hy : y.sees dictionaries d p = false) :
    request.place ≠ y.request.place ∧
      ∃ own, dictionaries.at? request.endpoint = some own ∧ own.offers p = true := by
  have hplace : Endpoint.normalize x.request.endpoint = Endpoint.normalize request.endpoint :=
    (Prod.mk.inj (RequestId.beq_iff.mp hrequest)).1
  rw [sees, EndpointDictionaries.at?, hplace] at hx
  rw [sees, Bool.or_eq_false_iff] at hy
  rw [hy.2, Bool.or_false] at hx
  constructor
  · intro hsame
    rw [RequestId.place, RequestId.place] at hsame
    rw [hsame, ← EndpointDictionaries.at?, hy.1] at hx
    cases hx
  · obtain ⟨own, hat, hoffers⟩ := (Option.any_eq_true _ _).mp hx
    exact ⟨own, hat, hoffers⟩

end Consumer

namespace Setup

variable {s : Setup} {i : Interface} {c : Collection} {d : Dictionary} {result : Extraction}

/-- The payload that a consumer is given in place of an input, and does not see, is lent to it. -/
lemma isLent_of_isDecisive {groups : DependencyGroups} (hc : (s.collect i).2 = .ok c)
    (hgroups : DependencyGroups.ofList
      (Dependency.aliasInputs (s.mirrored i c d).dependencies) = .ok groups)
    {x e : Dependency} {input : Resource} {p : DictionaryPayload}
    (hx : x ∈ (s.mirrored i c d).dependencies)
    (hinput : x.producer = some (.inputOnly input .directive))
    (hdecisive : Dependency.IsDecisive (s.mirrored i c d).dependencies input e)
    (he : e.producer = some (.dictionary p)) (hkind : p.kind ≠ .uuidSuffix)
    (hshows : (s.assembled i c d groups).shows x.consumer p = false) :
    (s.assembled i c d groups).IsLent x.consumer p input := by
  have hrequest := (Dependency.isNamesake_iff.mp hdecisive.isNamesake).2.1
  have hsees := isSupported_of_mem_mirrored hdecisive.mem _ he
  obtain ⟨hplace, hown⟩ := Consumer.exists_own_of_sees hrequest hsees hshows
  -- at its own place the consumer would see the payload itself
  have hne : (input.request == x.consumer.request) = false := by
    rw [Bool.eq_false_iff]
    intro heq
    exact hplace (Prod.mk.inj (RequestId.beq_iff.mp heq)).1
  have hproducer : .inputOnly input .directive ∈ (s.settings i c d).index.producers :=
    mem_producers_of_isAvailable hc (isSupported_of_mem_mirrored hx _ hinput) rfl
  have himplied := OrderingConstraint.mem_implied hx hinput hne
  have hshareable : (Producer.dictionary p).isShareable = true := bne_iff_ne.mpr hkind
  have hbound := Dependency.mem_aliasInputs_of_shareable hdecisive.mem he hshareable
  exact {
    mem_producers := List.mem_append_left _ hproducer
    ordered := OrderingConstraint.exists_mem_settled (List.mem_append_right _ himplied) hne
    bound := ⟨e, (DependencyGroups.mem_all_iff hgroups).mpr hbound, hdecisive.isNamesake, he⟩
    offered := hown
    elsewhere := hplace
    kind := hkind }

/-- Every payload that a consumer is bound to is seen by it, or lent to it by the dictionary of the
endpoint of an input. -/
theorem shows_or_isLent (hresult : (s.extract i d).2 = .ok result) {x : Dependency}
    {p : DictionaryPayload} (hx : x ∈ result.all) (hp : x.producer = some (.dictionary p)) :
    result.shows x.consumer p = true ∨ ∃ input, result.IsLent x.consumer p input := by
  obtain ⟨c, groups, hc, hgroups, rfl⟩ := extract_eq_ok_iff.mp hresult
  have hmem := (DependencyGroups.mem_all_iff hgroups).mp hx
  rcases Dependency.eq_or_exists_of_mem_aliasInputs hmem with hold | ⟨y, hy, q, halias, rfl⟩
  · exact .inl (isSupported_of_mem_mirrored hold _ hp)
  · cases hp
    obtain ⟨input, hinput, hshareable, e, hdecisive, he⟩ :=
      Dependency.alias?_eq_some_iff.mp halias
    have hkind : p.kind ≠ .uuidSuffix := bne_iff_ne.mp hshareable
    by_cases hshows : (s.assembled i c d groups).shows y.consumer p = true
    · exact .inl hshows
    · have hlent := isLent_of_isDecisive hc hgroups hy hinput hdecisive he hkind
        (Bool.eq_false_iff.mpr hshows)
      exact .inr ⟨input, hlent⟩

/-! ### A token of one endpoint -/

open Interface

/-- The `key` of reports has the payload of sessions, which it does not see. -/
lemma extract_sessionSetup :
    ∃ result, (sessionSetup.extract sessionsAndReports .standard).2 = .ok result ∧
      result.all.getLast? = some ⟨reportKey, some (.dictionary queryToken)⟩ ∧
      result.shows reportKey queryToken = false :=
  ⟨_, rfl, rfl, rfl⟩

/-- The payload of sessions is lent to the `key` of reports. -/
theorem isLent_reportKey :
    ∃ result input, (sessionSetup.extract sessionsAndReports .standard).2 = .ok result ∧
      result.IsLent reportKey queryToken input := by
  obtain ⟨result, hresult, hlast, hshows⟩ := extract_sessionSetup
  rcases shows_or_isLent hresult (List.mem_of_getLast? hlast) rfl with h | ⟨input, hlent⟩
  · rw [hshows] at h
    cases h
  · exact ⟨result, input, hresult, hlent⟩

/-- A consumer may be bound to a payload that it does not see. -/
theorem not_forall_shows :
    ¬∀ (s : Setup) (i : Interface) (d : Dictionary) (result : Extraction) (x : Dependency)
        (p : DictionaryPayload),
      (s.extract i d).2 = .ok result → x ∈ result.all → x.producer = some (.dictionary p) →
        result.shows x.consumer p = true := by
  intro h
  obtain ⟨result, hresult, hlast, hshows⟩ := extract_sessionSetup
  have hseen := h sessionSetup sessionsAndReports .standard result _ queryToken hresult
    (List.mem_of_getLast? hlast) rfl
  rw [hshows] at hseen
  cases hseen

end Setup

end RestFlow

import RestFlow.Proofs.Resolution.Findings
import RestFlow.Proofs.Resolution.Growth

/-!
# Where producers are taken from

A producer is available to a consumer (`Producer.IsAvailable`) if the index has its resource or, for
a payload, if a dictionary that applies to the consumer offers it (`Consumer.sees`).  Every strategy
that finds a producer finds an available one (`Strategy.isAvailable_of_run`).  A fresh value is
offered by the dictionary that resolving leaves behind, so whatever resolving binds a consumer to is
available afterwards (`Consumer.isAvailable_resolve`).
-/

namespace RestFlow

/-! ## Payloads that dictionaries offer -/

namespace Dictionary

/-- The dictionary has the key of the payload among the entries of its kind. -/
def offers (d : Dictionary) (p : DictionaryPayload) : Bool :=
  match p.kind with
  | .uuidSuffix => d.uuidSuffixes.contains p.name
  | .header => d.headerPayloads.contains p.name
  | .query => d.queryPayloads.contains p.name
  | .string =>
    if p.isObject then d.unquotedPayloads.contains p.name else d.payloads.contains p.name

variable {d d' : Dictionary} {p : DictionaryPayload}

/-- A custom payload that is found is offered. -/
lemma offers_of_findPayload {kind : Option CustomKind} {key : String} {type : PrimitiveType}
    (h : d.findPayload kind key type = some p) : d.offers p = true := by
  unfold findPayload at h
  split at h
  · rename_i hspecific
    obtain rfl := Option.some.inj h
    -- only headers and queries have payloads of their own
    cases kind with
    | none => cases hspecific
    | some kind =>
      cases kind with
      | string => cases hspecific
      | uuidSuffix => cases hspecific
      | header => exact hspecific
      | query => exact hspecific
  · split at h
    · rename_i hunquoted
      obtain rfl := Option.some.inj h
      exact hunquoted
    · split at h
      · rename_i hquoted
        obtain rfl := Option.some.inj h
        exact hquoted
      · cases h

/-- A uuid suffix that is found is offered. -/
lemma offers_of_findSuffix {name : String} {type : PrimitiveType}
    (h : d.findSuffix name type = some p) : d.offers p = true := by
  unfold findSuffix at h
  split at h
  · rename_i hname
    obtain rfl := Option.some.inj h
    exact hname
  · cases h

/-- A custom payload has the name under which it is found. -/
lemma name_of_findPayload {kind : Option CustomKind} {key : String} {type : PrimitiveType}
    (h : d.findPayload kind key type = some p) : p.name = key := by
  unfold findPayload at h
  split at h
  · exact (congrArg DictionaryPayload.name (Option.some.inj h)).symm
  · split at h
    · exact (congrArg DictionaryPayload.name (Option.some.inj h)).symm
    · split at h
      · exact (congrArg DictionaryPayload.name (Option.some.inj h)).symm
      · cases h

/-- A uuid suffix has the name under which it is found. -/
lemma name_of_findSuffix {name : String} {type : PrimitiveType}
    (h : d.findSuffix name type = some p) : p.name = name := by
  unfold findSuffix at h
  split at h
  · exact (congrArg DictionaryPayload.name (Option.some.inj h)).symm
  · cases h

/-- A uuid suffix is offered once it was added. -/
lemma offers_withSuffix (d : Dictionary) (name : String) (type : PrimitiveType) :
    (d.withSuffix name).offers (suffixPayload name type) = true := by
  show (d.withSuffix name).uuidSuffixes.contains name = true
  rw [contains_withSuffix, decide_eq_true rfl, Bool.true_or]

/-- What a dictionary offers it offers when it has grown. -/
lemma Grows.offers (h : d.Grows d') (hp : d.offers p = true) : d'.offers p = true := by
  unfold Dictionary.offers at hp ⊢
  cases hkind : p.kind with
  | uuidSuffix =>
    rw [hkind] at hp
    exact h.contains hp
  | _ =>
    -- all other entries are the same
    rw [hkind] at hp
    rw [h.rest]
    exact hp

end Dictionary

namespace Consumer

/-- A dictionary that applies to the consumer offers the payload: that of its endpoint or the one
for all endpoints. -/
def sees (c : Consumer) (dictionaries : EndpointDictionaries) (d : Dictionary)
    (p : DictionaryPayload) : Bool :=
  (dictionaries.at? c.request.endpoint).any (·.offers p) || d.offers p

variable {c : Consumer} {dictionaries : EndpointDictionaries} {d d' : Dictionary}
  {p : DictionaryPayload}

lemma sees_of_offers (c : Consumer) (dictionaries : EndpointDictionaries)
    (h : d.offers p = true) : c.sees dictionaries d p = true := by
  rw [sees, h, Bool.or_true]

/-- A payload is seen by a dictionary that applies to the consumer. -/
lemma sees_of_mem_dictionaries {around : Surroundings} {known : Dictionary}
    (hknown : known ∈ c.dictionaries around d) (h : known.offers p = true) :
    c.sees around.endpointDictionaries d p = true := by
  rw [dictionaries, List.mem_append, Option.mem_toList, List.mem_singleton] at hknown
  rcases hknown with hown | rfl
  · rw [sees, Option.mem_def.mp hown, Option.any_some, h, Bool.true_or]
  · exact sees_of_offers c around.endpointDictionaries h

/-- What a consumer sees it sees when the dictionary has grown. -/
lemma sees_of_grows (h : d.Grows d') (hp : c.sees dictionaries d p = true) :
    c.sees dictionaries d' p = true := by
  rw [sees, Bool.or_eq_true] at hp ⊢
  exact hp.imp_right h.offers

end Consumer

/-! ## Available producers -/

namespace Producer

/-- The index has the resource of the producer, or the consumer sees the payload.  Ordering
constraints are not available to anyone. -/
def IsAvailable (around : Surroundings) (d : Dictionary) (c : Consumer) : Producer → Prop
  | response r => r ∈ around.index.responses
  | sameBody r => r ∈ around.index.sameBody
  | inputOnly r origin => (r, origin) ∈ around.index.inputs
  | dictionary p => c.sees around.endpointDictionaries d p = true
  | ordering _ => False

/-- Available producers stay so when the dictionary grows. -/
lemma IsAvailable.of_grows {around : Surroundings} {d d' : Dictionary} {c : Consumer} {p : Producer}
    (h : d.Grows d') (hp : p.IsAvailable around d c) : p.IsAvailable around d' c := by
  cases p with
  | response r => exact hp
  | sameBody r => exact hp
  | inputOnly r origin => exact hp
  | dictionary payload => exact Consumer.sees_of_grows h hp
  | ordering constraint => exact hp

end Producer

namespace Strategy

variable {c : Consumer} {around : Surroundings} {d : Dictionary} {p : Producer}

/-- A directive leads to a response or an input of the index. -/
lemma isAvailable_of_named? (h : c.named? around = some p) : p.IsAvailable around d c := by
  obtain ⟨m, -, h⟩ := Option.bind_eq_some_iff.mp h
  obtain ⟨parameter, -, h⟩ := Option.bind_eq_some_iff.mp h
  rw [Option.orElse_eq_orElse, Option.orElse_eq_or, Option.or_eq_some_iff] at h
  rcases h with hresponse | ⟨-, hinput⟩
  · obtain ⟨r, hr, rfl⟩ := Option.map_eq_some_iff.mp hresponse
    exact ProducerIndex.mem_of_mem_responsesOf (List.mem_of_find?_eq_some hr)
  · obtain ⟨i, hi, rfl⟩ := Option.map_eq_some_iff.mp hinput
    exact ProducerIndex.mem_of_find?_inputsNamed hi

/-- The entry that a dictionary has for a consumer is offered by it. -/
lemma offers_of_entryIn {known : Dictionary} {payload : DictionaryPayload}
    (h : entryIn c known = some payload) : known.offers payload = true := by
  rw [Consumer.entryIn_eq, Option.or_eq_some_iff] at h
  rcases h with hpayload | ⟨-, hsuffix⟩
  · rw [Consumer.payload?, Option.or_eq_some_iff] at hpayload
    rcases hpayload with hplace | ⟨-, hname⟩
    · obtain ⟨place, -, hplace⟩ := Option.bind_eq_some_iff.mp hplace
      exact Dictionary.offers_of_findPayload hplace
    · exact Dictionary.offers_of_findPayload hname
  · split at hsuffix
    · exact Dictionary.offers_of_findSuffix hsuffix
    · cases hsuffix

/-- The entry for a consumer outside bodies has its name. -/
lemma name_of_entryIn {known : Dictionary} {payload : DictionaryPayload}
    (hplace : c.resource.place? = none) (h : entryIn c known = some payload) :
    payload.name = c.name := by
  rw [Consumer.entryIn_eq, Consumer.payload?, hplace, Option.bind_none, Option.none_or,
    Option.or_eq_some_iff] at h
  rcases h with hpayload | ⟨-, hsuffix⟩
  · exact Dictionary.name_of_findPayload hpayload
  · split at hsuffix
    · exact Dictionary.name_of_findSuffix hsuffix
    · cases hsuffix

/-- The entry that is found for a consumer is seen by it. -/
lemma sees_of_entryAmong {payload : DictionaryPayload}
    (h : c.entryAmong around d = some payload) :
    c.sees around.endpointDictionaries d payload = true := by
  obtain ⟨known, hknown, hentry⟩ := List.exists_of_findSome?_eq_some h
  exact Consumer.sees_of_mem_dictionaries hknown (offers_of_entryIn hentry)

/-- Every strategy finds available producers. -/
theorem isAvailable_of_run {s : Strategy} (h : (s.run c around d).outcome = .resolved p) :
    p.IsAvailable around d c := by
  cases s with
  | directive =>
    rw [run, outcome_byDirective, Outcome.ofSearch_eq_resolved_iff] at h
    exact isAvailable_of_named? h
  | dictionary =>
    rw [run, outcome_byDictionary, Outcome.ofSearch_eq_resolved_iff] at h
    obtain ⟨payload, hentry, rfl⟩ := Option.map_eq_some_iff.mp h
    exact sees_of_entryAmong hentry
  | exactType =>
    rcases cases_of_outcome_byExactType h with ⟨_, r, -, hr, -, rfl⟩ | ⟨i, hi, rfl⟩
    · exact hr
    · exact hi
  | approximateType =>
    obtain ⟨_, _, _, r, -, -, hr, rfl⟩ := exists_of_outcome_byTypes h
    exact (of_mem_responsesAnywhere hr).1
  | createOrUpdate =>
    obtain ⟨_, r, -, hr, -, rfl⟩ := exists_of_outcome_byCreation h
    exact hr
  | nestedObject =>
    obtain ⟨_, r, -, hr, -, rfl⟩ := exists_of_outcome_byNestedObject h
    exact hr

/-- No strategy finds a property of the consumer's own body, for none looks at these. -/
lemma ne_sameBody_of_run {s : Strategy} (h : (s.run c around d).outcome = .resolved p)
    (r : Resource) : p ≠ .sameBody r := by
  rintro rfl
  have hsame : s.run c { around with index := { around.index with sameBody := [] } } d =
      s.run c around d := by
    cases s with
    | approximateType =>
      exact Surroundings.Extends.byApproximateType_eq ⟨rfl, rfl, rfl, fun _ hi => hi⟩
    | _ => rfl
  rw [← hsame] at h
  exact List.not_mem_nil (isAvailable_of_run h)

end Strategy

namespace Consumer

variable {c : Consumer} {around : Surroundings} {d : Dictionary} {p : Producer}

/-- Resolving binds a consumer to what a strategy found, or to a fresh value. -/
lemma cases_of_resolve_producer (h : (c.resolve around d).1.producer = some p) :
    (c.outcome around d = .resolved p ∧
        ∃ s : Strategy, (s.run c around d).outcome = .resolved p) ∨
      c.outcome around d = .freshSuffix ∧
        p = .dictionary (Dictionary.suffixPayload c.name c.resource.type) := by
  rw [resolve_producer] at h
  cases ho : c.outcome around d with
  | undecided =>
    rw [ho] at h
    cases h
  | ambiguous =>
    rw [ho] at h
    cases h
  | resolved q =>
    rw [ho] at h
    obtain rfl := Option.some.inj h
    have hne : c.outcome around d ≠ .undecided := by
      rw [ho]
      exact Outcome.noConfusion
    obtain ⟨s, -, hs⟩ := exists_of_outcomeOf_ne hne
    rw [← outcome, ho] at hs
    exact .inl ⟨rfl, s, hs⟩
  | freshSuffix =>
    rw [ho] at h
    exact .inr ⟨rfl, (Option.some.inj h).symm⟩

/-- What resolving binds a consumer to is available, given the dictionary that it leaves behind. -/
theorem isAvailable_resolve (h : (c.resolve around d).1.producer = some p) :
    p.IsAvailable around (c.resolve around d).2 c := by
  rw [resolve_snd]
  rcases cases_of_resolve_producer h with ⟨ho, s, hs⟩ | ⟨ho, rfl⟩
  · rw [ho]
    exact Strategy.isAvailable_of_run hs
  · rw [ho]
    exact sees_of_offers c _ (Dictionary.offers_withSuffix d c.name c.resource.type)

/-- Resolving does not bind a consumer to a property of its own body. -/
lemma ne_sameBody_of_resolve (h : (c.resolve around d).1.producer = some p) (r : Resource) :
    p ≠ .sameBody r := by
  rcases cases_of_resolve_producer h with ⟨-, s, hs⟩ | ⟨-, rfl⟩
  · exact Strategy.ne_sameBody_of_run hs r
  · exact Producer.noConfusion

end Consumer

end RestFlow

import RestFlow.Proofs.Extraction.Directives

/-!
# Inputs that directives name

A directive is read twice.  Before the strategies are applied, it makes an input a producer: the
first input of the producing request that its producing parameter refers to, unless a response has
this parameter (`Directive.source`).  When a consumer is resolved, its directive is asked for an
input again, and now the consuming parameter stands in where no producing one is given, and the
consumer's own input does not count.

So the two readings may part.  For a consumer whose directive is not answered by a response, the
strategies find an input by the directive exactly when some input that the directive names for it
has become a producer, on account of some directive or as a writer
(`Setup.takesInput_iff_registers`).  For a directive with a producing parameter this is so if the
first input that the parameter refers to is not the consumer itself.  A directive with nothing but a
consuming parameter makes no input a producer, although the strategies would accept one
(`Setup.not_forall_takesInput`).
-/

namespace RestFlow

/-! ## Which inputs become producers -/

namespace Setup

variable {s : Setup} {i : Interface} {c : Collection} {d : Dictionary} {x y : Consumer}

/-- The input becomes a producer: a directive leads to it, or it is a writer that is given a uuid
suffix. -/
def Registers (s : Setup) (i : Interface) (c : Collection) (d : Dictionary) (y : Consumer) : Prop :=
  (∃ a ∈ s.declaredDirectives i, a.source c = .input y.resource) ∨
    y ∈ Consumer.suffixed (s.preliminary i c) c.pathWriters d

/-- What the strategies find among the inputs are consumers that became producers. -/
lemma exists_registers_of_mem_inputs {input : Resource × InputOrigin}
    (h : input ∈ (s.settings i c d).index.inputs) :
    ∃ y ∈ c.consumers, y.resource = input.1 ∧ s.Registers i c d y := by
  rcases mem_initialPool_or_suffixed h with hinitial | ⟨-, y, hy, hresource⟩
  · obtain ⟨-, y, hy, hresource⟩ := exists_consumer_of_mem_initialPool hinitial
    rw [initialPool_eq] at hinitial
    rcases ProducerPool.mem_or_mem_of_mem_inputs_addAll hinitial with hnone | ⟨hnamed, -⟩
    · cases hnone
    · rw [← hresource] at hnamed
      exact ⟨y, hy, hresource, .inl (Directive.mem_inputs_iff.mp hnamed)⟩
  · have hpath := Consumer.mem_of_mem_suffixed hy
    exact ⟨y, (Collection.mem_pathWriters_iff.mp hpath).1, hresource, .inr hy⟩

/-- Consumers that became producers are found among the inputs. -/
lemma exists_mem_inputs_of_registers (hc : (s.collect i).2 = .ok c) (hy : y ∈ c.consumers)
    (h : s.Registers i c d y) : ∃ origin, (y.resource, origin) ∈ (s.settings i c d).index.inputs := by
  have hfound : ∃ input ∈ (s.settings i c d).index.inputs, (input.1 == y.resource) = true := by
    rcases h with hdirective | hsuffixed
    · obtain ⟨input, hinput, heq⟩ := ProducerPool.exists_mem_inputs_addAll
        { responses := c.responses, sameBody := c.sameBody } .directive
        (Directive.mem_inputs_iff.mpr hdirective)
      exact ⟨input, (s.extends_settings i c d).inputs input (mem_sortOn.mpr hinput), heq⟩
    · exact exists_mem_inputs_of_mem_suffixed hsuffixed
  obtain ⟨⟨r, origin⟩, hindex, heq⟩ := hfound
  -- collected inputs are equal only if they are the same
  obtain ⟨z, hz, rfl, -⟩ := exists_registers_of_mem_inputs hindex
  rw [eq_of_beq_resource hc hz hy heq] at hindex
  exact ⟨origin, hindex⟩

end Setup

/-! ## What a directive names for a consumer -/

namespace Consumer

/-- The input belongs to the request, the parameter refers to it, and it is not the consumer's
own. -/
structure IsNamedFor (y : Consumer) (request : RequestId) (parameter : ParameterRef)
    (x : Consumer) : Prop where
  request : (y.request == request) = true
  refers : parameter.refersTo y.name y.resource.place? = true
  ne : (y.resource == x.resource) = false

variable {x y : Consumer} {around : Surroundings} {d : Dictionary} {p : Producer}

/-- What a directive leads to is bound on its account. -/
lemma resolve_of_named? (h : x.named? around = some p) :
    (x.resolve around d).1.strategy = some .directive ∧
      (x.resolve around d).1.producer = some p := by
  have houtcome : (Strategy.run .directive x around d).outcome = .resolved p := by
    rw [Strategy.run, Strategy.outcome_byDirective, h]
    rfl
  have hdecided : ¬((Strategy.run .directive x around d).outcome == .undecided) = true := by
    rw [houtcome]
    exact Bool.false_ne_true
  unfold resolve
  rw [Strategy.all, decision, if_neg hdecided, houtcome]
  exact ⟨rfl, rfl⟩

/-- What is bound on account of a directive is what the directive leads to. -/
lemma named?_of_resolve (hstrategy : (x.resolve around d).1.strategy = some .directive)
    (hproducer : (x.resolve around d).1.producer = some p) : x.named? around = some p := by
  obtain ⟨hrun, -⟩ := of_resolve_eq_some hstrategy hproducer
  rw [Strategy.run, Strategy.outcome_byDirective] at hrun
  cases hnamed : x.named? around with
  | none =>
    rw [hnamed] at hrun
    cases hrun
  | some q =>
    rw [hnamed] at hrun
    exact hrun

end Consumer

namespace Resolution

/-- A directive led to an input of the request. -/
def TakesInput (r : Resolution) (request : RequestId) : Prop :=
  r.strategy = some .directive ∧ ∃ input origin,
    r.producer = some (.inputOnly input origin) ∧ (input.request == request) = true

end Resolution

namespace Setup

variable {s : Setup} {i : Interface} {c : Collection} {d : Dictionary} {x y : Consumer}
  {parameter : ParameterRef}

/-- Inputs are looked up by the name that they have if the parameter refers to them. -/
lemma name_eq_inputName (hc : (s.collect i).2 = .ok c) (hy : y ∈ c.consumers)
    (h : parameter.refersTo y.name y.resource.place? = true) : y.name = parameter.inputName := by
  cases parameter with
  | name n => exact (beq_iff_eq.mp h).symm
  | path place =>
    have hplace : y.resource.reference.place? = some place := beq_iff_eq.mp h
    obtain ⟨e, -, part, hpart, hyp⟩ := exists_of_mem_collect hc hy
    obtain ⟨reference, type, hinput, -, hresource⟩ := isInputOf_of_mem_collectEntry hpart y hyp
    rw [hresource] at hplace
    rw [Consumer.name, hresource]
    cases hinput with
    | path name => cases hplace
    | query name => cases hplace
    | header name => cases hplace
    | body htree hv =>
      obtain rfl := Option.some.inj hplace
      rfl

/-- If no response answers a directive, the consumer is left with the inputs. -/
lemma named?_eq_namedInput? {m : MatchedDirective} (hdirective : x.directive = some m)
    (htaken : m.directive.takenParameter = some parameter)
    (hnone : ∀ r ∈ c.responses,
      (r.request == m.directive.producer && parameter.refersTo r.name r.place?) = false) :
    x.named? (s.settings i c d) =
      (x.namedInput? (s.settings i c d) m.directive parameter).map fun found =>
        .inputOnly found.1 found.2 := by
  have hresponse : x.namedResponse? (s.settings i c d) m.directive parameter = none := by
    rw [Consumer.namedResponse?, ProducerIndex.find?_responsesOf, List.find?_eq_none]
    intro r hr
    obtain ⟨hmem, hrequest⟩ := List.mem_filter.mp (mem_sortOn.mp hr)
    rw [responses_settings] at hmem
    have hrefers := hnone r (mem_sortOn.mp hmem)
    rw [hrequest, Bool.true_and] at hrefers
    rw [hrefers, Bool.false_and]
    exact Bool.false_ne_true
  rw [Consumer.named?, hdirective, Option.bind_some, htaken, Option.bind_some, hresponse]
  rfl

/-- The look-up among the inputs succeeds if an input that is named for the consumer has become a
producer. -/
lemma exists_namedInput?_iff (hc : (s.collect i).2 = .ok c) (a : Directive) :
    (∃ found, x.namedInput? (s.settings i c d) a parameter = some found) ↔
      ∃ y ∈ c.consumers, y.IsNamedFor a.producer parameter x ∧ s.Registers i c d y := by
  constructor
  · rintro ⟨found, hfound⟩
    have hindex := (List.mem_filter.mp (List.mem_of_find?_eq_some hfound)).1
    have htest := List.find?_some hfound
    obtain ⟨y, hy, hresource, hregisters⟩ := exists_registers_of_mem_inputs hindex
    simp only [← hresource, Bool.and_eq_true, bne, Bool.not_eq_true'] at htest
    exact ⟨y, hy, ⟨htest.1.1, htest.1.2, htest.2⟩, hregisters⟩
  · rintro ⟨y, hy, hnamed, hregisters⟩
    obtain ⟨origin, hindex⟩ := exists_mem_inputs_of_registers hc hy hregisters
    have hname : (y.resource.name == parameter.inputName) = true :=
      beq_iff_eq.mpr (name_eq_inputName hc hy hnamed.refers)
    have htest : (y.resource.request == a.producer &&
        parameter.refersTo y.resource.name y.resource.place? && y.resource != x.resource) = true := by
      rw [bne, hnamed.ne]
      exact Bool.and_eq_true_iff.mpr ⟨Bool.and_eq_true_iff.mpr ⟨hnamed.request, hnamed.refers⟩, rfl⟩
    rw [← Option.isSome_iff_exists, Consumer.namedInput?, List.find?_isSome]
    exact ⟨(y.resource, origin), List.mem_filter.mpr ⟨hindex, hname⟩, htest⟩

/-- If no response answers the directive of a consumer, the consumer is resolved to an input by it
exactly if an input that is named for the consumer has become a producer. -/
lemma takesInput_resolve_iff (hc : (s.collect i).2 = .ok c) {m : MatchedDirective}
    (hdirective : x.directive = some m) (htaken : m.directive.takenParameter = some parameter)
    (hnone : ∀ r ∈ c.responses,
      (r.request == m.directive.producer && parameter.refersTo r.name r.place?) = false) :
    (x.resolve (s.settings i c d) (s.writers i c d).dictionary).1.TakesInput m.directive.producer ↔
      ∃ y ∈ c.consumers, y.IsNamedFor m.directive.producer parameter x ∧ s.Registers i c d y := by
  rw [← exists_namedInput?_iff hc]
  have hnamed := named?_eq_namedInput? (s := s) (i := i) (d := d) hdirective htaken hnone
  constructor
  · rintro ⟨hstrategy, input, origin, hproducer, -⟩
    rw [Consumer.named?_of_resolve hstrategy hproducer] at hnamed
    obtain ⟨found, hfound, -⟩ := Option.map_eq_some_iff.mp hnamed.symm
    exact ⟨found, hfound⟩
  · rintro ⟨found, hfound⟩
    rw [hfound, Option.map_some] at hnamed
    have hrequest := List.find?_some hfound
    rw [Bool.and_eq_true, Bool.and_eq_true] at hrequest
    obtain ⟨hstrategy, hproducer⟩ := Consumer.resolve_of_named? hnamed
    exact ⟨hstrategy, found.1, found.2, hproducer, hrequest.1.1⟩

/-! ## Where the two readings agree -/

/-- The directive of a consumer is a declared one. -/
lemma mem_declaredDirectives (hc : (s.collect i).2 = .ok c) (hx : x ∈ c.consumers)
    {m : MatchedDirective} (hdirective : x.directive = some m) :
    m.directive ∈ s.declaredDirectives i := by
  obtain ⟨e, he, -, hfind⟩ := directive_eq_find? hc hx
  rw [hdirective] at hfind
  have hscoped := List.mem_of_find?_eq_some hfind.symm
  have hown : ∀ a ∈ e.directives, a ∈ s.declaredDirectives i := fun a ha =>
    List.mem_append_left _ (List.mem_flatMap.mpr ⟨e, Interface.mem_of_mem_distinct he, ha⟩)
  rw [scopedDirectives, List.mem_append, List.mem_append] at hscoped
  rcases hscoped with (hrequest | hinterface) | hlink
  · obtain ⟨a, ha, rfl⟩ := List.mem_map.mp hrequest
    exact hown a (List.mem_append_left _ ha)
  · obtain ⟨a, ha, rfl⟩ := List.mem_map.mp hinterface
    exact List.mem_append_right _ ha
  · obtain ⟨a, ha, rfl⟩ := List.mem_map.mp hlink
    exact hown a (List.mem_append_right _ ha)

/-- Unless a response has its producing parameter, a directive leads to the first input that has
it. -/
lemma source_eq_input {a : Directive} (hproducing : a.producerParameter = some parameter)
    (hnone : ∀ r ∈ c.responses,
      (r.request == a.producer && parameter.refersTo r.name r.place?) = false)
    (hfirst : c.consumers.find? (fun z => z.request == a.producer &&
      parameter.refersTo z.name z.resource.place?) = some y) : a.source c = .input y.resource := by
  have hany : (c.responses.any fun r =>
      r.request == a.producer && parameter.refersTo r.name r.place?) = false :=
    List.any_eq_false.mpr fun r hr => Bool.eq_false_iff.mp (hnone r hr)
  unfold Directive.source
  simp only [hproducing, hany, hfirst, Bool.false_eq_true, if_false]

/-- The pass over all consumers binds a consumer, whose directive is not answered by a response, to
an input of the producing request by this directive if and only if some input that the directive
names for it has become a producer.  With a producing parameter, it suffices that the first input of
this request that the parameter refers to is not the consumer's own. -/
theorem takesInput_iff_registers (hc : (s.collect i).2 = .ok c) (hx : x ∈ c.consumers)
    {m : MatchedDirective} (hdirective : x.directive = some m)
    (htaken : m.directive.takenParameter = some parameter)
    (hnone : ∀ r ∈ c.responses,
      (r.request == m.directive.producer && parameter.refersTo r.name r.place?) = false) :
    ∃ found, (x, found) ∈ (s.main i c d).resolutions ∧
      (∀ found', (x, found') ∈ (s.main i c d).resolutions → found' = found) ∧
      (found.TakesInput m.directive.producer ↔
        ∃ y ∈ c.consumers, y.IsNamedFor m.directive.producer parameter x ∧ s.Registers i c d y) ∧
      (m.directive.producerParameter = some parameter →
        ∀ y, c.consumers.find? (fun z => z.request == m.directive.producer &&
          parameter.refersTo z.name z.resource.place?) = some y →
        (y.resource == x.resource) = false → found.TakesInput m.directive.producer) := by
  have htakes := takesInput_resolve_iff (i := i) (d := d) hc hdirective htaken hnone
  refine ⟨_, mem_resolutions_main_iff.mpr ⟨hx, rfl⟩,
    fun found' hmem => (mem_resolutions_main_iff.mp hmem).2, htakes, ?_⟩
  intro hproducing y hfirst hne
  have htest := List.find?_some hfirst
  rw [Bool.and_eq_true] at htest
  -- the directive takes its input from the first consumer that it refers to
  have hsource := source_eq_input hproducing hnone hfirst
  have hdeclared := mem_declaredDirectives hc hx hdirective
  exact htakes.mpr ⟨y, List.mem_of_find?_eq_some hfirst, ⟨htest.1, htest.2, hne⟩,
    .inl ⟨m.directive, hdeclared, hsource⟩⟩

end Setup

/-! ## Tokens of sessions -/

namespace Setup

open Interface

/-- What is collected from sessions and reports, where no response has a `token`. -/
lemma collect_sessionsAndReports :
    ∃ c, (({} : Setup).collect sessionsAndReports).2 = .ok c ∧ c.responses = [] ∧
      c.consumers.getLast? = some reportKey ∧
      (c.consumers.find? fun z => z.request == keyDirective.producer &&
        ParameterRef.refersTo (.name "token") z.name z.resource.place?).map Consumer.resource =
          some sessionToken :=
  ⟨_, rfl, rfl, rfl, rfl⟩

/-- The `key` of reports is bound to a `token` of sessions by its directive, which names it as its
producing parameter. -/
theorem takesInput_reportKey :
    ∃ c found, (({} : Setup).collect sessionsAndReports).2 = .ok c ∧
      (reportKey, found) ∈ (({} : Setup).main sessionsAndReports c .standard).resolutions ∧
      found.TakesInput keyDirective.producer := by
  obtain ⟨c, hc, hnone, hlast, hfirst⟩ := collect_sessionsAndReports
  obtain ⟨y, hy, hresource⟩ := Option.map_eq_some_iff.mp hfirst
  have hresponses : ∀ r ∈ c.responses, (r.request == keyDirective.producer &&
      ParameterRef.refersTo (.name "token") r.name r.place?) = false := by
    rw [hnone]
    exact fun _ => (nomatch ·)
  have hne : (y.resource == reportKey.resource) = false := by
    rw [hresource]
    decide +kernel
  obtain ⟨found, hfound, -, -, htakes⟩ := takesInput_iff_registers (d := .standard) hc
    (List.mem_of_getLast? hlast) (m := ⟨.request, keyDirective⟩) rfl rfl hresponses
  exact ⟨c, found, hc, hfound, htakes rfl y hy hne⟩

end Setup

namespace Interface

/-- The `token` of reports comes from sessions, where it is not said to have another name. -/
def tokenOfSessions : Directive where
  producer := { endpoint := "/sessions", method := .post }
  consumer := none
  producerParameter := none
  consumerParameter := some (.name "token")
  exceptions := []

/-- Sessions are opened with a `token`, and reports are read with a `token` of sessions. -/
def sessionsAndTokens : Interface where
  requests := [
    { id := { endpoint := "/sessions", method := .post }
      data := { queryParameters := [stringParameter "token"] } },
    { id := { endpoint := "/reports", method := .get }
      data := {
        queryParameters := [stringParameter "token"]
        localDirectives := [tokenOfSessions] } }]

/-- The `token` with which a session is opened. -/
def tokenOfSession : Consumer where
  resource := sessionToken
  kind := .query

/-- The `token` with which reports are read. -/
def tokenOfReports : Consumer where
  resource := .situated .input { endpoint := "/reports", method := .get } (.query "token")
    (Convention.infer "token") .string
  kind := .query
  directive := some ⟨.request, tokenOfSessions⟩

end Interface

namespace Setup

open Interface

/-- No strategy finds anything for the `token` of reports. -/
lemma main_sessionsAndTokens :
    ∃ c found, (({} : Setup).collect sessionsAndTokens).2 = .ok c ∧ c.responses = [] ∧
      c.consumers = [tokenOfSession, tokenOfReports] ∧
      (({} : Setup).main sessionsAndTokens c .standard).resolutions.getLast? =
        some (tokenOfReports, found) ∧
      found.strategy = none :=
  ⟨_, _, rfl, rfl, rfl, rfl, rfl⟩

/-- An input that the directive of a consumer names need not be found, even if it is the only one
and no response is in its way. -/
theorem not_forall_takesInput :
    ¬∀ (s : Setup) (i : Interface) (c : Collection) (d : Dictionary) (x : Consumer)
        (m : MatchedDirective) (parameter : ParameterRef),
      (s.collect i).2 = .ok c → x ∈ c.consumers → x.directive = some m →
        m.directive.takenParameter = some parameter →
        (∀ r ∈ c.responses,
          (r.request == m.directive.producer && parameter.refersTo r.name r.place?) = false) →
        (∃ y ∈ c.consumers, y.IsNamedFor m.directive.producer parameter x) →
        ∀ found, (x, found) ∈ (s.main i c d).resolutions →
          found.TakesInput m.directive.producer := by
  intro h
  obtain ⟨c, found, hc, hnone, hconsumers, hlast, hstrategy⟩ := main_sessionsAndTokens
  have hreports : tokenOfReports ∈ c.consumers := by
    rw [hconsumers]
    exact List.mem_cons_of_mem _ List.mem_cons_self
  have hsession : tokenOfSession ∈ c.consumers := by
    rw [hconsumers]
    exact List.mem_cons_self
  have hresponses : ∀ r ∈ c.responses, (r.request == tokenOfSessions.producer &&
      ParameterRef.refersTo (.name "token") r.name r.place?) = false := by
    rw [hnone]
    exact fun _ => (nomatch ·)
  have hnamed : tokenOfSession.IsNamedFor tokenOfSessions.producer (.name "token")
      tokenOfReports := ⟨by decide +kernel, by decide +kernel, by decide +kernel⟩
  have htakes := h {} sessionsAndTokens c .standard tokenOfReports ⟨.request, tokenOfSessions⟩
    (.name "token") hc hreports rfl rfl hresponses ⟨_, hsession, hnamed⟩ found
    (List.mem_of_getLast? hlast)
  rw [Resolution.TakesInput, hstrategy] at htakes
  cases htakes.1

end Setup

end RestFlow

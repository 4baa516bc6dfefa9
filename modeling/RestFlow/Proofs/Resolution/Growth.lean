import RestFlow.Proofs.Dictionary.Growth
import RestFlow.Proofs.Resolution.Outcome

/-!
# Resolution in other dictionaries and at other types

What the producer of a consumer depends on: hardly on suffixes of others, and hardly on the
primitive type.
-/

namespace RestFlow

/-!
## Later decisions

In the course of a run the strategies look at more and more inputs (`Surroundings.Extends`) and at a
dictionary with more and more uuid suffixes.  A strategy that decided for a consumer still decides
afterwards, so a consumer that is fresh later was fresh before (`Consumer.IsFresh.anti`).  Resolving
a fresh consumer ends its freshness (`Consumer.not_isFresh_resolve`).
-/

/-! ### Surroundings -/

namespace Surroundings

/-- The surroundings `b` are `a` with further inputs; the order of the inputs does not matter. -/
structure Extends (a b : Surroundings) : Prop where
  responses : b.index.responses = a.index.responses
  endpointDictionaries : b.endpointDictionaries = a.endpointDictionaries
  allowGet : b.allowGet = a.allowGet
  inputs : ∀ i ∈ a.index.inputs, i ∈ b.index.inputs

namespace Extends

variable {a b : Surroundings} {c : Consumer}

lemma refl (a : Surroundings) : a.Extends a :=
  ⟨rfl, rfl, rfl, fun _ h => h⟩

lemma accepts_eq (h : a.Extends b) : c.accepts b = c.accepts a := by
  funext r
  rw [Consumer.accepts, Consumer.accepts, h.allowGet]

/-- The responses of a type stay. -/
lemma responsesOfType_eq (h : a.Extends b) :
    b.index.responsesOfType = a.index.responsesOfType := by
  funext type
  rw [ProducerIndex.responsesOfType, ProducerIndex.responsesOfType, h.responses]

/-- The responses of a name at an endpoint stay. -/
lemma responsesNamed_eq (h : a.Extends b) :
    b.index.responsesNamed = a.index.responsesNamed := by
  funext name endpoint
  rw [ProducerIndex.responsesNamed, ProducerIndex.responsesNamed, h.responses]

lemma responsesOf_eq (h : a.Extends b) : b.index.responsesOf = a.index.responsesOf := by
  funext request name place
  rw [ProducerIndex.responsesOf, ProducerIndex.responsesOf, h.responses]

/-- Where no input of a name fits any more, none fitted before. -/
lemma find?_inputsNamed_eq_none (h : a.Extends b) {name : String}
    {test : Resource × InputOrigin → Bool}
    (hnone : (b.index.inputsNamed name).find? test = none) :
    (a.index.inputsNamed name).find? test = none := by
  rw [List.find?_eq_none] at hnone ⊢
  intro i hi
  obtain ⟨hmem, hname⟩ := List.mem_filter.mp hi
  exact hnone i (List.mem_filter.mpr ⟨h.inputs i hmem, hname⟩)

lemma namedResponse?_eq (h : a.Extends b) (directive : Directive) (parameter : ParameterRef) :
    c.namedResponse? b directive parameter = c.namedResponse? a directive parameter := by
  rw [Consumer.namedResponse?, Consumer.namedResponse?, h.responsesOf_eq]

/-- A directive that leads nowhere now led nowhere before. -/
lemma named?_eq_none (h : a.Extends b) (hnone : c.named? b = none) : c.named? a = none := by
  unfold Consumer.named? at hnone ⊢
  cases hdirective : c.directive with
  | none => rfl
  | some m =>
    cases htaken : m.directive.takenParameter with
    | none => simp [htaken]
    | some parameter =>
      simp only [hdirective, htaken, Option.bind_some, h.namedResponse?_eq, Option.orElse_eq_orElse,
        Option.orElse_eq_or, Option.or_eq_none_iff, Option.map_eq_none_iff] at hnone ⊢
      exact ⟨hnone.1, h.find?_inputsNamed_eq_none hnone.2⟩

lemma fromAncestors_eq (h : a.Extends b) :
    Strategy.fromAncestors c b = Strategy.fromAncestors c a := by
  simp only [Strategy.fromAncestors, Strategy.ancestorResponses, h.responsesNamed_eq, h.accepts_eq]

/-- Where no input is found now, none was found before. -/
lemma fromInputs_eq_none (h : a.Extends b) (hnone : Strategy.fromInputs c b = none) :
    Strategy.fromInputs c a = none := by
  unfold Strategy.fromInputs at hnone ⊢
  cases hscope : c.resource.reference.scope? with
  | none => rfl
  | some scope =>
    simp only [hscope, Option.bind_eq_bind, Option.bind_some, h.accepts_eq,
      Option.bind_eq_none_iff] at hnone ⊢
    intro i hi
    have hsome : ((b.index.inputsNamed c.name).find? fun i =>
        i.1.request.place == Endpoint.normalize scope && c.accepts a i.1) = none := by
      rw [Option.eq_none_iff_forall_ne_some]
      intro j hj
      cases hnone j hj
    rw [h.find?_inputsNamed_eq_none hsome] at hi
    cases hi

/-- The responses of a type anywhere stay. -/
lemma responsesAnywhere_eq (h : a.Extends b) :
    Strategy.responsesAnywhere c b = Strategy.responsesAnywhere c a := by
  funext type
  rw [Strategy.responsesAnywhere, Strategy.responsesAnywhere, h.responsesOfType_eq, h.accepts_eq]

/-- Less specific types come to the same. -/
lemma byApproximateType_eq (h : a.Extends b) :
    Strategy.byApproximateType c b = Strategy.byApproximateType c a := by
  unfold Strategy.byApproximateType
  induction c.resource.candidateTypes.tail with
  | nil => rfl
  | cons type rest ih => rw [Strategy.byTypes, Strategy.byTypes, h.responsesAnywhere_eq, ih]

lemma byCreation_eq (h : a.Extends b) : Strategy.byCreation c b = Strategy.byCreation c a := by
  simp only [Strategy.byCreation, h.responsesOfType_eq]

/-- The strategy for enclosing objects comes to the same. -/
lemma byNestedObject_eq (h : a.Extends b) :
    Strategy.byNestedObject c b = Strategy.byNestedObject c a := by
  simp only [Strategy.byNestedObject, Strategy.containerResponses, h.responsesOfType_eq,
    h.accepts_eq]

/-- The exact type comes to the same for consumers that are no path parameters, because inputs are
found for these alone. -/
lemma byExactType_eq (h : a.Extends b) (hscope : c.resource.reference.scope? = none) :
    Strategy.byExactType c b = Strategy.byExactType c a := by
  have hinputs : ∀ around, Strategy.fromInputs c around = none := by
    intro around
    rw [Strategy.fromInputs, hscope]
    rfl
  rw [Strategy.byExactType, Strategy.byExactType, hinputs, hinputs, h.fromAncestors_eq,
    h.responsesAnywhere_eq]

/-- The index comes to the same for consumers that are no path parameters. -/
lemma indexOutcome_eq (h : a.Extends b) (hscope : c.resource.reference.scope? = none)
    (d d' : Dictionary) : c.indexOutcome b d' = c.indexOutcome a d := by
  simp only [Consumer.indexOutcome, Consumer.outcomeOf, List.foldr_cons, List.foldr_nil,
    Strategy.run, h.byExactType_eq hscope, h.byApproximateType_eq, h.byCreation_eq,
    h.byNestedObject_eq]

/-- Where the exact type does not decide now, it did not decide before. -/
lemma byExactType_undecided (h : a.Extends b)
    (hb : (Strategy.byExactType c b).outcome = .undecided) :
    (Strategy.byExactType c a).outcome = .undecided := by
  unfold Strategy.byExactType at hb ⊢
  rw [h.fromAncestors_eq, h.responsesAnywhere_eq] at hb
  cases hancestors : Strategy.fromAncestors c a with
  | some p =>
    rw [hancestors] at hb
    exact hb
  | none =>
    -- an input that is not found now was not there before
    cases hinputs : Strategy.fromInputs c b with
    | some p =>
      rw [hancestors, hinputs] at hb
      cases hb
    | none =>
      rw [hancestors, hinputs] at hb
      rw [h.fromInputs_eq_none hinputs]
      exact hb

/-- A consumer that nothing supplies now was not supplied before. -/
lemma isUnsupplied (h : a.Extends b) (hb : c.IsUnsupplied b) : c.IsUnsupplied a where
  exactType := h.byExactType_undecided hb.exactType
  approximateType := by
    rw [← h.byApproximateType_eq]
    exact hb.approximateType
  creation := by
    rw [← h.byCreation_eq]
    exact hb.creation

end Extends

end Surroundings

/-! ### Entries -/

namespace Consumer

variable {c : Consumer} {around around' : Surroundings} {d d' : Dictionary}

/-- The custom payload that a dictionary has for a consumer, by its place or by its name. -/
def payload? (c : Consumer) (d : Dictionary) : Option DictionaryPayload :=
  (c.resource.place?.bind fun p => d.findPayload c.customKind p.pointer c.resource.type).or
    (d.findPayload c.customKind c.name c.resource.type)

/-- The entry of a dictionary is its custom payload or, for writers, its suffix. -/
lemma entryIn_eq (c : Consumer) (d : Dictionary) :
    Strategy.entryIn c d = (c.payload? d).or
      (if c.isWriter then d.findSuffix c.name c.resource.type else none) := by
  unfold Strategy.entryIn payload?
  simp only [Option.orElse_eq_orElse, Option.orElse_eq_or, Option.or_assoc]

lemma payload?_eq_of_grows (h : d.Grows d') : c.payload? d' = c.payload? d := by
  simp only [payload?, h.findPayload_eq]

/-- An entry that a dictionary has for a consumer stays. -/
lemma entryIn_of_grows (h : d.Grows d') {p : DictionaryPayload}
    (hp : Strategy.entryIn c d = some p) : Strategy.entryIn c d' = some p := by
  rw [entryIn_eq] at hp ⊢
  rw [payload?_eq_of_grows h]
  cases hpayload : c.payload? d with
  | some q =>
    rw [hpayload] at hp
    exact hp
  | none =>
    rw [hpayload, Option.none_or] at hp
    rw [Option.none_or]
    by_cases hwriter : c.isWriter
    · rw [if_pos hwriter] at hp ⊢
      exact h.findSuffix_eq hp
    · rw [if_neg hwriter] at hp
      cases hp

/-- The entry that the dictionary of the consumer's own endpoint has for it. -/
def ownEntry (c : Consumer) (around : Surroundings) : Option DictionaryPayload :=
  (around.endpointDictionaries.at? c.request.endpoint).bind (Strategy.entryIn c)

/-- The dictionary of the endpoint comes first. -/
lemma entryAmong_eq (c : Consumer) (around : Surroundings) (d : Dictionary) :
    c.entryAmong around d = (c.ownEntry around).or (Strategy.entryIn c d) := by
  unfold entryAmong dictionaries ownEntry
  cases around.endpointDictionaries.at? c.request.endpoint with
  | none =>
    rw [Option.toList_none, List.nil_append, List.findSome?_cons, List.findSome?_nil]
    cases Strategy.entryIn c d <;> rfl
  | some own =>
    rw [Option.toList_some, List.singleton_append, List.findSome?_cons, List.findSome?_cons,
      List.findSome?_nil, Option.bind_some]
    cases Strategy.entryIn c own <;> cases Strategy.entryIn c d <;> rfl

/-- The entry that the dictionaries have for a consumer stays. -/
lemma entryAmong_of_grows (hd : around'.endpointDictionaries = around.endpointDictionaries)
    (h : d.Grows d') {p : DictionaryPayload} (hp : c.entryAmong around d = some p) :
    c.entryAmong around' d' = some p := by
  have hown : c.ownEntry around' = c.ownEntry around := by rw [ownEntry, ownEntry, hd]
  rw [entryAmong_eq] at hp ⊢
  rw [hown]
  cases hentry : c.ownEntry around with
  | some q =>
    rw [hentry] at hp
    exact hp
  | none =>
    rw [hentry, Option.none_or] at hp
    exact entryIn_of_grows h hp

/-- The entries for others than writers are the same in a dictionary that has grown. -/
lemma entryAmong_eq_of_grows (hd : around'.endpointDictionaries = around.endpointDictionaries)
    (h : d.Grows d') (hwriter : c.isWriter = false) :
    c.entryAmong around' d' = c.entryAmong around d := by
  rw [entryAmong_eq, entryAmong_eq, ownEntry, ownEntry, hd, entryIn_eq, entryIn_eq,
    payload?_eq_of_grows h, hwriter]
  rfl

/-- The entry for a consumer without one in a dictionary that has grown: a suffix, for a writer
whose name has got one. -/
lemma entryAmong_of_grows_of_none (h : d.Grows d') (hnone : c.entryAmong around d = none) :
    c.entryAmong around d' =
      if c.isWriter then d'.findSuffix c.name c.resource.type else none := by
  rw [entryAmong_eq, entryIn_eq, Option.or_eq_none_iff, Option.or_eq_none_iff] at hnone
  rw [entryAmong_eq, entryIn_eq, payload?_eq_of_grows h, hnone.1, hnone.2.1, Option.none_or,
    Option.none_or]

/-! ### Freshness -/

/-- The trailing path parameter of a PUT is a writer. -/
lemma isWriter_of_isTrailing (hkind : c.kind = .path) (hput : c.request.method = .put)
    (htrailing : c.isTrailing = true) : c.isWriter = true := by
  simp [isWriter, hkind, hput, htrailing]

lemma IsUnsupplied.isWriter (h : c.IsUnsupplied around) : c.isWriter = true := by
  obtain ⟨hkind, hput, htrailing⟩ := h.isPathWriter
  exact isWriter_of_isTrailing hkind hput htrailing

/-- A consumer that is fresh in the end was fresh before. -/
theorem IsFresh.anti (ha : around.Extends around') (hd : d.Grows d')
    (h : c.IsFresh around' d') : c.IsFresh around d where
  directive := ha.named?_eq_none h.directive
  dictionary := by
    rw [Option.eq_none_iff_forall_ne_some]
    intro p hp
    have hentry := entryAmong_of_grows ha.endpointDictionaries hd hp
    rw [h.dictionary] at hentry
    cases hentry
  unsupplied := ha.isUnsupplied h.unsupplied

/-- Resolving adds at most a suffix for the name of the consumer. -/
lemma growsFor_resolve (c : Consumer) (around : Surroundings) (d : Dictionary)
    {reason : String → Prop} (hc : reason c.name) : d.GrowsFor reason (c.resolve around d).2 := by
  rw [resolve_snd]
  cases c.outcome around d with
  | freshSuffix => exact .withSuffix d hc
  | undecided => exact .refl reason d
  | resolved p => exact .refl reason d
  | ambiguous => exact .refl reason d

lemma grows_resolve (c : Consumer) (around : Surroundings) (d : Dictionary) :
    d.Grows (c.resolve around d).2 :=
  (growsFor_resolve c around d (rfl : c.name = c.name)).toGrows

/-- A fresh consumer stays fresh until its name has a suffix. -/
lemma isFresh_iff_of_grows (h : d.Grows d') :
    c.IsFresh around d' ↔ c.IsFresh around d ∧ d'.uuidSuffixes.contains c.name = false := by
  constructor
  · intro hfresh
    have hbefore := hfresh.anti (.refl around) h
    refine ⟨hbefore, ?_⟩
    have hentry := hfresh.dictionary
    rw [entryAmong_of_grows_of_none h hbefore.dictionary,
      if_pos hbefore.unsupplied.isWriter] at hentry
    simpa [Dictionary.findSuffix] using hentry
  · rintro ⟨hfresh, hname⟩
    refine ⟨hfresh.directive, ?_, hfresh.unsupplied⟩
    rw [entryAmong_of_grows_of_none h hfresh.dictionary]
    simp [Dictionary.findSuffix, hname]

/-- A consumer that is not fresh leaves the dictionary as it is. -/
lemma resolve_snd_of_not_isFresh (h : ¬c.IsFresh around d) : (c.resolve around d).2 = d := by
  have hne : c.outcome around d ≠ .freshSuffix := fun ho => h (outcome_eq_freshSuffix_iff.mp ho)
  rw [resolve_snd]
  cases ho : c.outcome around d with
  | freshSuffix => exact absurd ho hne
  | undecided => rfl
  | resolved p => rfl
  | ambiguous => rfl

/-- The names with a suffix after a consumer was resolved. -/
lemma contains_resolve (c : Consumer) (around : Surroundings) (d : Dictionary) (name : String) :
    (c.resolve around d).2.uuidSuffixes.contains name = true ↔
      d.uuidSuffixes.contains name = true ∨ c.name = name ∧ c.IsFresh around d := by
  by_cases hfresh : c.IsFresh around d
  · rw [resolve_snd, outcome_eq_freshSuffix_iff.mpr hfresh, Outcome.dictionary,
      Dictionary.contains_withSuffix, Bool.or_eq_true, decide_eq_true_eq, or_comm,
      and_iff_left hfresh, eq_comm (a := name)]
  · rw [resolve_snd_of_not_isFresh hfresh]
    simp [hfresh]

/-- After a consumer was resolved it is not fresh. -/
theorem not_isFresh_resolve (c : Consumer) (around : Surroundings) (d : Dictionary) :
    ¬c.IsFresh around (c.resolve around d).2 := by
  intro h
  obtain ⟨hbefore, hname⟩ := (isFresh_iff_of_grows (grows_resolve c around d)).mp h
  have hcontains := (contains_resolve c around d c.name).mpr (.inr ⟨rfl, hbefore⟩)
  rw [hname] at hcontains
  cases hcontains

end Consumer

end RestFlow

/-!
## The type of a consumer

No strategy looks at the primitive type of a consumer.  Two consumers that differ in their type only
are fresh together, though they are bound to values of different types
(`Consumer.isFresh_retyped_iff`).
-/

namespace RestFlow

namespace Dictionary

/-- Whether there is a custom payload does not depend on the type. -/
lemma findPayload_eq_none_iff (d : Dictionary) (kind : Option CustomKind) (key : String)
    (t t' : PrimitiveType) :
    d.findPayload kind key t = none ↔ d.findPayload kind key t' = none := by
  unfold findPayload
  repeat' split
  all_goals simp

end Dictionary

attribute [ext] Consumer

namespace Consumer

/-- The consumer with another type. -/
def retyped (c : Consumer) (t : PrimitiveType) : Consumer :=
  { c with resource := { c.resource with type := t } }

variable (c : Consumer) (t : PrimitiveType) (around : Surroundings) (d : Dictionary)

/-- Whether some candidates decide does not depend on the type. -/
lemma outcome_atSingleEndpoint_retyped (type : String) (candidates : List Resource) :
    (Strategy.atSingleEndpoint (c.retyped t) type candidates).outcome =
      (Strategy.atSingleEndpoint c type candidates).outcome := by
  unfold Strategy.atSingleEndpoint
  split
  · rfl
  · dsimp only
    split <;> rfl

/-- Less specific types come to the same. -/
lemma outcome_byTypes_retyped (types : List String) :
    (Strategy.byTypes (c.retyped t) around types).outcome =
      (Strategy.byTypes c around types).outcome := by
  induction types with
  | nil => rfl
  | cons type rest ih =>
    rw [Strategy.outcome_byTypes_cons, Strategy.outcome_byTypes_cons, ih,
      outcome_atSingleEndpoint_retyped]
    rfl

/-- The exact type comes to the same. -/
lemma outcome_byExactType_retyped :
    (Strategy.byExactType (c.retyped t) around).outcome =
      (Strategy.byExactType c around).outcome := by
  have hfound : (Strategy.fromAncestors (c.retyped t) around <|>
      Strategy.fromInputs (c.retyped t) around) =
      (Strategy.fromAncestors c around <|> Strategy.fromInputs c around) := rfl
  have htype : (c.retyped t).resource.primaryType? = c.resource.primaryType? := rfl
  have hanywhere : Strategy.responsesAnywhere (c.retyped t) around =
      Strategy.responsesAnywhere c around := rfl
  have hnamed : ((c.retyped t).kind != .path && (c.retyped t).resource.container.isNone) =
      (c.kind != .path && c.resource.container.isNone) := rfl
  -- none of the searches looks at the type of the value
  unfold Strategy.byExactType
  rw [hfound, htype, hanywhere, hnamed]
  cases Strategy.fromAncestors c around <|> Strategy.fromInputs c around with
  | some p => rfl
  | none =>
    cases c.resource.primaryType? with
    | none => rfl
    | some type =>
      dsimp only
      split
      · exact c.outcome_atSingleEndpoint_retyped t type _
      · rfl

/-- Consumers that differ in their type only are supplied by the index together. -/
lemma isUnsupplied_retyped_iff : (c.retyped t).IsUnsupplied around ↔ c.IsUnsupplied around := by
  have hexact := c.outcome_byExactType_retyped t around
  have happroximate := c.outcome_byTypes_retyped t around c.resource.candidateTypes.tail
  constructor
  · rintro ⟨he, ha, hc⟩
    exact ⟨hexact.symm.trans he, happroximate.symm.trans ha, hc⟩
  · rintro ⟨he, ha, hc⟩
    exact ⟨hexact.trans he, happroximate.trans ha, hc⟩

/-- Dictionaries have entries for consumers that differ in their type only together. -/
lemma entryIn_retyped_eq_none_iff :
    Strategy.entryIn (c.retyped t) d = none ↔ Strategy.entryIn c d = none := by
  have hpayload := d.findPayload_eq_none_iff c.customKind
  have hplace : ((c.retyped t).resource.place?.bind fun p =>
        d.findPayload (c.retyped t).customKind p.pointer t) = none ↔
      (c.resource.place?.bind fun p =>
        d.findPayload c.customKind p.pointer c.resource.type) = none := by
    show (c.resource.place?.bind fun p => d.findPayload c.customKind p.pointer t) = none ↔ _
    cases c.resource.place? with
    | none => exact Iff.rfl
    | some p => exact hpayload p.pointer t c.resource.type
  have hsuffix : (if c.isWriter then d.findSuffix c.name t else none) = none ↔
      (if c.isWriter then d.findSuffix c.name c.resource.type else none) = none := by
    unfold Dictionary.findSuffix
    repeat' split
    all_goals simp
  rw [entryIn_eq, entryIn_eq, Option.or_eq_none_iff, Option.or_eq_none_iff, payload?, payload?,
    Option.or_eq_none_iff, Option.or_eq_none_iff]
  exact and_congr (and_congr hplace (hpayload c.name t c.resource.type)) hsuffix

/-- Consumers without a directive that differ in their type only are fresh together. -/
theorem isFresh_retyped_iff (h : c.directive = none) :
    (c.retyped t).IsFresh around d ↔ c.IsFresh around d := by
  have hnamed : ∀ x : Consumer, x.directive = none → x.named? around = none := by
    intro x hx
    rw [named?, hx, Option.bind_none]
  -- the type of the value picks the entry, not whether there is one
  have hentry : (c.retyped t).entryAmong around d = none ↔ c.entryAmong around d = none := by
    rw [entryAmong_eq, entryAmong_eq, Option.or_eq_none_iff, Option.or_eq_none_iff,
      entryIn_retyped_eq_none_iff]
    refine and_congr_left fun _ => ?_
    unfold ownEntry
    show ((around.endpointDictionaries.at? c.request.endpoint).bind _) = none ↔ _
    cases around.endpointDictionaries.at? c.request.endpoint with
    | none => exact Iff.rfl
    | some own => exact c.entryIn_retyped_eq_none_iff t own
  constructor
  · rintro ⟨-, he, hu⟩
    exact ⟨hnamed c h, hentry.mp he, (c.isUnsupplied_retyped_iff t around).mp hu⟩
  · rintro ⟨-, he, hu⟩
    exact ⟨hnamed _ h, hentry.mpr he, (c.isUnsupplied_retyped_iff t around).mpr hu⟩

end Consumer

end RestFlow

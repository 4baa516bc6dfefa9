import Mathlib.Tactic.Lemma
import RestFlow.Resolution.Strategy

/-!
# What the strategies come to

The strategies are tried one after the other, so what they come to for a consumer is the first of
their outcomes that is not undecided (`Consumer.outcome`).  The outcome determines the producer that
is found (`Consumer.resolve_producer`) and what becomes of the dictionary (`Consumer.resolve_snd`).
A strategy that is named along with a producer has led to it, and those before it are undecided
(`Consumer.of_resolve_eq_some`).

Only `Strategy.byCreation` asks for a fresh value.  A consumer is fresh (`Consumer.IsFresh`) when
the strategies before that one leave it undecided, and this is when its outcome is a fresh value
(`Consumer.outcome_eq_freshSuffix_iff`).
-/

namespace RestFlow

namespace Outcome

/-- The first of two outcomes that is not undecided. -/
def orElse (o next : Outcome) : Outcome :=
  match o with
  | undecided => next
  | o => o

/-- The test for indecision. -/
@[simp] lemma beq_undecided_iff {o : Outcome} : (o == undecided) = true ↔ o = undecided := by
  cases o with
  | undecided => exact ⟨fun _ => rfl, fun _ => rfl⟩
  | resolved p => exact ⟨(nomatch ·), (nomatch ·)⟩
  | ambiguous => exact ⟨(nomatch ·), (nomatch ·)⟩
  | freshSuffix => exact ⟨(nomatch ·), (nomatch ·)⟩

/-- An outcome that decides comes before all others. -/
lemma orElse_of_ne {o next : Outcome} (h : o ≠ undecided) : o.orElse next = o := by
  cases o with
  | undecided => exact absurd rfl h
  | resolved p => rfl
  | ambiguous => rfl
  | freshSuffix => rfl

lemma orElse_eq_freshSuffix_iff {o next : Outcome} :
    o.orElse next = freshSuffix ↔ o = freshSuffix ∨ o = undecided ∧ next = freshSuffix := by
  cases o <;> simp [orElse]

/-- The producer that an outcome leads to. -/
def producer? (c : Consumer) : Outcome → Option Producer
  | resolved p => some p
  | freshSuffix => some (.dictionary (Dictionary.suffixPayload c.name c.resource.type))
  | undecided | ambiguous => none

/-- An outcome that leads to a response has found it. -/
lemma eq_resolved_of_producer?_eq {c : Consumer} {o : Outcome} {r : Resource}
    (h : o.producer? c = some (.response r)) : o = resolved (.response r) := by
  cases o with
  | undecided => cases h
  | ambiguous => cases h
  | freshSuffix => cases h
  | resolved p => rw [Option.some.inj h]

/-- What an outcome makes of the dictionary. -/
def dictionary (c : Consumer) (d : Dictionary) : Outcome → Dictionary
  | freshSuffix => d.withSuffix c.name
  | undecided | resolved _ | ambiguous => d

end Outcome

namespace Consumer

variable (c : Consumer) (around : Surroundings) (d : Dictionary)

/-- The first outcome of some strategies that is not undecided. -/
def outcomeOf (strategies : List Strategy) : Outcome :=
  strategies.foldr (fun s next => (s.run c around d).outcome.orElse next) .undecided

/-- What all strategies come to. -/
def outcome : Outcome :=
  c.outcomeOf around d Strategy.all

/-- The first strategy that decides has the first outcome that is not undecided. -/
lemma decision_fst (strategies : List Strategy) :
    (((c.decision around d strategies).1).map Prod.snd).getD .undecided =
      c.outcomeOf around d strategies := by
  induction strategies with
  | nil => rfl
  | cons s rest ih =>
    rw [decision, outcomeOf, List.foldr_cons]
    by_cases h : (s.run c around d).outcome = .undecided
    · rw [if_pos (Outcome.beq_undecided_iff.mpr h), h]
      exact ih
    · rw [if_neg (fun hb => h (Outcome.beq_undecided_iff.mp hb)), Outcome.orElse_of_ne h]
      rfl

/-- Resolving a consumer does what the outcome says. -/
lemma resolve_eq :
    (c.resolve around d).1.producer = (c.outcome around d).producer? c ∧
      (c.resolve around d).2 = (c.outcome around d).dictionary c d := by
  rw [outcome, ← decision_fst]
  unfold resolve
  cases c.decision around d Strategy.all with
  | mk decided warnings =>
    cases decided with
    | none => exact ⟨rfl, rfl⟩
    | some found =>
      obtain ⟨s, o⟩ := found
      cases o with
      | undecided => exact ⟨rfl, rfl⟩
      | resolved p => exact ⟨rfl, rfl⟩
      | ambiguous => exact ⟨rfl, rfl⟩
      | freshSuffix => exact ⟨rfl, rfl⟩

/-- The producer that is found for a consumer. -/
theorem resolve_producer :
    (c.resolve around d).1.producer = (c.outcome around d).producer? c :=
  (c.resolve_eq around d).1

/-- The dictionary after a consumer was resolved. -/
theorem resolve_snd : (c.resolve around d).2 = (c.outcome around d).dictionary c d :=
  (c.resolve_eq around d).2

variable {c around d}

/-- Strategies come to the outcome of one of them, if they decide at all. -/
lemma exists_of_outcomeOf_ne {strategies : List Strategy}
    (h : c.outcomeOf around d strategies ≠ .undecided) :
    ∃ s ∈ strategies, (s.run c around d).outcome = c.outcomeOf around d strategies := by
  induction strategies with
  | nil => exact absurd rfl h
  | cons s rest ih =>
    rw [outcomeOf, List.foldr_cons] at h ⊢
    by_cases hs : (s.run c around d).outcome = .undecided
    · rw [hs] at h ⊢
      obtain ⟨t, ht, houtcome⟩ := ih h
      exact ⟨t, List.mem_cons_of_mem s ht, houtcome⟩
    · exact ⟨s, List.mem_cons_self, (Outcome.orElse_of_ne hs).symm⟩

/-- The strategy that decides is the first one that is not undecided. -/
lemma of_decision_eq_some {strategies : List Strategy} {s : Strategy} {o : Outcome}
    (h : (c.decision around d strategies).1 = some (s, o)) :
    (s.run c around d).outcome = o ∧
      ∀ t ∈ strategies.takeWhile (· != s), (t.run c around d).outcome = .undecided := by
  induction strategies with
  | nil => cases h
  | cons t rest ih =>
    rw [decision] at h
    by_cases ht : (t.run c around d).outcome = .undecided
    · rw [if_pos (Outcome.beq_undecided_iff.mpr ht)] at h
      obtain ⟨ho, hbefore⟩ := ih h
      refine ⟨ho, fun u hu => ?_⟩
      rw [List.takeWhile_cons] at hu
      split at hu
      · rcases List.mem_cons.mp hu with rfl | hu
        · exact ht
        · exact hbefore u hu
      · cases hu
    · rw [if_neg (fun hb => ht (Outcome.beq_undecided_iff.mp hb))] at h
      obtain ⟨rfl, rfl⟩ := Prod.mk.inj (Option.some.inj h)
      refine ⟨rfl, fun u hu => ?_⟩
      rw [List.takeWhile_cons, if_neg (by simp)] at hu
      cases hu

/-- A strategy that is named along with a producer has led to it, and all before it are
undecided. -/
lemma of_resolve_eq_some {s : Strategy} {p : Producer}
    (hstrategy : (c.resolve around d).1.strategy = some s)
    (hproducer : (c.resolve around d).1.producer = some p) :
    (s.run c around d).outcome.producer? c = some p ∧
      ∀ t ∈ Strategy.all.takeWhile (· != s), (t.run c around d).outcome = .undecided := by
  -- a producer comes with a decision that is neither undecided nor ambiguous
  have hdecision : ∃ o, (c.decision around d Strategy.all).1 = some (s, o) ∧
      o.producer? c = some p := by
    unfold resolve at hstrategy hproducer
    cases hd : c.decision around d Strategy.all with
    | mk decided warnings =>
      rw [hd] at hstrategy hproducer
      cases decided with
      | none => cases hstrategy
      | some found =>
        obtain ⟨t, o⟩ := found
        cases o with
        | undecided => cases hproducer
        | ambiguous => cases hproducer
        | resolved q =>
          obtain rfl := Option.some.inj hstrategy
          exact ⟨.resolved q, rfl, hproducer⟩
        | freshSuffix =>
          obtain rfl := Option.some.inj hstrategy
          exact ⟨.freshSuffix, rfl, hproducer⟩
  obtain ⟨o, hdecided, ho⟩ := hdecision
  obtain ⟨hrun, hbefore⟩ := of_decision_eq_some hdecided
  exact ⟨by rw [hrun, ho], hbefore⟩

/-- A consumer for which producers at several endpoints are found is bound to none of them. -/
lemma producer_eq_none_of_ambiguous (h : (c.resolve around d).1.ambiguous = true) :
    (c.resolve around d).1.producer = none := by
  unfold resolve at h ⊢
  cases hd : c.decision around d Strategy.all with
  | mk decided warnings =>
    rw [hd] at h
    cases decided with
    | none => rfl
    | some found =>
      obtain ⟨t, o⟩ := found
      cases o with
      | undecided => rfl
      | ambiguous => rfl
      | resolved p => cases h
      | freshSuffix => cases h

end Consumer

/-! ## Directives and dictionaries -/

namespace ParameterRef

/-- The name that a parameter is looked up by, if it is referred to by name. -/
def name? : ParameterRef → Option String
  | name n => some n
  | path _ => none

/-- The place that a parameter is looked up by, if it is referred to by place. -/
def place? : ParameterRef → Option AccessPath
  | name _ => none
  | path p => some p

/-- The name under which an input is looked up: for a place, the last name on the way to it. -/
def inputName (parameter : ParameterRef) : String :=
  (parameter.name? <|> parameter.place?.bind AccessPath.lastName?).getD ""

end ParameterRef

namespace Consumer

variable (c : Consumer) (around : Surroundings) (d : Dictionary)

/-- The first response that a directive names for the consumer. -/
def namedResponse? (a : Directive) (parameter : ParameterRef) : Option Resource :=
  (around.index.responsesOf a.producer parameter.name? parameter.place?).find? (· != c.resource)

/-- The first input that a directive names for the consumer. -/
def namedInput? (a : Directive) (parameter : ParameterRef) : Option (Resource × InputOrigin) :=
  (around.index.inputsNamed parameter.inputName).find? fun i =>
    i.1.request == a.producer && parameter.refersTo i.1.name i.1.place? && i.1 != c.resource

/-- The producer that the directive of the consumer leads to. -/
def named? : Option Producer :=
  c.directive.bind fun m => m.directive.takenParameter.bind fun parameter =>
    (c.namedResponse? around m.directive parameter).map .response <|>
      (c.namedInput? around m.directive parameter).map fun i => .inputOnly i.1 i.2

/-- The entry that the dictionaries have for the consumer. -/
def entryAmong : Option DictionaryPayload :=
  (c.dictionaries around d).findSome? (Strategy.entryIn c)

end Consumer

namespace Outcome

/-- The outcome of a search for a producer. -/
def ofSearch : Option Producer → Outcome
  | some p => .resolved p
  | none => .undecided

/-- A search does not ask for a fresh value. -/
@[simp] lemma ofSearch_ne_freshSuffix (found : Option Producer) :
    ofSearch found ≠ .freshSuffix := by
  cases found with
  | none => exact (nomatch ·)
  | some p => exact (nomatch ·)

@[simp] lemma ofSearch_eq_resolved_iff {found : Option Producer} {p : Producer} :
    ofSearch found = .resolved p ↔ found = some p := by
  cases found <;> simp [ofSearch]

@[simp] lemma ofSearch_eq_undecided_iff {found : Option Producer} :
    ofSearch found = .undecided ↔ found = none := by
  cases found <;> simp [ofSearch]

end Outcome

namespace Strategy

variable (c : Consumer) (around : Surroundings) (d : Dictionary)

/-- A directive comes to the producer that it leads to. -/
lemma outcome_byDirective : (byDirective c around).outcome = .ofSearch (c.named? around) := by
  unfold byDirective Consumer.named?
  cases c.directive with
  | none => rfl
  | some m =>
    rw [Option.bind_some]
    cases htaken : m.directive.takenParameter with
    | none => simp only [htaken]; rfl
    | some parameter =>
      rw [Option.bind_some, Consumer.namedResponse?, Consumer.namedInput?]
      simp only [htaken]
      -- both ways of naming a parameter look for a response and then for an input
      cases parameter <;>
        dsimp only [ParameterRef.inputName, ParameterRef.name?, ParameterRef.place?]
      all_goals
        split
        · rename_i r hresponse
          rw [hresponse]
          rfl
        · rename_i hresponse
          split
          · rename_i r origin hinput
            rw [hresponse, hinput]
            rfl
          · rename_i hinput
            rw [hresponse, hinput]
            rfl

/-- A dictionary comes to the entry that it has. -/
lemma outcome_byDictionary :
    (byDictionary c around d).outcome = .ofSearch ((c.entryAmong around d).map .dictionary) := by
  unfold byDictionary Consumer.entryAmong
  cases (c.dictionaries around d).findSome? (entryIn c) <;> rfl

end Strategy

/-! ## The index -/

namespace Outcome

/-- The outcome does not involve a dictionary: if there is a producer, the index has it. -/
def isIndexed : Outcome → Bool
  | resolved (.dictionary _) | freshSuffix => false
  | _ => true

/-- Two outcomes come to what the index has if both do. -/
lemma isIndexed_orElse {o next : Outcome} (ho : o.isIndexed = true)
    (hnext : o = undecided → next.isIndexed = true) : (o.orElse next).isIndexed = true := by
  by_cases hu : o = undecided
  · rw [hu]
    exact hnext hu
  · rw [orElse_of_ne hu]
    exact ho

end Outcome

namespace Strategy

variable (c : Consumer) (around : Surroundings)

/-- Several candidates lead to one of them or to none. -/
lemma isIndexed_atSingleEndpoint (type : String) (candidates : List Resource) :
    (atSingleEndpoint c type candidates).outcome.isIndexed = true := by
  unfold atSingleEndpoint
  split
  · rfl
  · dsimp only
    split <;> rfl

/-- The exact type leads into the index. -/
lemma isIndexed_byExactType : (byExactType c around).outcome.isIndexed = true := by
  have hfound : ∀ p, (fromAncestors c around <|> fromInputs c around) = some p →
      (Outcome.resolved p).isIndexed = true := by
    intro p hp
    rw [Option.orElse_eq_orElse, Option.orElse_eq_or, Option.or_eq_some_iff] at hp
    rcases hp with hp | ⟨-, hp⟩
    · obtain ⟨type, -, hp⟩ := Option.bind_eq_some_iff.mp hp
      obtain ⟨first, -, hp⟩ := Option.bind_eq_some_iff.mp hp
      rw [← Option.some.inj hp]
      rfl
    · obtain ⟨scope, -, hp⟩ := Option.bind_eq_some_iff.mp hp
      obtain ⟨i, -, hp⟩ := Option.bind_eq_some_iff.mp hp
      rw [← Option.some.inj hp]
      rfl
  unfold byExactType
  split
  · exact hfound _ ‹_›
  · split
    · split
      · exact isIndexed_atSingleEndpoint c _ _
      · rfl
    · rfl

/-- Less specific types come to the first of their outcomes that is not undecided. -/
lemma outcome_byTypes_cons (type : String) (rest : List String) :
    (byTypes c around (type :: rest)).outcome =
      (atSingleEndpoint c type (responsesAnywhere c around type)).outcome.orElse
        (byTypes c around rest).outcome := by
  rw [byTypes]
  by_cases h : (atSingleEndpoint c type (responsesAnywhere c around type)).outcome = .undecided
  · rw [if_pos (Outcome.beq_undecided_iff.mpr h), h]
    rfl
  · rw [if_neg (fun hb => h (Outcome.beq_undecided_iff.mp hb)), Outcome.orElse_of_ne h]

/-- Less specific types lead into the index. -/
lemma isIndexed_byTypes (types : List String) :
    (byTypes c around types).outcome.isIndexed = true := by
  induction types with
  | nil => rfl
  | cons type rest ih =>
    rw [outcome_byTypes_cons]
    exact Outcome.isIndexed_orElse (isIndexed_atSingleEndpoint c _ _) fun _ => ih

/-- The type of an enclosing object leads into the index. -/
lemma isIndexed_byNestedObject : (byNestedObject c around).outcome.isIndexed = true := by
  unfold byNestedObject
  repeat' split
  all_goals rfl

/-- A creating request leads into the index or to a fresh value. -/
lemma isIndexed_byCreation (h : (byCreation c around).outcome ≠ .freshSuffix) :
    (byCreation c around).outcome.isIndexed = true := by
  unfold byCreation at h ⊢
  split
  · rename_i hput
    rw [if_pos hput] at h
    dsimp only at h ⊢
    split
    · rfl
    · rename_i hnone
      rw [hnone] at h
      exact absurd rfl h
  · rfl

end Strategy

/-! ## Fresh values -/

namespace Consumer

/-- Nothing in the index supplies the consumer, and it creates what it refers to. -/
structure IsUnsupplied (c : Consumer) (around : Surroundings) : Prop where
  exactType : (Strategy.byExactType c around).outcome = .undecided
  approximateType : (Strategy.byApproximateType c around).outcome = .undecided
  creation : (Strategy.byCreation c around).outcome = .freshSuffix

/-- The consumer is to have a fresh value: no directive, dictionary or index supplies it. -/
structure IsFresh (c : Consumer) (around : Surroundings) (d : Dictionary) : Prop where
  directive : c.named? around = none
  dictionary : c.entryAmong around d = none
  unsupplied : c.IsUnsupplied around

variable {c : Consumer} {around : Surroundings} {d : Dictionary}

variable (c around d) in
/-- What the strategies that look into the index come to. -/
def indexOutcome : Outcome :=
  c.outcomeOf around d [.exactType, .approximateType, .createOrUpdate, .nestedObject]

/-- A directive comes first, then the dictionaries, then the index. -/
lemma outcome_eq :
    c.outcome around d = (Outcome.ofSearch (c.named? around)).orElse
      ((Outcome.ofSearch ((c.entryAmong around d).map .dictionary)).orElse
        (c.indexOutcome around d)) := by
  rw [← Strategy.outcome_byDirective, ← Strategy.outcome_byDictionary]
  rfl

/-- A producer that the directive leads to comes before all others. -/
lemma resolve_producer_of_named? {p : Producer} (h : c.named? around = some p) :
    (c.resolve around d).1.producer = some p := by
  rw [resolve_producer, outcome_eq, h]
  rfl

/-- Without a directive, a consumer gets the entry of the dictionaries or else what the index comes
to. -/
lemma resolve_producer_of_named?_eq_none (h : c.named? around = none) :
    (c.resolve around d).1.producer =
      ((c.entryAmong around d).map .dictionary).or ((c.indexOutcome around d).producer? c) := by
  rw [resolve_producer, outcome_eq, h]
  cases c.entryAmong around d <;> rfl

/-- The index comes to a fresh value for consumers that it does not supply. -/
lemma indexOutcome_eq_freshSuffix_iff :
    c.indexOutcome around d = .freshSuffix ↔ c.IsUnsupplied around := by
  have hne : ∀ o : Outcome, o.isIndexed = true → o ≠ .freshSuffix := by
    rintro o ho rfl
    cases ho
  have hexact := hne _ (Strategy.isIndexed_byExactType c around)
  have happroximate := hne _ (Strategy.isIndexed_byTypes c around c.resource.candidateTypes.tail)
  have hnested := hne _ (Strategy.isIndexed_byNestedObject c around)
  have hunfold : c.indexOutcome around d = (Strategy.byExactType c around).outcome.orElse
      ((Strategy.byApproximateType c around).outcome.orElse
        ((Strategy.byCreation c around).outcome.orElse
          ((Strategy.byNestedObject c around).outcome.orElse .undecided))) := rfl
  rw [hunfold]
  simp only [Outcome.orElse_eq_freshSuffix_iff, Strategy.byApproximateType, hexact, happroximate,
    hnested, false_or, reduceCtorEq, and_false, or_false]
  exact ⟨fun ⟨he, ha, hc⟩ => ⟨he, ha, hc⟩, fun ⟨he, ha, hc⟩ => ⟨he, ha, hc⟩⟩

/-- Other than for a fresh value, the index comes to what it has. -/
lemma isIndexed_indexOutcome (h : c.indexOutcome around d ≠ .freshSuffix) :
    (c.indexOutcome around d).isIndexed = true := by
  refine Outcome.isIndexed_orElse (Strategy.isIndexed_byExactType c around) fun hexact => ?_
  refine Outcome.isIndexed_orElse (Strategy.isIndexed_byTypes c around _) fun happroximate => ?_
  have hcreation : (Strategy.byCreation c around).outcome ≠ .freshSuffix := fun hcreation =>
    h (indexOutcome_eq_freshSuffix_iff.mpr ⟨hexact, happroximate, hcreation⟩)
  refine Outcome.isIndexed_orElse (Strategy.isIndexed_byCreation c around hcreation) fun _ => ?_
  exact Outcome.isIndexed_orElse (Strategy.isIndexed_byNestedObject c around) fun _ => rfl

/-- The strategies come to a fresh value exactly for fresh consumers. -/
theorem outcome_eq_freshSuffix_iff : c.outcome around d = .freshSuffix ↔ c.IsFresh around d := by
  rw [outcome_eq]
  simp only [Outcome.orElse_eq_freshSuffix_iff, Outcome.ofSearch_ne_freshSuffix,
    Outcome.ofSearch_eq_undecided_iff, Option.map_eq_none_iff, false_or,
    indexOutcome_eq_freshSuffix_iff]
  exact ⟨fun ⟨hn, he, hu⟩ => ⟨hn, he, hu⟩, fun ⟨hn, he, hu⟩ => ⟨hn, he, hu⟩⟩

/-- Only the trailing path parameter of a PUT is ever fresh. -/
lemma IsUnsupplied.isPathWriter (h : c.IsUnsupplied around) :
    c.kind = .path ∧ c.request.method = .put ∧ c.isTrailing = true := by
  have hcreation := h.creation
  unfold Strategy.byCreation at hcreation
  split at hcreation
  · rename_i hput
    rw [Bool.and_eq_true, decide_eq_true_eq] at hput
    refine ⟨?_, hput⟩
    have htrailing := hput.2
    rw [isTrailing, Bool.and_eq_true, decide_eq_true_eq] at htrailing
    exact htrailing.1
  · cases hcreation

end Consumer

end RestFlow

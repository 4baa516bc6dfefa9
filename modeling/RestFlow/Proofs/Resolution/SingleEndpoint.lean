import Mathlib.Data.Finset.Card
import RestFlow.Proofs.Resolution.Ancestors

/-!
# One endpoint or none

Three searches go through the responses at all endpoints: that for the exact type, if it was read
off the consumer's own name, that for each less specific type, and that for the type of an enclosing
object.  All of them choose by one rule (`Outcome.ChoosesAmong`): without a response that fits they
are undecided, if all that fit are at one endpoint they take the first one by its key, and otherwise
they give up.

What a look-up gives are not all responses that fit, since repetitions are dropped, but it begins
with the first of them and has an equal one for each (`Strategy.StandsFor`).  This is enough for the
choice to be the one among all that were added (`Strategy.StandsFor.choosesAmong`).

Giving up ends the resolution: neither later types nor later strategies are tried, no producer is
found, and the dictionary stays as it is (`Consumer.resolve_eq_of_ambiguous`).
-/

namespace RestFlow

namespace Resource

lemma place_method_of_beq {a b : Resource} (h : (a == b) = true) :
    a.request.place = b.request.place ∧ a.request.method = b.request.method :=
  Prod.mk.inj (RequestId.beq_iff.mp (beq_eq_true_iff.mp h).1)

end Resource

namespace Consumer

/-- The response fits, and a request that creates returns it at another endpoint. -/
def fitsElsewhere (c : Consumer) (around : Surroundings) (type : String) (r : Resource) : Bool :=
  c.fits around type r && (r.request.method = .put || r.request.method = .post) &&
    r.request.place != c.request.place

end Consumer

/-! ## The rule -/

namespace Outcome

/-- The outcome of a search in which these responses fit: without any it is undecided, if all are at
one endpoint it is the first by its key, and otherwise it is ambiguous. -/
structure ChoosesAmong (o : Outcome) (fitting : List Resource) : Prop where
  undecided : fitting = [] → o = .undecided
  resolved : ∀ first, (sortOn Resource.sortKey fitting).head? = some first →
    (∀ r ∈ fitting, r.request.place = first.request.place) → o = .resolved (.response first)
  ambiguous : ∀ a ∈ fitting, ∀ b ∈ fitting, a.request.place ≠ b.request.place →
    o = .ambiguous

end Outcome

namespace Strategy

variable {c : Consumer} {around : Surroundings} {d : Dictionary} {type : String}

/-- The endpoints of some resources are listed once each. -/
lemma nodup_places (rs : List Resource) : (places rs).Nodup := by
  have hstrict : (places rs).Pairwise fun a b => compare a b = .lt :=
    pairwise_dropRepeats (pairwise_sortBy _)
  apply hstrict.imp
  rintro a b hlt rfl
  rw [Std.ReflOrd.compare_self] at hlt
  cases hlt

lemma mem_places_iff {rs : List Resource} {place : String} :
    place ∈ places rs ↔ ∃ r ∈ rs, r.request.place = place := by
  rw [places, mem_dropRepeats_iff, mem_sortBy, List.mem_map]

/-- There are several endpoints exactly if two resources are at different ones. -/
lemma one_lt_length_places_iff {rs : List Resource} :
    1 < (places rs).length ↔ ∃ a ∈ rs, ∃ b ∈ rs, a.request.place ≠ b.request.place := by
  rw [← List.toFinset_card_of_nodup (nodup_places rs), Finset.one_lt_card]
  simp only [List.mem_toFinset, mem_places_iff]
  constructor
  · rintro ⟨_, ⟨a, ha, rfl⟩, _, ⟨b, hb, rfl⟩, hne⟩
    exact ⟨a, ha, b, hb, hne⟩
  · rintro ⟨a, ha, b, hb, hne⟩
    exact ⟨_, ⟨a, ha, rfl⟩, _, ⟨b, hb, rfl⟩, hne⟩

/-- The outcome of the choice among some candidates. -/
def choice (candidates : List Resource) : Outcome :=
  match candidates with
  | [] => .undecided
  | first :: rest =>
    if 1 < (places (first :: rest)).length then .ambiguous else .resolved (.response first)

/-- The choice is the one that is made for a type. -/
lemma outcome_atSingleEndpoint (candidates : List Resource) :
    (atSingleEndpoint c type candidates).outcome = choice candidates := by
  unfold atSingleEndpoint choice
  cases candidates with
  | nil => rfl
  | cons first rest =>
    dsimp only
    split
    · rfl
    · rfl

/-- The choice is the one that is made for the type of an enclosing object. -/
lemma outcome_byNestedObject (htype : c.resource.primaryType? = some type) (hkind : c.kind = .body)
    (hcontainer : c.resource.bodyContainer.isSome = true) :
    (byNestedObject c around).outcome = choice (containerResponses c around type) := by
  unfold byNestedObject choice
  simp only [htype, hkind, hcontainer, decide_true, Bool.and_self, if_true]
  cases containerResponses c around type with
  | nil => rfl
  | cons first rest =>
    have hmem : first.request.place ∈ places (first :: rest) :=
      mem_places_iff.mpr ⟨first, List.mem_cons_self, rfl⟩
    have hpos := List.length_pos_of_mem hmem
    dsimp only
    by_cases hone : (places (first :: rest)).length = 1
    · rw [if_pos hone, if_neg (by omega)]
      rfl
    · rw [if_neg hone, if_pos (by omega)]

/-! ## Candidates for all responses -/

/-- Some candidates stand for all responses that fit: they begin with the first one by its key, they
are some of them, and there is an equal one for each. -/
structure StandsFor (candidates fitting : List Resource) : Prop where
  head? : candidates.head? = (sortOn Resource.sortKey fitting).head?
  subset : ∀ r ∈ candidates, r ∈ fitting
  complete : ∀ r ∈ fitting, ∃ r' ∈ candidates, (r' == r) = true

namespace StandsFor

variable {candidates fitting : List Resource}

/-- There are candidates exactly if there are responses that fit. -/
lemma eq_nil_iff (h : StandsFor candidates fitting) : candidates = [] ↔ fitting = [] := by
  constructor
  · intro hnil
    apply List.eq_nil_iff_forall_not_mem.mpr
    intro r hr
    obtain ⟨r', hr', -⟩ := h.complete r hr
    rw [hnil] at hr'
    cases hr'
  · intro hnil
    apply List.eq_nil_iff_forall_not_mem.mpr
    intro r hr
    have hfitting := h.subset r hr
    rw [hnil] at hfitting
    cases hfitting

/-- The candidates are at several endpoints exactly if the responses are. -/
lemma one_lt_length_places_iff (h : StandsFor candidates fitting) :
    1 < (places candidates).length ↔
      ∃ a ∈ fitting, ∃ b ∈ fitting, a.request.place ≠ b.request.place := by
  rw [Strategy.one_lt_length_places_iff]
  constructor
  · rintro ⟨a, ha, b, hb, hne⟩
    exact ⟨a, h.subset a ha, b, h.subset b hb, hne⟩
  · rintro ⟨a, ha, b, hb, hne⟩
    obtain ⟨a', ha', haa⟩ := h.complete a ha
    obtain ⟨b', hb', hbb⟩ := h.complete b hb
    refine ⟨a', ha', b', hb', ?_⟩
    rw [(Resource.place_method_of_beq haa).1, (Resource.place_method_of_beq hbb).1]
    exact hne

/-- The choice among the candidates is the one among all responses that fit. -/
theorem choosesAmong (h : StandsFor candidates fitting) :
    (choice candidates).ChoosesAmong fitting := by
  constructor
  · intro hnil
    rw [h.eq_nil_iff.mpr hnil, choice]
  · intro first hfirst hall
    -- all that fit are at one place, so all candidates are
    have hone : ¬1 < (places candidates).length := by
      rw [h.one_lt_length_places_iff]
      rintro ⟨a, ha, b, hb, hne⟩
      exact hne ((hall a ha).trans (hall b hb).symm)
    rw [← h.head?] at hfirst
    obtain ⟨rest, rfl⟩ := List.head?_eq_some_iff.mp hfirst
    rw [choice, if_neg hone]
  · intro a ha b hb hne
    have hmany := h.one_lt_length_places_iff.mpr ⟨a, ha, b, hb, hne⟩
    cases candidates with
    | nil => cases hmany
    | cons first rest => rw [choice, if_pos hmany]

end StandsFor

/-- The responses of a type that pass a test stand for all of them, if the test does not tell equal
responses apart. -/
lemma standsFor_ofType (pool : ProducerPool) (type : String) {test : Resource → Bool}
    (h : ∀ r r' : Resource, (r == r') = true → test r = test r') :
    StandsFor ((pool.index.responsesOfType type).filter test) (pool.responses.filter fun r =>
      (r.primaryType?.any fun t => Naming.sameType t type) && test r) := by
  have hindex : pool.index.responses = sortOn Resource.sortKey pool.responses := rfl
  constructor
  · rw [sortOn_filter, ← hindex, List.head?_filter, List.head?_filter,
      ProducerIndex.responsesOfType, find?_dropRepeats h, find?_filter_and]
    rfl
  · intro r hr
    obtain ⟨hmem, htest⟩ := List.mem_filter.mp hr
    obtain ⟨hadded, htype⟩ := ProducerIndex.of_mem_responsesOfType hmem
    refine List.mem_filter.mpr ⟨mem_sortOn.mp hadded, ?_⟩
    rw [Resource.any_sameType_iff.mpr htype, htest, Bool.and_self]
  · intro r hr
    obtain ⟨hadded, htests⟩ := List.mem_filter.mp hr
    rw [Bool.and_eq_true] at htests
    obtain ⟨r', hr', heq⟩ := ProducerIndex.exists_mem_responsesOfType
      (hindex ▸ mem_sortOn.mpr hadded) (Resource.any_sameType_iff.mp htests.1)
    refine ⟨r', List.mem_filter.mpr ⟨hr', ?_⟩, heq⟩
    rw [h r' r heq, htests.2]

variable {pool : ProducerPool}

/-- What is found anywhere stands for all responses that fit. -/
lemma standsFor_responsesAnywhere (hindex : around.index = pool.index) (type : String) :
    StandsFor (responsesAnywhere c around type) (pool.responses.filter (c.fits around type)) := by
  have htest : ∀ r r' : Resource, (r == r') = true →
      (r.name == c.resource.producerParameter && c.accepts around r) =
        (r'.name == c.resource.producerParameter && c.accepts around r') := by
    intro r r' h
    rw [Resource.name_eq_of_beq h, Consumer.accepts_eq_of_beq h]
  have hfits : c.fits around type = fun r =>
      (r.primaryType?.any fun t => Naming.sameType t type) &&
        (r.name == c.resource.producerParameter && c.accepts around r) := by
    funext r
    rw [Consumer.fits, Bool.and_comm (r.name == _), Bool.and_assoc]
  rw [responsesAnywhere, hindex, hfits]
  exact standsFor_ofType pool type htest

/-- What is found for an enclosing object stands for all responses that fit at other endpoints. -/
lemma standsFor_containerResponses (hindex : around.index = pool.index) (type : String) :
    StandsFor (containerResponses c around type)
      (pool.responses.filter (c.fitsElsewhere around type)) := by
  have htest : ∀ r r' : Resource, (r == r') = true →
      ((r.request.method = .put || r.request.method = .post) &&
          r.request.place != c.request.place && r.name == c.resource.producerParameter &&
            c.accepts around r) =
        ((r'.request.method = .put || r'.request.method = .post) &&
          r'.request.place != c.request.place && r'.name == c.resource.producerParameter &&
            c.accepts around r') := by
    intro r r' h
    obtain ⟨hplace, hmethod⟩ := Resource.place_method_of_beq h
    rw [hplace, hmethod, Resource.name_eq_of_beq h, Consumer.accepts_eq_of_beq h]
  -- the conditions of the search, with that on the type in front
  have hfits : c.fitsElsewhere around type = fun r =>
      (r.primaryType?.any fun t => Naming.sameType t type) &&
        ((r.request.method = .put || r.request.method = .post) &&
          r.request.place != c.request.place && r.name == c.resource.producerParameter &&
            c.accepts around r) := by
    funext r
    rw [Consumer.fitsElsewhere, Consumer.fits]
    ac_rfl
  rw [containerResponses, hindex, hfits]
  exact standsFor_ofType pool type htest

/-! ## The exact type -/

/-- The exact type is looked for at all endpoints: it was read off the consumer's own name, and
there is neither a response above the consumer nor an input at its own endpoint. -/
structure SearchesEverywhere (c : Consumer) (around : Surroundings) (type : String) : Prop where
  primary : c.resource.primaryType? = some type
  kind : c.kind ≠ .path
  container : c.resource.container = none
  ancestors : fromAncestors c around = none
  inputs : fromInputs c around = none

/-- The choice is one among the responses anywhere. -/
lemma outcome_exactType (h : SearchesEverywhere c around type) :
    (run .exactType c around d).outcome = choice (responsesAnywhere c around type) := by
  rw [← outcome_atSingleEndpoint, run, byExactType, h.ancestors, h.inputs]
  simp only [h.primary, h.container, bne_iff_ne.mpr h.kind]
  rfl

/-! ## Less specific types -/

/-- Types without a response that fits are passed over. -/
lemma byTypes_append {before : List String}
    (hbefore : ∀ t ∈ before, responsesAnywhere c around t = []) (after : List String) :
    byTypes c around (before ++ after) = byTypes c around after := by
  induction before with
  | nil => rfl
  | cons t rest ih =>
    rw [List.cons_append, byTypes, if_pos]
    · exact ih fun t' ht' => hbefore t' (List.mem_cons_of_mem t ht')
    · rw [Outcome.beq_undecided_iff, outcome_atSingleEndpoint_eq_undecided_iff]
      exact hbefore t List.mem_cons_self

/-- A type with a response that fits decides. -/
lemma byTypes_cons (hsome : responsesAnywhere c around type ≠ []) (after : List String) :
    byTypes c around (type :: after) =
      atSingleEndpoint c type (responsesAnywhere c around type) := by
  rw [byTypes, if_neg]
  rw [Outcome.beq_undecided_iff, outcome_atSingleEndpoint_eq_undecided_iff]
  exact hsome

end Strategy

namespace Consumer

variable {c : Consumer} {around : Surroundings} {d : Dictionary} {s : Strategy}
  {before after : List Strategy}

/-- The first strategy that is not undecided decides, and nothing is reported by those after it. -/
lemma decision_append (hbefore : ∀ t ∈ before, (t.run c around d).outcome = .undecided)
    (hs : (s.run c around d).outcome ≠ .undecided) :
    c.decision around d (before ++ s :: after) =
      (some (s, (s.run c around d).outcome),
        (before ++ [s]).flatMap fun t => (t.run c around d).warnings) := by
  induction before with
  | nil =>
    rw [List.nil_append, decision, if_neg fun h => hs (Outcome.beq_undecided_iff.mp h)]
    simp
  | cons t rest ih =>
    have ht := hbefore t List.mem_cons_self
    rw [List.cons_append, decision, if_pos (Outcome.beq_undecided_iff.mpr ht),
      ih fun t' ht' => hbefore t' (List.mem_cons_of_mem t ht')]
    simp

/-- If the first strategy that is not undecided is ambiguous, the consumer is left without a
producer. -/
lemma resolve_eq_of_ambiguous (hall : Strategy.all = before ++ s :: after)
    (hbefore : ∀ t ∈ before, (t.run c around d).outcome = .undecided)
    (hs : (s.run c around d).outcome = .ambiguous) :
    c.resolve around d =
      (⟨none, some s, true, (before ++ [s]).flatMap fun t => (t.run c around d).warnings⟩, d) := by
  have hne : (s.run c around d).outcome ≠ .undecided := by
    rw [hs]
    exact (nomatch ·)
  rw [resolve, hall, decision_append hbefore hne, hs]

end Consumer

namespace ProducerPool

open Strategy

/-- After any additions, the three searches through all endpoints choose by one rule among the
responses that fit: that for the exact type, that for a less specific type for which the types
before it have no response, and that for the type of an enclosing object.  Less specific types
without a response are passed over and those after the one that decides are not looked at.  After a
strategy that is undecided the next one is tried, and if this gives up, so does the resolution,
whatever the strategies after it would find. -/
theorem singleEndpoint_gather (additions : List Addition) (dictionaries : EndpointDictionaries)
    (allowGet : Bool) (c : Consumer) (d : Dictionary) :
    let around : Surroundings := ⟨(gather additions).index, dictionaries, allowGet⟩
    let responses := additions.filterMap Addition.response?
    let fitting := fun type => responses.filter (c.fits around type)
    (∀ type, SearchesEverywhere c around type →
        (run .exactType c around d).outcome.ChoosesAmong (fitting type)) ∧
      (∀ before type after, c.resource.candidateTypes.tail = before ++ type :: after →
        (∀ t ∈ before, fitting t = []) → fitting type ≠ [] →
          (run .approximateType c around d).outcome.ChoosesAmong (fitting type) ∧
            run .approximateType c around d = byTypes c around (before ++ [type])) ∧
      ((∀ t ∈ c.resource.candidateTypes.tail, fitting t = []) →
        run .approximateType c around d = .undecided) ∧
      (∀ type, c.resource.primaryType? = some type → c.kind = .body →
        c.resource.bodyContainer.isSome = true →
          (run .nestedObject c around d).outcome.ChoosesAmong
            (responses.filter (c.fitsElsewhere around type))) ∧
      ∀ before s after, Strategy.all = before ++ s :: after →
        (∀ t ∈ before, (t.run c around d).outcome = .undecided) →
          let warnings := (before ++ [s]).flatMap fun t => (t.run c around d).warnings
          ((s.run c around d).outcome ≠ .undecided →
            c.decision around d Strategy.all =
              (some (s, (s.run c around d).outcome), warnings)) ∧
          ((s.run c around d).outcome = .ambiguous →
            c.resolve around d = (⟨none, some s, true, warnings⟩, d)) := by
  intro around responses fitting
  have hresponses : (gather additions).responses = responses := responses_gather additions
  have hindex : around.index = (gather additions).index := rfl
  -- what the index holds of a type stands for the responses that were added and fit
  have hstands : ∀ type, StandsFor (responsesAnywhere c around type) (fitting type) := by
    intro type
    have hpool := standsFor_responsesAnywhere (c := c) hindex type
    rwa [hresponses] at hpool
  refine ⟨?_, ?_, ?_, ?_, ?_⟩
  · intro type hsearch
    rw [outcome_exactType hsearch]
    exact (hstands type).choosesAmong
  · intro before type after htypes hbefore hsome
    have hskipped : ∀ t ∈ before, responsesAnywhere c around t = [] :=
      fun t ht => (hstands t).eq_nil_iff.mpr (hbefore t ht)
    have hne : responsesAnywhere c around type ≠ [] :=
      fun hnil => hsome ((hstands type).eq_nil_iff.mp hnil)
    have hrun : run .approximateType c around d =
        atSingleEndpoint c type (responsesAnywhere c around type) := by
      rw [run, byApproximateType, htypes, byTypes_append hskipped, byTypes_cons hne]
    constructor
    · rw [hrun, outcome_atSingleEndpoint]
      exact (hstands type).choosesAmong
    · rw [hrun, byTypes_append hskipped, byTypes_cons hne]
  · intro hall
    have hskipped : ∀ t ∈ c.resource.candidateTypes.tail, responsesAnywhere c around t = [] :=
      fun t ht => (hstands t).eq_nil_iff.mpr (hall t ht)
    rw [run, byApproximateType, ← List.append_nil c.resource.candidateTypes.tail,
      byTypes_append hskipped, byTypes]
  · -- an enclosing object is searched for at other endpoints only
    intro type htype hkind hcontainer
    have hpool := standsFor_containerResponses (c := c) hindex type
    rw [hresponses] at hpool
    rw [run, outcome_byNestedObject htype hkind hcontainer]
    exact hpool.choosesAmong
  · -- the strategies before it are undecided, so the decision is up to this one
    intro before s after hall hbefore warnings
    constructor
    · intro hs
      rw [hall]
      exact Consumer.decision_append hbefore hs
    · intro hs
      exact Consumer.resolve_eq_of_ambiguous hall hbefore hs

/-! ### Items of two shops -/

/-- Items are created at two endpoints. -/
def itemsAndShopItems : List Addition :=
  [.response (Consumer.returnedId "/items"), .response (Consumer.returnedId "/shop/items")]

/-- What surrounds the `id` of a line item then. -/
def aroundItems : Surroundings :=
  ⟨(gather itemsAndShopItems).index, .empty, false⟩

/-- A line item is an item, and the two `id`s of items fit it. -/
lemma fits_lineItemId :
    Consumer.lineItemId.resource.candidateTypes.tail = ["line"] ++ "item" :: [] ∧
      (itemsAndShopItems.filterMap Addition.response?).filter
        (Consumer.lineItemId.fits aroundItems "line") = [] ∧
      (itemsAndShopItems.filterMap Addition.response?).filter
        (Consumer.lineItemId.fits aroundItems "item") =
          [Consumer.returnedId "/items", Consumer.returnedId "/shop/items"] :=
  ⟨rfl, rfl, rfl⟩

/-- The strategies before that for less specific types find nothing. -/
lemma undecided_lineItemId :
    ∀ t ∈ [directive, dictionary, exactType],
      (t.run Consumer.lineItemId aroundItems .standard).outcome = .undecided := by
  have hdirective : (run .directive Consumer.lineItemId aroundItems .standard).outcome =
      .undecided := rfl
  have hdictionary : (run .dictionary Consumer.lineItemId aroundItems .standard).outcome =
      .undecided := rfl
  have hexact : (run .exactType Consumer.lineItemId aroundItems .standard).outcome =
      .undecided := rfl
  simp [hdirective, hdictionary, hexact]

/-- The `id` of a line item is left without a producer, although either of the two would fit. -/
theorem resolve_lineItemId_ambiguous :
    ∃ warnings, Consumer.lineItemId.resolve aroundItems .standard =
      (⟨none, some .approximateType, true, warnings⟩, .standard) := by
  obtain ⟨htypes, hline, hitem⟩ := fits_lineItemId
  obtain ⟨-, htiers, -, -, hends⟩ :=
    singleEndpoint_gather itemsAndShopItems .empty false Consumer.lineItemId .standard
  have hbefore : ∀ t ∈ ["line"], (itemsAndShopItems.filterMap Addition.response?).filter
      (Consumer.lineItemId.fits aroundItems t) = [] := by
    intro t ht
    rw [List.mem_singleton.mp ht]
    exact hline
  have hone : Consumer.returnedId "/items" ∈ (itemsAndShopItems.filterMap
      Addition.response?).filter (Consumer.lineItemId.fits aroundItems "item") := by
    rw [hitem]
    exact List.mem_cons_self
  have hother : Consumer.returnedId "/shop/items" ∈ (itemsAndShopItems.filterMap
      Addition.response?).filter (Consumer.lineItemId.fits aroundItems "item") := by
    rw [hitem]
    exact List.mem_cons_of_mem _ List.mem_cons_self
  have hdiffer : (Consumer.returnedId "/items").request.place ≠
      (Consumer.returnedId "/shop/items").request.place := by
    decide +kernel
  have hrule := (htiers ["line"] "item" [] htypes hbefore (List.ne_nil_of_mem hone)).1
  have hambiguous := hrule.ambiguous _ hone _ hother hdiffer
  have happroximate :=
    hends [directive, dictionary, exactType] .approximateType _ rfl undecided_lineItemId
  exact ⟨_, happroximate.2 hambiguous⟩

end ProducerPool

end RestFlow

import RestFlow.Proofs.Extraction.Collection
import RestFlow.Proofs.Extraction.Run
import RestFlow.Proofs.Resolution.Growth
import RestFlow.Proofs.Resolution.Pool

/-!
# The pass over writers is complete

The pass over writers resolves the trailing path parameters of PUTs with an index that lacks the
inputs it is about to find, and hands the dictionary from one writer to the next.  The pass over all
consumers resolves the same writers again, with more inputs and the final dictionary.

Since both only grow, a writer that is fresh in the later pass would have been fresh in the earlier
one, and would have been given a suffix there.  So there is no fresh consumer after the pass over
writers (`not_isFresh_settings`), and the pass over all consumers leaves the dictionary as it is and
resolves every consumer by itself (`main_eq`).
-/

namespace RestFlow

/-! ## Uuid suffixes -/

namespace Consumer

section

variable {c : Consumer} {around : Surroundings} {d : Dictionary}

/-- Without a directive a consumer is bound to a uuid suffix if the dictionaries have one for it, or
if it is fresh. -/
theorem isSuffix_resolve_iff (h : c.named? around = none) :
    (c.resolve around d).1.isSuffix = true ↔
      (∃ p, c.entryAmong around d = some p ∧ p.kind = .uuidSuffix) ∨ c.IsFresh around d := by
  by_cases hfresh : c.IsFresh around d
  · simp [Resolution.isSuffix, resolve_producer, outcome_eq_freshSuffix_iff.mpr hfresh,
      Outcome.producer?, Dictionary.suffixPayload, hfresh]
  · rw [or_iff_left hfresh, Resolution.isSuffix, resolve_producer, outcome_eq, h]
    cases hentry : c.entryAmong around d with
    | some p => simp [Outcome.ofSearch, Outcome.orElse, Outcome.producer?]
    | none =>
      -- the index leads to no suffix, since the consumer is not fresh
      have hne : c.indexOutcome around d ≠ .freshSuffix := fun hi =>
        hfresh ⟨h, hentry, indexOutcome_eq_freshSuffix_iff.mp hi⟩
      have hindexed := isIndexed_indexOutcome hne
      cases hi : c.indexOutcome around d with
      | resolved p =>
        rw [hi] at hindexed
        cases p with
        | dictionary payload => cases hindexed
        | _ => simp [Outcome.ofSearch, Outcome.orElse, Outcome.producer?]
      | freshSuffix => exact absurd hi hne
      | undecided => simp [Outcome.ofSearch, Outcome.orElse, Outcome.producer?]
      | ambiguous => simp [Outcome.ofSearch, Outcome.orElse, Outcome.producer?]

end

/-! ## One pass over some consumers -/

variable (around : Surroundings)

/-- The dictionary after some consumers were resolved one after the other. -/
def dictionaryAfter (cs : List Consumer) (d : Dictionary) : Dictionary :=
  cs.foldl (fun d c => (c.resolve around d).2) d

/-- The consumers that are bound to a uuid suffix when they are resolved one after the other. -/
def suffixed : List Consumer → Dictionary → List Consumer
  | [], _ => []
  | c :: rest, d =>
    let after := suffixed rest (c.resolve around d).2
    if (c.resolve around d).1.isSuffix then c :: after else after

/-- Resolving some consumers adds suffixes for their names at most. -/
lemma growsFor_dictionaryAfter {reason : String → Prop} (cs : List Consumer) (d : Dictionary)
    (hcs : ∀ c ∈ cs, reason c.name) : d.GrowsFor reason (dictionaryAfter around cs d) := by
  unfold dictionaryAfter
  induction cs generalizing d with
  | nil => exact .refl reason d
  | cons c rest ih =>
    rw [List.foldl_cons]
    have hfirst := growsFor_resolve c around d (hcs c List.mem_cons_self)
    exact hfirst.trans (ih _ fun a ha => hcs a (List.mem_cons_of_mem c ha))

lemma grows_dictionaryAfter (cs : List Consumer) (d : Dictionary) :
    d.Grows (dictionaryAfter around cs d) :=
  (growsFor_dictionaryAfter around cs d fun _ hc => List.mem_map_of_mem hc).toGrows

variable {around}

/-- None of the consumers is fresh after all of them were resolved. -/
theorem not_isFresh_dictionaryAfter {cs : List Consumer} {c : Consumer} (hc : c ∈ cs)
    (d : Dictionary) : ¬c.IsFresh around (dictionaryAfter around cs d) := by
  induction cs generalizing d with
  | nil => cases hc
  | cons a rest ih =>
    rcases List.mem_cons.mp hc with rfl | hc
    · -- the dictionary has only grown since the consumer was resolved
      intro h
      exact not_isFresh_resolve c around d
        (h.anti (.refl around) (grows_dictionaryAfter around rest _))
    · exact ih hc _

/-- If none of the consumers is fresh, the dictionary stays as it is. -/
lemma dictionaryAfter_eq_self {cs : List Consumer} {d : Dictionary}
    (h : ∀ c ∈ cs, ¬c.IsFresh around d) : dictionaryAfter around cs d = d := by
  induction cs with
  | nil => rfl
  | cons a rest ih =>
    rw [dictionaryAfter, List.foldl_cons, resolve_snd_of_not_isFresh (h a List.mem_cons_self)]
    exact ih fun c hc => h c (List.mem_cons_of_mem a hc)

/-- The names that are given a suffix are those of the consumers fresh in the beginning. -/
theorem contains_dictionaryAfter (cs : List Consumer) (d : Dictionary) (name : String) :
    (dictionaryAfter around cs d).uuidSuffixes.contains name = true ↔
      d.uuidSuffixes.contains name = true ∨ ∃ c ∈ cs, c.name = name ∧ c.IsFresh around d := by
  induction cs generalizing d with
  | nil => simp [dictionaryAfter]
  | cons a rest ih =>
    have hresolve := contains_resolve a around d name
    rw [dictionaryAfter, List.foldl_cons, ← dictionaryAfter, ih]
    by_cases hname : (a.resolve around d).2.uuidSuffixes.contains name = true
    · refine iff_of_true (.inl hname) ?_
      rcases hresolve.mp hname with hd | ha
      · exact .inl hd
      · exact .inr ⟨a, List.mem_cons_self, ha⟩
    · -- the name is not among those added, so the step changes nothing for consumers of this name
      obtain ⟨hd, ha⟩ := not_or.mp (mt hresolve.mpr hname)
      have hfresh : ∀ c : Consumer, c.name = name →
          (c.IsFresh around (a.resolve around d).2 ↔ c.IsFresh around d) := by
        intro c hc
        rw [isFresh_iff_of_grows (grows_resolve a around d), hc]
        exact and_iff_left (Bool.eq_false_iff.mpr hname)
      rw [or_iff_right hname, or_iff_right hd, List.exists_mem_cons_iff, or_iff_right ha]
      constructor
      · rintro ⟨c, hc, hcname, hcfresh⟩
        exact ⟨c, hc, hcname, (hfresh c hcname).mp hcfresh⟩
      · rintro ⟨c, hc, hcname, hcfresh⟩
        exact ⟨c, hc, hcname, (hfresh c hcname).mpr hcfresh⟩

/-- A consumer is among those bound to a uuid suffix if it is bound to one when its turn comes. -/
lemma mem_suffixed_iff {cs : List Consumer} {c : Consumer} {d : Dictionary} :
    c ∈ suffixed around cs d ↔ ∃ before after, cs = before ++ c :: after ∧
      (c.resolve around (dictionaryAfter around before d)).1.isSuffix = true := by
  induction cs generalizing d with
  | nil => simp [suffixed]
  | cons a rest ih =>
    have hmem : c ∈ suffixed around (a :: rest) d ↔
        (c = a ∧ (a.resolve around d).1.isSuffix = true) ∨
          c ∈ suffixed around rest (a.resolve around d).2 := by
      rw [suffixed]
      by_cases hsuffix : (a.resolve around d).1.isSuffix
      · simp [hsuffix]
      · simp [hsuffix]
    rw [hmem, ih]
    constructor
    · rintro (⟨rfl, hsuffix⟩ | ⟨before, after, rfl, hsuffix⟩)
      · exact ⟨[], rest, rfl, hsuffix⟩
      · exact ⟨a :: before, after, rfl, hsuffix⟩
    · rintro ⟨before, after, hsplit, hsuffix⟩
      -- the consumer has the first turn or a later one
      cases before with
      | nil =>
        obtain ⟨rfl, rfl⟩ := List.cons.inj hsplit
        exact .inl ⟨rfl, hsuffix⟩
      | cons b before =>
        obtain ⟨rfl, rfl⟩ := List.cons.inj hsplit
        exact .inr ⟨before, after, rfl, hsuffix⟩

/-- Consumers that are bound to a uuid suffix are among those that were resolved. -/
lemma mem_of_mem_suffixed {cs : List Consumer} {c : Consumer} {d : Dictionary}
    (h : c ∈ suffixed around cs d) : c ∈ cs := by
  obtain ⟨before, after, rfl, -⟩ := mem_suffixed_iff.mp h
  exact List.mem_append_right _ List.mem_cons_self

/-- What makes a writer among the path parameters. -/
lemma isPathWriter_iff {c : Consumer} :
    c.isPathWriter = true ↔ c.kind = .path ∧ c.request.method = .put ∧ c.isTrailing = true := by
  rw [isPathWriter, Bool.and_eq_true, decide_eq_true_eq]
  refine and_congr_right fun hkind => ?_
  simp [isWriter, hkind]

end Consumer

namespace Collection

/-- The writers among the path parameters, in the order of listings. -/
def pathWriters (c : Collection) : List Consumer :=
  c.consumers.filter Consumer.isPathWriter

/-- The writers are the trailing path parameters of PUTs. -/
lemma mem_pathWriters_iff {c : Collection} {x : Consumer} :
    x ∈ c.pathWriters ↔
      x ∈ c.consumers ∧ x.kind = .path ∧ x.request.method = .put ∧ x.isTrailing = true := by
  rw [pathWriters, List.mem_filter, Consumer.isPathWriter_iff]

/-- Writers are writers. -/
lemma isWriter_of_mem_pathWriters {c : Collection} {x : Consumer} (h : x ∈ c.pathWriters) :
    x.isWriter = true := by
  obtain ⟨-, hkind, hput, htrailing⟩ := mem_pathWriters_iff.mp h
  exact Consumer.isWriter_of_isTrailing hkind hput htrailing

end Collection

/-! ## The pass over writers -/

namespace Setup

/-- The pool at the start is what was collected, with the inputs that directives name. -/
lemma initialPool_eq (s : Setup) (i : Interface) (c : Collection) :
    s.initialPool i c = ProducerPool.addAll { responses := c.responses, sameBody := c.sameBody }
      (Directive.inputs (s.declaredDirectives i) c) .directive :=
  rfl

/-- The inputs in the pool at the start are consumers that directives name. -/
lemma exists_consumer_of_mem_initialPool {s : Setup} {i : Interface} {c : Collection}
    {input : Resource × InputOrigin} (h : input ∈ (s.initialPool i c).inputs) :
    input.2 = .directive ∧ ∃ x ∈ c.consumers, x.resource = input.1 := by
  rw [initialPool_eq] at h
  rcases ProducerPool.mem_or_mem_of_mem_inputs_addAll h with hnone | ⟨hinput, horigin⟩
  · cases hnone
  · obtain ⟨a, -, hsource⟩ := Directive.mem_inputs_iff.mp hinput
    obtain ⟨_, x, -, hx, hresource⟩ := Directive.find?_of_source_eq_input hsource
    exact ⟨horigin, x, List.mem_of_find?_eq_some hx, hresource⟩

/-- What the pass over writers comes to, part by part. -/
lemma foldl_writerStep (around : Surroundings) (cs : List Consumer) (st : WriterState) :
    let last := cs.foldl (writerStep around) st
    last.dictionary = Consumer.dictionaryAfter around cs st.dictionary ∧
      last.pool = st.pool.addAll
        ((Consumer.suffixed around cs st.dictionary).map Consumer.resource) .writer ∧
      last.count = st.count + (Consumer.suffixed around cs st.dictionary).length := by
  induction cs generalizing st with
  | nil => exact ⟨rfl, rfl, rfl⟩
  | cons c rest ih =>
    obtain ⟨hdictionary, hpool, hcount⟩ := ih (writerStep around st c)
    rw [List.foldl_cons]
    refine ⟨hdictionary, hpool.trans ?_, hcount.trans ?_⟩
    · rw [Consumer.suffixed]
      by_cases hsuffix : (c.resolve around st.dictionary).1.isSuffix
      · simp [writerStep, hsuffix, ProducerPool.addAll]
      · simp [writerStep, hsuffix]
    · rw [Consumer.suffixed]
      by_cases hsuffix : (c.resolve around st.dictionary).1.isSuffix
      · simp only [writerStep, hsuffix, if_true, List.length_cons]
        omega
      · simp [writerStep, hsuffix]

variable (s : Setup) (i : Interface) (c : Collection) (d : Dictionary)

/-- What the strategies look at during the pass over writers. -/
def preliminary : Surroundings :=
  s.surroundings (s.initialPool i c).index

lemma writers_dictionary :
    (s.writers i c d).dictionary = Consumer.dictionaryAfter (s.preliminary i c) c.pathWriters d :=
  (foldl_writerStep (s.preliminary i c) c.pathWriters ⟨s.initialPool i c, d, [], 0⟩).1

/-- The pool after the pass over writers. -/
lemma writers_pool :
    (s.writers i c d).pool = (s.initialPool i c).addAll
      ((Consumer.suffixed (s.preliminary i c) c.pathWriters d).map Consumer.resource) .writer :=
  (foldl_writerStep (s.preliminary i c) c.pathWriters ⟨s.initialPool i c, d, [], 0⟩).2.1

/-- The number of writers that were given a uuid suffix. -/
lemma writers_count :
    (s.writers i c d).count =
      (Consumer.suffixed (s.preliminary i c) c.pathWriters d).length := by
  have hcount :=
    (foldl_writerStep (s.preliminary i c) c.pathWriters ⟨s.initialPool i c, d, [], 0⟩).2.2
  exact hcount.trans (Nat.zero_add _)

/-- The pass over writers adds inputs to what the strategies look at. -/
lemma extends_settings : (s.preliminary i c).Extends (s.settings i c d) where
  responses := by
    show sortOn Resource.sortKey (s.writers i c d).pool.responses = _
    rw [writers_pool, ProducerPool.responses_addAll]
    rfl
  endpointDictionaries := rfl
  allowGet := rfl
  inputs := by
    intro input hinput
    show input ∈ sortOn (fun i => i.1.sortKey) (s.writers i c d).pool.inputs
    rw [mem_sortOn, writers_pool]
    exact ProducerPool.mem_inputs_addAll (mem_sortOn.mp hinput)

/-- The pass over writers leaves the responses as they were collected. -/
lemma responses_settings :
    (s.settings i c d).index.responses = sortOn Resource.sortKey c.responses := by
  show sortOn Resource.sortKey (s.writers i c d).pool.responses = _
  rw [writers_pool, ProducerPool.responses_addAll, initialPool_eq, ProducerPool.responses_addAll]

/-- The pass over writers leaves the body properties as they were collected. -/
lemma sameBody_settings :
    (s.settings i c d).index.sameBody = sortOn Resource.sortKey c.sameBody := by
  show sortOn Resource.sortKey (s.writers i c d).pool.sameBody = _
  rw [writers_pool, ProducerPool.sameBody_addAll, initialPool_eq, ProducerPool.sameBody_addAll]

variable {s i c d}

/-- The inputs that the strategies find were among the producers before the pass over writers, or
they are writers that this pass binds to a suffix. -/
lemma mem_initialPool_or_suffixed {input : Resource × InputOrigin}
    (h : input ∈ (s.settings i c d).index.inputs) :
    input ∈ (s.initialPool i c).inputs ∨ input.2 = .writer ∧
      ∃ y ∈ Consumer.suffixed (s.preliminary i c) c.pathWriters d, y.resource = input.1 := by
  have hpool : input ∈ (s.writers i c d).pool.inputs := mem_sortOn.mp h
  rw [writers_pool] at hpool
  rcases ProducerPool.mem_or_mem_of_mem_inputs_addAll hpool with hinitial | ⟨hwriter, horigin⟩
  · exact .inl hinitial
  · exact .inr ⟨horigin, List.mem_map.mp hwriter⟩

/-- The strategies find the writers that the pass over writers binds to a suffix. -/
lemma exists_mem_inputs_of_mem_suffixed {x : Consumer}
    (h : x ∈ Consumer.suffixed (s.preliminary i c) c.pathWriters d) :
    ∃ input ∈ (s.settings i c d).index.inputs, (input.1 == x.resource) = true := by
  obtain ⟨input, hinput, heq⟩ := ProducerPool.exists_mem_inputs_addAll (s.initialPool i c) .writer
    (List.mem_map_of_mem (f := Consumer.resource) h)
  rw [← writers_pool] at hinput
  exact ⟨input, mem_sortOn.mpr hinput, heq⟩

/-- After the pass over writers no consumer is fresh. -/
theorem not_isFresh_settings {x : Consumer} (hx : x ∈ c.consumers) :
    ¬x.IsFresh (s.settings i c d) (s.writers i c d).dictionary := by
  intro h
  have hwriter : x ∈ c.pathWriters :=
    Collection.mem_pathWriters_iff.mpr ⟨hx, h.unsupplied.isPathWriter⟩
  have hbefore := h.anti (s.extends_settings i c d) (.refl _)
  rw [writers_dictionary] at hbefore
  exact Consumer.not_isFresh_dictionaryAfter hwriter d hbefore

/-! ## The pass over all consumers -/

/-- One step of the pass over all consumers, if it leaves the dictionary as it is. -/
lemma mainStep_eq {around : Surroundings} {d : Dictionary} {x : Consumer}
    (h : (x.resolve around d).2 = d) (found : List (Consumer × Resolution)) :
    mainStep around ⟨d, found⟩ x = ⟨d, found ++ [(x, (x.resolve around d).1)]⟩ := by
  cases hx : x.resolve around d with
  | mk resolution dictionary =>
    rw [hx] at h
    simp only [mainStep, hx]
    rw [show dictionary = d from h]

/-- The pass over all consumers, if it leaves the dictionary as it is. -/
lemma mainPass_eq {index : ProducerIndex} {d : Dictionary} {order : List Consumer}
    (h : ∀ x ∈ order, (x.resolve (s.surroundings index) d).2 = d) :
    s.mainPass index order d =
      ⟨d, order.map fun x => (x, (x.resolve (s.surroundings index) d).1)⟩ := by
  have hfold : ∀ found : List (Consumer × Resolution),
      order.foldl (mainStep (s.surroundings index)) ⟨d, found⟩ =
        ⟨d, found ++ order.map fun x => (x, (x.resolve (s.surroundings index) d).1)⟩ := by
    induction order with
    | nil => intro found; simp
    | cons x rest ih =>
      intro found
      rw [List.foldl_cons, mainStep_eq (h x List.mem_cons_self),
        ih fun a ha => h a (List.mem_cons_of_mem x ha), List.map_cons, List.append_assoc,
        List.singleton_append]
  exact hfold []

/-- The pass over all consumers resolves each of them by itself. -/
lemma main_eq :
    s.main i c d = ⟨(s.writers i c d).dictionary, c.consumers.map fun x =>
      (x, (x.resolve (s.settings i c d) (s.writers i c d).dictionary).1)⟩ :=
  mainPass_eq fun _ hx => Consumer.resolve_snd_of_not_isFresh (not_isFresh_settings hx)

lemma dictionary_main : (s.main i c d).dictionary = (s.writers i c d).dictionary := by
  rw [main_eq]

/-- What is noted of a consumer by the pass over all consumers is what it is resolved to. -/
lemma mem_resolutions_main_iff {x : Consumer} {r : Resolution} :
    (x, r) ∈ (s.main i c d).resolutions ↔ x ∈ c.consumers ∧
      r = (x.resolve (s.settings i c d) (s.writers i c d).dictionary).1 := by
  rw [main_eq]
  constructor
  · intro h
    obtain ⟨y, hy, heq⟩ := List.mem_map.mp h
    obtain ⟨rfl, rfl⟩ := Prod.mk.inj heq
    exact ⟨hy, rfl⟩
  · rintro ⟨hx, rfl⟩
    exact List.mem_map.mpr ⟨x, hx, rfl⟩

/-- The dependencies after the pass over all consumers, one for each. -/
lemma dependencies_main :
    (s.main i c d).dependencies = c.consumers.map fun x =>
      ⟨x, (x.resolve (s.settings i c d) (s.writers i c d).dictionary).1.producer⟩ := by
  rw [main_eq, MainState.dependencies, List.map_map]
  rfl

/-- A dependency after the pass over all consumers is a consumer with what it is resolved to. -/
lemma mem_dependencies_main_iff {dep : Dependency} :
    dep ∈ (s.main i c d).dependencies ↔ dep.consumer ∈ c.consumers ∧
      dep.producer = (dep.consumer.resolve (s.settings i c d)
        (s.writers i c d).dictionary).1.producer := by
  rw [dependencies_main, List.mem_map]
  constructor
  · rintro ⟨x, hx, rfl⟩
    exact ⟨hx, rfl⟩
  · rintro ⟨hx, hproducer⟩
    exact ⟨dep.consumer, hx, by rw [← hproducer]⟩

variable (s i c d)

/-- After the pass over writers resolving a consumer leaves the dictionary as it is, so that
consumers are bound to the same producers in whatever order they are taken. -/
theorem resolve_settings :
    (∀ x ∈ c.consumers,
      (x.resolve (s.settings i c d) (s.writers i c d).dictionary).2 =
        (s.writers i c d).dictionary) ∧
      ∀ order : List Consumer, (∀ x ∈ order, x ∈ c.consumers) →
        s.mainPass (s.writers i c d).pool.index order (s.writers i c d).dictionary =
          ⟨(s.writers i c d).dictionary, order.map fun x =>
            (x, (x.resolve (s.settings i c d) (s.writers i c d).dictionary).1)⟩ := by
  have hresolve : ∀ x ∈ c.consumers,
      (x.resolve (s.settings i c d) (s.writers i c d).dictionary).2 =
        (s.writers i c d).dictionary :=
    fun x hx => Consumer.resolve_snd_of_not_isFresh (not_isFresh_settings hx)
  exact ⟨hresolve, fun order horder => mainPass_eq fun x hx => hresolve x (horder x hx)⟩

/-- The parameter of the request `PUT /stores/{id}`. -/
def storeId : Consumer where
  resource := .situated .input { endpoint := "/stores/\x7bid\x7d", method := .put }
    (.ofPathParameter "id" "/stores/\x7bid\x7d") (Convention.infer "id") .string
  kind := .path

/-- A writer that is met twice is bound to its suffix both times, and the dictionary has the suffix
from the pass over writers on. -/
theorem resolve_settings_storeId :
    let c : Collection := { consumers := [storeId] }
    let writers := ({} : Setup).writers {} c .standard
    writers.dictionary.uuidSuffixes.contains "id" = true ∧
      (storeId.resolve (({} : Setup).settings {} c .standard) writers.dictionary).2 =
        writers.dictionary ∧
      ({} : Setup).mainPass writers.pool.index [storeId, storeId] writers.dictionary =
        ⟨writers.dictionary, [storeId, storeId].map fun x =>
          (x, (x.resolve (({} : Setup).settings {} c .standard) writers.dictionary).1)⟩ := by
  obtain ⟨hresolve, hmain⟩ := resolve_settings {} {} { consumers := [storeId] } .standard
  exact ⟨by decide +kernel, hresolve storeId List.mem_cons_self, hmain [storeId, storeId] (by simp)⟩

end Setup

end RestFlow

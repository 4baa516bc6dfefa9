import Mathlib.Data.List.Forall2
import RestFlow.Proofs.Extraction.Collection
import RestFlow.Proofs.Extraction.WriterPass
import RestFlow.Proofs.Sequence.Settled

/-!
# Agreeing runs

Runs with the same index agree, and so do runs over the same requests in another order.
-/

namespace RestFlow

/-!
## Runs with the same index

After the collection nothing is read of an interface but the directives on its requests, and of
these no more than the inputs that they name and the constraints that they make.  Two runs with the
same consumers, and with the same index before the pass over writers, do the same in every pass
(`Setup.mirrored_eq_of_index_eq`).

Their results are the same then, except for the spelling of constraints.  In this sense they agree
(`Extraction.Agrees`) if the constraints do (`Setup.agrees_assembled`).
-/

namespace Extraction

/-- Two results agree in everything but the spelling of constraints. -/
structure Agrees (x y : Extraction) : Prop where
  dependencies : x.dependencies = y.dependencies
  consumers : x.consumers = y.consumers
  producers : (x.producers == y.producers) = true
  orderingConstraints : (x.orderingConstraints == y.orderingConstraints) = true
  dictionary : x.dictionary = y.dictionary
  statistics : x.statistics = y.statistics

end Extraction

namespace Setup

variable {s : Setup} {i i' : Interface} {c c' : Collection} {d : Dictionary}
  (hconsumers : c.consumers = c'.consumers)
  (hindex : (s.initialPool i c).index = (s.initialPool i' c').index)
include hconsumers hindex

/-- Writers are resolved alike. -/
lemma writers_eq_of_index_eq :
    (s.writers i c d).pool.index = (s.writers i' c' d).pool.index ∧
      (s.writers i c d).dictionary = (s.writers i' c' d).dictionary ∧
      (s.writers i c d).count = (s.writers i' c' d).count := by
  have hwriters : c.pathWriters = c'.pathWriters := by
    rw [Collection.pathWriters, Collection.pathWriters, hconsumers]
  have hpreliminary : s.preliminary i c = s.preliminary i' c' := by
    rw [preliminary, preliminary, hindex]
  refine ⟨?_, ?_, ?_⟩
  · rw [writers_pool, writers_pool, hwriters, hpreliminary]
    exact ProducerPool.index_addAll_congr hindex _ _
  · rw [writers_dictionary, writers_dictionary, hwriters, hpreliminary]
  · rw [writers_count, writers_count, hwriters, hpreliminary]

/-- All consumers are resolved alike. -/
lemma main_eq_of_index_eq : s.main i c d = s.main i' c' d := by
  obtain ⟨hwriters, hdictionary, -⟩ := writers_eq_of_index_eq (d := d) hconsumers hindex
  rw [main, main, hwriters, hdictionary, hconsumers]

/-- Properties are mirrored alike. -/
theorem mirrored_eq_of_index_eq : s.mirrored i c d = s.mirrored i' c' d := by
  obtain ⟨hwriters, -, -⟩ := writers_eq_of_index_eq (d := d) hconsumers hindex
  rw [mirrored, mirrored, hwriters, main_eq_of_index_eq hconsumers hindex]

/-- The results that are put together agree if the constraints do. -/
theorem agrees_assembled (hconstraints : (s.constraints i (s.mirrored i' c' d).dependencies ==
      s.constraints i' (s.mirrored i' c' d).dependencies) = true) (groups : DependencyGroups) :
    (s.assembled i c d groups).Agrees (s.assembled i' c' d groups) := by
  obtain ⟨hwriters, -, hcount⟩ := writers_eq_of_index_eq (d := d) hconsumers hindex
  have hmain := main_eq_of_index_eq (d := d) hconsumers hindex
  have hmirrored := mirrored_eq_of_index_eq (d := d) hconsumers hindex
  refine ⟨rfl, hconsumers, ?_, ?_, ?_, ?_⟩
  · simp only [assembled, hwriters, hmirrored]
    refine beq_of_forall₂ (List.rel_append (List.forall₂_same.mpr fun _ _ => ReflBEq.rfl) ?_)
    rw [OrderingConstraint.producers, OrderingConstraint.producers, List.forall₂_map_left_iff,
      List.forall₂_map_right_iff]
    exact forall₂_of_beq hconstraints
  · simp only [assembled, hmirrored]
    exact hconstraints
  · simp only [assembled, hmirrored]
  · simp only [assembled, hmain, hmirrored, hcount, hconsumers]

end Setup

/-!
## The order of requests does not matter

The requests of an interface may be described in any order.  Consumers and producers arrive in
another order then, but they are sorted before anything is looked up, and ties arise only inside one
request (`Collection.Rearranged`).  Directives are gone through in another order, too, but two of
them never lead to different inputs that sort alike (`Directive.eq_of_sortKey_eq`).  So the
strategies look at the same index, and every later pass does the same.

Ordering constraints may be spelled differently afterwards, and this is all: such results agree
(`Extraction.Agrees`).
-/

/-- Of two searches each of which accepts the result of the other the results are the same. -/
lemma eq_of_find?_eq_some {α : Type} {p q : α → Bool} {l : List α} {a b : α}
    (ha : l.find? p = some a) (hb : l.find? q = some b) (hpb : p b = true) (hqa : q a = true) :
    a = b := by
  induction l with
  | nil => cases ha
  | cons x rest ih =>
    rw [List.find?_cons] at ha hb
    by_cases hp : p x
    · rw [hp] at ha
      obtain rfl := Option.some.inj ha
      rw [hqa] at hb
      exact Option.some.inj hb
    · by_cases hq : q x
      · rw [hq] at hb
        obtain rfl := Option.some.inj hb
        exact absurd hpb hp
      · rw [Bool.eq_false_iff.mpr hp] at ha
        rw [Bool.eq_false_iff.mpr hq] at hb
        exact ih ha hb

/-! ### Inputs that sort alike -/

namespace Resource

/-- Resources at plain places that sort alike belong to one request and have the same name and
place. -/
lemma of_sortKey_eq {a b : Resource} (ha : ∀ p, a.place? = some p → p.Plain)
    (hb : ∀ p, b.place? = some p → p.Plain) (h : a.sortKey = b.sortKey) :
    (a.request == b.request) = true ∧ a.name = b.name ∧ a.place? = b.place? := by
  obtain ⟨hplace, hmethod, hmapKey, hname, hword⟩ := SortKey.mk.inj h
  have hkind : a.reference.kind = b.reference.kind := ParameterKind.word_injective hword
  refine ⟨RequestId.beq_iff.mpr (Prod.ext hplace hmethod), hname, ?_⟩
  have hsome : a.place?.isSome = b.place?.isSome := by
    rw [Bool.eq_iff_iff, place?, place?, Reference.isSome_place?_iff, Reference.isSome_place?_iff,
      hkind]
  cases hpa : a.place? with
  | none =>
    rw [hpa] at hsome
    exact (Option.not_isSome_iff_eq_none.mp (by simp [← hsome])).symm
  | some p =>
    cases hpb : b.place? with
    | none => simp [hpa, hpb] at hsome
    | some q =>
      rw [mapKey, mapKey, hpa, hpb] at hmapKey
      rw [(ha p hpa).eq_of_pointer_eq (hb q hpb) hmapKey]

end Resource

namespace Setup

variable {s : Setup} {i : Interface} {c : Collection}

/-- Inputs are at plain places if no name in a body has a slash in it. -/
lemma IsInputOf.plain {e : RequestEntry} {x : Consumer} (h : s.IsInputOf e x)
    (hslash : ∀ tree ∈ e.data.body, tree.isSlashFree = true) :
    ∀ p, x.resource.place? = some p → p.Plain := by
  obtain ⟨r, type, hr, -, hres⟩ := h
  have hplace : x.resource.place? = r.place? := by
    rw [Resource.place?, hres]
    rfl
  intro p hp
  rw [hplace] at hp
  cases hr with
  | path name => cases hp
  | query name => cases hp
  | header name => cases hp
  | body htree hv =>
    rw [← Option.some.inj hp]
    exact Tree.plain_of_mem_visits (hslash _ htree) hv

/-- Consumers are at plain places if no name in a body has a slash in it. -/
lemma plain_of_mem_consumers
    (hslash : ∀ e ∈ i.requests, ∀ tree ∈ e.data.body, tree.isSlashFree = true)
    (hc : (s.collect i).2 = .ok c) {x : Consumer} (hx : x ∈ c.consumers) :
    ∀ p, x.resource.place? = some p → p.Plain := by
  obtain ⟨e, he, part, hpart, hxp⟩ := exists_of_mem_collect hc hx
  exact (isInputOf_of_mem_collectEntry hpart x hxp).plain
    (hslash e (Interface.mem_of_mem_distinct he))

end Setup

/-! ### Inputs of directives in another order -/

namespace Directive

variable {c c' : Collection}

/-- Two directives do not lead to different inputs that sort alike. -/
theorem eq_of_sortKey_eq
    (hplain : ∀ x ∈ c.consumers, ∀ p, x.resource.place? = some p → p.Plain) {a b : Directive}
    {r r' : Resource} (ha : a.source c = .input r) (hb : b.source c = .input r')
    (h : r.sortKey = r'.sortKey) : r = r' := by
  obtain ⟨parameter, x, -, hx, rfl⟩ := find?_of_source_eq_input ha
  obtain ⟨parameter', y, -, hy, rfl⟩ := find?_of_source_eq_input hb
  have hxtest := List.find?_some hx
  have hytest := List.find?_some hy
  obtain ⟨hrequest, hname, hplace⟩ := Resource.of_sortKey_eq
    (hplain x (List.mem_of_find?_eq_some hx)) (hplain y (List.mem_of_find?_eq_some hy)) h
  have hxy : x.name = y.name := hname
  have hkey : x.request.key = y.request.key := RequestId.beq_iff.mp hrequest
  -- each directive accepts the input of the other one, and takes the first that it accepts
  have haccepts : ∀ z : RequestId, (x.request == z) = (y.request == z) := by
    intro z
    rw [Bool.eq_iff_iff, RequestId.beq_iff, RequestId.beq_iff, hkey]
  rw [haccepts, hxy, hplace] at hxtest
  rw [← haccepts, ← hxy, ← hplace] at hytest
  rw [eq_of_find?_eq_some hx hy hxtest hytest]

/-- A directive leads to the same input whatever the order of the responses is. -/
lemma source_congr (hconsumers : c.consumers = c'.consumers)
    (hresponses : c.responses.Perm c'.responses) (a : Directive) : a.source c = a.source c' := by
  unfold source
  cases a.producerParameter with
  | none => rfl
  | some parameter =>
    dsimp only
    rw [hconsumers, hresponses.any_eq]

/-- Directives in another order lead to the same inputs in another order. -/
lemma inputs_perm {as as' : List Directive} (hp : as.Perm as')
    (hconsumers : c.consumers = c'.consumers) (hresponses : c.responses.Perm c'.responses) :
    (inputs as c).Perm (inputs as' c') := by
  unfold inputs
  simp only [source_congr hconsumers hresponses]
  exact hp.filterMap _

end Directive

/-! ### Collections -/

/-- What requests in another order consume and produce: the consumers are listed in the same order,
and the producers are the same once they are sorted. -/
structure Collection.Rearranged (c c' : Collection) : Prop where
  consumers : c.consumers = c'.consumers
  responses : c.responses.Perm c'.responses
  sortedResponses : sortOn Resource.sortKey c.responses = sortOn Resource.sortKey c'.responses
  sortedSameBody : sortOn Resource.sortKey c.sameBody = sortOn Resource.sortKey c'.sameBody

namespace Setup

variable {s : Setup} {i i' : Interface} {c c' : Collection} {d : Dictionary}

variable (s) in
/-- What a request contributes to the collection, if it can be collected. -/
def contribution (e : RequestEntry) : Collection :=
  (s.collectEntry e).toOption.getD {}

/-- What can be collected is contributed. -/
lemma collectEntry_eq_contribution {e : RequestEntry} {part : Collection}
    (h : s.collectEntry e = .ok part) : s.collectEntry e = .ok (s.contribution e) := by
  rw [contribution, h]
  rfl

/-- Without repetitions, a collection consists of the contributions of all requests. -/
lemma collect_eq_ok_iff_of_pairwise (hdiffer : i.requests.Pairwise RequestEntry.Differ) :
    (s.collect i).2 = .ok c ↔ (∀ e ∈ i.requests, ∃ part, s.collectEntry e = .ok part) ∧
      c = (Collection.join (i.requests.map s.contribution)).listed := by
  have hdistinct : i.distinct = i.requests :=
    RequestEntry.distinctFrom_eq_self hdiffer fun _ _ => rfl
  rw [collect_eq_ok_iff, hdistinct]
  constructor
  · rintro ⟨parts, hparts, rfl⟩
    have hall := forall_of_mapM_eq_ok hparts
    have hcontributions := mapM_eq_ok_map fun e he =>
      collectEntry_eq_contribution (hall e he).choose_spec
    rw [hcontributions] at hparts
    exact ⟨hall, by rw [Except.ok.inj hparts]⟩
  · rintro ⟨hall, rfl⟩
    exact ⟨_, mapM_eq_ok_map fun e he =>
      collectEntry_eq_contribution (hall e he).choose_spec, rfl⟩

variable (hp : i.requests.Perm i'.requests) (hdiffer : i.requests.Pairwise RequestEntry.Differ)
include hp hdiffer

/-- Requests in another order can be collected if they can in the first order. -/
lemma exists_collect_of_perm (hc : (s.collect i).2 = .ok c) : ∃ c', (s.collect i').2 = .ok c' := by
  have hall := ((collect_eq_ok_iff_of_pairwise hdiffer).mp hc).1
  have hdiffer' := hp.pairwise hdiffer (fun h => Std.Symm.symm _ _ h)
  exact ⟨_, (collect_eq_ok_iff_of_pairwise hdiffer').mpr
    ⟨fun e he => hall e (hp.mem_iff.mpr he), rfl⟩⟩

/-- What belongs to different requests does not sort alike, so requests may be reordered before what
they contribute is sorted. -/
lemma sortOn_flatMap_perm {α κ : Type} [Ord κ] [Std.TransOrd κ] {key : α → κ}
    {request : α → RequestId} {part : RequestEntry → List α}
    (hkey : ∀ a b, compare (key a) (key b) = .eq → (request a == request b) = true)
    (hpart : ∀ e ∈ i.requests, ∀ a ∈ part e, request a = e.id) :
    sortOn key (i.requests.flatMap part) = sortOn key (i'.requests.flatMap part) := by
  rw [sortOn_eq_sortBy, sortOn_eq_sortBy]
  refine sortBy_flatMap_perm hp fun x hx y hy hne a ha b hb heq => ?_
  have hrequest := hkey a b heq
  rw [hpart x hx a ha, hpart y hy b hb] at hrequest
  have hdiffers := hdiffer.forall hx hy hne
  rw [RequestEntry.Differ, hrequest] at hdiffers
  cases hdiffers

/-- Requests in another order consume and produce the same in another order. -/
lemma rearranged_of_perm (hc : (s.collect i).2 = .ok c) (hc' : (s.collect i').2 = .ok c') :
    c.Rearranged c' := by
  obtain ⟨hall, rfl⟩ := (collect_eq_ok_iff_of_pairwise hdiffer).mp hc
  have hdiffer' := hp.pairwise hdiffer (fun h => Std.Symm.symm _ _ h)
  obtain ⟨-, rfl⟩ := (collect_eq_ok_iff_of_pairwise hdiffer').mp hc'
  have hpart : ∀ e ∈ i.requests, s.collectEntry e = .ok (s.contribution e) :=
    fun e he => collectEntry_eq_contribution (hall e he).choose_spec
  have hresource : ∀ a b : Resource, compare a.sortKey b.sortKey = .eq →
      (a.request == b.request) = true := by
    intro a b h
    obtain ⟨hplace, hmethod, -⟩ := Resource.SortKey.mk.inj (Std.LawfulEqOrd.eq_of_compare h)
    exact RequestId.beq_iff.mpr (Prod.ext hplace hmethod)
  simp only [Collection.listed]
  -- keys of different requests do not tie, so sorting undoes the change of order
  refine ⟨?_, ?_, ?_, ?_⟩
  · simp only [Collection.consumers_join, List.flatMap_map, Consumer.listed]
    exact sortOn_flatMap_perm hp hdiffer (fun _ _ => Consumer.request_beq_of_compare_listingKey)
      fun e he x hx => (isInputOf_of_mem_collectEntry (hpart e he) x hx).request_eq
  · simp only [Collection.responses_join, List.flatMap_map]
    exact hp.flatMap_right _
  · simp only [Collection.responses_join, List.flatMap_map]
    exact sortOn_flatMap_perm hp hdiffer hresource
      fun e he => request_of_mem_responses (hpart e he)
  · simp only [Collection.sameBody_join, List.flatMap_map]
    exact sortOn_flatMap_perm hp hdiffer hresource
      fun e he => request_of_mem_sameBody (hpart e he)

end Setup

/-! ### Pools -/

/-- Pools with the same producers in another order, none of whose inputs sort alike. -/
structure ProducerPool.Rearranged (p p' : ProducerPool) : Prop where
  responses : sortOn Resource.sortKey p.responses = sortOn Resource.sortKey p'.responses
  sameBody : sortOn Resource.sortKey p.sameBody = sortOn Resource.sortKey p'.sameBody
  inputs : p.inputs.Perm p'.inputs
  separate : ∀ a ∈ p.inputs, ∀ b ∈ p.inputs, a ≠ b →
    compareOn (fun i => i.1.sortKey) a b ≠ .eq

namespace ProducerPool.Rearranged

variable {p p' : ProducerPool}

/-- Both pools have the same index. -/
lemma index_eq (h : p.Rearranged p') : p.index = p'.index := by
  have hinputs : sortOn (fun i => i.1.sortKey) p.inputs =
      sortOn (fun i => i.1.sortKey) p'.inputs := by
    rw [sortOn_eq_sortBy, sortOn_eq_sortBy]
    exact sortBy_eq_of_perm_of_ne h.inputs h.separate
  rw [index, index, h.responses, h.sameBody, hinputs]

end ProducerPool.Rearranged

namespace Setup

variable {s : Setup} {i i' : Interface} {c c' : Collection} {d : Dictionary}

lemma declaredDirectives_perm (hp : i.requests.Perm i'.requests) :
    (s.declaredDirectives i).Perm (s.declaredDirectives i') :=
  (hp.flatMap_right _).append_right _

/-- The producers that are known at first are the same in another order. -/
lemma rearranged_initialPool (hp : i.requests.Perm i'.requests)
    (hplain : ∀ x ∈ c.consumers, ∀ p, x.resource.place? = some p → p.Plain)
    (h : c.Rearranged c') : (s.initialPool i c).Rearranged (s.initialPool i' c') := by
  -- inputs with one key are the same, so it does not matter which of them comes first
  have heq : ∀ a ∈ Directive.inputs (s.declaredDirectives i) c,
      ∀ b ∈ Directive.inputs (s.declaredDirectives i) c, a.sortKey = b.sortKey → a = b := by
    intro a ha b hb hkey
    obtain ⟨x, -, hx⟩ := Directive.mem_inputs_iff.mp ha
    obtain ⟨y, -, hy⟩ := Directive.mem_inputs_iff.mp hb
    exact Directive.eq_of_sortKey_eq hplain hx hy hkey
  have hbeq : ∀ a ∈ Directive.inputs (s.declaredDirectives i) c,
      ∀ b ∈ Directive.inputs (s.declaredDirectives i) c, (a == b) = true → a = b :=
    fun a ha b hb hab => heq a ha b hb (Resource.sortKey_eq_of_beq hab)
  rw [initialPool_eq, initialPool_eq]
  refine ⟨?_, ?_, ?_, ?_⟩
  · rw [ProducerPool.responses_addAll, ProducerPool.responses_addAll]
    exact h.sortedResponses
  · rw [ProducerPool.sameBody_addAll, ProducerPool.sameBody_addAll]
    exact h.sortedSameBody
  · exact ProducerPool.inputs_addAll_perm rfl rfl
      (Directive.inputs_perm (declaredDirectives_perm hp) h.consumers h.responses) hbeq
  · intro a ha b hb hne hcompare
    rw [ProducerPool.mem_inputs_addAll_iff rfl hbeq] at ha hb
    have hkey : a.1.sortKey = b.1.sortKey := Std.LawfulEqOrd.eq_of_compare hcompare
    exact hne (Prod.ext (heq _ ha.1 _ hb.1 hkey) (ha.2.trans hb.2.symm))

/-! ### Results -/

/-- Constraints of directives in another order settle to equal ones. -/
lemma constraints_perm (hp : i.requests.Perm i'.requests) (l : List Dependency) :
    List.Forall₂ (fun a b => (a == b) = true) (s.constraints i l) (s.constraints i' l) := by
  have howned : (s.ownedDirectives i).Perm (s.ownedDirectives i') :=
    (hp.flatMap_right _).append_right _
  exact OrderingConstraint.settled_perm ((howned.filterMap _).append_right _)

variable (hp : i.requests.Perm i'.requests) (hdiffer : i.requests.Pairwise RequestEntry.Differ)
  (hslash : ∀ e ∈ i.requests, ∀ tree ∈ e.data.body, tree.isSlashFree = true)
include hp hdiffer hslash

/-- A run that succeeds does so for requests in another order, with an agreeing result. -/
lemma exists_extract_of_perm {x : Extraction} (hx : (s.extract i d).2 = .ok x) :
    ∃ y, (s.extract i' d).2 = .ok y ∧ x.Agrees y := by
  obtain ⟨c, groups, hc, hgroups, rfl⟩ := extract_eq_ok_iff.mp hx
  obtain ⟨c', hc'⟩ := exists_collect_of_perm hp hdiffer hc
  -- what is collected comes in another order and is sorted into the same one
  have hrearranged := rearranged_of_perm hp hdiffer hc hc'
  have hpool : (s.initialPool i c).Rearranged (s.initialPool i' c') :=
    rearranged_initialPool hp (fun x hx => plain_of_mem_consumers hslash hc hx) hrearranged
  -- constraints are the same up to how requests are spelled
  have hconstraints := constraints_perm (s := s) hp (s.mirrored i' c' d).dependencies
  have hagrees := agrees_assembled hrearranged.consumers hpool.index_eq
    (beq_of_forall₂ hconstraints) groups
  rw [mirrored_eq_of_index_eq hrearranged.consumers hpool.index_eq] at hgroups
  exact ⟨_, extract_eq_ok_iff.mpr ⟨c', groups, hc', hgroups, rfl⟩, hagrees⟩

/-- Runs over the same requests in another order both succeed or both fail, and if they succeed
their results agree. -/
theorem extract_perm (s : Setup) (d : Dictionary) :
    ((∃ x, (s.extract i d).2 = .ok x) ↔ ∃ y, (s.extract i' d).2 = .ok y) ∧
      ∀ x y, (s.extract i d).2 = .ok x → (s.extract i' d).2 = .ok y → x.Agrees y := by
  have hdiffer' : i'.requests.Pairwise RequestEntry.Differ :=
    hp.pairwise hdiffer fun h => Std.Symm.symm _ _ h
  have hslash' : ∀ e ∈ i'.requests, ∀ tree ∈ e.data.body, tree.isSlashFree = true :=
    fun e he => hslash e (hp.mem_iff.mpr he)
  refine ⟨⟨?_, ?_⟩, ?_⟩
  · rintro ⟨x, hx⟩
    obtain ⟨y, hy, -⟩ := exists_extract_of_perm hp hdiffer hslash hx
    exact ⟨y, hy⟩
  · -- the requests are put back in their first order
    rintro ⟨y, hy⟩
    obtain ⟨x, hx, -⟩ := exists_extract_of_perm hp.symm hdiffer' hslash' hy
    exact ⟨x, hx⟩
  · intro x y hx hy
    obtain ⟨y', hy', hagrees⟩ := exists_extract_of_perm hp hdiffer hslash hx
    rw [hy] at hy'
    rw [Except.ok.inj hy']
    exact hagrees

omit hp hdiffer hslash

/-- The request `POST /stores`, which takes the name of a store and returns its `id`. -/
def postStore : RequestEntry where
  id := { endpoint := "/stores", method := .post }
  data := {
    body := some (.internal "" .object true false
      [.leaf ⟨"name", .fuzzable .string none, true, false⟩])
    responseBody := some (.internal "" .object true false
      [.leaf ⟨"id", .fuzzable .string none, true, false⟩]) }

/-- The request `GET /stores/{storeId}`. -/
def getStore : RequestEntry where
  id := { endpoint := "/stores/\x7bstoreId\x7d", method := .get }
  data := { pathParameters :=
    [⟨"storeId", .leaf ⟨"storeId", .fuzzable .string none, true, false⟩, none⟩] }

/-- Creating and reading a store may be described in either order. -/
theorem agrees_postStore_getStore :
    ∃ x y, (({} : Setup).extract ⟨[postStore, getStore]⟩ .standard).2 = .ok x ∧
      (({} : Setup).extract ⟨[getStore, postStore]⟩ .standard).2 = .ok y ∧ x.Agrees y := by
  have hdiffer : [postStore, getStore].Pairwise RequestEntry.Differ := by
    simp only [List.pairwise_pair]
    rfl
  have hslash : ∀ e ∈ [postStore, getStore], ∀ tree ∈ e.data.body, tree.isSlashFree = true := by
    decide
  obtain ⟨hiff, hagrees⟩ := extract_perm (i := ⟨[postStore, getStore]⟩)
    (List.Perm.swap getStore postStore []) hdiffer hslash {} .standard
  have hok : (({} : Setup).extract ⟨[postStore, getStore]⟩ .standard).2.isOk = true := by
    decide +kernel
  obtain ⟨x, hx⟩ := exists_of_isOk hok
  obtain ⟨y, hy⟩ := hiff.mp ⟨x, hx⟩
  exact ⟨x, y, hx, hy, hagrees x y hx hy⟩

end Setup

end RestFlow

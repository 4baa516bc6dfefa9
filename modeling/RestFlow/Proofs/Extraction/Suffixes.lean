import RestFlow.Proofs.Extraction.Ambiguity
import RestFlow.Proofs.Extraction.Bonds
import RestFlow.Proofs.Extraction.Mirroring
import RestFlow.Proofs.Extraction.Parts
import RestFlow.Proofs.Extraction.Readers

/-!
# Suffixes

The suffixes that a run adds to its dictionary, and what becomes of another run that is given them.
-/

namespace RestFlow

/-!
## What a run adds to the dictionary

Three passes hand the dictionary on.  The pass over writers adds suffixes under the names of
trailing path parameters of PUTs, the pass over all consumers adds nothing, and the pass over
mirrored properties adds suffixes under the names of properties that somebody mirrors from then on.

So every suffix that a result has gained was generated for its name, and the name belongs to
somebody in the result (`Setup.growsFor_extract`).
-/

namespace Extraction

/-- The name belongs to the trailing path parameter of a PUT, or to a property that somebody
mirrors. -/
def Owns (x : Extraction) (name : String) : Prop :=
  (∃ y ∈ x.consumers, y.kind = .path ∧ y.request.method = .put ∧ y.isTrailing = true ∧
      y.name = name) ∨
    Dependency.IsMirroredName x.all name

end Extraction

namespace Setup

variable {s : Setup} {i : Interface} {c : Collection} {d : Dictionary}

/-- The pass over writers adds suffixes for writers. -/
lemma growsFor_writers {reason : String → Prop} (h : ∀ x ∈ c.pathWriters, reason x.name) :
    d.GrowsFor reason (s.writers i c d).dictionary := by
  rw [writers_dictionary]
  exact Consumer.growsFor_dictionaryAfter (s.preliminary i c) c.pathWriters d h

/-- Names of mirrored properties are those of properties mirrored in the result. -/
lemma isMirroredName_all {groups : DependencyGroups} {name : String}
    (hgroups : DependencyGroups.ofList (Dependency.aliasInputs (s.mirrored i c d).dependencies) =
      .ok groups)
    (h : Dependency.IsMirroredName (s.mirrored i c d).dependencies name) :
    Dependency.IsMirroredName groups.all name := by
  obtain ⟨dep, hdep, r, hr, hname⟩ := h
  refine ⟨Dependency.aliased (s.mirrored i c d).dependencies dep, ?_, r, ?_, hname⟩
  · rw [DependencyGroups.mem_all_iff hgroups, Dependency.aliasInputs_eq]
    exact List.mem_map_of_mem hdep
  · exact Dependency.mirrors_aliased_iff.mpr hr

/-- A run loses nothing of the dictionary, and adds only suffixes that are generated for names with
an owner in the result. -/
theorem growsFor_extract {result : Extraction} (hresult : (s.extract i d).2 = .ok result) :
    d.GrowsFor result.Owns result.dictionary ∧
      result.statistics.uuidSuffixes = result.dictionary.uuidSuffixes.size := by
  obtain ⟨c, groups, hc, hgroups, rfl⟩ := extract_eq_ok_iff.mp hresult
  refine ⟨?_, rfl⟩
  have hwriters : d.GrowsFor (s.assembled i c d groups).Owns (s.writers i c d).dictionary := by
    refine growsFor_writers fun x hx => .inl ?_
    obtain ⟨hmem, hkind, hput, htrailing⟩ := Collection.mem_pathWriters_iff.mp hx
    exact ⟨x, hmem, hkind, hput, htrailing, rfl⟩
  have hmirrored : (s.writers i c d).dictionary.GrowsFor (s.assembled i c d groups).Owns
      (s.mirrored i c d).dictionary := by
    have hgrows := (isMirrored_mirrored s i c d).dictionary
    rw [dictionary_main] at hgrows
    exact hgrows.mono fun name hname => .inr (isMirroredName_all hgroups hname)
  exact hwriters.trans hmirrored

end Setup

namespace Interface

/-- Stores are created by a PUT, and carts hold an `id` and a `name`. -/
def storesAndCarts : Interface where
  requests := [
    { id := { endpoint := "/stores/\x7bstoreId\x7d", method := .put }
      data := { pathParameters := [stringParameter "storeId"] } },
    { id := { endpoint := "/carts", method := .post }
      data := {
        body := some (.internal "" .object true false
          [(stringParameter "id").payload, (stringParameter "name").payload]) } }]

end Interface

namespace Setup

open Interface

/-- The dictionary gains a suffix for the path parameter, and another one for the `name` that the
`id` mirrors. -/
lemma extract_storesAndCarts :
    ∃ result, (({} : Setup).extract storesAndCarts .standard).2 = .ok result ∧
      result.dictionary.uuidSuffixes.get? "storeId" = some "storeid" ∧
      result.dictionary.uuidSuffixes.get? "name" = some "name" :=
  ⟨_, rfl, rfl, rfl⟩

/-- Both suffixes are generated for names with an owner. -/
theorem owns_storesAndCarts :
    ∃ result, (({} : Setup).extract storesAndCarts .standard).2 = .ok result ∧
      Dictionary.standard.GrowsFor result.Owns result.dictionary ∧
      result.Owns "storeId" ∧ result.Owns "name" ∧
      result.statistics.uuidSuffixes = result.dictionary.uuidSuffixes.size := by
  obtain ⟨result, hresult, hstore, hname⟩ := extract_storesAndCarts
  obtain ⟨hgrows, hsize⟩ := growsFor_extract hresult
  exact ⟨result, hresult, hgrows, (hgrows.added _ _ hstore rfl).2,
    (hgrows.added _ _ hname rfl).2, hsize⟩

end Setup

/-!
## A second run

The dictionary that a run hands on may be given to another run over the same interface.  More
consumers then find something in it, more writers become producers, and fewer body properties are
left to the pass over mirrored properties, so that the second run takes a course of its own.

Without directives it adds nothing to the dictionary all the same
(`Setup.dictionary_extract_twice`).  No writer is fresh any more
(`Setup.writers_dictionary_handedOn`).  If a consumer mirrors a property in the second run, the name
of the property has got its suffix in the first one:

* If the request assigns the consumer, its own name has no suffix, or else it would be bound to it.
  So nobody mirrored the consumer in the first run, and it had to find the property itself
  (`Setup.contains_handedOn_of_isWriter`).
* For the others suffixes make no difference.  They are bound alike in both runs, whatever happens
  to those that a request assigns (`Setup.part_mirrored_handedOn`).
-/

namespace Consumer

/-- The consumer is a body property that its request does not assign. -/
def isUnassigned (c : Consumer) : Bool :=
  c.kind == .body && !c.isWriter

lemma isUnassigned_iff {c : Consumer} :
    c.isUnassigned = true ↔ c.kind = .body ∧ c.isWriter = false := by
  rw [isUnassigned, Bool.and_eq_true, beq_iff_eq, Bool.not_eq_true']

/-- A request assigns all of its body properties or none. -/
lemma isUnassigned_eq_of_body {c c' : Consumer} (hc : c.kind = .body) (hc' : c'.kind = .body)
    (h : (c.request == c'.request) = true) : c.isUnassigned = c'.isUnassigned := by
  have hmethod : c.request.method = c'.request.method :=
    (Prod.mk.inj (RequestId.beq_iff.mp h)).2
  simp only [isUnassigned, isWriter, hc, hc', hmethod]

end Consumer

namespace Setup

variable {s : Setup} {i : Interface} {c : Collection} {d : Dictionary} {x : Consumer}
  {r : Resource}

variable (s i c d) in
/-- The dictionary that a run hands on. -/
def handedOn : Dictionary :=
  (s.mirrored i c d).dictionary

/-! ### The pass over writers -/

/-- The dictionary that a run hands on has grown since the pass over writers. -/
lemma grows_handedOn : (s.writers i c d).dictionary.Grows (s.handedOn i c d) := by
  have hgrows := (isMirrored_mirrored s i c d).dictionary.toGrows
  rwa [dictionary_main] at hgrows

/-- The pass over writers of a second run adds nothing to the dictionary. -/
theorem writers_dictionary_handedOn :
    (s.writers i c (s.handedOn i c d)).dictionary = s.handedOn i c d := by
  rw [writers_dictionary]
  refine Consumer.dictionaryAfter_eq_self fun x hx hfresh => ?_
  have hbefore := hfresh.anti (.refl _) grows_handedOn
  rw [writers_dictionary] at hbefore
  exact Consumer.not_isFresh_dictionaryAfter hx d hbefore

/-! ### The pass over all consumers -/

/-- For a body property the index comes to the same in all runs. -/
lemma indexOutcome_settings (hc : (s.collect i).2 = .ok c) (hx : x ∈ c.consumers)
    (hbody : x.kind = .body) (d d' : Dictionary) (known known' : Dictionary) :
    x.indexOutcome (s.settings i c d') known' = x.indexOutcome (s.settings i c d) known := by
  have hscope : x.resource.reference.scope? = none := by
    rw [← Option.not_isSome_iff_eq_none, Reference.isSome_scope?_iff,
      ← kind_eq_of_mem_consumers hc hx, hbody]
    exact ParameterKind.noConfusion
  rw [(s.extends_settings i c d').indexOutcome_eq hscope known,
    (s.extends_settings i c d).indexOutcome_eq hscope known]

section SecondRun

variable (hnone : s.declaredDirectives i = []) (hc : (s.collect i).2 = .ok c)
include hnone hc

/-- A body property that the request does not assign is bound alike in both runs. -/
lemma producer_handedOn_of_not_isWriter (hx : x ∈ c.consumers) (hbody : x.kind = .body)
    (hwriter : x.isWriter = false) :
    (x.resolve (s.settings i c (s.handedOn i c d)) (s.handedOn i c d)).1.producer =
      (x.resolve (s.settings i c d) (s.writers i c d).dictionary).1.producer := by
  have hentry : x.entryAmong (s.settings i c (s.handedOn i c d)) (s.handedOn i c d) =
      x.entryAmong (s.settings i c d) (s.writers i c d).dictionary :=
    Consumer.entryAmong_eq_of_grows rfl grows_handedOn hwriter
  rw [Consumer.resolve_producer_of_named?_eq_none (named?_eq_none hnone hc hx _),
    Consumer.resolve_producer_of_named?_eq_none (named?_eq_none hnone hc hx _), hentry,
    indexOutcome_settings hc hx hbody d _ (s.writers i c d).dictionary]

/-- A body property that the request assigns and that is not bound in the second run has a name
without a suffix, and was not bound in the first run either. -/
lemma unbound_of_unbound_handedOn (hx : x ∈ c.consumers) (hbody : x.kind = .body)
    (hwriter : x.isWriter = true)
    (hunbound :
      (x.resolve (s.settings i c (s.handedOn i c d)) (s.handedOn i c d)).1.producer = none) :
    (s.handedOn i c d).uuidSuffixes.contains x.name = false ∧
      (x.resolve (s.settings i c d) (s.writers i c d).dictionary).1.producer = none := by
  have hnamed := named?_eq_none hnone hc hx
  rw [Consumer.resolve_producer_of_named?_eq_none (hnamed _), Option.or_eq_none_iff,
    Option.map_eq_none_iff] at hunbound
  rw [Consumer.resolve_producer_of_named?_eq_none (hnamed _), Option.or_eq_none_iff,
    Option.map_eq_none_iff]
  obtain ⟨hentry, hindex⟩ := hunbound
  refine ⟨Consumer.contains_eq_false_of_entryAmong_eq_none hwriter hentry, ?_, ?_⟩
  · rw [Option.eq_none_iff_forall_ne_some]
    intro p hp
    -- entries are kept in the second run, so there was none in the first one
    have hkept : x.entryAmong (s.settings i c (s.handedOn i c d)) (s.handedOn i c d) = some p :=
      Consumer.entryAmong_of_grows rfl grows_handedOn hp
    rw [hentry] at hkept
    cases hkept
  · rw [indexOutcome_settings hc hx hbody (s.handedOn i c d) d (s.handedOn i c d)]
    exact hindex

end SecondRun

/-! ### The pass over mirrored properties -/

lemma sameBody_settings_eq (d d' : Dictionary) :
    (s.settings i c d').index.sameBody = (s.settings i c d).index.sameBody := by
  rw [sameBody_settings, sameBody_settings]

section Mirrored

variable (hnone : s.declaredDirectives i = []) (hc : (s.collect i).2 = .ok c)
include hnone hc

/-- If a body property that its request assigns is not bound in the second run, the property that it
is to mirror has got a suffix in the first one. -/
lemma contains_handedOn_of_isWriter (hx : x ∈ c.consumers) (hwriter : x.isWriter = true)
    (hunbound :
      (x.resolve (s.settings i c (s.handedOn i c d)) (s.handedOn i c d)).1.producer = none)
    (hmirror : x.mirror? (s.settings i c d).index s.config.aliases = some r) :
    (s.handedOn i c d).uuidSuffixes.contains r.name = true := by
  obtain ⟨hbody, -⟩ := Consumer.exists_of_mirror? hmirror
  obtain ⟨hname, hbefore⟩ := unbound_of_unbound_handedOn hnone hc hx hbody hwriter hunbound
  obtain ⟨z, hz, rfl⟩ := exists_mem_mirrored s i d hx
  rcases main_or_isBound_of_mem_mirrored hz with
    hmain | ⟨-, q, hq, ⟨-, hmirrorq⟩ | ⟨-, hzq⟩⟩
  · -- whoever is not bound in the end had nothing to mirror
    have hproducer := (mem_dependencies_main_iff.mp hmain).2.trans hbefore
    rw [mirror?_eq_none_of_producer_eq_none hz hproducer] at hmirror
    cases hmirror
  · rw [hmirror] at hmirrorq
    rwa [← Option.some.inj hmirrorq] at hq
  · -- somebody mirrored the consumer, whose name has no suffix
    have hsame : z.consumer.name = q.name := by
      rw [(Resource.beq_eq_true_iff.mp hzq).2]
      rfl
    have hcontains : (s.handedOn i c d).uuidSuffixes.contains z.consumer.name = true := by
      rw [hsame]
      exact hq
    rw [hname] at hcontains
    cases hcontains

/-- The body properties that their requests do not assign are bound alike after both runs. -/
theorem part_mirrored_handedOn :
    Dependency.part Consumer.isUnassigned (s.mirrored i c (s.handedOn i c d)).dependencies =
      Dependency.part Consumer.isUnassigned (s.mirrored i c d).dependencies := by
  -- no body has both assigned and unassigned properties, so their turns can be taken apart
  have hseparate : ∀ e, SameBodyState.IsSeparate (s.settings i c e).index s.config.aliases
      Consumer.isUnassigned (s.main i c e).dependencies := fun e =>
    SameBodyState.isSeparate_of_body
      (fun y hy => kind_eq_of_mem_consumers hc (mem_dependencies_main_iff.mp hy).1)
      fun _ _ hx hx' hrequest => Consumer.isUnassigned_eq_of_body hx hx' hrequest
  have hmain : Dependency.part Consumer.isUnassigned (s.main i c (s.handedOn i c d)).dependencies =
      Dependency.part Consumer.isUnassigned (s.main i c d).dependencies := by
    rw [dependencies_main, dependencies_main, Dependency.part, Dependency.part, List.filter_map,
      List.filter_map]
    refine List.map_congr_left fun x hx => ?_
    obtain ⟨hmem, hkept⟩ := List.mem_filter.mp hx
    obtain ⟨hbody, hwriter⟩ := Consumer.isUnassigned_iff.mp hkept
    rw [writers_dictionary_handedOn, producer_handedOn_of_not_isWriter hnone hc hmem hbody hwriter]
  show Dependency.part Consumer.isUnassigned
      (s.sameBodyPass (s.settings i c (s.handedOn i c d)).index _ _).dependencies =
    Dependency.part Consumer.isUnassigned
      (s.sameBodyPass (s.settings i c d).index _ _).dependencies
  rw [part_sameBodyPass (hseparate _) _ d, part_sameBodyPass (hseparate _) _ d, hmain,
    dependencies_sameBodyPass_congr (sameBody_settings_eq d _) d d]

/-- What somebody mirrors in the second run has got a suffix in the first one. -/
lemma contains_handedOn_of_isMirroredName {name : String}
    (h : Dependency.IsMirroredName (s.mirrored i c (s.handedOn i c d)).dependencies name) :
    (s.handedOn i c d).uuidSuffixes.contains name = true := by
  obtain ⟨y, hy, r, hyr, rfl⟩ := h
  obtain ⟨hunbound, hmirror, -⟩ := of_mirrors hy hyr
  obtain ⟨hmem, hproducer⟩ := mem_dependencies_main_iff.mp hunbound
  rw [writers_dictionary_handedOn] at hproducer
  rw [Consumer.mirror?_congr (sameBody_settings_eq d _)] at hmirror
  cases hwriter : y.consumer.isWriter with
  | true => exact contains_handedOn_of_isWriter hnone hc hmem hwriter hproducer.symm hmirror
  | false =>
    -- the first run has bound the consumer in the same way
    have hkept : y.consumer.isUnassigned = true :=
      Consumer.isUnassigned_iff.mpr ⟨(Consumer.exists_of_mirror? hmirror).1, hwriter⟩
    have hpart := Dependency.mem_part_iff.mpr ⟨hy, hkept⟩
    rw [part_mirrored_handedOn hnone hc] at hpart
    exact (of_mirrors (Dependency.mem_part_iff.mp hpart).1 hyr).2.2

end Mirrored

/-! ### The dictionary -/

/-- Without directives, a run that is given the dictionary which another run hands on adds nothing
to it. -/
theorem dictionary_extract_twice (hnone : s.declaredDirectives i = []) {first second : Extraction}
    (hfirst : (s.extract i d).2 = .ok first)
    (hsecond : (s.extract i first.dictionary).2 = .ok second) :
    second.dictionary = first.dictionary := by
  obtain ⟨c, _, hc, -, rfl⟩ := extract_eq_ok_iff.mp hfirst
  obtain ⟨_, -, rfl⟩ := (extract_eq_ok_iff_of_collect hc).mp hsecond
  have hgrows := (isMirrored_mirrored s i c (s.handedOn i c d)).dictionary
  rw [dictionary_main, writers_dictionary_handedOn] at hgrows
  exact hgrows.eq_of_forall fun _ => contains_handedOn_of_isMirroredName hnone hc

open Interface

/-- In the second run the strategies find one more entry, because the `name` has got a suffix. -/
lemma extract_storesAndCarts_twice :
    ∃ first second, (({} : Setup).extract storesAndCarts .standard).2 = .ok first ∧
      (({} : Setup).extract storesAndCarts first.dictionary).2 = .ok second ∧
      first.statistics.byStrategy.get? Strategy.dictionary.word = some 1 ∧
      second.statistics.byStrategy.get? Strategy.dictionary.word = some 2 :=
  ⟨_, _, rfl, rfl, rfl, rfl⟩

/-- The two runs differ, but not in the dictionary that they hand on. -/
theorem dictionary_storesAndCarts_twice :
    ∃ first second, (({} : Setup).extract storesAndCarts .standard).2 = .ok first ∧
      (({} : Setup).extract storesAndCarts first.dictionary).2 = .ok second ∧
      first.statistics.byStrategy.get? Strategy.dictionary.word = some 1 ∧
      second.statistics.byStrategy.get? Strategy.dictionary.word = some 2 ∧
      second.dictionary = first.dictionary := by
  obtain ⟨first, second, hfirst, hsecond, hone, htwo⟩ := extract_storesAndCarts_twice
  exact ⟨first, second, hfirst, hsecond, hone, htwo, dictionary_extract_twice rfl hfirst hsecond⟩

end Setup

end RestFlow

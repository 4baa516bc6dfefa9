import RestFlow.Proofs.Extraction.Collection
import RestFlow.Proofs.Extraction.LaterPasses
import RestFlow.Proofs.Extraction.WriterPass
import RestFlow.Proofs.Order.Keys
import RestFlow.Proofs.Order.Sorting
import RestFlow.Proofs.Resolution.Growth

/-!
# Writers with a suffix that are not producers

A writer becomes a producer if the pass over writers binds it to a uuid suffix.  The pass over all
consumers asks again, with the dictionary that the pass over writers has left.  A suffix that one
writer was given is there for every writer of the same name, so that a writer which a response had
supplied may end up with the suffix of another one.

Without directives this happens to a writer exactly when it is overtaken (`Setup.IsOvertaken`): no
dictionary has an entry for it at the start, and the writers of its name that are to have a fresh
value all come after it.  In every other case the two passes agree.
-/

namespace RestFlow

/-! ## Runs without directives -/

namespace Setup

variable {s : Setup} {i : Interface} {c : Collection}

/-- Where no directive is declared, no consumer carries one. -/
lemma directive_eq_none (h : s.declaredDirectives i = []) (hc : (s.collect i).2 = .ok c)
    {x : Consumer} (hx : x ∈ c.consumers) : x.directive = none := by
  rw [declaredDirectives, List.append_eq_nil_iff] at h
  obtain ⟨e, he, part, hpart, hxp⟩ := exists_of_mem_collect hc hx
  obtain ⟨-, cs, rs, bs, -, -, -, rfl⟩ := collectEntry_eq_ok_iff.mp hpart
  obtain ⟨x₀, -, rfl⟩ := List.mem_map.mp hxp
  have hentry : e.directives = [] :=
    List.flatMap_eq_nil_iff.mp h.1 e (Interface.mem_of_mem_distinct he)
  rw [RequestEntry.directives, List.append_eq_nil_iff] at hentry
  show DirectiveSets.find? _ _ _ _ = none
  rw [DirectiveSets.find?, List.findSome?_eq_none_iff]
  intro scope _
  cases scope with
  | request => simp [DirectiveSets.inScope, hentry.1]
  | interface => simp [DirectiveSets.inScope, h.2]
  | link => simp [DirectiveSets.inScope, hentry.2]

/-- Where no directive is declared, directives lead nowhere. -/
lemma named?_eq_none (h : s.declaredDirectives i = []) (hc : (s.collect i).2 = .ok c)
    {x : Consumer} (hx : x ∈ c.consumers) (around : Surroundings) : x.named? around = none := by
  rw [Consumer.named?, directive_eq_none h hc hx, Option.bind_none]

/-- Where no directive is declared, no input is a producer at first. -/
lemma inputs_initialPool (h : s.declaredDirectives i = []) : (s.initialPool i c).inputs = [] := by
  unfold initialPool
  rw [h]
  rfl

/-! ## Path parameters -/

/-- A path parameter is situated from the endpoint of its request. -/
lemma IsInputOf.eq_of_path {e : RequestEntry} {x : Consumer} (h : s.IsInputOf e x)
    (hkind : x.kind = .path) :
    ∃ type, x.resource =
      s.situated .input e.id (.ofPathParameter x.name e.id.endpoint) type := by
  obtain ⟨r, type, hr, hrkind, hres⟩ := h
  rw [hkind] at hrkind
  cases hr with
  | path name =>
    refine ⟨type, ?_⟩
    have hname : x.name = name := by
      rw [Consumer.name, Resource.name, hres]
      rfl
    rw [hname]
    exact hres
  | query name => cases hrkind
  | header name => cases hrkind
  | body htree hv => cases hrkind

variable (hc : (s.collect i).2 = .ok c)
include hc

/-- A path parameter is not a property of a body. -/
lemma place?_eq_none_of_path {x : Consumer} (hx : x ∈ c.consumers) (hkind : x.kind = .path) :
    x.resource.place? = none := by
  obtain ⟨e, -, part, hpart, hxp⟩ := exists_of_mem_collect hc hx
  obtain ⟨type, hres⟩ := (isInputOf_of_mem_collectEntry hpart x hxp).eq_of_path hkind
  rw [hres]
  rfl

/-- Path parameters of one request and name are the same up to type and directive. -/
lemma resource_eq_of_path {x y : Consumer} (hx : x ∈ c.consumers) (hy : y ∈ c.consumers)
    (hxkind : x.kind = .path) (hykind : y.kind = .path)
    (hrequest : (x.request == y.request) = true) (hname : x.name = y.name) :
    y.resource = { x.resource with type := y.resource.type } := by
  obtain ⟨e, he, part, hpart, hxp⟩ := exists_of_mem_collect hc hx
  obtain ⟨e', he', part', hpart', hyp⟩ := exists_of_mem_collect hc hy
  have hxe := isInputOf_of_mem_collectEntry hpart x hxp
  have hye := isInputOf_of_mem_collectEntry hpart' y hyp
  rw [hxe.request_eq, hye.request_eq] at hrequest
  obtain rfl := Interface.eq_of_mem_distinct he he' hrequest
  obtain ⟨t, hxres⟩ := hxe.eq_of_path hxkind
  obtain ⟨t', hyres⟩ := hye.eq_of_path hykind
  rw [← hname] at hyres
  rw [hxres, hyres]
  rfl

/-! ## The order of writers -/

/-- Writers of one name are listed in the order of their requests. -/
lemma compare_listingKey {x y : Consumer} (hx : x ∈ c.pathWriters) (hy : y ∈ c.pathWriters)
    (hname : x.name = y.name) :
    compare x.listingKey y.listingKey = compare x.request y.request := by
  obtain ⟨hx, hxkind, hxput, -⟩ := Collection.mem_pathWriters_iff.mp hx
  obtain ⟨hy, hykind, hyput, -⟩ := Collection.mem_pathWriters_iff.mp hy
  have hmapKey : x.resource.mapKey = y.resource.mapKey := by
    rw [Resource.mapKey, Resource.mapKey, place?_eq_none_of_path hc hx hxkind,
      place?_eq_none_of_path hc hy hykind]
    exact hname
  show (compare x.request.method.rank y.request.method.rank).then
    ((compare x.kind y.kind).then ((compare x.resource.mapKey y.resource.mapKey).then
      ((compare x.request y.request).then (compare x.name y.name)))) = _
  rw [hxput, hyput, hxkind, hykind, hmapKey, hname]
  simp [Std.ReflCmp.compare_self]

/-- A writer that is listed before another one of its name belongs to a request that does not come
after the other's. -/
lemma compare_request_ne_gt {x y : Consumer} {before after : List Consumer}
    (hsplit : c.pathWriters = before ++ x :: after) (hy : y ∈ before) (hname : y.name = x.name) :
    compare y.request x.request ≠ .gt := by
  have hsorted : c.pathWriters.Pairwise fun a b =>
      (compareOn Consumer.listingKey a b).isLE = true :=
    (pairwise_consumers hc).filter _
  have hxmem : x ∈ c.pathWriters := by
    rw [hsplit]
    exact List.mem_append_right _ List.mem_cons_self
  have hymem : y ∈ c.pathWriters := by
    rw [hsplit]
    exact List.mem_append_left _ hy
  rw [hsplit, List.pairwise_append] at hsorted
  have hle := hsorted.2.2 y hy x List.mem_cons_self
  rw [compareOn, compare_listingKey hc hymem hxmem hname] at hle
  intro hgt
  rw [hgt] at hle
  cases hle

end Setup

/-! ## Suffixes at the start and later -/

namespace Consumer

variable {x : Consumer} {around : Surroundings} {d d' : Dictionary}

/-- The dictionaries have a uuid suffix for the consumer. -/
def HasSuffix (x : Consumer) (around : Surroundings) (d : Dictionary) : Prop :=
  ∃ p, x.entryAmong around d = some p ∧ p.kind = .uuidSuffix

/-- A writer has a suffix later if it has one at the start, or if nothing else is found for it and
its name has got one. -/
lemma hasSuffix_iff_of_grows (h : d.Grows d') (hwriter : x.isWriter = true) :
    x.HasSuffix around d' ↔ x.HasSuffix around d ∨
      x.entryAmong around d = none ∧ d'.uuidSuffixes.contains x.name = true := by
  unfold HasSuffix
  cases hentry : x.entryAmong around d with
  | some p =>
    rw [entryAmong_of_grows rfl h hentry]
    simp
  | none =>
    rw [entryAmong_of_grows_of_none h hentry, if_pos hwriter, Dictionary.findSuffix]
    by_cases hname : d'.uuidSuffixes.contains x.name = true
    · simp [hname, Dictionary.suffixPayload]
    · simp [hname]

/-- A writer without an entry has a name without a suffix. -/
lemma contains_eq_false_of_entryAmong_eq_none (hwriter : x.isWriter = true)
    (h : x.entryAmong around d = none) : d.uuidSuffixes.contains x.name = false := by
  rw [entryAmong_eq, entryIn_eq, if_pos hwriter, Option.or_eq_none_iff, Option.or_eq_none_iff] at h
  simpa [Dictionary.findSuffix] using h.2.2

/-- A writer has a suffix after some consumers were resolved if it has one at the start, or if
nothing else is found for it and one of the consumers of its name was fresh. -/
lemma hasSuffix_dictionaryAfter_iff (around : Surroundings) (d : Dictionary)
    (hwriter : x.isWriter = true) (cs : List Consumer) :
    x.HasSuffix around (dictionaryAfter around cs d) ↔ x.HasSuffix around d ∨
      x.entryAmong around d = none ∧ ∃ y ∈ cs, y.name = x.name ∧ y.IsFresh around d := by
  rw [hasSuffix_iff_of_grows (grows_dictionaryAfter around cs d) hwriter, contains_dictionaryAfter]
  refine or_congr_right (and_congr_right fun hentry => or_iff_right ?_)
  simp [contains_eq_false_of_entryAmong_eq_none hwriter hentry]

/-- A writer without a directive is bound to a suffix at its turn if it has one at the start, or if
nothing else is found for it and a consumer of its name was fresh, itself or one before it. -/
lemma isSuffix_resolve_dictionaryAfter_iff (around : Surroundings) (d : Dictionary)
    (hwriter : x.isWriter = true) (hdirective : x.directive = none) (before : List Consumer) :
    (x.resolve around (dictionaryAfter around before d)).1.isSuffix = true ↔
      x.HasSuffix around d ∨ x.entryAmong around d = none ∧
        ∃ y ∈ before ++ [x], y.name = x.name ∧ y.IsFresh around d := by
  have hnamed : x.named? around = none := by rw [named?, hdirective, Option.bind_none]
  have hgrows := grows_dictionaryAfter around before d
  rw [isSuffix_resolve_iff hnamed, ← HasSuffix, hasSuffix_dictionaryAfter_iff around d hwriter,
    isFresh_iff_of_grows hgrows]
  constructor
  · rintro ((hsuffix | ⟨hentry, y, hy, hyfresh⟩) | ⟨hfresh, -⟩)
    · exact .inl hsuffix
    · exact .inr ⟨hentry, y, List.mem_append_left _ hy, hyfresh⟩
    · exact .inr ⟨hfresh.dictionary, x, List.mem_append_right _ (List.mem_singleton_self x), rfl,
        hfresh⟩
  · rintro (hsuffix | ⟨hentry, y, hy, hyname, hyfresh⟩)
    · exact .inl (.inl hsuffix)
    · rcases List.mem_append.mp hy with hy | hy
      · exact .inl (.inr ⟨hentry, y, hy, hyname, hyfresh⟩)
      · obtain rfl := List.mem_singleton.mp hy
        -- if the name has got a suffix since, a consumer before it was fresh
        by_cases hbefore : ∃ z ∈ before, z.name = y.name ∧ z.IsFresh around d
        · exact .inl (.inr ⟨hentry, hbefore⟩)
        · refine .inr ⟨hyfresh, ?_⟩
          rw [Bool.eq_false_iff, ne_eq, contains_dictionaryAfter,
            contains_eq_false_of_entryAmong_eq_none hwriter hentry]
          simpa using hbefore

end Consumer

/-! ## Producers among the results -/

namespace ProducerIndex

/-- An input is among the producers of an index if it is among its inputs. -/
lemma contains_inputOnly_iff {index : ProducerIndex} {constraints : List OrderingConstraint}
    {r : Resource} {origin : InputOrigin} :
    (index.producers ++ OrderingConstraint.producers constraints).contains
        (.inputOnly r origin) = true ↔
      ∃ i ∈ index.inputs, (r == i.1) = true ∧ origin = i.2 := by
  have hinput : ∀ i : Resource × InputOrigin,
      (Producer.inputOnly r origin == .inputOnly i.1 i.2) = (r == i.1 && origin == i.2) :=
    fun _ => rfl
  rw [List.contains_iff_exists_mem_beq]
  constructor
  · rintro ⟨p, hp, heq⟩
    -- producers of the other kinds are no inputs
    rcases List.mem_append.mp hp with hp | hp
    · rcases List.mem_append.mp hp with hp | hp
      · rcases List.mem_append.mp hp with hp | hp
        · obtain ⟨a, -, rfl⟩ := List.mem_map.mp hp
          cases heq
        · obtain ⟨a, -, rfl⟩ := List.mem_map.mp hp
          cases heq
      · obtain ⟨i, hi, rfl⟩ := List.mem_map.mp hp
        rw [hinput, Bool.and_eq_true, beq_iff_eq (a := origin)] at heq
        exact ⟨i, mem_sortOn.mp hi, heq⟩
    · obtain ⟨a, -, rfl⟩ := List.mem_map.mp hp
      cases heq
  · rintro ⟨i, hi, heq⟩
    refine ⟨.inputOnly i.1 i.2, List.mem_append_left _ (List.mem_append_right _ ?_), ?_⟩
    · exact List.mem_map.mpr ⟨i, mem_sortOn.mpr hi, rfl⟩
    · rw [hinput, Bool.and_eq_true, beq_iff_eq (a := origin)]
      exact heq

end ProducerIndex

namespace Setup

variable {s : Setup} {i : Interface} {c : Collection} {d : Dictionary} {result : Extraction}
  {x : Consumer}

variable (hnone : s.declaredDirectives i = []) (hc : (s.collect i).2 = .ok c)
include hnone

/-- Without directives, every input among the producers is a writer that the pass over writers binds
to a suffix. -/
lemma exists_suffixed_of_mem_inputs {input : Resource × InputOrigin}
    (h : input ∈ (s.settings i c d).index.inputs) : input.2 = .writer ∧
      ∃ y ∈ Consumer.suffixed (s.preliminary i c) c.pathWriters d, y.resource = input.1 := by
  rcases mem_initialPool_or_suffixed h with hinitial | hsuffixed
  · rw [inputs_initialPool hnone] at hinitial
    cases hinitial
  · exact hsuffixed

include hc

/-- Without directives, a writer is a producer if the pass over writers binds it to a suffix. -/
lemma contains_inputOnly_iff (hx : x ∈ c.pathWriters) :
    ((s.writers i c d).pool.index.producers ++ OrderingConstraint.producers
        (s.constraints i (s.mirrored i c d).dependencies)).contains
        (.inputOnly x.resource .writer) = true ↔
      x ∈ Consumer.suffixed (s.preliminary i c) c.pathWriters d := by
  have hcollected : ∀ y ∈ c.pathWriters, y ∈ c.consumers :=
    fun y hy => (Collection.mem_pathWriters_iff.mp hy).1
  rw [ProducerIndex.contains_inputOnly_iff]
  constructor
  · rintro ⟨input, hinput, heq, -⟩
    obtain ⟨-, y, hy, hyres⟩ := exists_suffixed_of_mem_inputs hnone hinput
    rw [← hyres] at heq
    rw [eq_of_beq_resource hc (hcollected x hx)
      (hcollected y (Consumer.mem_of_mem_suffixed hy)) heq]
    exact hy
  · intro hsuffixed
    obtain ⟨input, hindex, heq⟩ := exists_mem_inputs_of_mem_suffixed hsuffixed
    obtain ⟨horigin, -⟩ := exists_suffixed_of_mem_inputs hnone hindex
    exact ⟨input, hindex, BEq.symm heq, horigin.symm⟩

/-- Without directives, a writer ends up with a suffix if it has one at the start, or if nothing
else is found for it and some writer of its name is fresh. -/
lemma exists_isSuffixBound_iff (hx : x ∈ c.pathWriters) :
    (∃ dep ∈ Dependency.aliasInputs (s.mirrored i c d).dependencies,
        dep.consumer = x ∧ dep.isSuffixBound = true) ↔
      x.HasSuffix (s.preliminary i c) d ∨ x.entryAmong (s.preliminary i c) d = none ∧
        ∃ y ∈ c.pathWriters, y.name = x.name ∧ y.IsFresh (s.preliminary i c) d := by
  obtain ⟨hmem, hkind, -⟩ := Collection.mem_pathWriters_iff.mp hx
  have hwriter := Collection.isWriter_of_mem_pathWriters hx
  have hnamed := named?_eq_none hnone hc hmem (s.settings i c d)
  have hfilter : (s.mirrored i c d).dependencies.filter Dependency.isOutsideBodies =
      (s.main i c d).dependencies.filter Dependency.isOutsideBodies :=
    s.filter_sameBodyPass _ _ _
  -- the passes after the main one do not concern path parameters
  rw [Dependency.exists_isSuffixBound_aliasInputs_iff hfilter
    (place?_eq_none_of_path hc hmem hkind)]
  have hmain : (∃ dep ∈ (s.main i c d).dependencies,
      dep.consumer = x ∧ dep.isSuffixBound = true) ↔
      (x.resolve (s.settings i c d) (s.writers i c d).dictionary).1.isSuffix = true := by
    constructor
    · rintro ⟨dep, hdep, rfl, hsuffix⟩
      rwa [Dependency.isSuffixBound, (mem_dependencies_main_iff.mp hdep).2] at hsuffix
    · intro hsuffix
      exact ⟨⟨x, _⟩, mem_dependencies_main_iff.mpr ⟨hmem, rfl⟩, rfl, hsuffix⟩
  rw [hmain, Consumer.isSuffix_resolve_iff hnamed, or_iff_left (not_isFresh_settings hmem),
    writers_dictionary]
  exact Consumer.hasSuffix_dictionaryAfter_iff (s.preliminary i c) d hwriter _

/-! ## Overtaken writers -/

omit hnone hc in
variable (s i c d x) in
/-- The writer is overtaken: no dictionary has an entry for it at the start, some writer of its name
is to have a fresh value, and all such writers belong to requests that come after its own. -/
structure IsOvertaken : Prop where
  entry : x.entryAmong (s.preliminary i c) d = none
  exists_fresh : ∃ y ∈ c.pathWriters, y.name = x.name ∧ y.IsFresh (s.preliminary i c) d
  lt_of_fresh : ∀ y ∈ c.pathWriters, y.name = x.name → y.IsFresh (s.preliminary i c) d →
    compare x.request y.request = .lt

/-- Without directives, a writer is fresh if another one of its request and name is. -/
lemma isFresh_of_request_beq {y : Consumer} (hx : x ∈ c.pathWriters) (hy : y ∈ c.pathWriters)
    (hrequest : (y.request == x.request) = true) (hname : y.name = x.name)
    (h : y.IsFresh (s.preliminary i c) d) : x.IsFresh (s.preliminary i c) d := by
  obtain ⟨hx, hxkind, -⟩ := Collection.mem_pathWriters_iff.mp hx
  obtain ⟨hy, hykind, -⟩ := Collection.mem_pathWriters_iff.mp hy
  have hydirective := directive_eq_none hnone hc hy
  have hretyped : x = y.retyped x.resource.type :=
    Consumer.ext (resource_eq_of_path hc hy hx hykind hxkind hrequest hname)
      (hxkind.trans hykind.symm) ((directive_eq_none hnone hc hx).trans hydirective.symm)
  rw [hretyped]
  exact (y.isFresh_retyped_iff _ _ _ hydirective).mpr h

/-- Without directives, a writer is bound to a suffix in the pass over writers if it has one at the
start, or if nothing else is found for it and a writer of its name is fresh whose request does not
come after its own. -/
lemma mem_suffixed_pathWriters_iff (hx : x ∈ c.pathWriters) :
    x ∈ Consumer.suffixed (s.preliminary i c) c.pathWriters d ↔
      x.HasSuffix (s.preliminary i c) d ∨ x.entryAmong (s.preliminary i c) d = none ∧
        ∃ y ∈ c.pathWriters, y.name = x.name ∧ y.IsFresh (s.preliminary i c) d ∧
          compare x.request y.request ≠ .lt := by
  obtain ⟨hmem, -⟩ := Collection.mem_pathWriters_iff.mp hx
  have hwriter := Collection.isWriter_of_mem_pathWriters hx
  have hturn := Consumer.isSuffix_resolve_dictionaryAfter_iff (s.preliminary i c) d hwriter
    (directive_eq_none hnone hc hmem)
  rw [Consumer.mem_suffixed_iff]
  constructor
  · rintro ⟨before, after, hsplit, hsuffix⟩
    refine ((hturn before).mp hsuffix).imp_right (And.imp_right ?_)
    rintro ⟨y, hy, hname, hfresh⟩
    -- writers that are listed before this one do not come after it
    rcases List.mem_append.mp hy with hy | hy
    · refine ⟨y, hsplit ▸ List.mem_append_left _ hy, hname, hfresh, fun hlt => ?_⟩
      exact compare_request_ne_gt hc hsplit hy hname (Std.OrientedCmp.gt_of_lt hlt)
    · obtain rfl := List.mem_singleton.mp hy
      exact ⟨y, hx, rfl, hfresh, by simp [Std.ReflCmp.compare_self]⟩
  · obtain ⟨before, after, hsplit⟩ := List.append_of_mem hx
    rintro (hsuffix | ⟨hentry, y, hy, hname, hfresh, hlt⟩)
    · exact ⟨before, after, hsplit, (hturn before).mpr (.inl hsuffix)⟩
    · refine ⟨before, after, hsplit, (hturn before).mpr (.inr ⟨hentry, ?_⟩)⟩
      have hyplace := hy
      rw [hsplit, List.mem_append, List.mem_cons] at hyplace
      rcases hyplace with hbefore | rfl | hafter
      · exact ⟨y, List.mem_append_left _ hbefore, hname, hfresh⟩
      · exact ⟨y, List.mem_append_right _ (List.mem_singleton_self y), rfl, hfresh⟩
      · -- the other writer is listed later, so both belong to one request
        obtain ⟨between, rest, rfl⟩ := List.append_of_mem hafter
        have hsplit' : c.pathWriters = (before ++ x :: between) ++ y :: rest := by
          rw [hsplit, List.append_assoc, List.cons_append]
        have hgt := compare_request_ne_gt hc hsplit'
          (List.mem_append_right _ List.mem_cons_self) hname.symm
        have heq : compare x.request y.request = .eq := by
          cases hcompare : compare x.request y.request with
          | lt => exact absurd hcompare hlt
          | eq => rfl
          | gt => exact absurd hcompare hgt
        have hrequest := RequestId.compare_eq_iff.mp (Std.OrientedCmp.eq_symm heq)
        exact ⟨x, List.mem_append_right _ (List.mem_singleton_self x), rfl,
          isFresh_of_request_beq hnone hc hx hy hrequest hname hfresh⟩

/-- Without directives, the pass over writers and the pass over all consumers agree on a writer
unless it is overtaken. -/
theorem suffix_iff_producer_iff (hresult : (s.extract i d).2 = .ok result)
    (hx : x ∈ result.consumers) (hwriter : x.isPathWriter = true) :
    ((∃ dep ∈ result.all, dep.consumer = x ∧ dep.isSuffixBound = true) ↔
        result.producers.contains (.inputOnly x.resource .writer) = true) ↔
      ¬s.IsOvertaken i c d x := by
  obtain ⟨c', groups, hc', hgroups, rfl⟩ := extract_eq_ok_iff.mp hresult
  obtain rfl : c' = c := Except.ok.inj (hc'.symm.trans hc)
  have hmem : x ∈ c'.pathWriters := List.mem_filter.mpr ⟨hx, hwriter⟩
  have hbound := exists_isSuffixBound_iff (d := d) hnone hc hmem
  have hproducer := (contains_inputOnly_iff (d := d) hnone hc hmem).trans
    (mem_suffixed_pathWriters_iff hnone hc hmem)
  have hall : (∃ dep ∈ (s.assembled i c' d groups).all,
      dep.consumer = x ∧ dep.isSuffixBound = true) ↔
      ∃ dep ∈ Dependency.aliasInputs (s.mirrored i c' d).dependencies,
        dep.consumer = x ∧ dep.isSuffixBound = true :=
    exists_congr fun dep => and_congr_left' (DependencyGroups.mem_all_iff hgroups)
  rw [hall, hbound]
  show (_ ↔ ((s.writers i c' d).pool.index.producers ++ OrderingConstraint.producers
        (s.constraints i (s.mirrored i c' d).dependencies)).contains
        (.inputOnly x.resource .writer) = true) ↔ _
  rw [hproducer]
  by_cases hsuffix : x.HasSuffix (s.preliminary i c') d
  · -- an entry at the start decides in both passes
    have hover : ¬s.IsOvertaken i c' d x := by
      rintro ⟨hentry, -, -⟩
      obtain ⟨p, hp, -⟩ := hsuffix
      rw [hentry] at hp
      cases hp
    exact iff_of_true (iff_of_true (.inl hsuffix) (.inl hsuffix)) hover
  · rw [or_iff_right hsuffix, or_iff_right hsuffix]
    constructor
    · -- all fresh writers of the name come after one that is overtaken
      rintro hiff ⟨hentry, hexists, hall⟩
      obtain ⟨-, y, hy, hname, hfresh, hlt⟩ := hiff.mp ⟨hentry, hexists⟩
      exact hlt (hall y hy hname hfresh)
    · intro hover
      constructor
      · rintro ⟨hentry, hexists⟩
        refine ⟨hentry, ?_⟩
        -- otherwise all fresh writers of the name overtake this one
        by_contra hnot
        refine hover ⟨hentry, hexists, fun y hy hname hfresh => ?_⟩
        by_contra hlt
        exact hnot ⟨y, hy, hname, hfresh, hlt⟩
      · rintro ⟨hentry, y, hy, hname, hfresh, -⟩
        exact ⟨hentry, y, hy, hname, hfresh⟩

end Setup

/-! ## An overtaken writer -/

namespace Interface

/-- A string named `id`. -/
def idLeaf : Tree :=
  .leaf ⟨"id", .fuzzable .string none, true, false⟩

/-- A PUT with the path parameter `id`. -/
def putById (endpoint : String) : RequestEntry where
  id := { endpoint, method := .put }
  data := { pathParameters := [⟨"id", idLeaf, none⟩] }

/-- Accounts are created by a POST, which returns their `id`, and updated by a PUT; stores are
created by a PUT. -/
def accountsAndStores : Interface where
  requests := [
    { id := { endpoint := "/accounts", method := .post }
      data := { responseBody := some (.internal "" .object true false [idLeaf]) } },
    putById "/accounts/\x7bid\x7d",
    putById "/stores/\x7bid\x7d"]

/-- The path parameter of the PUT that updates accounts. -/
def accountId : Consumer where
  resource := .situated .input { endpoint := "/accounts/\x7bid\x7d", method := .put }
    (.ofPathParameter "id" "/accounts/\x7bid\x7d") (Convention.infer "id") .string
  kind := .path

end Interface

namespace Setup

open Interface

/-- The `id` of accounts ends up with a uuid suffix and is not a producer. -/
lemma extract_accountsAndStores :
    ∃ result, (({} : Setup).extract accountsAndStores .standard).2 = .ok result ∧
      result.consumers.head? = some accountId ∧
      result.all.head? =
        some ⟨accountId, some (.dictionary (Dictionary.suffixPayload "id" .string))⟩ ∧
      result.producers.contains (.inputOnly accountId.resource .writer) = false :=
  ⟨_, rfl, rfl, rfl, rfl⟩

/-- The `id` of accounts is overtaken by the one of stores. -/
theorem isOvertaken_accountId :
    ∃ c, (({} : Setup).collect accountsAndStores).2 = .ok c ∧
      ({} : Setup).IsOvertaken accountsAndStores c .standard accountId := by
  obtain ⟨result, hresult, hconsumers, hall, hproducers⟩ := extract_accountsAndStores
  obtain ⟨c, -, hc, -⟩ := extract_eq_ok_iff.mp hresult
  have hx : accountId ∈ result.consumers := List.mem_of_mem_head? hconsumers
  have hiff := suffix_iff_producer_iff rfl hc hresult hx (by decide)
  refine ⟨c, hc, by_contra fun hover => ?_⟩
  have hbound := (hiff.mpr hover).mp ⟨_, List.mem_of_mem_head? hall, rfl, by decide⟩
  rw [hproducers] at hbound
  cases hbound

/-- Without directives, a writer may end up with a uuid suffix and not be a producer. -/
theorem not_forall_suffix_iff_producer :
    ¬∀ (s : Setup) (i : Interface) (d : Dictionary) (result : Extraction) (x : Consumer),
      s.declaredDirectives i = [] → (s.extract i d).2 = .ok result → x ∈ result.consumers →
        x.isPathWriter = true →
          ((∃ dep ∈ result.all, dep.consumer = x ∧ dep.isSuffixBound = true) ↔
            result.producers.contains (.inputOnly x.resource .writer) = true) := by
  intro h
  obtain ⟨result, hresult, hconsumers, hall, hproducers⟩ := extract_accountsAndStores
  have hiff := h {} accountsAndStores .standard result accountId rfl hresult
    (List.mem_of_mem_head? hconsumers) (by decide)
  have hbound := hiff.mp ⟨_, List.mem_of_mem_head? hall, rfl, by decide⟩
  rw [hproducers] at hbound
  cases hbound

end Setup

end RestFlow

import RestFlow.Proofs.Extraction.Run
import RestFlow.Proofs.Extraction.Collection

/-!
# Values without a name

Descriptions of bodies leave the elements of an array without a name.  Below a property this does no
harm, because an element is then known by the name of the property.  An array that is a whole body
has no such property: the collection of consumers and of responses passes over the body itself but
not over its elements, and situates them without a name.

This is the only way in which well-formed descriptions lead to a malformed resource: a run fails for
this reason exactly if `RequestEntry.hasNamelessValue` finds such an element.
-/

namespace RestFlow

/-! ## Sound references -/

namespace Resource

/-- References outside bodies are sound if they have a name. -/
lemma fault?_eq_none {r : Reference} (hplace : r.place? = none) (hname : r.name ≠ "") :
    fault? r = none := by
  simp [fault?, hplace, hname]

/-- A place without empty segments is malformed exactly when it is below the root and no property
has a part in it. -/
lemma isSome_fault?_ofPlace {place : AccessPath} (hroot : place.isRoot = false)
    (hne : ∀ segment ∈ place.segments, segment ≠ "") :
    (fault? (.ofPlace place)).isSome = true ↔ place.IsNameless := by
  rw [AccessPath.IsNameless]
  cases hlast : place.lastName? with
  | none =>
    have hnil : place.propertyNames = [] := List.getLast?_eq_none_iff.mp hlast
    simp [fault?, Reference.ofPlace, Reference.place?, Reference.name, hroot, hlast, hnil]
  | some name =>
    have hmem : name ∈ place.propertyNames := List.mem_of_getLast? hlast
    have hname : name ≠ "" := hne name (List.mem_filter.mp hmem).1
    have hnil : place.propertyNames ≠ [] := List.ne_nil_of_mem hmem
    simp [fault?, Reference.ofPlace, Reference.place?, Reference.name, hroot, hlast, hname, hnil]

end Resource

/-! ## Well-formed descriptions -/

namespace RequestEntry

/-- The trees of a request and of its response. -/
def trees (e : RequestEntry) : List Tree :=
  e.data.body.toList ++ e.data.responseBody.toList

/-- The parameters of a request and of its response. -/
def parameters (e : RequestEntry) : List Parameter :=
  e.data.pathParameters ++ e.data.queryParameters ++ e.data.headerParameters ++
    e.data.responseHeaders

/-- A description that requests can be made of and that names whatever should have a name: every
parameter, and every node of a body but the topmost one and the elements of arrays. -/
structure IsWellFormed (e : RequestEntry) : Prop where
  valid : e.validate = .ok ()
  parameters : ∀ p ∈ e.parameters, p.name ≠ ""
  trees : ∀ tree ∈ e.trees, tree.isNamedWithin true = true
  markers : ∀ tree ∈ e.trees, tree.allNames (· != AccessPath.arrayMarker) = true

/-- The response has a value without a name, or the body has one that is looked at and may be
chosen. -/
def hasNamelessValue (e : RequestEntry) (config : Config) : Bool :=
  (config.resolveBody && e.data.body.any (·.hasNamelessLeaf Leaf.isOpen false)) ||
    e.data.responseBody.any (·.hasNamelessLeaf (fun _ => true) false)

end RequestEntry

/-! ## The collection of one request -/

namespace Setup

variable (s : Setup) (e : RequestEntry)

/-- Situating fails for malformed references. -/
lemma malformedIf_situate (side : Side) (request : RequestId) (r : Reference)
    (type : PrimitiveType) :
    MalformedIf (s.situate side request r type) ((Resource.fault? r).isSome = true) := by
  rw [situate_eq]
  cases Resource.fault? r with
  | none => exact (MalformedIf.of_eq_ok rfl).congr (by simp)
  | some reason =>
    refine ⟨⟨fun _ => ⟨_, rfl⟩, fun _ => rfl⟩, fun f hf => ?_⟩
    rw [← Except.error.inj hf]
    rfl

/-- A consumer is situated. -/
lemma malformedIf_consumer (request : RequestId) (kind : ParameterKind) (r : Reference)
    (type : PrimitiveType) :
    MalformedIf (s.consumer request kind r type) ((Resource.fault? r).isSome = true) :=
  ((s.malformedIf_situate .input request r type).bind fun _ _ => .of_eq_ok rfl).congr
    (or_false _).symm.to_iff

variable {s e}

/-- A consumer with a name outside a body is not malformed. -/
lemma malformedIf_consumer_named {request : RequestId} {kind : ParameterKind} {r : Reference}
    {type : PrimitiveType} (hplace : r.place? = none) (hname : r.name ≠ "") :
    MalformedIf (s.consumer request kind r type) False :=
  (s.malformedIf_consumer request kind r type).congr
    (by simp [Resource.fault?_eq_none hplace hname])

/-- A leaf of a parameter with a name has a name. -/
lemma nameIn_ne_empty {ps : List Parameter} (hps : ∀ p ∈ ps, p.name ≠ "") {l : Parameter × Leaf}
    (hl : l ∈ leavesOf ps) : l.2.nameIn l.1 ≠ "" := by
  obtain ⟨p, hp, hl⟩ := List.mem_flatMap.mp hl
  obtain ⟨leaf, -, rfl⟩ := List.mem_map.mp hl
  unfold Leaf.nameIn
  split
  · exact hps p hp
  · rename_i hne
    simpa using hne

/-- Path consumers are not malformed. -/
lemma malformedIf_pathConsumers (hps : ∀ p ∈ e.data.pathParameters, p.name ≠ "") :
    MalformedIf (s.pathConsumers e) False := by
  refine .mapM_false ?_
  rintro ⟨p, leaf⟩ hmem
  obtain ⟨q, hq, hleaf⟩ := List.mem_filterMap.mp hmem
  obtain ⟨_, -, heq⟩ := Option.map_eq_some_iff.mp hleaf
  have hname : p.name ≠ "" := by
    rw [← (Prod.mk.inj heq).1]
    exact hps q hq
  exact malformedIf_consumer_named rfl hname

/-- Query and header consumers are not malformed. -/
lemma malformedIf_parameterConsumers {kind : ParameterKind} {reference : String → Reference}
    {ps : List Parameter} (hplace : ∀ name, (reference name).place? = none)
    (hname : ∀ name, (reference name).name = name) (hps : ∀ p ∈ ps, p.name ≠ "") :
    MalformedIf (s.parameterConsumers e kind reference ps) False := by
  refine .mapM_false ?_
  rintro l hmem
  refine malformedIf_consumer_named (hplace _) ?_
  rw [hname]
  exact nameIn_ne_empty hps (List.mem_filter.mp hmem).1

/-- Situating the leaves below the root of a body fails for the nameless ones among them. -/
lemma exists_fault_placedLeaves_iff {body : Option Tree} (test : Leaf → Bool)
    (hmarker : ∀ tree ∈ body, tree.allNames (· != AccessPath.arrayMarker) = true) :
    (∃ l ∈ (placedLeaves body).filter fun l => test l.2,
        (Resource.fault? (.ofPlace l.1)).isSome = true) ↔
      body.any (·.hasNamelessLeaf test false) = true := by
  cases body with
  | none => simp [placedLeaves]
  | some tree =>
    have hvisits := Tree.exists_isNamelessVisit_iff test
      (show AccessPath.root.IsNameless from rfl) tree (hmarker tree rfl)
    rw [Option.any_some, ← show (!AccessPath.root.isRoot) = false from rfl, ← hvisits]
    constructor
    · rintro ⟨⟨place, leaf⟩, hl, hfault⟩
      obtain ⟨hl, htest⟩ := List.mem_filter.mp hl
      obtain ⟨_, ⟨⟩, hv, hroot⟩ := mem_placedLeaves_iff.mp hl
      have hne := Tree.segments_ne_empty_of_mem_visits hv
      exact ⟨_, hv, (Resource.isSome_fault?_ofPlace hroot hne).mp hfault, hroot, leaf, rfl, htest⟩
    · rintro ⟨⟨place, _⟩, hv, hnameless, hroot, leaf, rfl, htest⟩
      have hne := Tree.segments_ne_empty_of_mem_visits hv
      have hl : (place, leaf) ∈ placedLeaves (some tree) :=
        mem_placedLeaves_iff.mpr ⟨tree, rfl, hv, hroot⟩
      exact ⟨(place, leaf), List.mem_filter.mpr ⟨hl, htest⟩,
        (Resource.isSome_fault?_ofPlace hroot hne).mpr hnameless⟩

/-- Body consumers are malformed for nameless leaves that may be chosen. -/
lemma malformedIf_bodyConsumers
    (hmarker : ∀ tree ∈ e.data.body, tree.allNames (· != AccessPath.arrayMarker) = true) :
    MalformedIf (s.bodyConsumers e)
      (e.data.body.any (·.hasNamelessLeaf Leaf.isOpen false) = true) := by
  have hleaves := exists_fault_placedLeaves_iff Leaf.isOpen hmarker
  exact (MalformedIf.mapM fun l _ => s.malformedIf_consumer _ _ _ _).congr hleaves.symm

/-- What is not asked for is not malformed. -/
lemma malformedIf_onDemand {α : Type} {x : Except Failure (List α)} {P : Prop} (asked : Bool)
    (h : MalformedIf x P) : MalformedIf (onDemand asked x) (asked = true ∧ P) := by
  cases asked with
  | true => exact h.congr (by simp)
  | false => exact (MalformedIf.of_eq_ok rfl).congr (by simp)

/-- The consumers of a well-formed request are malformed for nameless leaves of the body. -/
lemma malformedIf_consumers (h : e.IsWellFormed) :
    MalformedIf (s.consumers e) ((s.config.resolveBody &&
      e.data.body.any (·.hasNamelessLeaf Leaf.isOpen false)) = true) := by
  have hparameters := h.parameters
  simp only [RequestEntry.parameters, List.forall_mem_append] at hparameters
  obtain ⟨⟨⟨hpath, hquery⟩, hheader⟩, -⟩ := hparameters
  have hmarker : ∀ tree ∈ e.data.body, tree.allNames (· != AccessPath.arrayMarker) = true :=
    fun tree ht => h.markers tree (List.mem_append_left _ (Option.mem_toList.mpr ht))
  have hqueries : MalformedIf (s.parameterConsumers e .query .query e.data.queryParameters) False :=
    malformedIf_parameterConsumers (fun _ => rfl) (fun _ => rfl) hquery
  have hheaders :
      MalformedIf (s.parameterConsumers e .header .header e.data.headerParameters) False :=
    malformedIf_parameterConsumers (fun _ => rfl) (fun _ => rfl) hheader
  rw [consumers_eq]
  refine MalformedIf.congr ((malformedIf_pathConsumers hpath).bind fun _ _ =>
    (malformedIf_onDemand _ hqueries).bind fun _ _ =>
    (malformedIf_onDemand _ hheaders).bind fun _ _ =>
    (malformedIf_onDemand _ (malformedIf_bodyConsumers hmarker)).bind fun _ _ =>
    .of_eq_ok rfl) ?_
  simp

/-- The responses of a well-formed request are malformed for nameless leaves. -/
lemma malformedIf_responses (h : e.IsWellFormed) :
    MalformedIf (s.responses e)
      (e.data.responseBody.any (·.hasNamelessLeaf (fun _ => true) false) = true) := by
  have hmarker : ∀ tree ∈ e.data.responseBody,
      tree.allNames (· != AccessPath.arrayMarker) = true :=
    fun tree ht => h.markers tree (List.mem_append_right _ (Option.mem_toList.mpr ht))
  have hleaves := exists_fault_placedLeaves_iff (fun _ => true) hmarker
  rw [List.filter_true] at hleaves
  have hheader : ∀ p ∈ e.data.responseHeaders, p.name ≠ "" :=
    fun p hp => h.parameters p (List.mem_append_right _ hp)
  have hheaders : MalformedIf ((leavesOf e.data.responseHeaders).mapM fun l =>
      s.situate .output e.id (.header (l.2.nameIn l.1)) l.2.payload.type) False := by
    refine .mapM_false fun l hl => (s.malformedIf_situate _ _ _ _).congr ?_
    simp [Resource.fault?_eq_none (r := .header (l.2.nameIn l.1)) rfl (nameIn_ne_empty hheader hl)]
  refine MalformedIf.congr ((MalformedIf.mapM fun l _ => s.malformedIf_situate _ _ _ _).bind
    fun _ _ => hheaders.bind fun _ _ => .of_eq_ok rfl) ?_
  rw [or_false, or_false]
  exact hleaves.symm

/-- Only named nodes of a body are collected for their neighbours. -/
lemma malformedIf_sameBody : MalformedIf (s.sameBody e) False := by
  unfold sameBody
  cases e.data.body with
  | none => exact .of_eq_ok rfl
  | some tree =>
    refine .mapM_false fun v hv => (s.malformedIf_situate _ _ _ _).congr ?_
    obtain ⟨hv, hnamed⟩ := List.mem_filter.mp hv
    rw [isNamedPlace, Bool.and_eq_true] at hnamed
    have hroot : v.1.isRoot = false := by
      by_contra hroot
      have hnil : v.1.segments = [] := by simpa [AccessPath.isRoot] using hroot
      simp [AccessPath.lastName?, AccessPath.propertyNames, hnil] at hnamed
    have hne := Tree.segments_ne_empty_of_mem_visits hv
    have hnameless : ¬v.1.IsNameless := by
      intro hnil
      rw [AccessPath.IsNameless] at hnil
      simp [AccessPath.lastName?, hnil] at hnamed
    rw [Resource.isSome_fault?_ofPlace hroot hne]
    exact (iff_false_intro hnameless).symm

/-- A well-formed request is malformed exactly if it has a nameless value. -/
lemma malformedIf_collectEntry (h : e.IsWellFormed) :
    MalformedIf (s.collectEntry e) (e.hasNamelessValue s.config = true) := by
  refine MalformedIf.congr ((MalformedIf.of_eq_ok h.valid).bind fun _ _ =>
    (malformedIf_consumers h).bind fun _ _ => (malformedIf_responses h).bind fun _ _ =>
    malformedIf_sameBody.bind fun _ _ => .of_eq_ok rfl) ?_
  rw [RequestEntry.hasNamelessValue, Bool.or_eq_true]
  simp only [false_or, or_false]

/-! ## Runs -/

/-- The collection of well-formed requests is malformed exactly if one of them has a nameless
value. -/
lemma malformedIf_collect {i : Interface} (h : ∀ e ∈ i.requests, e.IsWellFormed) :
    MalformedIf (s.collect i).2 (∃ e ∈ i.distinct, e.hasNamelessValue s.config = true) := by
  rw [collect_snd]
  exact (MalformedIf.mapM fun e he =>
    malformedIf_collectEntry (h e (Interface.mem_of_mem_distinct he))).map

/-- A run on well-formed requests fails because of a malformed resource exactly if one of the
requests that count has a value without a name. -/
theorem malformed_iff_hasNamelessValue (s : Setup) (i : Interface) (d : Dictionary)
    (h : ∀ e ∈ i.requests, e.IsWellFormed) :
    (∃ request reason, (s.extract i d).2 = .error (.malformedResource request reason)) ↔
      ∃ e ∈ i.distinct, e.hasNamelessValue s.config = true := by
  have hcollect := malformedIf_collect (s := s) h
  rw [hcollect.1, extract_snd]
  constructor
  · rintro ⟨request, reason, hfail⟩
    rcases bind_eq_error_iff.mp hfail with hfail | ⟨c, -, hfail⟩
    · exact ⟨_, hfail⟩
    · -- after the collection only conflicts are left
      cases isConflict_of_resolve hfail
  · rintro ⟨f, hf⟩
    obtain ⟨request, reason, rfl⟩ := Failure.isMalformed_iff.mp (hcollect.2 f hf)
    exact ⟨request, reason, bind_eq_error_iff.mpr (.inl hf)⟩

/-- The request `POST /tags`, whose body is a list of strings. -/
def postTags : RequestEntry where
  id := { endpoint := "/tags", method := .post }
  data := { body := some (.internal "" .array true false
    [.leaf ⟨"", .fuzzable .string none, true, false⟩]) }

/-- The request `POST /tags` is well-formed. -/
lemma isWellFormed_postTags : postTags.IsWellFormed where
  valid := rfl
  parameters := by decide
  trees := by decide
  markers := by decide

/-- A list of strings is a well-formed body, and its elements are malformed resources. -/
theorem postTags_malformed :
    (∀ e ∈ [postTags], e.IsWellFormed) ∧
      ∃ request reason, (({} : Setup).extract ⟨[postTags]⟩ .standard).2 =
        .error (.malformedResource request reason) := by
  have hwell : ∀ e ∈ [postTags], e.IsWellFormed := by simpa using isWellFormed_postTags
  refine ⟨hwell, (malformed_iff_hasNamelessValue {} ⟨[postTags]⟩ .standard hwell).mpr ?_⟩
  exact ⟨postTags, by simp [Interface.distinct, RequestEntry.distinctFrom], by decide⟩

/-- Well-formed requests do not keep a run from failing because of a malformed resource. -/
theorem not_forall_wellFormed_not_malformed :
    ¬∀ (s : Setup) (i : Interface) (d : Dictionary), (∀ e ∈ i.requests, e.IsWellFormed) →
      ∀ request reason, (s.extract i d).2 ≠ .error (.malformedResource request reason) := by
  intro h
  have hwell : ∀ e ∈ [postTags], e.IsWellFormed := by simpa using isWellFormed_postTags
  refine h {} ⟨[postTags]⟩ .standard hwell "POST /tags" "empty body resource name" ?_
  rfl

end Setup

end RestFlow

import Mathlib.Data.List.Induction
import RestFlow.Proofs.Resolution.Pool
import RestFlow.Proofs.Resolution.Specificity

/-!
# Look-ups answer with what was added

Producers are added to a pool one after the other (`ProducerPool.gather`), and the pool is frozen
into an index.  The responses and the body properties of the pool are those that were added
(`ProducerPool.responses_gather`, `ProducerPool.sameBody_gather`), and of the inputs it keeps the
first one of each resource, with its origin (`ProducerPool.keepsFirst_gather`).

A look-up gives nothing but what was added and was asked for, an equal resource for each of these,
and all by increasing keys (`ProducerIndex.Answers`).  Since repetitions are dropped, it need not
give every resource itself.  The responses of a request are listed by name; if their name or their
place is given, this is the order of their keys (`ProducerIndex.increasing_responsesOf_name`,
`ProducerIndex.increasing_responsesOf_place`).
-/

namespace RestFlow

/-! ## Additions -/

namespace ProducerPool

/-- Something that is added to a pool. -/
inductive Addition where
  | response (r : Resource)
  | sameBody (r : Resource)
  | input (r : Resource) (origin : InputOrigin)

namespace Addition

/-- The response that is added. -/
def response? : Addition → Option Resource
  | response r => some r
  | _ => none

/-- The body property that is added. -/
def sameBody? : Addition → Option Resource
  | sameBody r => some r
  | _ => none

/-- The input that is added, with its origin. -/
def input? : Addition → Option (Resource × InputOrigin)
  | input r origin => some (r, origin)
  | _ => none

end Addition

/-- The pool with one addition. -/
def add (pool : ProducerPool) : Addition → ProducerPool
  | .response r => pool.addResponse r
  | .sameBody r => pool.addSameBody r
  | .input r origin => pool.addInput r origin

/-- The pool that some additions lead to, one after the other. -/
def gather (additions : List Addition) : ProducerPool :=
  additions.foldl add {}

lemma gather_concat (additions : List Addition) (a : Addition) :
    gather (additions ++ [a]) = (gather additions).add a := by
  rw [gather, List.foldl_append, List.foldl_cons, List.foldl_nil, gather]

/-- An addition leaves the responses as they are, or is one of them. -/
lemma responses_add (pool : ProducerPool) (a : Addition) :
    (pool.add a).responses = pool.responses ++ a.response?.toList := by
  cases a with
  | response r => rfl
  | sameBody r => exact (List.append_nil _).symm
  | input r origin => exact (responses_addInput pool r origin).trans (List.append_nil _).symm

/-- An addition leaves the body properties as they are, or is one of them. -/
lemma sameBody_add (pool : ProducerPool) (a : Addition) :
    (pool.add a).sameBody = pool.sameBody ++ a.sameBody?.toList := by
  cases a with
  | response r => exact (List.append_nil _).symm
  | sameBody r => rfl
  | input r origin => exact (sameBody_addInput pool r origin).trans (List.append_nil _).symm

/-- The responses of a pool are those that were added. -/
theorem responses_gather (additions : List Addition) :
    (gather additions).responses = additions.filterMap Addition.response? := by
  induction additions using List.reverseRecOn with
  | nil => rfl
  | append_singleton rest a ih =>
    rw [gather_concat, responses_add, ih, List.filterMap_append]
    cases a <;> rfl

/-- The body properties of a pool are those that were added. -/
theorem sameBody_gather (additions : List Addition) :
    (gather additions).sameBody = additions.filterMap Addition.sameBody? := by
  induction additions using List.reverseRecOn with
  | nil => rfl
  | append_singleton rest a ih =>
    rw [gather_concat, sameBody_add, ih, List.filterMap_append]
    cases a <;> rfl

/-- Of the inputs that were added, the first one of each resource is kept. -/
structure KeepsFirst (inputs added : List (Resource × InputOrigin)) : Prop where
  mem_iff : ∀ i, i ∈ inputs ↔ added.find? (fun j => j.1 == i.1) = some i
  different : inputs.Pairwise fun i j => (i.1 == j.1) = false

/-- A resource of which no input is kept was not added. -/
lemma KeepsFirst.find?_eq_none {inputs added : List (Resource × InputOrigin)}
    (h : KeepsFirst inputs added) {r : Resource} (hfresh : ∀ i ∈ inputs, (i.1 == r) = false) :
    added.find? (fun j => j.1 == r) = none := by
  apply Option.eq_none_iff_forall_ne_some.mpr
  intro k hk
  have htest := List.find?_some hk
  have hkr : (k.1 == r) = true := htest
  have hsame : (fun j : Resource × InputOrigin => j.1 == k.1) = fun j => j.1 == r :=
    funext fun j => BEq.congr_right hkr
  have hmem : k ∈ inputs := by
    rw [h.mem_iff, hsame]
    exact hk
  rw [hfresh k hmem] at hkr
  cases hkr

/-- Adding an input keeps the first one of each resource. -/
lemma KeepsFirst.addInput {pool : ProducerPool} {added : List (Resource × InputOrigin)}
    (h : KeepsFirst pool.inputs added) (r : Resource) (origin : InputOrigin) :
    KeepsFirst (pool.addInput r origin).inputs (added ++ [(r, origin)]) := by
  unfold ProducerPool.addInput
  by_cases hany : (pool.inputs.any fun i => i.1 == r) = true
  · rw [if_pos hany]
    obtain ⟨k, hk, hkr⟩ := List.any_eq_true.mp hany
    refine ⟨fun i => ?_, h.different⟩
    rw [h.mem_iff, List.find?_append, Option.or_eq_some_iff]
    constructor
    · exact Or.inl
    · rintro (hi | ⟨hnone, hlast⟩)
      · exact hi
      · -- the resource was added before
        have hir := List.mem_singleton.mp (List.mem_of_find?_eq_some hlast)
        have hmem : k ∈ added := List.mem_of_find?_eq_some ((h.mem_iff k).mp hk)
        have hne := List.find?_eq_none.mp hnone k hmem
        rw [hir] at hne
        exact absurd hkr hne
  · rw [if_neg hany]
    have hfresh : ∀ i ∈ pool.inputs, (i.1 == r) = false := by
      simpa using hany
    have hnone := h.find?_eq_none hfresh
    constructor
    · intro i
      rw [List.mem_append, List.mem_singleton, h.mem_iff, List.find?_append,
        Option.or_eq_some_iff]
      apply or_congr Iff.rfl
      constructor
      · rintro rfl
        exact ⟨hnone, by simp⟩
      · rintro ⟨-, hlast⟩
        exact List.mem_singleton.mp (List.mem_of_find?_eq_some hlast)
    · rw [List.pairwise_append]
      refine ⟨h.different, List.pairwise_singleton _ _, ?_⟩
      intro i hi j hj
      rw [List.mem_singleton.mp hj]
      exact hfresh i hi

/-- The inputs of a pool are those that were added first. -/
theorem keepsFirst_gather (additions : List Addition) :
    KeepsFirst (gather additions).inputs (additions.filterMap Addition.input?) := by
  induction additions using List.reverseRecOn with
  | nil => exact ⟨by simp [gather], List.Pairwise.nil⟩
  | append_singleton rest a ih =>
    rw [gather_concat, List.filterMap_append]
    cases a with
    | response r =>
      rw [List.filterMap_cons_none rfl, List.filterMap_nil, List.append_nil]
      exact ih
    | sameBody r =>
      rw [List.filterMap_cons_none rfl, List.filterMap_nil, List.append_nil]
      exact ih
    | input r origin => exact ih.addInput r origin

end ProducerPool

/-! ## Look-ups -/

namespace ProducerIndex

/-- The resources come by increasing keys. -/
def Increasing (rs : List Resource) : Prop :=
  rs.Pairwise fun a b => (compare a.sortKey b.sortKey).isLE

/-- The look-up answers with what was asked for among the resources that were added: it gives
nothing else, an equal one for each of them, and all by increasing keys. -/
structure Answers (answer added : List Resource) (asked : Resource → Prop) : Prop where
  sound : ∀ r ∈ answer, r ∈ added ∧ asked r
  complete : ∀ r ∈ added, asked r → ∃ r' ∈ answer, (r' == r) = true
  increasing : Increasing answer

lemma increasing_sortOn (rs : List Resource) : Increasing (sortOn Resource.sortKey rs) :=
  pairwise_sortOn Resource.sortKey rs

/-- What is selected from the sorted resources answers the question that the test asks, also when
repetitions are dropped from it. -/
lemma answers_dropRepeats {test : Resource → Bool} {asked : Resource → Prop} (added : List Resource)
    (h : ∀ r, test r = true ↔ asked r) :
    Answers (dropRepeats ((sortOn Resource.sortKey added).filter test)) added asked := by
  constructor
  · intro r hr
    obtain ⟨hmem, htest⟩ := List.mem_filter.mp (mem_of_mem_dropRepeats hr)
    exact ⟨mem_sortOn.mp hmem, (h r).mp htest⟩
  · intro r hr hasked
    exact exists_mem_dropRepeats (List.mem_filter.mpr ⟨mem_sortOn.mpr hr, (h r).mpr hasked⟩)
  · have hselected : Increasing ((sortOn Resource.sortKey added).filter test) :=
      (increasing_sortOn added).filter test
    exact hselected.sublist (dropRepeats_sublist _)

variable (pool : ProducerPool)

/-- Responses are looked up by name and endpoint. -/
lemma answers_responsesNamed (name endpoint : String) :
    Answers (pool.index.responsesNamed name endpoint) pool.responses fun r =>
      r.name = name ∧ r.request.place = Endpoint.normalize endpoint := by
  apply answers_dropRepeats
  intro r
  rw [Bool.and_eq_true, beq_iff_eq, beq_iff_eq]

/-- Responses are looked up by type. -/
lemma answers_responsesOfType (type : String) :
    Answers (pool.index.responsesOfType type) pool.responses fun r => r.IsOfType type := by
  apply answers_dropRepeats
  intro r
  exact Resource.any_sameType_iff

/-- Body properties are looked up by name. -/
lemma answers_sameBodyNamed (name : String) :
    Answers (pool.index.sameBodyNamed name) pool.sameBody fun r => r.name = name := by
  apply answers_dropRepeats
  intro r
  exact beq_iff_eq

/-! ### The responses of a request -/

/-- What is asked of a response of a request, if its name or its place is given. -/
def IsAskedFor (request : RequestId) (name : Option String) (place : Option AccessPath)
    (r : Resource) : Prop :=
  (r.request == request) = true ∧ (∀ n ∈ name, r.name = n) ∧ ∀ p ∈ place, r.place? = some p

/-- The test for the name and the place. -/
def isNamedAt (name : Option String) (place : Option AccessPath) (r : Resource) : Bool :=
  name.all (r.name == ·) && place.all fun p => r.place? == some p

/-- The test asks for the name and the place. -/
lemma isNamedAt_iff {name : Option String} {place : Option AccessPath} {r : Resource} :
    isNamedAt name place r = true ↔
      (∀ n ∈ name, r.name = n) ∧ ∀ p ∈ place, r.place? = some p := by
  rw [isNamedAt, Bool.and_eq_true]
  cases name <;> cases place <;> simp

variable {pool} {request : RequestId} {name : Option String} {place : Option AccessPath}

/-- The responses of a request are found by name and place. -/
lemma mem_responsesOf {r : Resource} (hr : r ∈ pool.index.responsesOf request name place) :
    r ∈ pool.responses ∧ IsAskedFor request name place r := by
  obtain ⟨hkept, htest⟩ := List.mem_filter.mp hr
  have hmem := mem_sortOn.mp (mem_of_mem_dropRepeats hkept)
  obtain ⟨hindex, hrequest⟩ := List.mem_filter.mp hmem
  exact ⟨mem_sortOn.mp hindex, hrequest, isNamedAt_iff.mp htest⟩

/-- A response of the request, or an equal one, is found if it has the name and the place. -/
lemma exists_mem_responsesOf {r : Resource} (hr : r ∈ pool.responses)
    (hasked : IsAskedFor request name place r) :
    ∃ r' ∈ pool.index.responsesOf request name place, (r' == r) = true := by
  obtain ⟨hrequest, hname, hplace⟩ := hasked
  have hselected : r ∈ sortOn Resource.name
      (pool.index.responses.filter fun r => r.request == request) :=
    mem_sortOn.mpr (List.mem_filter.mpr ⟨mem_sortOn.mpr hr, hrequest⟩)
  obtain ⟨r', hr', heq⟩ := exists_mem_dropRepeats hselected
  refine ⟨r', List.mem_filter.mpr ⟨hr', isNamedAt_iff.mpr ?_⟩, heq⟩
  rw [Resource.name_eq_of_beq heq, Resource.place?_eq_of_beq heq]
  exact ⟨hname, hplace⟩

/-- The responses of a request come as they are listed by name. -/
lemma responsesOf_sublist (index : ProducerIndex) (request : RequestId) (name : Option String)
    (place : Option AccessPath) :
    (index.responsesOf request name place).Sublist
      ((sortOn Resource.name (index.responses.filter fun r => r.request == request)).filter
        (isNamedAt name place)) := by
  have hkept := dropRepeats_sublist
    (sortOn Resource.name (index.responses.filter fun r => r.request == request))
  exact hkept.filter (isNamedAt name place)

/-- By name, the responses of a request are found in the order of the index. -/
lemma increasing_responsesOf_name (n : String) :
    Increasing (pool.index.responsesOf request (some n) place) := by
  have hsublist := responsesOf_sublist pool.index request (some n) place
  -- all that pass the test have one name, so that the listing by name keeps their order
  have hties : ∀ a b, isNamedAt (some n) place a = true → isNamedAt (some n) place b = true →
      compareOn Resource.name a b = .eq := by
    intro a b ha hb
    have hna := (isNamedAt_iff.mp ha).1 n rfl
    have hnb := (isNamedAt_iff.mp hb).1 n rfl
    rw [compareOn, hna, hnb, Std.ReflOrd.compare_self]
  rw [sortOn_eq_sortBy, filter_sortBy hties] at hsublist
  have hselected := hsublist.trans (List.filter_sublist.trans List.filter_sublist)
  exact (increasing_sortOn pool.responses).sublist hselected

/-- Responses of one request at one place come by increasing keys if they come by increasing
names. -/
lemma isLE_compare_sortKey {a b : Resource} {p : AccessPath}
    (ha : IsAskedFor request name (some p) a) (hb : IsAskedFor request name (some p) b)
    (hname : (compare a.name b.name).isLE) : (compare a.sortKey b.sortKey).isLE := by
  have hkey : a.request.key = b.request.key :=
    RequestId.beq_iff.mp (BEq.trans ha.1 (BEq.symm hb.1))
  obtain ⟨hplace, hmethod⟩ := Prod.mk.inj hkey
  have hpa : a.place? = some p := ha.2.2 p rfl
  have hpb : b.place? = some p := hb.2.2 p rfl
  have hmapKey : a.mapKey = b.mapKey := by rw [Resource.mapKey, Resource.mapKey, hpa, hpb]
  have hkind : ∀ r : Resource, r.place? = some p → r.reference.kind = .body := by
    intro r hr
    unfold Resource.place? at hr
    cases hreference : r.reference with
    | body n q => rfl
    | path n segments => rw [hreference] at hr; cases hr
    | query n => rw [hreference] at hr; cases hr
    | header n => rw [hreference] at hr; cases hr
  -- up to the names the keys are the same
  show ((compare a.request.place b.request.place).then <|
    (compare a.request.method b.request.method).then <| (compare a.mapKey b.mapKey).then <|
      (compare a.name b.name).then
        (compare a.reference.kind.word b.reference.kind.word)).isLE
  rw [hplace, hmethod, hmapKey, hkind a hpa, hkind b hpb]
  simpa [Std.ReflOrd.compare_self] using hname

/-- By place, the responses of a request are found in the order of their keys. -/
lemma increasing_responsesOf_place (p : AccessPath) :
    Increasing (pool.index.responsesOf request name (some p)) := by
  have hnames : (pool.index.responsesOf request name (some p)).Pairwise fun a b =>
      (compare a.name b.name).isLE := by
    have hsublist := responsesOf_sublist pool.index request name (some p)
    exact (pairwise_sortOn Resource.name _).sublist (hsublist.trans List.filter_sublist)
  refine hnames.imp_of_mem fun ha hb hname => ?_
  exact isLE_compare_sortKey (mem_responsesOf ha).2 (mem_responsesOf hb).2 hname

/-- The responses of a request answer the question if they come in order. -/
lemma answers_responsesOf (h : Increasing (pool.index.responsesOf request name place)) :
    Answers (pool.index.responsesOf request name place) pool.responses
      (IsAskedFor request name place) where
  sound _ hr := mem_responsesOf hr
  complete _ hr hasked := exists_mem_responsesOf hr hasked
  increasing := h

/-! ### Inputs -/

/-- The look-up answers with the inputs of a name: with the first one that was added of each
resource, and by increasing keys. -/
structure AnswersInputs (answer added : List (Resource × InputOrigin)) (name : String) : Prop where
  mem_iff : ∀ i, i ∈ answer ↔ i.1.name = name ∧ added.find? (fun j => j.1 == i.1) = some i
  different : answer.Pairwise fun i j => (i.1 == j.1) = false
  increasing : Increasing (answer.map Prod.fst)

/-- Inputs are looked up by name. -/
lemma answersInputs_inputsNamed {added : List (Resource × InputOrigin)}
    (h : ProducerPool.KeepsFirst pool.inputs added) (name : String) :
    AnswersInputs (pool.index.inputsNamed name) added name := by
  have hperm := sortOn_perm (fun i : Resource × InputOrigin => i.1.sortKey) pool.inputs
  have hsorted := pairwise_sortOn (fun i : Resource × InputOrigin => i.1.sortKey) pool.inputs
  constructor
  · intro i
    show i ∈ (sortOn (fun i => i.1.sortKey) pool.inputs).filter (fun i => i.1.name == name) ↔ _
    rw [List.mem_filter, mem_sortOn, h.mem_iff, beq_iff_eq, and_comm]
  · have hsymm : ∀ {i j : Resource × InputOrigin}, (i.1 == j.1) = false → (j.1 == i.1) = false := by
      intro i j hij
      rw [BEq.comm, hij]
    exact (hperm.symm.pairwise h.different hsymm).filter _
  · show ((pool.index.inputsNamed name).map Prod.fst).Pairwise _
    rw [List.pairwise_map]
    exact hsorted.filter _

end ProducerIndex

namespace ProducerPool

open ProducerIndex

/-- After any additions, every look-up answers with what was added and was asked for: responses by
name and endpoint, by type, and by request with a name or a place, body properties by name, and
inputs by name, with the origin of their first addition. -/
theorem lookUps_gather (additions : List Addition) :
    let index := (gather additions).index
    let responses := additions.filterMap Addition.response?
    (∀ name endpoint, Answers (index.responsesNamed name endpoint) responses fun r =>
        r.name = name ∧ r.request.place = Endpoint.normalize endpoint) ∧
      (∀ type, Answers (index.responsesOfType type) responses fun r => r.IsOfType type) ∧
      (∀ name, Answers (index.sameBodyNamed name) (additions.filterMap Addition.sameBody?) fun r =>
        r.name = name) ∧
      (∀ name, AnswersInputs (index.inputsNamed name) (additions.filterMap Addition.input?) name) ∧
      (∀ request name place, Answers (index.responsesOf request (some name) place) responses
        (IsAskedFor request (some name) place)) ∧
      ∀ request name place, Answers (index.responsesOf request name (some place)) responses
        (IsAskedFor request name (some place)) := by
  intro index responses
  have hresponses : (gather additions).responses = responses := responses_gather additions
  have hsameBody := sameBody_gather additions
  -- the pool holds responses and body properties as they were added
  rw [← hsameBody, ← hresponses]
  refine ⟨answers_responsesNamed _, answers_responsesOfType _, answers_sameBodyNamed _, ?_, ?_, ?_⟩
  · exact answersInputs_inputsNamed (keepsFirst_gather additions)
  · intro request name place
    exact answers_responsesOf (increasing_responsesOf_name name)
  · intro request name place
    exact answers_responsesOf (increasing_responsesOf_place place)

end ProducerPool

end RestFlow

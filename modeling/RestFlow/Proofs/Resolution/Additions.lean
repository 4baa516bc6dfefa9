import RestFlow.Proofs.Order.Neighbours
import RestFlow.Proofs.Resolution.LookUps

/-!
# Adding a producer again

A producer that was added before may be added again. For inputs this makes no difference. Responses
and body properties are all kept, and repetitions are dropped from the sorted answers only where
they stand next to each other. Resources that sort alike need not be equal, because their types and
what was inferred from their names are no part of the sort key, and stay in the order in which they
were added. So adding one again makes no difference to the look-ups (`ProducerIndex.Agrees`) exactly
if, among those that sort like it, it was added next to an equal one
(`ProducerPool.agrees_gather_iff`).
-/

namespace RestFlow

/-! ## Resources that sort alike -/

namespace Resource

/-- The two resources sort alike: they belong to one request and have the same key in listings, the
same name and the same kind. -/
def sortsLike (r x : Resource) : Bool :=
  ties (compareOn sortKey) r x

/-- Of the resources that sort like `r`, the last earlier one equals it, or the first later one is
`r` itself. -/
def StandsBesideAlike (r : Resource) (earlier later : List Resource) : Prop :=
  StandsBeside r (earlier.filter r.sortsLike) (later.filter r.sortsLike)

variable {a b r : Resource}

lemma primaryType?_eq_of_beq (h : (a == b) = true) : a.primaryType? = b.primaryType? := by
  rw [primaryType?, primaryType?, (beq_eq_true_iff.mp h).2]

lemma sortsLike_iff : r.sortsLike a = true ↔ r.sortKey = a.sortKey := by
  rw [sortsLike, ties, Ordering.isEq_iff_eq_eq]
  exact Std.LawfulEqOrd.compare_eq_iff_eq

lemma sortsLike_congr (h : (a == b) = true) : r.sortsLike a = r.sortsLike b := by
  rw [Bool.eq_iff_iff, sortsLike_iff, sortsLike_iff, sortKey_eq_of_beq h]

variable {earlier later : List Resource}

/-- A resource that is added next to an equal one is next to it when all are sorted. -/
lemma StandsBesideAlike.echoes (h : r.StandsBesideAlike earlier later) :
    Echoes (sortOn sortKey (earlier ++ later)) (sortOn sortKey (earlier ++ r :: later)) := by
  rw [sortOn_eq_sortBy, sortOn_eq_sortBy]
  exact echoes_sortBy h

/-- If a selection with all that sort like a resource does not show that it was added, then it was
added next to an equal one. -/
lemma standsBesideAlike_of_dropRepeats_eq {test : Resource → Bool}
    (htest : ∀ x, r.sortsLike x = true → test x = true)
    (h : dropRepeats ((sortOn sortKey (earlier ++ r :: later)).filter test) =
      dropRepeats ((sortOn sortKey (earlier ++ later)).filter test)) :
    r.StandsBesideAlike earlier later := by
  obtain ⟨front, back, hwithout, hwith, hfront, hback⟩ :=
    exists_sortBy_append_cons (compareOn sortKey) r earlier later
  have hself : r.sortsLike r = true := sortsLike_iff.mpr rfl
  rw [sortOn_eq_sortBy, sortOn_eq_sortBy, hwithout, hwith, List.filter_append, List.filter_append,
    List.filter_cons_of_pos (htest r hself), dropRepeats_append_cons_eq_iff] at h
  have halike := h.filter (fun _ _ => sortsLike_congr) hself
  have hboth : ∀ l : List Resource, (l.filter test).filter r.sortsLike = l.filter r.sortsLike := by
    intro l
    rw [List.filter_filter]
    refine List.filter_congr fun x _ => ?_
    cases hx : r.sortsLike x with
    | false => rfl
    | true => rw [htest x hx, Bool.true_and]
  have hsame : front.filter r.sortsLike = earlier.filter r.sortsLike ∧
      back.filter r.sortsLike = later.filter r.sortsLike := ⟨hfront, hback⟩
  rwa [hboth, hboth, hsame.1, hsame.2] at halike

end Resource

/-! ## Indices that agree -/

namespace ProducerIndex

/-- The indices give the same answers. -/
structure Agrees (i j : ProducerIndex) : Prop where
  responsesNamed : ∀ name endpoint, i.responsesNamed name endpoint = j.responsesNamed name endpoint
  responsesOfType : ∀ type, i.responsesOfType type = j.responsesOfType type
  responsesOf : ∀ request name place,
    i.responsesOf request name place = j.responsesOf request name place
  sameBodyNamed : ∀ name, i.sameBodyNamed name = j.sameBodyNamed name
  inputsNamed : ∀ name, i.inputsNamed name = j.inputsNamed name
  producers : i.producers = j.producers

/-- Equal resources are listed together. -/
lemma dropRepeats_sortOn_name_eq {rs rs' : List Resource} (h : Echoes rs rs') :
    dropRepeats (sortOn Resource.name rs') = dropRepeats (sortOn Resource.name rs) := by
  rw [sortOn_eq_sortBy, sortOn_eq_sortBy]
  refine (h.sortBy fun a b hab => ?_).dropRepeats_eq
  rw [compareOn, Resource.name_eq_of_beq hab]
  exact Std.ReflCmp.compare_self

/-- Look-ups do not show echoes. -/
lemma agrees_of_echoes {i j : ProducerIndex} (hresponses : Echoes j.responses i.responses)
    (hsameBody : Echoes j.sameBody i.sameBody) (hinputs : i.inputs = j.inputs) : i.Agrees j where
  responsesNamed name endpoint := by
    refine (hresponses.filter fun a b hab => ?_).dropRepeats_eq
    have hplace : a.request.place = b.request.place :=
      congrArg Resource.SortKey.place (Resource.sortKey_eq_of_beq hab)
    rw [Resource.name_eq_of_beq hab, hplace]
  responsesOfType type := by
    refine (hresponses.filter fun a b hab => ?_).dropRepeats_eq
    rw [Resource.primaryType?_eq_of_beq hab]
  responsesOf request name place := by
    -- the responses of one request have echoes among themselves only
    have hof : Echoes (j.responses.filter fun r => r.request == request)
        (i.responses.filter fun r => r.request == request) := by
      refine hresponses.filter fun a b hab => ?_
      exact BEq.congr_left (Resource.beq_eq_true_iff.mp hab).1
    rw [ProducerIndex.responsesOf, ProducerIndex.responsesOf, dropRepeats_sortOn_name_eq hof]
  sameBodyNamed name := by
    refine (hsameBody.filter fun a b hab => ?_).dropRepeats_eq
    rw [Resource.name_eq_of_beq hab]
  inputsNamed name := by
    rw [ProducerIndex.inputsNamed, ProducerIndex.inputsNamed, hinputs]
  producers := by
    rw [ProducerIndex.producers, ProducerIndex.producers, dropRepeats_sortOn_name_eq hresponses,
      dropRepeats_sortOn_name_eq hsameBody, hinputs]

/-- Resources that sort like a response are found by its name and its endpoint. -/
lemma named_of_sortsLike {r x : Resource} (h : r.sortsLike x = true) :
    (x.name == r.name && x.request.place == Endpoint.normalize r.request.endpoint) = true := by
  have hkey := Resource.sortsLike_iff.mp h
  have hname : r.name = x.name := congrArg Resource.SortKey.name hkey
  have hplace : r.request.place = x.request.place := congrArg Resource.SortKey.place hkey
  rw [← hname, ← hplace, Bool.and_eq_true]
  exact ⟨beq_self_eq_true _, beq_self_eq_true _⟩

end ProducerIndex

/-! ## Additions -/

namespace ProducerPool

namespace Addition

/-- The same is added in the same way, whatever the origin of an input. -/
inductive Repeats : Addition → Addition → Prop where
  | response {r r' : Resource} (h : (r == r') = true) : Repeats (response r) (response r')
  | sameBody {r r' : Resource} (h : (r == r') = true) : Repeats (sameBody r) (sameBody r')
  | input {r r' : Resource} (h : (r == r') = true) (origin origin' : InputOrigin) :
    Repeats (input r origin) (input r' origin')

/-- A response or a body property is added next to an equal one, among those that sort like it. -/
def IsEcho (earlier later : List Addition) : Addition → Prop
  | response r => r.StandsBesideAlike (earlier.filterMap response?) (later.filterMap response?)
  | sameBody r => r.StandsBesideAlike (earlier.filterMap sameBody?) (later.filterMap sameBody?)
  | input _ _ => True

end Addition

variable {earlier later : List Addition} {r : Resource} {a : Addition}

/-- The inputs after further additions depend on those before them only. -/
lemma inputs_foldl_add_congr {pool pool' : ProducerPool} (h : pool.inputs = pool'.inputs)
    (later : List Addition) : (later.foldl add pool).inputs = (later.foldl add pool').inputs := by
  induction later generalizing pool pool' with
  | nil => exact h
  | cons a later ih =>
    rw [List.foldl_cons, List.foldl_cons]
    refine ih ?_
    cases a with
    | response r => exact h
    | sameBody r => exact h
    | input r origin =>
      rw [add, add, addInput, addInput, h]
      split
      · exact h
      · rfl

/-- The index lists the responses that were added first and later, sorted. -/
lemma responses_index_gather_append (earlier later : List Addition) :
    (gather (earlier ++ later)).index.responses = sortOn Resource.sortKey
      (earlier.filterMap Addition.response? ++ later.filterMap Addition.response?) := by
  rw [← List.filterMap_append, ← responses_gather]
  rfl

/-- The index lists the body properties that were added first and later, sorted. -/
lemma sameBody_index_gather_append (earlier later : List Addition) :
    (gather (earlier ++ later)).index.sameBody = sortOn Resource.sortKey
      (earlier.filterMap Addition.sameBody? ++ later.filterMap Addition.sameBody?) := by
  rw [← List.filterMap_append, ← sameBody_gather]
  rfl

/-- An addition that leaves the inputs as they are makes no difference to those that the index lists
later. -/
lemma inputs_index_gather_append_cons (h : ((gather earlier).add a).inputs = (gather earlier).inputs)
    (later : List Addition) :
    (gather (earlier ++ a :: later)).index.inputs = (gather (earlier ++ later)).index.inputs := by
  have hinputs : (gather (earlier ++ a :: later)).inputs = (gather (earlier ++ later)).inputs := by
    rw [gather, gather, List.foldl_append, List.foldl_append, List.foldl_cons]
    exact inputs_foldl_add_congr h later
  show sortOn _ _ = sortOn _ _
  rw [hinputs]

/-- Adding an input again changes nothing. -/
lemma add_input_eq_self {origin : InputOrigin}
    (h : ∃ b ∈ earlier, b.Repeats (.input r origin)) :
    (gather earlier).add (.input r origin) = gather earlier := by
  obtain ⟨b, hb, hrepeats⟩ := h
  cases hrepeats with
  | @input r' _ hr origin' _ =>
    refine if_pos ?_
    by_contra hfresh
    have hnone : (earlier.filterMap Addition.input?).find? (fun j => j.1 == r) = none :=
      (keepsFirst_gather earlier).find?_eq_none (by simpa using hfresh)
    have hadded : (r', origin') ∈ earlier.filterMap Addition.input? :=
      List.mem_filterMap.mpr ⟨_, hb, rfl⟩
    exact List.find?_eq_none.mp hnone _ hadded hr

/-- Adding a response again makes no difference exactly if it is added next to an equal one. -/
lemma agrees_gather_response_iff (r : Resource) (earlier later : List Addition) :
    (gather (earlier ++ .response r :: later)).index.Agrees (gather (earlier ++ later)).index ↔
      r.StandsBesideAlike (earlier.filterMap Addition.response?)
        (later.filterMap Addition.response?) := by
  have hwith := responses_index_gather_append earlier (.response r :: later)
  have hwithout := responses_index_gather_append earlier later
  constructor
  · intro h
    have hnamed := h.responsesNamed r.name r.request.endpoint
    unfold ProducerIndex.responsesNamed at hnamed
    rw [hwith, hwithout] at hnamed
    exact Resource.standsBesideAlike_of_dropRepeats_eq
      (fun _ => ProducerIndex.named_of_sortsLike) hnamed
  · intro h
    refine ProducerIndex.agrees_of_echoes ?_ ?_ (inputs_index_gather_append_cons rfl later)
    · rw [hwith, hwithout]
      exact h.echoes
    · rw [sameBody_index_gather_append, sameBody_index_gather_append]
      exact .refl _

/-- Adding a body property again makes no difference exactly if it is added next to an equal one. -/
lemma agrees_gather_sameBody_iff (r : Resource) (earlier later : List Addition) :
    (gather (earlier ++ .sameBody r :: later)).index.Agrees (gather (earlier ++ later)).index ↔
      r.StandsBesideAlike (earlier.filterMap Addition.sameBody?)
        (later.filterMap Addition.sameBody?) := by
  have hwith := sameBody_index_gather_append earlier (.sameBody r :: later)
  have hwithout := sameBody_index_gather_append earlier later
  constructor
  · intro h
    have hnamed := h.sameBodyNamed r.name
    unfold ProducerIndex.sameBodyNamed at hnamed
    rw [hwith, hwithout] at hnamed
    refine Resource.standsBesideAlike_of_dropRepeats_eq (fun x hx => ?_) hnamed
    exact (Bool.and_eq_true_iff.mp (ProducerIndex.named_of_sortsLike hx)).1
  · intro h
    refine ProducerIndex.agrees_of_echoes ?_ ?_ (inputs_index_gather_append_cons rfl later)
    · rw [responses_index_gather_append, responses_index_gather_append]
      exact .refl _
    · rw [hwith, hwithout]
      exact h.echoes

/-- Wherever something is added again, all look-ups and the list of producers stay the same exactly
if it is an input, or it is added next to an equal one, among those that sort like it. -/
theorem agrees_gather_iff (h : ∃ b ∈ earlier, b.Repeats a) :
    (gather (earlier ++ a :: later)).index.Agrees (gather (earlier ++ later)).index ↔
      a.IsEcho earlier later := by
  cases a with
  | response r => exact agrees_gather_response_iff r earlier later
  | sameBody r => exact agrees_gather_sameBody_iff r earlier later
  | input r origin =>
    refine iff_of_true ?_ trivial
    have hgather : gather (earlier ++ .input r origin :: later) = gather (earlier ++ later) := by
      rw [gather, gather, List.foldl_append, List.foldl_append, List.foldl_cons]
      exact congrArg (later.foldl add ·) (add_input_eq_self h)
    rw [hgather]
    exact ProducerIndex.agrees_of_echoes (.refl _) (.refl _) rfl

/-! ### Stores with two kinds of identifiers -/

/-- The `id` of a store that is returned when it is created. -/
def returnedStoreId (type : PrimitiveType) : Resource :=
  .situated .output { endpoint := "/stores", method := .post } (.ofPlace ⟨["id"]⟩)
    (Convention.infer "id") type

/-- The `id` of a store is a text in one response and a number in another one. -/
def storeIds : List Addition :=
  [.response (returnedStoreId .string), .response (returnedStoreId .int)]

/-- The number may be added again right after itself, whatever is added later. -/
theorem agrees_gather_storeId :
    (∃ b ∈ storeIds, b.Repeats (.response (returnedStoreId .int))) ∧
      (gather (storeIds ++ .response (returnedStoreId .int) ::
        [.response (returnedStoreId .string)])).index.Agrees
          (gather (storeIds ++ [.response (returnedStoreId .string)])).index := by
  have hrepeats : ∃ b ∈ storeIds, b.Repeats (.response (returnedStoreId .int)) :=
    ⟨_, List.mem_cons_of_mem _ List.mem_cons_self, .response BEq.rfl⟩
  exact ⟨hrepeats, (agrees_gather_iff hrepeats).mpr (.inl ⟨returnedStoreId .int, rfl, BEq.rfl⟩)⟩

/-- The text is listed twice if it is added again after the number. -/
theorem not_forall_agrees_gather :
    ¬∀ (earlier later : List Addition) (a : Addition), a ∈ earlier →
      (gather (earlier ++ a :: later)).index.Agrees (gather (earlier ++ later)).index := by
  intro h
  have hagrees := h storeIds [] (.response (returnedStoreId .string)) List.mem_cons_self
  have hlength := congrArg List.length (hagrees.responsesNamed "id" "/stores")
  exact absurd hlength (by decide +kernel)

end ProducerPool

end RestFlow

import RestFlow.Proofs.Resolution.LookUps
import RestFlow.Proofs.Resolution.Validity

/-!
# The search above a consumer

A response above a consumer is looked for by its name at one proper ancestor of the consumer's
endpoint after the other, and of all that is found there the first one by its key is taken.  This is
the response that a scan of all additions finds (`Strategy.fromAncestors_eq`): the first one by its
key of those that have the expected name and type, may feed the consumer's request, and are at an
endpoint whose segments are a proper prefix of the consumer's (`Consumer.fitsAbove`).

Two responses of the same key are at one endpoint, so that they are found by the same look-ups.  Of
the responses of each key the search therefore meets the same one first as the scan
(`Strategy.find?_ancestorResponses`), and the least key decides.
-/

namespace RestFlow

/-! ## Searches -/

section Searches

variable {α β : Type}

/-- A search through alternatives of which only some lead anywhere, all to the same result. -/
lemma findSome?_ite (l : List β) (p : β → Bool) (found : Option α) :
    (l.findSome? fun b => if p b then found else none) = if l.any p then found else none := by
  induction l with
  | nil => rfl
  | cons b rest ih =>
    rw [List.findSome?_cons, List.any_cons]
    cases p b with
    | true =>
      cases found with
      | some a => rfl
      | none => simp
    | false => simpa using ih

end Searches

/-! ## What is asked of a response -/

namespace Consumer

/-- The response has the name and the type that the consumer expects of a producer, and its request
may feed the consumer's. -/
def fits (c : Consumer) (around : Surroundings) (type : String) (r : Resource) : Bool :=
  r.name == c.resource.producerParameter &&
    (r.primaryType?.any fun t => Naming.sameType t type) && c.accepts around r

variable {c : Consumer} {around : Surroundings} {type : String} {r r' : Resource}

/-- The test asks for the name, the type and a request that may feed the consumer's. -/
lemma fits_iff :
    c.fits around type r = true ↔
      r.name = c.resource.producerParameter ∧ r.IsOfType type ∧ c.accepts around r = true := by
  rw [fits, Bool.and_eq_true, Bool.and_eq_true, beq_iff_eq, Resource.any_sameType_iff, and_assoc]

/-- Equal responses fit alike. -/
lemma fits_eq_of_beq (h : (r == r') = true) : c.fits around type r = c.fits around type r' := by
  have hprimary : r.primaryType? = r'.primaryType? := by
    rw [(Resource.beq_eq_true_iff.mp h).2]
    rfl
  rw [fits, fits, Resource.name_eq_of_beq h, hprimary, accepts_eq_of_beq h]

/-- The response fits and is strictly above the endpoint that the consumer's value is scoped to. -/
def fitsAbove (c : Consumer) (around : Surroundings) (type : String) (r : Resource) : Bool :=
  c.fits around type r && Endpoint.isStrictAncestor r.request.endpoint c.anchor

end Consumer

/-! ## Enumerating ancestors -/

namespace Endpoint

variable {a b endpoint : String}

lemma isStrictAncestor_eq_of_normalize_eq (h : normalize a = normalize b) (endpoint : String) :
    isStrictAncestor a endpoint = isStrictAncestor b endpoint := by
  rw [isStrictAncestor, isStrictAncestor, normalize_eq_iff.mp h]

end Endpoint

namespace Strategy

/-- The segments of a proper ancestor are the first ones of the endpoint. -/
lemma isStrictAncestor_of_mem_properAncestors {ancestor endpoint : String}
    (h : ancestor ∈ properAncestors endpoint) :
    Endpoint.isStrictAncestor ancestor endpoint = true := by
  obtain ⟨n, hn, rfl⟩ := List.mem_map.mp h
  have hlt : n < (Endpoint.segments endpoint).length := List.mem_range.mp hn
  have hplain : ∀ part ∈ (Endpoint.segments endpoint).take n, AccessPath.IsPlainSegment part :=
    fun part hpart => Endpoint.isPlainSegment_of_mem_segments (List.mem_of_mem_take hpart)
  rw [Endpoint.isStrictAncestor, Endpoint.segments_ofSegments hplain]
  simp only [Bool.and_eq_true, decide_eq_true_eq, List.isPrefixOf_iff_prefix]
  constructor
  · rw [List.length_take]
    omega
  · exact List.take_prefix n _

/-- Some proper ancestor is spelled like an endpoint exactly if this is strictly above. -/
lemma any_properAncestors (place endpoint : String) :
    ((properAncestors endpoint).any fun ancestor =>
        Endpoint.normalize ancestor == Endpoint.normalize place) =
      Endpoint.isStrictAncestor place endpoint := by
  rw [Bool.eq_iff_iff, List.any_eq_true]
  constructor
  · rintro ⟨ancestor, hancestor, hplace⟩
    rw [← Endpoint.isStrictAncestor_eq_of_normalize_eq (beq_iff_eq.mp hplace)]
    exact isStrictAncestor_of_mem_properAncestors hancestor
  · intro h
    exact ⟨_, mem_properAncestors h, beq_iff_eq.mpr (Endpoint.normalize_normalize place)⟩

end Strategy

namespace Resource

/-- Resources that tie are at one endpoint. -/
lemma place_eq_of_ties {a r : Resource} (h : ties (compareOn sortKey) a r = true) :
    r.request.place = a.request.place := by
  rw [ties, Ordering.isEq_iff_eq_eq] at h
  have hkey : a.sortKey = r.sortKey := Std.LawfulEqOrd.eq_of_compare h
  exact (congrArg SortKey.place hkey).symm

lemma ties_eq_of_beq {a r r' : Resource} (h : (r == r') = true) :
    ties (compareOn sortKey) a r = ties (compareOn sortKey) a r' := by
  rw [ties, ties, compareOn, compareOn, sortKey_eq_of_beq h]

end Resource

namespace ProducerIndex

/-- By name and endpoint a response is found just as in a search through the whole index. -/
lemma find?_responsesNamed (index : ProducerIndex) (name endpoint : String) {test : Resource → Bool}
    (h : ∀ r r' : Resource, (r == r') = true → test r = test r') :
    (index.responsesNamed name endpoint).find? test = index.responses.find? fun r =>
      (r.name == name && r.request.place == Endpoint.normalize endpoint) && test r := by
  rw [responsesNamed, find?_dropRepeats h, find?_filter_and]

/-- The responses of a name have this name. -/
lemma name_of_mem_responsesNamed {index : ProducerIndex} {name endpoint : String} {r : Resource}
    (h : r ∈ index.responsesNamed name endpoint) : r.name = name := by
  have htest := (List.mem_filter.mp (mem_of_mem_dropRepeats h)).2
  rw [Bool.and_eq_true, beq_iff_eq] at htest
  exact htest.1

end ProducerIndex

namespace Consumer

variable {c : Consumer} {around : Surroundings} {type : String}

/-- The response fits and has the key of another one. -/
def fitsLike (c : Consumer) (around : Surroundings) (type : String) (a r : Resource) : Bool :=
  c.fits around type r && ties (compareOn Resource.sortKey) a r

lemma fitsLike_eq_of_beq {a r r' : Resource} (h : (r == r') = true) :
    c.fitsLike around type a r = c.fitsLike around type a r' := by
  rw [fitsLike, fitsLike, fits_eq_of_beq h, Resource.ties_eq_of_beq h]

/-- Responses that fit and have one key compare equal. -/
lemma compare_eq_of_fitsLike {a x y : Resource} (hx : c.fitsLike around type a x = true)
    (hy : c.fitsLike around type a y = true) : compareOn Resource.sortKey x y = .eq := by
  rw [fitsLike, Bool.and_eq_true] at hx hy
  exact compare_eq_of_ties x y hx.2 hy.2

/-- Responses of one key are all above a consumer or none is. -/
lemma find?_fitsAbove (rs : List Resource) (a : Resource) :
    (rs.filter (c.fitsAbove around type)).find? (ties (compareOn Resource.sortKey) a) =
      if Endpoint.isStrictAncestor a.request.endpoint c.anchor then
        rs.find? (c.fitsLike around type a) else none := by
  have htest : ∀ r, (c.fitsAbove around type r && ties (compareOn Resource.sortKey) a r) =
      (Endpoint.isStrictAncestor a.request.endpoint c.anchor && c.fitsLike around type a r) := by
    intro r
    rw [fitsAbove, fitsLike]
    cases htie : ties (compareOn Resource.sortKey) a r with
    | false => simp
    | true =>
      rw [Endpoint.isStrictAncestor_eq_of_normalize_eq (Resource.place_eq_of_ties htie)]
      simp [Bool.and_comm]
  rw [find?_filter_and, funext htest]
  cases Endpoint.isStrictAncestor a.request.endpoint c.anchor with
  | true => rfl
  | false => simp

/-- Responses of one key are all at an endpoint or none is. -/
lemma find?_responsesNamed_fitsLike (index : ProducerIndex) (ancestor : String) (a : Resource) :
    (index.responsesNamed c.resource.producerParameter ancestor).find? (c.fitsLike around type a) =
      if Endpoint.normalize ancestor == a.request.place then
        index.responses.find? (c.fitsLike around type a) else none := by
  have htest : ∀ r : Resource, (r.name == c.resource.producerParameter &&
      r.request.place == Endpoint.normalize ancestor && c.fitsLike around type a r) =
        (Endpoint.normalize ancestor == a.request.place && c.fitsLike around type a r) := by
    intro r
    cases hlike : c.fitsLike around type a r with
    | false => simp
    | true =>
      rw [fitsLike, Bool.and_eq_true] at hlike
      rw [(fits_iff.mp hlike.1).1, Resource.place_eq_of_ties hlike.2, beq_self_eq_true,
        Bool.true_and, Bool.and_true, Bool.and_true, BEq.comm]
  rw [ProducerIndex.find?_responsesNamed _ _ _ fun _ _ => fitsLike_eq_of_beq, funext htest]
  cases Endpoint.normalize ancestor == a.request.place with
  | true => rfl
  | false => simp

end Consumer

namespace Strategy

variable {pool : ProducerPool} {c : Consumer} {around : Surroundings} {type : String}

/-- The search above a consumer selects what fits from the look-ups at all proper ancestors. -/
lemma ancestorResponses_eq_filter :
    ancestorResponses c around type = ((properAncestors c.anchor).flatMap
      (around.index.responsesNamed c.resource.producerParameter)).filter (c.fits around type) := by
  apply List.filter_congr
  intro r hr
  obtain ⟨ancestor, -, hmem⟩ := List.mem_flatMap.mp hr
  rw [Consumer.fits, ProducerIndex.name_of_mem_responsesNamed hmem, beq_self_eq_true,
    Bool.true_and]

/-- Of the responses that tie with one, the search above a consumer meets the same one first as a
scan of all responses that were added. -/
lemma find?_ancestorResponses (hindex : around.index = pool.index) (a : Resource) :
    (ancestorResponses c around type).find? (ties (compareOn Resource.sortKey) a) =
      (pool.responses.filter (c.fitsAbove around type)).find?
        (ties (compareOn Resource.sortKey) a) := by
  have hsorted : around.index.responses.find? (c.fitsLike around type a) =
      pool.responses.find? (c.fitsLike around type a) := by
    rw [hindex]
    show (sortOn Resource.sortKey pool.responses).find? _ = _
    rw [sortOn_eq_sortBy, ← List.head?_filter,
      filter_sortBy fun x y => Consumer.compare_eq_of_fitsLike, List.head?_filter]
  calc (ancestorResponses c around type).find? (ties (compareOn Resource.sortKey) a)
      = (properAncestors c.anchor).findSome? fun ancestor =>
          (around.index.responsesNamed c.resource.producerParameter ancestor).find?
            (c.fitsLike around type a) := by
        rw [ancestorResponses_eq_filter, find?_filter_and, List.find?_flatMap]
        rfl
    _ = (properAncestors c.anchor).findSome? fun ancestor =>
          if Endpoint.normalize ancestor == a.request.place then
            pool.responses.find? (c.fitsLike around type a) else none := by
        simp only [Consumer.find?_responsesNamed_fitsLike, hsorted]
    _ = if Endpoint.isStrictAncestor a.request.endpoint c.anchor then
          pool.responses.find? (c.fitsLike around type a) else none := by
        rw [findSome?_ite, RequestId.place, any_properAncestors]
    _ = _ := (Consumer.find?_fitsAbove pool.responses a).symm

/-- The response that is found above a consumer is the one that a scan of all responses that were
added finds. -/
theorem fromAncestors_eq (hindex : around.index = pool.index)
    (htype : c.resource.primaryType? = some type) :
    fromAncestors c around =
      (sortOn Resource.sortKey (pool.responses.filter (c.fitsAbove around type))).head?.map
        .response := by
  have hhead : (sortOn Resource.sortKey (ancestorResponses c around type)).head? =
      (sortOn Resource.sortKey (pool.responses.filter (c.fitsAbove around type))).head? := by
    rw [sortOn_eq_sortBy, sortOn_eq_sortBy]
    exact head?_sortBy_congr fun a => find?_ancestorResponses hindex a
  rw [fromAncestors, htype, Option.bind_eq_bind, Option.bind_some, hhead]
  exact Option.map_eq_bind.symm

/-- What is found above a consumer decides for the exact type. -/
lemma run_exactType_eq_found {p : Producer} (h : fromAncestors c around = some p)
    (d : Dictionary) : run .exactType c around d = .found p := by
  rw [run, byExactType, h]
  rfl

end Strategy

namespace ProducerPool

open Strategy

/-- After any additions, the exact type leads to the first by its key, and by its arrival, of the
responses that fit and are above the consumer.  If there are none, nothing is found there. -/
theorem exactType_gather (additions : List Addition) (dictionaries : EndpointDictionaries)
    (allowGet : Bool) (c : Consumer) (d : Dictionary) (type : String)
    (htype : c.resource.primaryType? = some type) :
    let around : Surroundings := ⟨(gather additions).index, dictionaries, allowGet⟩
    let scan := (additions.filterMap Addition.response?).filter (c.fitsAbove around type)
    (scan ≠ [] → ∃ first, (sortOn Resource.sortKey scan).head? = some first ∧
        run .exactType c around d = .found (.response first)) ∧
      (scan = [] → fromAncestors c around = none) := by
  intro around scan
  -- walking through the buckets comes to one scan, sorted by keys
  have hsearch : fromAncestors c around =
      (sortOn Resource.sortKey scan).head?.map .response := by
    have hindex : around.index = (gather additions).index := rfl
    rw [fromAncestors_eq hindex htype, responses_gather]
  constructor
  · intro hscan
    have hne : sortOn Resource.sortKey scan ≠ [] := by
      intro hnil
      have hperm := sortOn_perm Resource.sortKey scan
      rw [hnil] at hperm
      exact hscan hperm.nil_eq.symm
    have hfirst : (sortOn Resource.sortKey scan).head? = some _ := List.head?_eq_some_head hne
    refine ⟨_, hfirst, run_exactType_eq_found ?_ d⟩
    rw [hsearch, hfirst]
    rfl
  · intro hnil
    rw [hsearch, hnil]
    rfl

/-! ### Accounts under two spellings -/

/-- The parameter with which an account is read. -/
def accountId : Consumer where
  resource := .situated .input { endpoint := "/accounts/\x7baccountId\x7d", method := .get }
    (.ofPathParameter "accountId" "/accounts/\x7baccountId\x7d") (Convention.infer "accountId")
    .string
  kind := .path

/-- The `id` of an account that a request returns. -/
def returnedAccount (endpoint : String) (method : Method) : Resource :=
  .situated .output { endpoint, method } (.ofPlace ⟨["id"]⟩) (Convention.infer "id") .string

/-- Accounts are replaced by a PUT and created by a POST with another spelling of the endpoint, and
there are accounts of users. -/
def accounts : List Addition :=
  [.response (returnedAccount "/accounts" .put), .response (returnedAccount "//accounts/" .post),
    .response (returnedAccount "/users/accounts" .post)]

/-- Of the accounts above the parameter the POST is the first one, whatever its spelling. -/
lemma head?_accounts :
    (sortOn Resource.sortKey ((accounts.filterMap Addition.response?).filter
        (accountId.fitsAbove ⟨(gather accounts).index, .empty, false⟩ "account"))).head? =
      some (returnedAccount "//accounts/" .post) :=
  rfl

/-- The parameter is bound to what the POST returns. -/
theorem exactType_accounts :
    accountId.resource.primaryType? = some "account" ∧
      run .exactType accountId ⟨(gather accounts).index, .empty, false⟩ .standard =
        .found (.response (returnedAccount "//accounts/" .post)) := by
  have htype : accountId.resource.primaryType? = some "account" := rfl
  have hscan := (exactType_gather accounts .empty false accountId .standard "account" htype).1
  have hne : (accounts.filterMap Addition.response?).filter
      (accountId.fitsAbove ⟨(gather accounts).index, .empty, false⟩ "account") ≠ [] := by
    intro hnil
    have hhead := head?_accounts
    rw [hnil] at hhead
    cases hhead
  obtain ⟨first, hfirst, hrun⟩ := hscan hne
  rw [head?_accounts] at hfirst
  obtain rfl := Option.some.inj hfirst
  exact ⟨htype, hrun⟩

end ProducerPool

end RestFlow

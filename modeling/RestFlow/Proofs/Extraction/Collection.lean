import Mathlib.Data.List.Pairwise
import RestFlow.Extraction.Collection
import RestFlow.Proofs.Body.Tree
import RestFlow.Proofs.Failure.Traversal
import RestFlow.Proofs.Order.Keys
import RestFlow.Proofs.Order.Sorting
import RestFlow.Proofs.Resource.Equality

/-!
# Collections

What is collected from an interface, request by request and kind by kind.
-/

namespace RestFlow

/-!
## What a collection consists of

The collection goes through the requests once and passes over repetitions.  `Interface.distinct` is
the list of the requests that count, and `collect_snd` says that the collection is made of theirs,
one after the other, with the consumers in the order of listings.

What is collected from one request is situated in it: `RequestEntry.HasInput` lists the references
to its inputs, and every consumer comes from one of them (`Setup.isInputOf_of_mem_consumers`).
Resources that were collected are equal only if they are the same
(`Setup.eq_of_beq_of_mem_responses`, `Setup.eq_of_beq_of_mem_sameBody`), and so are consumers whose
resources are equal (`Setup.eq_of_beq_resource`).  The inputs that directives name are consumers of
the collection (`Directive.find?_of_source_eq_input`).
-/

/-! ### The requests that count -/

namespace RequestEntry

/-- Two entries describe different requests. -/
def Differ (a b : RequestEntry) : Prop :=
  (a.id == b.id) = false

instance : Std.Symm Differ where
  symm a b h := by
    rw [Differ, BEq.comm]
    exact h

/-- The requests of a list that repeat neither each other nor one of those seen before. -/
def distinctFrom (seen : List RequestId) : List RequestEntry → List RequestEntry
  | [] => []
  | e :: rest =>
    if seen.contains e.id then distinctFrom seen rest else e :: distinctFrom (e.id :: seen) rest

/-- The requests that count are among those of the list. -/
lemma mem_of_mem_distinctFrom {seen : List RequestId} {l : List RequestEntry} {e : RequestEntry}
    (h : e ∈ distinctFrom seen l) : e ∈ l := by
  induction l generalizing seen with
  | nil => cases h
  | cons d rest ih =>
    rw [distinctFrom] at h
    split at h
    · exact List.mem_cons_of_mem d (ih h)
    · rcases List.mem_cons.mp h with rfl | h
      · exact List.mem_cons_self
      · exact List.mem_cons_of_mem d (ih h)

/-- The requests that count were not seen before. -/
lemma contains_eq_false_of_mem_distinctFrom {seen : List RequestId} {l : List RequestEntry}
    {e : RequestEntry} (h : e ∈ distinctFrom seen l) : seen.contains e.id = false := by
  induction l generalizing seen with
  | nil => cases h
  | cons d rest ih =>
    rw [distinctFrom] at h
    by_cases hd : seen.contains d.id
    · rw [if_pos hd] at h
      exact ih h
    · rw [if_neg hd] at h
      rcases List.mem_cons.mp h with rfl | h
      · simpa using hd
      · have := ih h
        rw [List.contains_cons, Bool.or_eq_false_iff] at this
        exact this.2

/-- No two of the requests that count are equal. -/
lemma pairwise_distinctFrom (seen : List RequestId) (l : List RequestEntry) :
    (distinctFrom seen l).Pairwise Differ := by
  induction l generalizing seen with
  | nil => exact List.Pairwise.nil
  | cons d rest ih =>
    rw [distinctFrom]
    split
    · exact ih seen
    · refine List.pairwise_cons.mpr ⟨fun e he => ?_, ih _⟩
      have := contains_eq_false_of_mem_distinctFrom he
      rw [List.contains_cons, Bool.or_eq_false_iff] at this
      exact Std.Symm.symm e d this.1

/-- In a list without repetitions every request counts. -/
lemma distinctFrom_eq_self {seen : List RequestId} {l : List RequestEntry}
    (hl : l.Pairwise Differ)
    (hseen : ∀ e ∈ l, seen.contains e.id = false) : distinctFrom seen l = l := by
  induction l generalizing seen with
  | nil => rfl
  | cons d rest ih =>
    have hl := List.pairwise_cons.mp hl
    have hd := hseen d List.mem_cons_self
    rw [distinctFrom, if_neg (by simp [hd]), ih hl.2]
    intro e he
    rw [List.contains_cons, hseen e (List.mem_cons_of_mem d he), Bool.or_false]
    exact Std.Symm.symm d e (hl.1 e he)

end RequestEntry

namespace Interface

/-- The requests of an interface that are not repetitions of earlier ones. -/
def distinct (i : Interface) : List RequestEntry :=
  RequestEntry.distinctFrom [] i.requests

lemma mem_of_mem_distinct {i : Interface} {e : RequestEntry} (h : e ∈ i.distinct) :
    e ∈ i.requests :=
  RequestEntry.mem_of_mem_distinctFrom h

/-- Of the requests that count, equal ones are the same. -/
lemma eq_of_mem_distinct {i : Interface} {a b : RequestEntry} (ha : a ∈ i.distinct)
    (hb : b ∈ i.distinct) (h : (a.id == b.id) = true) : a = b := by
  by_contra hne
  have hdiffer := (RequestEntry.pairwise_distinctFrom [] i.requests).forall ha hb hne
  rw [RequestEntry.Differ, h] at hdiffer
  cases hdiffer

end Interface

/-! ### Collections of several requests -/

namespace Collection

/-- The collections of several requests, one after the other. -/
def join (parts : List Collection) : Collection :=
  parts.foldr append {}

/-- The consumers of several requests. -/
@[simp] lemma consumers_join (parts : List Collection) :
    (join parts).consumers = parts.flatMap Collection.consumers := by
  induction parts with
  | nil => rfl
  | cons p rest ih => rw [List.flatMap_cons, ← ih]; rfl

/-- The responses of several requests. -/
@[simp] lemma responses_join (parts : List Collection) :
    (join parts).responses = parts.flatMap Collection.responses := by
  induction parts with
  | nil => rfl
  | cons p rest ih => rw [List.flatMap_cons, ← ih]; rfl

/-- The body properties of several requests. -/
@[simp] lemma sameBody_join (parts : List Collection) :
    (join parts).sameBody = parts.flatMap Collection.sameBody := by
  induction parts with
  | nil => rfl
  | cons p rest ih => rw [List.flatMap_cons, ← ih]; rfl

/-- The collection with its consumers in the order of listings. -/
def listed (c : Collection) : Collection :=
  { c with consumers := Consumer.listed c.consumers }

end Collection

namespace Setup

/-- What is collected comes from the requests that count. -/
lemma collectFrom_snd (s : Setup) (seen : List RequestId) (l : List RequestEntry) :
    (s.collectFrom seen l).2 =
      Collection.join <$> (RequestEntry.distinctFrom seen l).mapM s.collectEntry := by
  induction l generalizing seen with
  | nil => rfl
  | cons e rest ih =>
    rw [collectFrom, RequestEntry.distinctFrom]
    -- a request that was seen before does not count, and nothing is collected for it
    by_cases he : seen.contains e.id
    · rw [if_pos he, if_pos he]
      exact ih seen
    · rw [if_neg he, if_neg he, List.mapM_cons]
      cases hc : s.collectEntry e with
      | error f => rfl
      | ok first =>
        have hrest := ih (e.id :: seen)
        show first.append <$> (s.collectFrom (e.id :: seen) rest).2 = _
        rw [hrest]
        cases (RequestEntry.distinctFrom (e.id :: seen) rest).mapM s.collectEntry with
        | error f => rfl
        | ok parts => rfl

/-- The collection of an interface. -/
theorem collect_snd (s : Setup) (i : Interface) :
    (s.collect i).2 =
      (fun parts => (Collection.join parts).listed) <$> i.distinct.mapM s.collectEntry := by
  show (fun c : Collection => { c with consumers := Consumer.listed c.consumers }) <$>
    (s.collectFrom [] i.requests).2 = _
  rw [collectFrom_snd, Interface.distinct]
  cases (RequestEntry.distinctFrom [] i.requests).mapM s.collectEntry with
  | error f => rfl
  | ok parts => rfl

/-- A collection is made of the parts of the requests that count. -/
lemma collect_eq_ok_iff {s : Setup} {i : Interface} {c : Collection} :
    (s.collect i).2 = .ok c ↔
      ∃ parts, i.distinct.mapM s.collectEntry = .ok parts ∧ c = (Collection.join parts).listed := by
  rw [collect_snd]
  cases i.distinct.mapM s.collectEntry with
  | error f => simp [Functor.map, Except.map]
  | ok parts => simp [Functor.map, Except.map, eq_comm]

/-- Every consumer of a collection was collected from a request that counts. -/
lemma exists_of_mem_collect {s : Setup} {i : Interface} {c : Collection}
    (h : (s.collect i).2 = .ok c) {x : Consumer} (hx : x ∈ c.consumers) :
    ∃ e ∈ i.distinct, ∃ part, s.collectEntry e = .ok part ∧ x ∈ part.consumers := by
  obtain ⟨parts, hparts, rfl⟩ := collect_eq_ok_iff.mp h
  rw [Collection.listed, Consumer.listed, mem_sortOn, Collection.consumers_join,
    List.mem_flatMap] at hx
  obtain ⟨part, hpart, hx⟩ := hx
  obtain ⟨e, he, hep⟩ := exists_of_mem_mapM hparts hpart
  exact ⟨e, he, part, hep, hx⟩

/-- The consumers of a collection are in the order of listings. -/
lemma pairwise_consumers {s : Setup} {i : Interface} {c : Collection}
    (h : (s.collect i).2 = .ok c) :
    c.consumers.Pairwise fun x y => (compareOn Consumer.listingKey x y).isLE := by
  obtain ⟨parts, -, rfl⟩ := collect_eq_ok_iff.mp h
  exact pairwise_sortOn Consumer.listingKey _

end Setup

/-! ### The inputs of one request -/

namespace Reference

lemma isSome_place?_iff (r : Reference) : r.place?.isSome = true ↔ r.kind = .body := by
  cases r <;> simp [place?, kind]

/-- References to path parameters, and no others, end a part of the endpoint. -/
lemma isSome_scope?_iff (r : Reference) : r.scope?.isSome = true ↔ r.kind = .path := by
  cases r <;> simp [scope?, kind]

end Reference

namespace RequestEntry

/-- The references to the inputs of a request. -/
inductive HasInput (e : RequestEntry) : Reference → Prop where
  | path (name : String) : HasInput e (.ofPathParameter name e.id.endpoint)
  | query (name : String) : HasInput e (.query name)
  | header (name : String) : HasInput e (.header name)
  | body {tree : Tree} (htree : e.data.body = some tree) {v : AccessPath × Node}
      (hv : v ∈ tree.visits .root) : HasInput e (.ofPlace v.1)

end RequestEntry

namespace Setup

/-- The resource that a sound reference leads to under the naming policy of the run. -/
def situated (s : Setup) (side : Side) (request : RequestId) (r : Reference)
    (type : PrimitiveType) : Resource :=
  .situated side request r (s.config.convention.getD (Convention.infer r.name)) type

/-- Situating succeeds unless something is wrong with the reference. -/
lemma situate_eq (s : Setup) (side : Side) (request : RequestId) (r : Reference)
    (type : PrimitiveType) :
    s.situate side request r type =
      match Resource.fault? r with
      | some reason => .error (.malformedResource request.text reason)
      | none => .ok (s.situated side request r type) :=
  rfl

/-- A resource that was situated is the one that the reference leads to. -/
lemma eq_situated_of_situate {s : Setup} {side : Side} {request : RequestId} {r : Reference}
    {type : PrimitiveType} {resource : Resource}
    (h : s.situate side request r type = .ok resource) :
    resource = s.situated side request r type := by
  rw [situate_eq] at h
  split at h
  · cases h
  · exact (Except.ok.inj h).symm

/-- A consumer belongs to a request, from one of whose inputs it is situated. -/
def IsInputOf (s : Setup) (e : RequestEntry) (c : Consumer) : Prop :=
  ∃ r type, e.HasInput r ∧ r.kind = c.kind ∧ c.resource = s.situated .input e.id r type

/-- A consumer that was situated from an input of a request belongs to it. -/
lemma isInputOf_of_consumer {s : Setup} {e : RequestEntry} {kind : ParameterKind} {r : Reference}
    {type : PrimitiveType} {c : Consumer} (hr : e.HasInput r) (hkind : r.kind = kind)
    (h : s.consumer e.id kind r type = .ok c) : s.IsInputOf e c := by
  obtain ⟨resource, hres, hc⟩ := bind_eq_ok_iff.mp h
  rw [← Except.ok.inj hc]
  exact ⟨r, type, hr, hkind, eq_situated_of_situate hres⟩

/-- The path consumers of a request are inputs of it. -/
lemma isInputOf_of_mem_pathConsumers {s : Setup} {e : RequestEntry} {cs : List Consumer}
    (h : s.pathConsumers e = .ok cs) : ∀ c ∈ cs, s.IsInputOf e c := by
  intro c hc
  obtain ⟨⟨p, leaf⟩, -, hleaf⟩ := exists_of_mem_mapM h hc
  exact isInputOf_of_consumer (.path p.name) rfl hleaf

/-- The query and header consumers of a request are inputs of it. -/
lemma isInputOf_of_mem_parameterConsumers {s : Setup} {e : RequestEntry} {kind : ParameterKind}
    {reference : String → Reference} {ps : List Parameter} {cs : List Consumer}
    (hr : ∀ name, e.HasInput (reference name) ∧ (reference name).kind = kind)
    (h : s.parameterConsumers e kind reference ps = .ok cs) : ∀ c ∈ cs, s.IsInputOf e c := by
  intro c hc
  obtain ⟨⟨p, leaf⟩, -, hleaf⟩ := exists_of_mem_mapM h hc
  exact isInputOf_of_consumer (hr _).1 (hr _).2 hleaf

/-- The leaves below the root of a body are met on a walk through it. -/
lemma mem_placedLeaves_iff {body : Option Tree} {place : AccessPath} {leaf : Leaf} :
    (place, leaf) ∈ placedLeaves body ↔
      ∃ tree, body = some tree ∧ (place, Node.leaf leaf) ∈ tree.visits .root ∧
        place.isRoot = false := by
  cases body with
  | none => simp [placedLeaves]
  | some tree => simp [placedLeaves, Tree.mem_leaves]

/-- The body consumers of a request are inputs of it. -/
lemma isInputOf_of_mem_bodyConsumers {s : Setup} {e : RequestEntry} {cs : List Consumer}
    (h : s.bodyConsumers e = .ok cs) : ∀ c ∈ cs, s.IsInputOf e c := by
  intro c hc
  obtain ⟨⟨place, leaf⟩, hmem, hleaf⟩ := exists_of_mem_mapM h hc
  obtain ⟨tree, htree, hv, -⟩ := mem_placedLeaves_iff.mp (List.mem_filter.mp hmem).1
  exact isInputOf_of_consumer (.body htree hv) rfl hleaf

/-- What the configuration asks for, or else nothing. -/
def onDemand {α : Type} (asked : Bool) (x : Except Failure (List α)) : Except Failure (List α) :=
  if asked then x else pure []

/-- The consumers of a request, part by part. -/
lemma consumers_eq (s : Setup) (e : RequestEntry) :
    s.consumers e =
      s.pathConsumers e >>= fun paths =>
      onDemand s.config.resolveQuery
        (s.parameterConsumers e .query .query e.data.queryParameters) >>= fun queries =>
      onDemand s.config.resolveHeaders
        (s.parameterConsumers e .header .header e.data.headerParameters) >>= fun headers =>
      onDemand s.config.resolveBody (s.bodyConsumers e) >>= fun bodies =>
      pure (paths ++ queries ++ headers ++ bodies) := by
  unfold consumers onDemand
  cases s.config.resolveQuery <;> cases s.config.resolveHeaders <;> cases s.config.resolveBody <;>
    rfl

/-- What is there was asked for. -/
lemma eq_of_onDemand_eq_ok {α : Type} {asked : Bool} {x : Except Failure (List α)} {l : List α}
    (h : onDemand asked x = .ok l) : x = .ok l ∨ l = [] := by
  cases asked with
  | true => exact .inl h
  | false => exact .inr (Except.ok.inj h).symm

/-- The consumers of a request are inputs of it. -/
lemma isInputOf_of_mem_consumers {s : Setup} {e : RequestEntry} {cs : List Consumer}
    (h : s.consumers e = .ok cs) : ∀ c ∈ cs, s.IsInputOf e c := by
  rw [consumers_eq] at h
  obtain ⟨paths, hpaths, h⟩ := bind_eq_ok_iff.mp h
  obtain ⟨queries, hqueries, h⟩ := bind_eq_ok_iff.mp h
  obtain ⟨headers, hheaders, h⟩ := bind_eq_ok_iff.mp h
  obtain ⟨bodies, hbodies, h⟩ := bind_eq_ok_iff.mp h
  rw [← Except.ok.inj h]
  intro c hc
  rw [List.mem_append, List.mem_append, List.mem_append] at hc
  -- path parameters are always asked for, the other kinds on demand
  rcases hc with ((hc | hc) | hc) | hc
  · exact isInputOf_of_mem_pathConsumers hpaths c hc
  · rcases eq_of_onDemand_eq_ok hqueries with hq | rfl
    · exact isInputOf_of_mem_parameterConsumers (fun n => ⟨.query n, rfl⟩) hq c hc
    · cases hc
  · rcases eq_of_onDemand_eq_ok hheaders with hh | rfl
    · exact isInputOf_of_mem_parameterConsumers (fun n => ⟨.header n, rfl⟩) hh c hc
    · cases hc
  · rcases eq_of_onDemand_eq_ok hbodies with hb | rfl
    · exact isInputOf_of_mem_bodyConsumers hb c hc
    · cases hc

/-- An input belongs to the request that it was collected from. -/
lemma IsInputOf.request_eq {s : Setup} {e : RequestEntry} {c : Consumer} (h : s.IsInputOf e c) :
    c.request = e.id := by
  obtain ⟨r, type, -, -, hres⟩ := h
  rw [Consumer.request, hres]
  rfl

/-- What one request contributes to a collection. -/
lemma collectEntry_eq_ok_iff {s : Setup} {e : RequestEntry} {part : Collection} :
    s.collectEntry e = .ok part ↔
      e.validate = .ok () ∧ ∃ cs rs bs, s.consumers e = .ok cs ∧ s.responses e = .ok rs ∧
        s.sameBody e = .ok bs ∧ part = ⟨cs.map (s.annotate e), rs, bs⟩ := by
  constructor
  · intro h
    obtain ⟨⟨⟩, hvalid, h⟩ := bind_eq_ok_iff.mp h
    obtain ⟨cs, hcs, h⟩ := bind_eq_ok_iff.mp h
    obtain ⟨rs, hrs, h⟩ := bind_eq_ok_iff.mp h
    obtain ⟨bs, hbs, h⟩ := bind_eq_ok_iff.mp h
    exact ⟨hvalid, cs, rs, bs, hcs, hrs, hbs, (Except.ok.inj h).symm⟩
  · rintro ⟨hvalid, cs, rs, bs, hcs, hrs, hbs, rfl⟩
    unfold collectEntry
    rw [hvalid, hcs, hrs, hbs]
    rfl

/-- The consumers collected from a request are inputs of it. -/
lemma isInputOf_of_mem_collectEntry {s : Setup} {e : RequestEntry} {part : Collection}
    (h : s.collectEntry e = .ok part) : ∀ c ∈ part.consumers, s.IsInputOf e c := by
  obtain ⟨-, cs, rs, bs, hcs, -, -, rfl⟩ := collectEntry_eq_ok_iff.mp h
  intro c hc
  obtain ⟨c₀, hc₀, rfl⟩ := List.mem_map.mp hc
  exact isInputOf_of_mem_consumers hcs c₀ hc₀

/-- The kind of an input is that of its reference. -/
lemma IsInputOf.kind_eq {s : Setup} {e : RequestEntry} {c : Consumer} (h : s.IsInputOf e c) :
    c.kind = c.resource.reference.kind := by
  obtain ⟨r, type, -, hkind, hres⟩ := h
  rw [hres, ← hkind]
  rfl

/-- The kind of a consumer that was collected is that of its reference. -/
lemma kind_eq_of_mem_consumers {s : Setup} {i : Interface} {c : Collection}
    (hc : (s.collect i).2 = .ok c) {x : Consumer} (hx : x ∈ c.consumers) :
    x.kind = x.resource.reference.kind := by
  obtain ⟨e, -, part, hpart, hxp⟩ := exists_of_mem_collect hc hx
  exact (isInputOf_of_mem_collectEntry hpart x hxp).kind_eq

/-- Consumers that were collected have equal resources only if they are the same. -/
lemma eq_of_beq_resource {s : Setup} {i : Interface} {c : Collection}
    (hc : (s.collect i).2 = .ok c) {x y : Consumer} (hx : x ∈ c.consumers) (hy : y ∈ c.consumers)
    (h : (x.resource == y.resource) = true) : x = y := by
  obtain ⟨hrequest, hrest⟩ := Resource.beq_eq_true_iff.mp h
  obtain ⟨e, he, part, hpart, hxp⟩ := exists_of_mem_collect hc hx
  obtain ⟨e', he', part', hpart', hyp⟩ := exists_of_mem_collect hc hy
  have hxe := isInputOf_of_mem_collectEntry hpart x hxp
  have hye := isInputOf_of_mem_collectEntry hpart' y hyp
  have hxrequest : x.resource.request = e.id := hxe.request_eq
  have hyrequest : y.resource.request = e'.id := hye.request_eq
  rw [hxrequest, hyrequest] at hrequest
  obtain rfl := Interface.eq_of_mem_distinct he he' hrequest
  have hresource : x.resource = y.resource := by rw [hrest, hyrequest, ← hxrequest]
  have hkind : x.kind = y.kind := by rw [hxe.kind_eq, hye.kind_eq, hresource]
  -- the directive of a consumer follows from its resource
  have hannotate : ∀ p, s.collectEntry e = .ok p → ∀ z ∈ p.consumers, s.annotate e z = z := by
    intro p hp z hz
    obtain ⟨-, cs, rs, bs, -, -, -, rfl⟩ := collectEntry_eq_ok_iff.mp hp
    obtain ⟨z₀, -, rfl⟩ := List.mem_map.mp hz
    rfl
  rw [← hannotate part hpart x hxp, ← hannotate part' hpart' y hyp]
  simp only [annotate, Consumer.request, Consumer.name, hresource, hkind]

/-- A situated resource belongs to the request it was situated in. -/
lemma request_of_situate {s : Setup} {side : Side} {request : RequestId} {r : Reference}
    {type : PrimitiveType} {resource : Resource}
    (h : s.situate side request r type = .ok resource) : resource.request = request := by
  rw [eq_situated_of_situate h]
  rfl

/-- The responses collected from a request belong to it. -/
lemma request_of_mem_responses {s : Setup} {e : RequestEntry} {part : Collection}
    (h : s.collectEntry e = .ok part) : ∀ r ∈ part.responses, r.request = e.id := by
  obtain ⟨-, cs, rs, bs, -, hrs, -, rfl⟩ := collectEntry_eq_ok_iff.mp h
  obtain ⟨properties, hproperties, hrs⟩ := bind_eq_ok_iff.mp hrs
  obtain ⟨headers, hheaders, hrs⟩ := bind_eq_ok_iff.mp hrs
  intro r hr
  rw [← Except.ok.inj hrs] at hr
  rcases List.mem_append.mp hr with hr | hr
  · obtain ⟨_, -, hsit⟩ := exists_of_mem_mapM hproperties hr
    exact request_of_situate hsit
  · obtain ⟨_, -, hsit⟩ := exists_of_mem_mapM hheaders hr
    exact request_of_situate hsit

/-- The body properties collected from a request belong to it. -/
lemma request_of_mem_sameBody {s : Setup} {e : RequestEntry} {part : Collection}
    (h : s.collectEntry e = .ok part) : ∀ r ∈ part.sameBody, r.request = e.id := by
  obtain ⟨-, cs, rs, bs, -, -, hbs, rfl⟩ := collectEntry_eq_ok_iff.mp h
  intro r hr
  unfold sameBody at hbs
  cases hbody : e.data.body with
  | none =>
    rw [hbody] at hbs
    rw [← Except.ok.inj hbs] at hr
    cases hr
  | some tree =>
    rw [hbody] at hbs
    obtain ⟨_, -, hsit⟩ := exists_of_mem_mapM hbs hr
    exact request_of_situate hsit

/-- Resources that were collected, each from its request, are equal only if they are the same. -/
lemma eq_of_beq_of_mem_flatMap {s : Setup} {i : Interface} {parts : List Collection}
    {resources : Collection → List Resource}
    (hparts : i.distinct.mapM s.collectEntry = .ok parts)
    (hrequest : ∀ e part, s.collectEntry e = .ok part → ∀ r ∈ resources part, r.request = e.id)
    {a b : Resource} (ha : a ∈ parts.flatMap resources) (hb : b ∈ parts.flatMap resources)
    (h : (a == b) = true) : a = b := by
  obtain ⟨hab, hrest⟩ := Resource.beq_eq_true_iff.mp h
  obtain ⟨part, hpart, ha⟩ := List.mem_flatMap.mp ha
  obtain ⟨part', hpart', hb⟩ := List.mem_flatMap.mp hb
  obtain ⟨e, he, hep⟩ := exists_of_mem_mapM hparts hpart
  obtain ⟨e', he', hep'⟩ := exists_of_mem_mapM hparts hpart'
  have hae := hrequest e part hep a ha
  have hbe := hrequest e' part' hep' b hb
  rw [hae, hbe] at hab
  obtain rfl := Interface.eq_of_mem_distinct he he' hab
  rw [hrest, hbe, ← hae]

/-- Responses that were collected are equal only if they are the same. -/
lemma eq_of_beq_of_mem_responses {s : Setup} {i : Interface} {c : Collection}
    (hc : (s.collect i).2 = .ok c) {a b : Resource} (ha : a ∈ c.responses) (hb : b ∈ c.responses)
    (h : (a == b) = true) : a = b := by
  obtain ⟨parts, hparts, rfl⟩ := collect_eq_ok_iff.mp hc
  rw [Collection.listed, Collection.responses_join] at ha hb
  exact eq_of_beq_of_mem_flatMap hparts (fun _ _ => request_of_mem_responses) ha hb h

/-- Body properties that were collected are equal only if they are the same. -/
lemma eq_of_beq_of_mem_sameBody {s : Setup} {i : Interface} {c : Collection}
    (hc : (s.collect i).2 = .ok c) {a b : Resource} (ha : a ∈ c.sameBody) (hb : b ∈ c.sameBody)
    (h : (a == b) = true) : a = b := by
  obtain ⟨parts, hparts, rfl⟩ := collect_eq_ok_iff.mp hc
  rw [Collection.listed, Collection.sameBody_join] at ha hb
  exact eq_of_beq_of_mem_flatMap hparts (fun _ _ => request_of_mem_sameBody) ha hb h

end Setup

/-! ### Inputs of directives -/

namespace Directive

variable {c : Collection}

/-- The input that a directive leads to is the first consumer that it accepts. -/
lemma find?_of_source_eq_input {a : Directive} {r : Resource} (h : a.source c = .input r) :
    ∃ parameter x, a.producerParameter = some parameter ∧
      c.consumers.find? (fun y => y.request == a.producer &&
        parameter.refersTo y.name y.resource.place?) = some x ∧ x.resource = r := by
  unfold source at h
  cases hparameter : a.producerParameter with
  | none =>
    rw [hparameter] at h
    cases h
  | some parameter =>
    simp only [hparameter] at h
    split at h
    · cases h
    · split at h
      · rename_i x hx
        cases h
        exact ⟨parameter, x, rfl, hx, rfl⟩
      · cases h

/-- Inputs come from directives. -/
lemma mem_inputs_iff {as : List Directive} {r : Resource} :
    r ∈ inputs as c ↔ ∃ a ∈ as, a.source c = .input r := by
  rw [inputs, List.mem_filterMap]
  refine exists_congr fun a => and_congr_right fun _ => ?_
  cases a.source c <;> simp

end Directive

/-!
## Collections by kind

The configuration says of which kinds inputs are consumers (`Setup.asks`).  Whether a kind is asked
for makes no difference to the inputs of the other kinds, nor to responses and body properties.  So
the collections under two configurations that ask for different kinds agree on the kinds that both
ask for (`Setup.agree_collect`), and what was not asked for is not there
(`Setup.kind_ne_of_asks_eq_false`).
-/

namespace Consumer

/-- The consumers of a kind. -/
def ofKind (kind : ParameterKind) (l : List Consumer) : List Consumer :=
  l.filter fun x => x.kind == kind

variable {kind : ParameterKind} {l : List Consumer}

lemma mem_ofKind_iff {x : Consumer} : x ∈ ofKind kind l ↔ x ∈ l ∧ x.kind = kind := by
  rw [ofKind, List.mem_filter, beq_iff_eq]

lemma ofKind_append (l l' : List Consumer) :
    ofKind kind (l ++ l') = ofKind kind l ++ ofKind kind l' :=
  List.filter_append l l'

/-- Consumers of one kind are all there, or none of them is. -/
lemma ofKind_of_forall {other : ParameterKind} (h : ∀ x ∈ l, x.kind = other) :
    ofKind kind l = if other = kind then l else [] := by
  split
  · rename_i heq
    exact List.filter_eq_self.mpr fun x hx => beq_iff_eq.mpr ((h x hx).trans heq)
  · rename_i hne
    refine List.filter_eq_nil_iff.mpr fun x hx hkind => hne ?_
    rw [← h x hx, beq_iff_eq.mp hkind]

lemma ofKind_listed (l : List Consumer) : ofKind kind (listed l) = listed (ofKind kind l) := by
  rw [ofKind, ofKind, listed, listed, sortOn_filter]

end Consumer

namespace Collection

/-- Two collections have the same responses and body properties, and the same consumers of some
kinds. -/
structure Agree (shared : ParameterKind → Bool) (a b : Collection) : Prop where
  responses : a.responses = b.responses
  sameBody : a.sameBody = b.sameBody
  consumers : ∀ kind, shared kind = true →
    Consumer.ofKind kind a.consumers = Consumer.ofKind kind b.consumers

end Collection

namespace Setup

/-- Inputs of the kind are consumers. -/
def asks (s : Setup) : ParameterKind → Bool
  | .path => true
  | .query => s.config.resolveQuery
  | .header => s.config.resolveHeaders
  | .body => s.config.resolveBody

/-- The inputs of a kind that a request has. -/
def inputsOfKind (s : Setup) (e : RequestEntry) : ParameterKind → Except Failure (List Consumer)
  | .path => s.pathConsumers e
  | .query => s.parameterConsumers e .query .query e.data.queryParameters
  | .header => s.parameterConsumers e .header .header e.data.headerParameters
  | .body => s.bodyConsumers e

variable {s : Setup} {e : RequestEntry} {kind : ParameterKind}

/-! ### The consumers of one request -/

/-- A consumer has the kind that it is made with. -/
lemma kind_of_consumer {r : Reference} {type : PrimitiveType} {x : Consumer}
    (h : s.consumer e.id kind r type = .ok x) : x.kind = kind := by
  obtain ⟨resource, -, hx⟩ := bind_eq_ok_iff.mp h
  rw [← Except.ok.inj hx]

/-- The inputs of a kind have this kind. -/
lemma kind_of_mem_inputsOfKind (kind : ParameterKind) {cs : List Consumer}
    (h : s.inputsOfKind e kind = .ok cs) : ∀ x ∈ cs, x.kind = kind := by
  intro x hx
  cases kind with
  | path =>
    obtain ⟨_, -, hsituated⟩ := exists_of_mem_mapM h hx
    exact kind_of_consumer hsituated
  | query =>
    obtain ⟨_, -, hsituated⟩ := exists_of_mem_mapM h hx
    exact kind_of_consumer hsituated
  | header =>
    obtain ⟨_, -, hsituated⟩ := exists_of_mem_mapM h hx
    exact kind_of_consumer hsituated
  | body =>
    obtain ⟨_, -, hsituated⟩ := exists_of_mem_mapM h hx
    exact kind_of_consumer hsituated

/-- What is there of a kind has this kind. -/
lemma kind_of_mem_onDemand (kind : ParameterKind) {asked : Bool} {cs : List Consumer}
    (h : onDemand asked (s.inputsOfKind e kind) = .ok cs) : ∀ x ∈ cs, x.kind = kind := by
  rcases eq_of_onDemand_eq_ok h with h | rfl
  · exact kind_of_mem_inputsOfKind kind h
  · exact fun x hx => absurd hx List.not_mem_nil

/-- The consumers of a kind are the inputs of this kind, if it is asked for. -/
lemma ofKind_consumers {cs : List Consumer} (h : s.consumers e = .ok cs) (kind : ParameterKind) :
    onDemand (s.asks kind) (s.inputsOfKind e kind) = .ok (Consumer.ofKind kind cs) := by
  rw [consumers_eq] at h
  obtain ⟨paths, hpaths, h⟩ := bind_eq_ok_iff.mp h
  obtain ⟨queries, hqueries, h⟩ := bind_eq_ok_iff.mp h
  obtain ⟨headers, hheaders, h⟩ := bind_eq_ok_iff.mp h
  obtain ⟨bodies, hbodies, h⟩ := bind_eq_ok_iff.mp h
  have hpath : ∀ x ∈ paths, x.kind = .path := kind_of_mem_inputsOfKind .path hpaths
  have hquery : ∀ x ∈ queries, x.kind = .query := kind_of_mem_onDemand .query hqueries
  have hheader : ∀ x ∈ headers, x.kind = .header := kind_of_mem_onDemand .header hheaders
  have hbody : ∀ x ∈ bodies, x.kind = .body := kind_of_mem_onDemand .body hbodies
  -- each of the four parts is of one kind, so three of them drop out
  rw [← Except.ok.inj h, Consumer.ofKind_append, Consumer.ofKind_append, Consumer.ofKind_append,
    Consumer.ofKind_of_forall hpath, Consumer.ofKind_of_forall hquery,
    Consumer.ofKind_of_forall hheader, Consumer.ofKind_of_forall hbody]
  cases kind with
  | path => simpa [asks, inputsOfKind, onDemand] using hpaths
  | query => simpa [asks, inputsOfKind] using hqueries
  | header => simpa [asks, inputsOfKind] using hheaders
  | body => simpa [asks, inputsOfKind] using hbodies

/-- Directives do not change the kind of a consumer. -/
lemma ofKind_map_annotate (s : Setup) (e : RequestEntry) (l : List Consumer) :
    Consumer.ofKind kind (l.map (s.annotate e)) =
      (Consumer.ofKind kind l).map (s.annotate e) :=
  List.filter_map

/-! ### Other configurations -/

/-- The same setup, with other kinds of input asked for. -/
def asking (s : Setup) (query header body : Bool) : Setup :=
  { s with config :=
      { s.config with resolveQuery := query, resolveHeaders := header, resolveBody := body } }

variable {query header body : Bool} {i : Interface} {c c' : Collection}

/-- What one request contributes to the collections under two configurations agrees. -/
lemma agree_collectEntry {part part' : Collection} (h : s.collectEntry e = .ok part)
    (h' : (s.asking query header body).collectEntry e = .ok part') :
    Collection.Agree (fun kind => s.asks kind && (s.asking query header body).asks kind)
      part part' := by
  obtain ⟨-, cs, rs, bs, hcs, hrs, hbs, rfl⟩ := collectEntry_eq_ok_iff.mp h
  obtain ⟨-, cs', rs', bs', hcs', hrs', hbs', rfl⟩ := collectEntry_eq_ok_iff.mp h'
  refine ⟨Except.ok.inj (hrs.symm.trans hrs'), Except.ok.inj (hbs.symm.trans hbs'), ?_⟩
  intro kind hkind
  rw [Bool.and_eq_true] at hkind
  have hinputs := ofKind_consumers hcs kind
  have hinputs' := ofKind_consumers hcs' kind
  rw [hkind.1] at hinputs
  rw [hkind.2] at hinputs'
  have hsame : Consumer.ofKind kind cs = Consumer.ofKind kind cs' := by
    -- situating an input does not depend on what is asked for
    have hread : s.inputsOfKind e kind = (s.asking query header body).inputsOfKind e kind := by
      cases kind <;> rfl
    exact Except.ok.inj (hinputs.symm.trans ((congrArg (onDemand true) hread).trans hinputs'))
  show Consumer.ofKind kind (cs.map (s.annotate e)) =
    Consumer.ofKind kind (cs'.map (s.annotate e))
  rw [ofKind_map_annotate, ofKind_map_annotate, hsame]

/-- The consumers of a kind in a collection, request by request. -/
lemma ofKind_consumers_listed (parts : List Collection) :
    Consumer.ofKind kind (Collection.join parts).listed.consumers =
      Consumer.listed (parts.flatMap fun part => Consumer.ofKind kind part.consumers) := by
  rw [Collection.listed, Consumer.ofKind_listed, Collection.consumers_join, Consumer.ofKind,
    List.filter_flatMap]
  rfl

/-- The collections under two configurations agree on the kinds that both ask for. -/
theorem agree_collect (hc : (s.collect i).2 = .ok c)
    (hc' : ((s.asking query header body).collect i).2 = .ok c') :
    Collection.Agree (fun kind => s.asks kind && (s.asking query header body).asks kind) c c' := by
  obtain ⟨parts, hparts, rfl⟩ := collect_eq_ok_iff.mp hc
  obtain ⟨parts', hparts', rfl⟩ := collect_eq_ok_iff.mp hc'
  refine ⟨?_, ?_, fun kind hkind => ?_⟩
  · rw [Collection.listed, Collection.listed, Collection.responses_join, Collection.responses_join]
    exact flatMap_eq_of_mapM hparts hparts' fun _ _ _ h h' => (agree_collectEntry h h').responses
  · rw [Collection.listed, Collection.listed, Collection.sameBody_join, Collection.sameBody_join]
    exact flatMap_eq_of_mapM hparts hparts' fun _ _ _ h h' => (agree_collectEntry h h').sameBody
  · rw [ofKind_consumers_listed, ofKind_consumers_listed]
    exact congrArg Consumer.listed <| flatMap_eq_of_mapM hparts hparts'
      fun _ _ _ h h' => (agree_collectEntry h h').consumers kind hkind

/-- What is not asked for is not there. -/
lemma kind_ne_of_asks_eq_false (hc : (s.collect i).2 = .ok c) (hkind : s.asks kind = false) :
    ∀ x ∈ c.consumers, x.kind ≠ kind := by
  rintro x hx rfl
  obtain ⟨e, -, part, hpart, hxp⟩ := exists_of_mem_collect hc hx
  obtain ⟨-, cs, rs, bs, hcs, -, -, rfl⟩ := collectEntry_eq_ok_iff.mp hpart
  obtain ⟨x₀, hx₀, rfl⟩ := List.mem_map.mp hxp
  have hinputs := ofKind_consumers hcs x₀.kind
  rw [show s.asks x₀.kind = false from hkind] at hinputs
  have hmem : x₀ ∈ Consumer.ofKind x₀.kind cs := Consumer.mem_ofKind_iff.mpr ⟨hx₀, rfl⟩
  rw [← Except.ok.inj hinputs] at hmem
  cases hmem

end Setup

end RestFlow

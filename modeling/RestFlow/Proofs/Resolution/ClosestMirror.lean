import RestFlow.Proofs.Body.AccessPath
import RestFlow.Proofs.Dictionary.Growth
import RestFlow.Proofs.Extraction.LaterPasses
import RestFlow.Proofs.Order.Sorting

/-!
# The closest property to mirror

A body property may mirror the properties of its own body that have the alias of its name and are
neither itself nor around it (`Consumer.MayMirror`).  Of these it mirrors the closest one
(`Consumer.IsClosest`): no other one shares a part of the way with it that this one does not, of
those that share as much none is less deep, and of those as deep none comes before in the index.
What two paths share is told by their common initial parts (`AccessPath.SharesAsMuch`).

Such a property is found whenever there is one that may be mirrored
(`Consumer.resolveSameBody_isClosest`).
-/

namespace RestFlow

namespace AccessPath

variable {own p q : AccessPath}

/-- The path `p` has all initial parts in common with `own` that `q` has. -/
def SharesAsMuch (own p q : AccessPath) : Prop :=
  ∀ common, common <+: own.segments → common <+: q.segments → common <+: p.segments

/-- Having as many initial parts in common is sharing as many segments. -/
lemma sharesAsMuch_iff :
    SharesAsMuch own p q ↔
      sharedLength q.segments own.segments ≤ sharedLength p.segments own.segments := by
  constructor
  · intro h
    have hlength : (own.segments.take (sharedLength q.segments own.segments)).length =
        sharedLength q.segments own.segments :=
      List.length_take_of_le (sharedLength_le _ _)
    have hown := List.take_prefix (sharedLength q.segments own.segments) own.segments
    have hp := h _ hown ((isPrefix_iff_length_le hown).mpr (Nat.le_of_eq hlength))
    rwa [isPrefix_iff_length_le hown, hlength] at hp
  · intro h common hown hq
    rw [isPrefix_iff_length_le hown] at hq ⊢
    exact Nat.le_trans hq h

end AccessPath

namespace Consumer

namespace Remoteness

instance : Std.TransOrd Remoteness :=
  inferInstanceAs (Std.TransCmp
    (compareLex (fun a b => compareOn Remoteness.shared b a) (compareOn Remoteness.depth)))

variable {a b : Remoteness}

/-- Less remote is what shares more, or as much and is less deep. -/
lemma isLE_compare_iff :
    (compare a b).isLE ↔ b.shared ≤ a.shared ∧ (a.shared ≤ b.shared → a.depth ≤ b.depth) := by
  show ((compare b.shared a.shared).then (compare a.depth b.depth)).isLE ↔ _
  rw [Ordering.isLE_then_iff_or, Nat.isLE_compare, Nat.compare_eq_lt, Nat.compare_eq_eq]
  omega

end Remoteness

variable {c : Consumer} {index : ProducerIndex} {aliases : SortedMap String} {r : Resource}
  {own place : AccessPath} {name : String}

/-- The consumer is at `own`, and the resource, which is a property of the same body named by the
alias of the consumer's name, at `place`, which is neither there nor around it. -/
structure MayMirror (c : Consumer) (aliases : SortedMap String) (own : AccessPath) (r : Resource)
    (place : AccessPath) : Prop where
  named : aliases.get? c.name = some r.name
  request : (r.request == c.request) = true
  inBody : c.resource.place? = some own
  placed : r.place? = some place
  beside : ¬place.segments <+: own.segments

/-- The resource may be mirrored and is the closest to the consumer. -/
structure IsClosest (c : Consumer) (index : ProducerIndex) (aliases : SortedMap String)
    (own : AccessPath) (r : Resource) (place : AccessPath) : Prop where
  mem : r ∈ index.sameBody
  candidate : c.MayMirror aliases own r place
  /-- No candidate shares more with the consumer. -/
  shares : ∀ r' ∈ index.sameBody, ∀ place', c.MayMirror aliases own r' place' →
    own.SharesAsMuch place place'
  /-- No candidate that shares as much is less deep. -/
  shallow : ∀ r' ∈ index.sameBody, ∀ place', c.MayMirror aliases own r' place' →
    own.SharesAsMuch place' place → place.segments.length ≤ place'.segments.length
  /-- No candidate before it in the index shares as much and is as deep. -/
  first : ∃ before after, index.sameBody = before ++ r :: after ∧
    ∀ r' ∈ before, ∀ place', c.MayMirror aliases own r' place' →
      own.SharesAsMuch place' place → place.segments.length < place'.segments.length

/-- The test for what may be mirrored by a consumer. -/
def isCandidate (c : Consumer) (name : String) (own : AccessPath) (r : Resource) : Bool :=
  r.name == name && (r.request == c.request &&
    r.place?.any fun p => p != own && !p.isAncestorOf own)

/-- The test decides what may be mirrored. -/
lemma isCandidate_iff (hname : aliases.get? c.name = some name)
    (hown : c.resource.place? = some own) :
    c.isCandidate name own r = true ↔ ∃ place, c.MayMirror aliases own r place := by
  rw [isCandidate, Bool.and_eq_true, Bool.and_eq_true, beq_iff_eq, Option.any_eq_true]
  simp only [AccessPath.bne_and_not_isAncestorOf_iff]
  constructor
  · rintro ⟨hr, hrequest, place, hplace, hprefix⟩
    exact ⟨place, hname.trans (congrArg some hr.symm), hrequest, hown, hplace, hprefix⟩
  · rintro ⟨place, h⟩
    exact ⟨Option.some.inj (h.named.symm.trans hname), h.request, place, h.placed, h.beside⟩

/-- What is mirrored is the least remote of the candidates in the index. -/
lemma mirror?_eq (hbody : c.kind = .body) (hname : aliases.get? c.name = some name)
    (hown : c.resource.place? = some own) :
    c.mirror? index aliases =
      (sortBy (compareOn (remoteness own))
        (index.sameBody.filter (c.isCandidate name own))).head? := by
  have hmirror : c.mirror? index aliases =
      (sortOn (remoteness own) (c.mirrors index name own)).head? := by
    rw [mirror?, hname, hown, guard, if_pos hbody]
    rfl
  rw [hmirror, sortOn_eq_sortBy]
  -- repetitions are dropped from the look-up, but the first of each tie stays
  refine head?_sortBy_congr fun a => ?_
  rw [mirrors, ProducerIndex.sameBodyNamed, find?_filter_and, find?_dropRepeats, find?_filter_and,
    find?_filter_and]
  · simp only [isCandidate, Bool.and_assoc]
  · intro r r' hbeq
    have hrequest : (r.request == c.request) = (r'.request == c.request) :=
      BEq.congr_left (Resource.beq_eq_true_iff.mp hbeq).1
    rw [ties, ties, compareOn, compareOn, remoteness, remoteness, remoteness, hrequest,
      Resource.place?_eq_of_beq hbeq]

/-- Of two candidates the one is no more remote than the other if it shares as much, and is no
deeper if the other does so too. -/
lemma isLE_remoteness_iff {r' : Resource} {place' : AccessPath} (hplace : r.place? = some place)
    (hplace' : r'.place? = some place') :
    (compareOn (remoteness own) r r').isLE ↔ own.SharesAsMuch place place' ∧
      (own.SharesAsMuch place' place → place.segments.length ≤ place'.segments.length) := by
  rw [compareOn, remoteness, remoteness, hplace, hplace', Option.getD_some, Option.getD_some,
    Remoteness.isLE_compare_iff, AccessPath.sharesAsMuch_iff, AccessPath.sharesAsMuch_iff]

/-- A candidate that is more remote than another one is deeper, if it shares as much. -/
lemma length_lt_of_not_ties {r' : Resource} {place' : AccessPath} (hplace : r.place? = some place)
    (hplace' : r'.place? = some place') (hle : (compareOn (remoteness own) r r').isLE)
    (htie : ties (compareOn (remoteness own)) r r' = false)
    (hshares : own.SharesAsMuch place' place) :
    place.segments.length < place'.segments.length := by
  obtain ⟨-, hdepth⟩ := (isLE_remoteness_iff hplace hplace').mp hle
  refine Nat.lt_of_le_of_ne (hdepth hshares) fun heq => ?_
  have hge : (compareOn (remoteness own) r' r).isLE :=
    (isLE_remoteness_iff hplace' hplace).mpr ⟨hshares, fun _ => Nat.le_of_eq heq.symm⟩
  rw [ties, Std.OrientedCmp.isLE_antisymm hle hge] at htie
  cases htie

/-- What is mirrored is the closest property. -/
lemma isClosest_of_mirror? (hbody : c.kind = .body) (hname : aliases.get? c.name = some name)
    (hown : c.resource.place? = some own) (h : c.mirror? index aliases = some r) :
    ∃ place, c.IsClosest index aliases own r place := by
  rw [mirror?_eq hbody hname hown, head?_sortBy_eq_some_iff] at h
  obtain ⟨hfirst, hleast⟩ := h
  have hcandidate := List.mem_filter.mp (List.mem_of_find?_eq_some hfirst)
  obtain ⟨place, hmay⟩ := (isCandidate_iff hname hown).mp hcandidate.2
  have hle : ∀ r' ∈ index.sameBody, ∀ place', c.MayMirror aliases own r' place' →
      (compareOn (remoteness own) r r').isLE := by
    intro r' hr' place' hmay'
    exact hleast r' (List.mem_filter.mpr ⟨hr', (isCandidate_iff hname hown).mpr ⟨place', hmay'⟩⟩)
  rw [find?_filter_and, List.find?_eq_some_iff_append] at hfirst
  obtain ⟨-, before, after, hindex, hbefore⟩ := hfirst
  -- a candidate in front does not tie, and the one found is least, so that the former is deeper
  refine ⟨place, hcandidate.1, hmay, ?_, ?_, before, after, hindex, ?_⟩
  · intro r' hr' place' hmay'
    exact ((isLE_remoteness_iff hmay.placed hmay'.placed).mp (hle r' hr' place' hmay')).1
  · intro r' hr' place' hmay'
    exact ((isLE_remoteness_iff hmay.placed hmay'.placed).mp (hle r' hr' place' hmay')).2
  · intro r' hr' place' hmay' hshares
    have hmem : r' ∈ index.sameBody := hindex ▸ List.mem_append_left _ hr'
    have htest := hbefore r' hr'
    rw [(isCandidate_iff hname hown).mpr ⟨place', hmay'⟩, Bool.true_and, Bool.not_eq_true'] at htest
    exact length_lt_of_not_ties hmay.placed hmay'.placed (hle r' hmem place' hmay') htest hshares

/-- A consumer without anything to mirror may mirror nothing. -/
lemma mirror?_eq_none_iff (hbody : c.kind = .body) :
    c.mirror? index aliases = none ↔
      ¬∃ r ∈ index.sameBody, ∃ own place, c.MayMirror aliases own r place := by
  constructor
  · rintro h ⟨r, hr, own, place, hmay⟩
    rw [mirror?_eq hbody hmay.named hmay.inBody, List.head?_eq_none_iff] at h
    have hmem : r ∈ sortBy (compareOn (remoteness own))
        (index.sameBody.filter (c.isCandidate r.name own)) :=
      mem_sortBy.mpr (List.mem_filter.mpr
        ⟨hr, (isCandidate_iff hmay.named hmay.inBody).mpr ⟨place, hmay⟩⟩)
    rw [h] at hmem
    cases hmem
  · intro hnone
    apply Option.eq_none_iff_forall_ne_some.mpr
    intro r h
    obtain ⟨-, name, own, hname, hown, -⟩ := exists_of_mirror? h
    obtain ⟨place, hclosest⟩ := isClosest_of_mirror? hbody hname hown h
    exact hnone ⟨r, hclosest.mem, own, place, hclosest.candidate⟩

/-- A body property for which there is something to mirror mirrors the closest of these properties,
and the dictionary gains no more than the suffix of that property's name.  If there is nothing to
mirror, nothing is mirrored, and the dictionary stays as it is. -/
theorem resolveSameBody_isClosest (hbody : c.kind = .body) (index : ProducerIndex)
    (aliases : SortedMap String) (d : Dictionary) :
    ((∃ r ∈ index.sameBody, ∃ own place, c.MayMirror aliases own r place) →
        ∃ r own place, c.IsClosest index aliases own r place ∧
          (c.resolveSameBody index aliases d).1 =
            some ⟨r, Dictionary.suffixPayload r.name r.type⟩ ∧
          d.GrowsFor (· = r.name) (c.resolveSameBody index aliases d).2 ∧
          (c.resolveSameBody index aliases d).2.uuidSuffixes.contains r.name = true) ∧
      ((¬∃ r ∈ index.sameBody, ∃ own place, c.MayMirror aliases own r place) →
        c.resolveSameBody index aliases d = (none, d)) := by
  constructor
  · intro hsome
    cases h : c.mirror? index aliases with
    | none => exact absurd hsome ((mirror?_eq_none_iff hbody).mp h)
    | some r =>
      obtain ⟨-, name, own, hname, hown, -⟩ := exists_of_mirror? h
      obtain ⟨place, hclosest⟩ := isClosest_of_mirror? hbody hname hown h
      -- the dictionary gains the suffix of the name that is mirrored
      have hresolve : c.resolveSameBody index aliases d =
          (some ⟨r, Dictionary.suffixPayload r.name r.type⟩, d.withSuffix r.name) := by
        rw [resolveSameBody, h]
      rw [hresolve]
      refine ⟨r, own, place, hclosest, rfl, .withSuffix d rfl, ?_⟩
      rw [Dictionary.contains_withSuffix, decide_eq_true rfl, Bool.true_or]
  · intro hnone
    rw [resolveSameBody, (mirror?_eq_none_iff hbody).mpr hnone]

/-! ### The lead of a team -/

open Interface

/-- A property of the body with which teams are created or replaced. -/
def teamProperty (method : Method) (segments : List String) : Resource :=
  .situated .input { endpoint := "/teams", method := method } (.ofPlace ⟨segments⟩)
    (Convention.infer (segments.getLastD "")) .string

/-- The `id` of the lead. -/
def leadId : Consumer where
  resource := teamProperty .post ["lead", "id"]
  kind := .body

/-- Leads of teams, one of them around the `id`, and one in the body of another request. -/
def leads : ProducerIndex :=
  ProducerPool.index {
    sameBody := [teamProperty .post ["lead"], teamProperty .post ["sponsor", "lead"],
      teamProperty .post ["lead", "second", "lead"], teamProperty .post ["lead", "first", "lead"],
      teamProperty .put ["lead", "lead"]] }

/-- The lead around the `id` is no candidate.  The lead of the sponsor is less deep than the others,
but shares nothing with the `id`, and the first and the second share as much and are as deep. -/
theorem resolveSameBody_leadId :
    ∃ own place,
      leadId.IsClosest leads (.ofList [("id", "lead")]) own
        (teamProperty .post ["lead", "first", "lead"]) place ∧
      (leadId.resolveSameBody leads (.ofList [("id", "lead")]) .standard).1 =
        some ⟨teamProperty .post ["lead", "first", "lead"],
          Dictionary.suffixPayload "lead" .string⟩ := by
  have hfound : (leadId.resolveSameBody leads (.ofList [("id", "lead")]) .standard).1 =
      some ⟨teamProperty .post ["lead", "first", "lead"],
        Dictionary.suffixPayload "lead" .string⟩ := rfl
  have hmay : leadId.MayMirror (.ofList [("id", "lead")]) ⟨["lead", "id"]⟩
      (teamProperty .post ["sponsor", "lead"]) ⟨["sponsor", "lead"]⟩ :=
    { named := rfl, request := rfl, inBody := rfl, placed := rfl, beside := by decide }
  have hmem : teamProperty .post ["sponsor", "lead"] ∈ leads.sameBody :=
    mem_sortOn.mpr (List.mem_cons_of_mem _ List.mem_cons_self)
  obtain ⟨hsome, -⟩ := resolveSameBody_isClosest (c := leadId) rfl leads
    (.ofList [("id", "lead")]) .standard
  obtain ⟨r, own, place, hclosest, hr, -⟩ := hsome ⟨_, hmem, _, _, hmay⟩
  rw [hfound] at hr
  cases hr
  exact ⟨own, place, hclosest, hfound⟩

end Consumer

end RestFlow

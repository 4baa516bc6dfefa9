import Mathlib.Tactic.Lemma
import RestFlow.Extraction.Result

/-!
# Equality of resources and producers

Resources are equal when their requests are, up to spelling, and everything else is the same
(`Resource.beq_eq_true_iff`).  Equality of producers goes through their resources, and equality of
the keys of consumers through their requests.
-/

namespace RestFlow

deriving instance ReflBEq for Resource, OrderingConstraint, Producer, ConsumerKey

namespace Resource

variable {a b : Resource}

/-- Equal resources differ in the spelling of their requests at most. -/
lemma beq_eq_true_iff :
    (a == b) = true ↔ (a.request == b.request) = true ∧ b = { a with request := b.request } := by
  obtain ⟨_, _, _, _, _, _, _, _, _⟩ := a
  obtain ⟨_, _, _, _, _, _, _, _, _⟩ := b
  show (_ && (_ && (_ && (_ && (_ && (_ && (_ && (_ && _)))))))) = true ↔ _
  simp only [Bool.and_eq_true, beq_iff_eq]
  constructor
  · rintro ⟨hrequest, rfl, rfl, rfl, rfl, rfl, rfl, rfl, rfl⟩
    exact ⟨hrequest, rfl⟩
  · rintro ⟨hrequest, h⟩
    cases h
    simp [hrequest]

instance : EquivBEq Resource where
  symm {a b} h := by
    obtain ⟨hrequest, hrest⟩ := beq_eq_true_iff.mp h
    refine beq_eq_true_iff.mpr ⟨BEq.symm hrequest, ?_⟩
    rw [hrest]
  trans {a b c} h h' := by
    obtain ⟨hab, hb⟩ := beq_eq_true_iff.mp h
    obtain ⟨hbc, hc⟩ := beq_eq_true_iff.mp h'
    refine beq_eq_true_iff.mpr ⟨BEq.trans hab hbc, ?_⟩
    rw [hc, hb]

lemma reference_eq_of_beq (h : (a == b) = true) : a.reference = b.reference := by
  rw [(beq_eq_true_iff.mp h).2]

lemma place?_eq_of_beq (h : (a == b) = true) : a.place? = b.place? := by
  rw [place?, place?, reference_eq_of_beq h]

/-- Equal resources sort alike. -/
lemma sortKey_eq_of_beq (h : (a == b) = true) : a.sortKey = b.sortKey := by
  obtain ⟨hrequest, hrest⟩ := beq_eq_true_iff.mp h
  obtain ⟨hplace, hmethod⟩ := Prod.mk.inj (RequestId.beq_iff.mp hrequest)
  rw [hrest, sortKey, sortKey, hplace, hmethod]
  rfl

end Resource

namespace OrderingConstraint

/-- Constraints are equal when their requests are. -/
lemma beq_eq_true_iff {a b : OrderingConstraint} :
    (a == b) = true ↔ (a.source == b.source) = true ∧ (a.target == b.target) = true := by
  show (a.source == b.source && a.target == b.target) = true ↔ _
  rw [Bool.and_eq_true]

instance : EquivBEq OrderingConstraint where
  symm {a b} h := by
    obtain ⟨hsource, htarget⟩ := beq_eq_true_iff.mp h
    exact beq_eq_true_iff.mpr ⟨BEq.symm hsource, BEq.symm htarget⟩
  trans {a b c} h h' := by
    obtain ⟨hsource, htarget⟩ := beq_eq_true_iff.mp h
    obtain ⟨hsource', htarget'⟩ := beq_eq_true_iff.mp h'
    exact beq_eq_true_iff.mpr ⟨BEq.trans hsource hsource', BEq.trans htarget htarget'⟩

end OrderingConstraint

namespace Producer

/-- Producers of one sort that are equal. -/
inductive Same : Producer → Producer → Prop where
  | response {r r' : Resource} (hr : (r == r') = true) : Same (.response r) (.response r')
  | sameBody {r r' : Resource} (hr : (r == r') = true) : Same (.sameBody r) (.sameBody r')
  | inputOnly {r r' : Resource} (origin : InputOrigin) (hr : (r == r') = true) :
    Same (.inputOnly r origin) (.inputOnly r' origin)
  | dictionary (payload : DictionaryPayload) : Same (.dictionary payload) (.dictionary payload)
  | ordering {c c' : OrderingConstraint} (hc : (c == c') = true) : Same (.ordering c) (.ordering c')

namespace Same

variable {p q t : Producer}

/-- The order does not matter. -/
lemma symm (h : Same p q) : Same q p := by
  cases h with
  | response hr => exact .response (BEq.symm hr)
  | sameBody hr => exact .sameBody (BEq.symm hr)
  | inputOnly origin hr => exact .inputOnly origin (BEq.symm hr)
  | dictionary payload => exact .dictionary payload
  | ordering hc => exact .ordering (BEq.symm hc)

/-- Neither do detours. -/
lemma trans (h : Same p q) (h' : Same q t) : Same p t := by
  cases h with
  | response hr =>
    cases h' with
    | response hr' => exact .response (BEq.trans hr hr')
  | sameBody hr =>
    cases h' with
    | sameBody hr' => exact .sameBody (BEq.trans hr hr')
  | inputOnly origin hr =>
    cases h' with
    | inputOnly _ hr' => exact .inputOnly origin (BEq.trans hr hr')
  | dictionary payload => exact h'
  | ordering hc =>
    cases h' with
    | ordering hc' => exact .ordering (BEq.trans hc hc')

end Same

/-- Producers are equal only if they are of one sort. -/
lemma beq_eq_true_iff {p q : Producer} : (p == q) = true ↔ Same p q := by
  constructor
  · intro h
    cases p <;> cases q <;> first | cases h | skip
    case response.response => exact .response h
    case sameBody.sameBody => exact .sameBody h
    case inputOnly.inputOnly r origin r' origin' =>
      change (r == r' && origin == origin') = true at h
      obtain ⟨hr, horigin⟩ := Bool.and_eq_true_iff.mp h
      obtain rfl : origin = origin' := eq_of_beq horigin
      exact .inputOnly origin hr
    case dictionary.dictionary payload payload' =>
      change (payload == payload') = true at h
      obtain rfl : payload = payload' := eq_of_beq h
      exact .dictionary payload
    case ordering.ordering => exact .ordering h
  · intro h
    cases h with
    | response hr => exact hr
    | sameBody hr => exact hr
    | @inputOnly r r' origin hr =>
      show (r == r' && origin == origin) = true
      rw [hr, BEq.rfl, Bool.and_self]
    | dictionary payload => exact BEq.rfl
    | ordering hc => exact hc

instance : EquivBEq Producer where
  symm h := beq_eq_true_iff.mpr (beq_eq_true_iff.mp h).symm
  trans h h' := beq_eq_true_iff.mpr ((beq_eq_true_iff.mp h).trans (beq_eq_true_iff.mp h'))

end Producer

namespace ConsumerKey

/-- Keys of consumers are equal when they differ in the spelling of their requests at most. -/
lemma beq_eq_true_iff {a b : ConsumerKey} :
    (a == b) = true ↔ (a.request == b.request) = true ∧ b = { a with request := b.request } := by
  obtain ⟨_, _, _, _⟩ := a
  obtain ⟨_, _, _, _⟩ := b
  show (_ && (_ && (_ && _))) = true ↔ _
  simp only [Bool.and_eq_true, beq_iff_eq]
  constructor
  · rintro ⟨hrequest, rfl, rfl, rfl⟩
    exact ⟨hrequest, rfl⟩
  · rintro ⟨hrequest, h⟩
    cases h
    simp [hrequest]

instance : EquivBEq ConsumerKey where
  symm {a b} h := by
    obtain ⟨hrequest, hrest⟩ := beq_eq_true_iff.mp h
    refine beq_eq_true_iff.mpr ⟨BEq.symm hrequest, ?_⟩
    rw [hrest]
  trans {a b c} h h' := by
    obtain ⟨hab, hb⟩ := beq_eq_true_iff.mp h
    obtain ⟨hbc, hc⟩ := beq_eq_true_iff.mp h'
    refine beq_eq_true_iff.mpr ⟨BEq.trans hab hbc, ?_⟩
    rw [hc, hb]

end ConsumerKey

end RestFlow

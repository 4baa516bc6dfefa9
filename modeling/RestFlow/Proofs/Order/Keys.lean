import Mathlib.Tactic.Lemma
import RestFlow.Sequence.Constraints

/-!
# The orders of requests, resources, consumers and constraints

Every list of a run is sorted by one of a few keys.  This file shows that their orders are
transitive, as sorting needs it, and says what it means for two keys to compare equal: requests
compare equal exactly when they are equal (`RequestId.compare_eq_iff`), and keys of resources are
equal in all their parts.
-/

namespace RestFlow

namespace Method

lemma index_injective {a b : Method} (h : a.index = b.index) : a = b := by
  revert h
  cases a <;> cases b <;> decide

instance : Std.TransOrd Method :=
  inferInstanceAs (Std.TransCmp (compareOn Method.index))

instance : Std.LawfulEqOrd Method where
  eq_of_compare h := index_injective (Std.LawfulEqOrd.eq_of_compare h)

end Method

namespace ParameterKind

lemma word_injective {a b : ParameterKind} (h : a.word = b.word) : a = b := by
  revert h
  cases a <;> cases b <;> decide

instance : Std.TransOrd ParameterKind :=
  inferInstanceAs (Std.TransCmp (compareOn ParameterKind.index))

end ParameterKind

namespace RequestId

instance : Std.TransOrd RequestId :=
  inferInstanceAs (Std.TransCmp
    (compareLex (compareOn RequestId.place) (compareOn RequestId.method)))

/-- Requests compare equal exactly when they are equal. -/
theorem compare_eq_iff {a b : RequestId} : compare a b = .eq ↔ (a == b) = true := by
  rw [beq_iff]
  show (compare a.place b.place).then (compare a.method b.method) = .eq ↔ a.key = b.key
  rw [Ordering.then_eq_eq, Std.LawfulEqOrd.compare_eq_iff_eq, Std.LawfulEqOrd.compare_eq_iff_eq]
  simp [key]

end RequestId

namespace Resource

instance : Std.TransOrd SortKey :=
  inferInstanceAs (Std.TransCmp
    (compareLex (compareOn SortKey.place) (compareLex (compareOn SortKey.method)
      (compareLex (compareOn SortKey.mapKey)
        (compareLex (compareOn SortKey.name) (compareOn SortKey.kind))))))

instance : Std.LawfulEqOrd SortKey where
  eq_of_compare {a b} h := by
    change (compare a.place b.place).then ((compare a.method b.method).then
      ((compare a.mapKey b.mapKey).then
        ((compare a.name b.name).then (compare a.kind b.kind)))) = .eq at h
    simp only [Ordering.then_eq_eq, Std.LawfulEqOrd.compare_eq_iff_eq] at h
    obtain ⟨hplace, hmethod, hmapKey, hname, hkind⟩ := h
    cases a
    cases b
    simp_all

end Resource

namespace Consumer

instance : Std.TransOrd ListingKey :=
  inferInstanceAs (Std.TransCmp
    (compareLex (compareOn ListingKey.rank) (compareLex (compareOn ListingKey.kind)
      (compareLex (compareOn ListingKey.mapKey)
        (compareLex (compareOn ListingKey.request) (compareOn ListingKey.name))))))

/-- Consumers that tie in a listing belong to one request. -/
lemma request_beq_of_compare_listingKey {a b : Consumer}
    (h : compare a.listingKey b.listingKey = .eq) : (a.request == b.request) = true := by
  change (compare a.request.method.rank b.request.method.rank).then
    ((compare a.kind b.kind).then ((compare a.resource.mapKey b.resource.mapKey).then
      ((compare a.request b.request).then (compare a.name b.name)))) = .eq at h
  simp only [Ordering.then_eq_eq] at h
  exact RequestId.compare_eq_iff.mp h.2.2.2.1

/-- Consumers that tie in a listing are listed under one key. -/
lemma mapKey_eq_of_compare_listingKey {a b : Consumer}
    (h : compare a.listingKey b.listingKey = .eq) : a.resource.mapKey = b.resource.mapKey := by
  change (compare a.request.method.rank b.request.method.rank).then
    ((compare a.kind b.kind).then ((compare a.resource.mapKey b.resource.mapKey).then
      ((compare a.request b.request).then (compare a.name b.name)))) = .eq at h
  simp only [Ordering.then_eq_eq, Std.LawfulEqOrd.compare_eq_iff_eq] at h
  exact h.2.2.1

end Consumer

namespace OrderingConstraint

instance : Std.TransOrd OrderingConstraint :=
  inferInstanceAs (Std.TransCmp
    (compareLex (compareOn OrderingConstraint.source) (compareOn OrderingConstraint.target)))

end OrderingConstraint

end RestFlow

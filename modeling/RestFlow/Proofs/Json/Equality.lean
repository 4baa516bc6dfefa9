import Mathlib.Tactic.Lemma
import RestFlow.Json.Basic

/-!
# Equality of JSON values

Equality of JSON values is structural but for one pair of numbers, the zeros of both signs.  The
canonical form of a value has no negative zero, and values are equal exactly when their canonical
forms are the same (`Json.beq_iff`).
-/

namespace RestFlow

/-! ## Numbers -/

namespace Double

/-- The number itself, or the positive zero in place of either zero. -/
def canonical (d : Double) : Double :=
  if d.isZero then ⟨0⟩ else d

lemma canonical_of_isZero {d : Double} (h : d.isZero = true) : d.canonical = ⟨0⟩ :=
  if_pos h

lemma canonical_of_isZero_eq_false {d : Double} (h : d.isZero = false) : d.canonical = d :=
  if_neg (Bool.eq_false_iff.mp h)

/-- The canonical form is a zero exactly if the number is one. -/
lemma isZero_canonical (d : Double) : d.canonical.isZero = d.isZero := by
  cases h : d.isZero with
  | true => rw [canonical_of_isZero h]; rfl
  | false => rw [canonical_of_isZero_eq_false h, h]

/-- Doubles are equal exactly when they are the same up to the sign of zeros. -/
lemma beq_iff {a b : Double} : (a == b) = true ↔ a.canonical = b.canonical := by
  show (a.bits == b.bits || (a.isZero && b.isZero)) = true ↔ _
  rw [Bool.or_eq_true, Bool.and_eq_true, beq_iff_eq]
  constructor
  · rintro (hbits | ⟨ha, hb⟩)
    · exact congrArg canonical (congrArg mk hbits)
    · rw [canonical_of_isZero ha, canonical_of_isZero hb]
  · intro h
    have hzero : a.isZero = b.isZero := by
      rw [← isZero_canonical, h, isZero_canonical]
    cases ha : a.isZero with
    | true => exact .inr ⟨rfl, hzero ▸ ha⟩
    | false =>
      rw [canonical_of_isZero_eq_false ha, canonical_of_isZero_eq_false (hzero ▸ ha)] at h
      exact .inl (congrArg bits h)

end Double

namespace JsonNumber

/-- The number without a sign on zero. -/
def canonical : JsonNumber → JsonNumber
  | integer value => integer value
  | real value => real value.canonical

/-- Numbers are equal exactly when they are of one sort and the same up to the sign of zeros. -/
lemma beq_iff {a b : JsonNumber} : (a == b) = true ↔ a.canonical = b.canonical := by
  cases a with
  | integer m =>
    cases b with
    | integer n =>
      show (m == n) = true ↔ integer m = integer n
      rw [beq_iff_eq, integer.injEq]
    | real y => exact ⟨(nomatch ·), (nomatch ·)⟩
  | real x =>
    cases b with
    | integer n => exact ⟨(nomatch ·), (nomatch ·)⟩
    | real y =>
      show (x == y) = true ↔ real x.canonical = real y.canonical
      rw [Double.beq_iff, real.injEq]

end JsonNumber

/-! ## Values -/

namespace Json

mutual

/-- The value without a sign on any zero. -/
def canonical : Json → Json
  | number value => number value.canonical
  | array items => array (canonicalItems items)
  | object members => object (canonicalMembers members)
  | value => value

/-- `canonical` on every item. -/
def canonicalItems : List Json → List Json
  | [] => []
  | item :: rest => item.canonical :: canonicalItems rest

/-- `canonical` on every member. -/
def canonicalMembers : List (String × Json) → List (String × Json)
  | [] => []
  | (name, value) :: rest => (name, value.canonical) :: canonicalMembers rest

end

mutual

/-- Values are equal exactly when their canonical forms are the same. -/
lemma beq_eq_true_iff : ∀ a b : Json, beq a b = true ↔ a.canonical = b.canonical
  | null, b => by cases b <;> simp [beq, canonical]
  | bool _, b => by cases b <;> simp [beq, canonical]
  | number _, b => by cases b <;> simp [beq, canonical, JsonNumber.beq_iff]
  | string _, b => by cases b <;> simp [beq, canonical]
  | array items, b => by cases b <;> simp [beq, canonical, beqItems_eq_true_iff items]
  | object members, b => by cases b <;> simp [beq, canonical, beqMembers_eq_true_iff members]
  | unreadable, b => by cases b <;> simp [beq, canonical]
  | broken, b => by cases b <;> simp [beq, canonical]

/-- Items are equal exactly when their canonical forms are the same. -/
lemma beqItems_eq_true_iff :
    ∀ as bs : List Json, beqItems as bs = true ↔ canonicalItems as = canonicalItems bs
  | [], bs => by cases bs <;> simp [beqItems, canonicalItems]
  | a :: as, bs => by
    cases bs <;>
      simp [beqItems, canonicalItems, beq_eq_true_iff a, beqItems_eq_true_iff as]

/-- Members are equal exactly when their canonical forms are the same. -/
lemma beqMembers_eq_true_iff : ∀ as bs : List (String × Json),
    beqMembers as bs = true ↔ canonicalMembers as = canonicalMembers bs
  | [], bs => by cases bs <;> simp [beqMembers, canonicalMembers]
  | (name, a) :: as, bs => by
    cases bs <;>
      simp [beqMembers, canonicalMembers, beq_eq_true_iff a, beqMembers_eq_true_iff as]

end

/-- Values are equal exactly when they are the same up to the sign of zeros. -/
theorem beq_iff {a b : Json} : (a == b) = true ↔ a.canonical = b.canonical :=
  beq_eq_true_iff a b

end Json

end RestFlow

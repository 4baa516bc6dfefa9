/-!
# Stable sorting and adjacent repetitions

`sortBy` is the insertion sort: elements that compare equal keep their order. It is structural, so a
sorted list can be computed inside a proof. `dropRepeats` removes an element that equals the one
before it, keeping the first of every run.
-/

namespace RestFlow

variable {α κ : Type}

/-- Put `a` before the first element that it does not exceed. -/
def insertBy (cmp : α → α → Ordering) (a : α) : List α → List α
  | [] => [a]
  | b :: rest => if (cmp a b).isLE then a :: b :: rest else b :: insertBy cmp a rest

/-- The elements in increasing order; equal ones keep their order. -/
def sortBy (cmp : α → α → Ordering) : List α → List α
  | [] => []
  | a :: rest => insertBy cmp a (sortBy cmp rest)

@[simp] theorem sortBy_nil (cmp : α → α → Ordering) : sortBy cmp [] = [] := rfl

theorem insertBy_perm (cmp : α → α → Ordering) (a : α) (l : List α) :
    (insertBy cmp a l).Perm (a :: l) := by
  induction l with
  | nil => exact List.Perm.refl _
  | cons b rest ih =>
    unfold insertBy
    split
    · exact List.Perm.refl _
    · exact (List.Perm.cons b ih).trans (List.Perm.swap a b rest)

/-- Sorting neither loses nor invents elements. -/
theorem sortBy_perm (cmp : α → α → Ordering) (l : List α) : (sortBy cmp l).Perm l := by
  induction l with
  | nil => exact List.Perm.refl _
  | cons a rest ih => exact (insertBy_perm cmp a _).trans (List.Perm.cons a ih)

@[simp] theorem mem_sortBy {cmp : α → α → Ordering} {a : α} {l : List α} :
    a ∈ sortBy cmp l ↔ a ∈ l :=
  (sortBy_perm cmp l).mem_iff

/-- The elements in increasing order of a key that is computed once for each of them. -/
def sortOn [Ord κ] (key : α → κ) (l : List α) : List α :=
  (sortBy (fun a b => compare a.1 b.1) (l.map fun a => (key a, a))).map Prod.snd

@[simp] theorem mem_sortOn [Ord κ] {key : α → κ} {a : α} {l : List α} :
    a ∈ sortOn key l ↔ a ∈ l := by
  simp [sortOn]

/-- Drop the elements that equal the one kept before them, the last of these being `kept`. -/
def dropRepeatsAfter [BEq α] (kept : α) : List α → List α
  | [] => []
  | b :: rest => if kept == b then dropRepeatsAfter kept rest else b :: dropRepeatsAfter b rest

/-- Of every run of equal elements, the first. -/
def dropRepeats [BEq α] : List α → List α
  | [] => []
  | a :: rest => a :: dropRepeatsAfter a rest

@[simp] theorem dropRepeats_nil [BEq α] : dropRepeats ([] : List α) = [] := rfl

end RestFlow

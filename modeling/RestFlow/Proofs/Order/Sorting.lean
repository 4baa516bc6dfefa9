import Mathlib.Data.List.Basic
import Mathlib.Tactic.Lemma
import RestFlow.Order.Sorting

/-!
# Sorting does not depend on the order of arrival

`sortBy` is stable, so its result may depend on the order in which elements arrive: elements that
compare equal stay as they came.  The facts below say that this is the only dependence.  Insertions
of elements that differ commute (`insertBy_comm`), so blocks of elements may be reordered as long as
no two blocks share a key (`sortBy_flatMap_perm`), and under an order that separates all elements a
sorted list is determined by its elements (`sortBy_eq_of_perm`).

What sorting keeps is the order of elements that tie (`filter_sortBy`), and this determines the
sorted list (`eq_of_filter_ties`).  How it begins is determined by the first element of each tie
alone (`head?_sortBy_congr`).

`sortOn` is the same sort under the order of keys (`sortOn_eq_sortBy`), and both `sortBy` and
`dropRepeats` commute with functions that keep comparisons (`map_sortBy`, `map_dropRepeats`).
`dropRepeats` keeps some of the elements, and an equal one for each of them
(`mem_of_mem_dropRepeats`, `exists_mem_dropRepeats`).  A sorted list without repetitions is strictly
increasing, and determined by its elements (`dropRepeats_sortBy_eq`).
-/

namespace RestFlow

variable {α β κ : Type}

/-! ## Insertions commute -/

section Comparison

variable {cmp : α → α → Ordering}

/-- Sorting inserts the elements one by one, from the last to the first. -/
lemma sortBy_eq_foldr (cmp : α → α → Ordering) (l : List α) :
    sortBy cmp l = l.foldr (insertBy cmp) [] := by
  induction l with
  | nil => rfl
  | cons a rest ih => rw [sortBy, ih, List.foldr_cons]

lemma sortBy_append (cmp : α → α → Ordering) (xs ys : List α) :
    sortBy cmp (xs ++ ys) = xs.foldr (insertBy cmp) (sortBy cmp ys) := by
  rw [sortBy_eq_foldr, List.foldr_append, ← sortBy_eq_foldr]

/-- A smaller element may be inserted before or after a greater one. -/
lemma insertBy_comm_of_lt [Std.TransCmp cmp] {a b : α} (h : cmp a b = .lt) (l : List α) :
    insertBy cmp a (insertBy cmp b l) = insertBy cmp b (insertBy cmp a l) := by
  have hab : (cmp a b).isLE := by simp [h]
  have hba : ¬(cmp b a).isLE := by simp [Std.OrientedCmp.gt_of_lt h]
  induction l with
  | nil => simp [insertBy, hab, hba]
  | cons x rest ih =>
    by_cases hbx : (cmp b x).isLE
    · have hax : (cmp a x).isLE := Std.TransCmp.isLE_trans hab hbx
      simp [insertBy, hab, hba, hax, hbx]
    · by_cases hax : (cmp a x).isLE
      · simp [insertBy, hba, hax, hbx]
      · simp [insertBy, hax, hbx, ih]

/-- Elements that do not compare equal may be inserted in either order. -/
lemma insertBy_comm [Std.TransCmp cmp] {a b : α} (h : cmp a b ≠ .eq) (l : List α) :
    insertBy cmp a (insertBy cmp b l) = insertBy cmp b (insertBy cmp a l) := by
  cases hab : cmp a b with
  | lt => exact insertBy_comm_of_lt hab l
  | eq => exact absurd hab h
  | gt => exact (insertBy_comm_of_lt (Std.OrientedCmp.lt_of_gt hab) l).symm

/-- An element may be inserted before or after elements that differ from it. -/
lemma insertBy_foldr_comm [Std.TransCmp cmp] {a : α} {xs : List α} (h : ∀ x ∈ xs, cmp a x ≠ .eq)
    (l : List α) :
    insertBy cmp a (xs.foldr (insertBy cmp) l) = xs.foldr (insertBy cmp) (insertBy cmp a l) := by
  induction xs with
  | nil => rfl
  | cons x rest ih =>
    rw [List.foldr_cons, List.foldr_cons, insertBy_comm (h x List.mem_cons_self),
      ih fun y hy => h y (List.mem_cons_of_mem x hy)]

/-- Two blocks without a common key may be inserted in either order. -/
lemma foldr_insertBy_comm [Std.TransCmp cmp] {xs ys : List α}
    (h : ∀ x ∈ xs, ∀ y ∈ ys, cmp x y ≠ .eq) (l : List α) :
    xs.foldr (insertBy cmp) (ys.foldr (insertBy cmp) l) =
      ys.foldr (insertBy cmp) (xs.foldr (insertBy cmp) l) := by
  induction xs with
  | nil => rfl
  | cons x rest ih =>
    have hx := insertBy_foldr_comm (h x List.mem_cons_self) (rest.foldr (insertBy cmp) l)
    rw [List.foldr_cons, ih fun z hz => h z (List.mem_cons_of_mem x hz), hx, List.foldr_cons]

/-- Reordering blocks of which no two share a key does not change the sorted list. -/
theorem sortBy_flatMap_perm [Std.TransCmp cmp] {f : β → List α} {xs ys : List β}
    (hp : xs.Perm ys)
    (hne : ∀ x ∈ xs, ∀ y ∈ xs, x ≠ y → ∀ a ∈ f x, ∀ b ∈ f y, cmp a b ≠ .eq) :
    sortBy cmp (xs.flatMap f) = sortBy cmp (ys.flatMap f) := by
  have hfold : ∀ l : List β, sortBy cmp (l.flatMap f) =
      l.foldr (fun x acc => (f x).foldr (insertBy cmp) acc) [] := by
    intro l
    induction l with
    | nil => rfl
    | cons x rest ih => rw [List.flatMap_cons, sortBy_append, ih, List.foldr_cons]
  rw [hfold, hfold]
  refine hp.foldr_eq' (fun x hx y hy z => ?_) []
  by_cases hxy : x = y
  · rw [hxy]
  · exact (foldr_insertBy_comm (hne x hx y hy hxy) z).symm

/-- Elements may be reordered if no two of them share a key. -/
lemma sortBy_eq_of_perm_of_ne [Std.TransCmp cmp] {xs ys : List α} (hp : xs.Perm ys)
    (hne : ∀ a ∈ xs, ∀ b ∈ xs, a ≠ b → cmp a b ≠ .eq) : sortBy cmp xs = sortBy cmp ys := by
  rw [sortBy_eq_foldr, sortBy_eq_foldr]
  refine hp.foldr_eq' (fun a ha b hb l => ?_) []
  by_cases hab : a = b
  · rw [hab]
  · exact (insertBy_comm (hne a ha b hb hab) l).symm

/-- Under an order that separates all elements, sorting forgets the order of arrival. -/
theorem sortBy_eq_of_perm [Std.TransCmp cmp] [Std.LawfulEqCmp cmp] {xs ys : List α}
    (hp : xs.Perm ys) : sortBy cmp xs = sortBy cmp ys :=
  sortBy_eq_of_perm_of_ne hp fun _ _ _ _ hab heq => hab (Std.LawfulEqCmp.eq_of_compare heq)

/-- An element is put in its place in a sorted list. -/
lemma pairwise_insertBy [Std.TransCmp cmp] (a : α) {l : List α}
    (h : l.Pairwise fun x y => (cmp x y).isLE) :
    (insertBy cmp a l).Pairwise fun x y => (cmp x y).isLE := by
  induction l with
  | nil => exact List.pairwise_singleton _ a
  | cons b rest ih =>
    obtain ⟨hb, hrest⟩ := List.pairwise_cons.mp h
    rw [insertBy]
    by_cases hab : (cmp a b).isLE
    · rw [if_pos hab]
      refine List.pairwise_cons.mpr ⟨fun y hy => ?_, h⟩
      rcases List.mem_cons.mp hy with rfl | hy
      · exact hab
      · exact Std.TransCmp.isLE_trans hab (hb y hy)
    · rw [if_neg hab]
      -- what is not before an element is after it
      have hba : (cmp b a).isLE := by
        have hswap : cmp b a = (cmp a b).swap := Std.OrientedCmp.eq_swap
        cases hc : cmp a b with
        | lt => simp [hc] at hab
        | eq => simp [hc] at hab
        | gt => simp [hswap, hc]
      refine List.pairwise_cons.mpr ⟨fun y hy => ?_, ih hrest⟩
      rcases List.mem_cons.mp ((insertBy_perm cmp a rest).mem_iff.mp hy) with rfl | hy
      · exact hba
      · exact hb y hy

/-- A sorted list is in increasing order. -/
theorem pairwise_sortBy [Std.TransCmp cmp] (l : List α) :
    (sortBy cmp l).Pairwise fun x y => (cmp x y).isLE := by
  induction l with
  | nil => exact List.Pairwise.nil
  | cons a rest ih => exact pairwise_insertBy a ih

end Comparison

/-! ## Elements that compare equal -/

section Ties

variable {cmp : α → α → Ordering}

/-- Two elements compare equal. -/
def ties (cmp : α → α → Ordering) (a b : α) : Bool :=
  (cmp a b).isEq

/-- An element is put before those that compare equal to it. -/
lemma filter_insertBy {test : α → Bool}
    (htest : ∀ a b, test a = true → test b = true → cmp a b = .eq) (a : α) (l : List α) :
    (insertBy cmp a l).filter test = (a :: l).filter test := by
  induction l with
  | nil => rfl
  | cons b rest ih =>
    by_cases hab : (cmp a b).isLE
    · rw [insertBy, if_pos hab]
    · rw [insertBy, if_neg hab, List.filter_cons, ih]
      by_cases ha : test a = true
      · have hb : ¬test b = true := by
          intro hb
          rw [htest a b ha hb] at hab
          exact hab rfl
        rw [if_neg hb, List.filter_cons_of_pos ha, List.filter_cons_of_pos ha,
          List.filter_cons_of_neg hb]
      · rw [List.filter_cons_of_neg ha, List.filter_cons_of_neg ha, List.filter_cons]

/-- Sorting keeps the order of elements that compare equal. -/
theorem filter_sortBy {test : α → Bool}
    (htest : ∀ a b, test a = true → test b = true → cmp a b = .eq) (l : List α) :
    (sortBy cmp l).filter test = l.filter test := by
  induction l with
  | nil => rfl
  | cons a rest ih => rw [sortBy, filter_insertBy htest, List.filter_cons, List.filter_cons, ih]

variable [Std.TransCmp cmp] {l l' : List α}

@[simp] lemma ties_self (a : α) : ties cmp a a = true := by
  simp [ties, Std.ReflCmp.compare_self]

/-- Elements that tie with the same one compare equal. -/
lemma compare_eq_of_ties {a : α} (x y : α) (hx : ties cmp a x = true) (hy : ties cmp a y = true) :
    cmp x y = .eq := by
  rw [ties, Ordering.isEq_iff_eq_eq] at hx hy
  exact Std.TransCmp.eq_trans (Std.OrientedCmp.eq_symm hx) hy

/-- The first element of a sorted list compares less than or equal to all of them. -/
lemma isLE_of_mem_cons {a b : α} (h : (a :: l).Pairwise fun x y => (cmp x y).isLE)
    (hb : b ∈ a :: l) : (cmp a b).isLE := by
  rcases List.mem_cons.mp hb with rfl | hb
  · simp [Std.ReflCmp.compare_self]
  · exact (List.pairwise_cons.mp h).1 b hb

/-- Sorted lists are equal if the elements that compare equal are the same, in the same order. -/
theorem eq_of_filter_ties (hl : l.Pairwise fun x y => (cmp x y).isLE)
    (hl' : l'.Pairwise fun x y => (cmp x y).isLE)
    (h : ∀ a, l.filter (ties cmp a) = l'.filter (ties cmp a)) : l = l' := by
  induction l generalizing l' with
  | nil =>
    cases l' with
    | nil => rfl
    | cons b rest' =>
      have hb := h b
      rw [List.filter_nil, List.filter_cons_of_pos (ties_self b)] at hb
      cases hb
  | cons a rest ih =>
    have hmem : ∀ x, x ∈ a :: rest ↔ x ∈ l' := by
      intro x
      have hx : x ∈ (a :: rest).filter (ties cmp x) ↔ x ∈ l'.filter (ties cmp x) := by rw [h x]
      simpa [List.mem_filter] using hx
    cases l' with
    | nil => cases (hmem a).mp List.mem_cons_self
    | cons b rest' =>
      -- the first element of either list is in the other one as well, so the two compare equal
      have hle : (cmp a b).isLE := isLE_of_mem_cons hl ((hmem b).mpr List.mem_cons_self)
      have hge : (cmp b a).isLE := isLE_of_mem_cons hl' ((hmem a).mp List.mem_cons_self)
      have hab : ties cmp a b = true :=
        Ordering.isEq_iff_eq_eq.mpr (Std.OrientedCmp.isLE_antisymm hle hge)
      have hfirst := h a
      rw [List.filter_cons_of_pos (ties_self a), List.filter_cons_of_pos hab] at hfirst
      obtain ⟨rfl, -⟩ := List.cons.inj hfirst
      refine congrArg (a :: ·) (ih hl.of_cons hl'.of_cons fun x => ?_)
      have hx := h x
      by_cases hxa : ties cmp x a = true
      · rw [List.filter_cons_of_pos hxa, List.filter_cons_of_pos hxa] at hx
        exact (List.cons.inj hx).2
      · rwa [List.filter_cons_of_neg hxa, List.filter_cons_of_neg hxa] at hx

/-- Lists are sorted alike if the elements that compare equal are the same, in the same order. -/
theorem sortBy_eq_of_filter_ties (h : ∀ a, l.filter (ties cmp a) = l'.filter (ties cmp a)) :
    sortBy cmp l = sortBy cmp l' := by
  refine eq_of_filter_ties (pairwise_sortBy l) (pairwise_sortBy l') fun a => ?_
  rw [filter_sortBy compare_eq_of_ties, filter_sortBy compare_eq_of_ties, h a]

/-- Lists that are sorted alike still are when the same elements are added to both. -/
lemma sortBy_append_congr (h : sortBy cmp l = sortBy cmp l') (added : List α) :
    sortBy cmp (l ++ added) = sortBy cmp (l' ++ added) := by
  refine sortBy_eq_of_filter_ties fun a => ?_
  rw [List.filter_append, List.filter_append, ← filter_sortBy compare_eq_of_ties l, h,
    filter_sortBy compare_eq_of_ties l']

lemma sortBy_eq_self (h : l.Pairwise fun x y => (cmp x y).isLE) : sortBy cmp l = l :=
  eq_of_filter_ties (pairwise_sortBy l) h fun _ => filter_sortBy compare_eq_of_ties l

/-- A sorted list can be read off its elements in a coarser order. -/
lemma eq_of_sortBy_eq {cmp' : α → α → Ordering} (hl : l.Pairwise fun x y => (cmp x y).isLE)
    (hl' : l'.Pairwise fun x y => (cmp x y).isLE)
    (hcoarser : ∀ a b, cmp a b = .eq → cmp' a b = .eq) (h : sortBy cmp' l = sortBy cmp' l') :
    l = l' := by
  refine eq_of_filter_ties hl hl' fun a => ?_
  have hties : ∀ x y, ties cmp a x = true → ties cmp a y = true → cmp' x y = .eq :=
    fun x y hx hy => hcoarser x y (compare_eq_of_ties x y hx hy)
  rw [← filter_sortBy hties l, h, filter_sortBy hties l']

/-- Elements may be left out before or after sorting. -/
lemma sortBy_filter (test : α → Bool) (l : List α) :
    sortBy cmp (l.filter test) = (sortBy cmp l).filter test := by
  refine eq_of_filter_ties (pairwise_sortBy _) ((pairwise_sortBy l).filter test) fun a => ?_
  rw [filter_sortBy compare_eq_of_ties, List.filter_filter, List.filter_filter]
  simp only [Bool.and_comm (ties cmp a _)]
  rw [← List.filter_filter, ← List.filter_filter, filter_sortBy compare_eq_of_ties]

/-- A sorted list begins with the first of the least elements. -/
theorem head?_sortBy_eq_some_iff {a : α} :
    (sortBy cmp l).head? = some a ↔
      l.find? (ties cmp a) = some a ∧ ∀ b ∈ l, (cmp a b).isLE := by
  have hfind : l.find? (ties cmp a) = ((sortBy cmp l).filter (ties cmp a)).head? := by
    rw [filter_sortBy compare_eq_of_ties, List.head?_filter]
  cases hsorted : sortBy cmp l with
  | nil =>
    have hempty : l = [] := by
      have hperm := sortBy_perm cmp l
      rw [hsorted] at hperm
      exact hperm.symm.eq_nil
    simp [hempty]
  | cons b rest =>
    have hpairwise : (b :: rest).Pairwise fun x y => (cmp x y).isLE := hsorted ▸ pairwise_sortBy l
    have hmem : ∀ x, x ∈ l ↔ x ∈ b :: rest := by
      intro x
      rw [← hsorted, mem_sortBy]
    rw [hfind, hsorted, List.head?_cons]
    constructor
    · intro h
      obtain rfl := Option.some.inj h
      rw [List.filter_cons_of_pos (ties_self b), List.head?_cons]
      exact ⟨rfl, fun x hx => isLE_of_mem_cons hpairwise ((hmem x).mp hx)⟩
    · rintro ⟨hfirst, hleast⟩
      -- the head and a least element are below each other
      have ha : a ∈ b :: rest := (List.mem_filter.mp (List.mem_of_mem_head? hfirst)).1
      have hle : (cmp a b).isLE := hleast b ((hmem b).mpr List.mem_cons_self)
      have hge : (cmp b a).isLE := isLE_of_mem_cons hpairwise ha
      have htie : ties cmp a b = true :=
        Ordering.isEq_iff_eq_eq.mpr (Std.OrientedCmp.isLE_antisymm hle hge)
      rwa [List.filter_cons_of_pos htie, List.head?_cons] at hfirst

/-- A least element of one list is one of another, if elements of the same ties are found in
both. -/
lemma forall_isLE_of_find?_eq (h : ∀ a, l.find? (ties cmp a) = l'.find? (ties cmp a)) {a : α}
    (ha : ∀ b ∈ l, (cmp a b).isLE) : ∀ b ∈ l', (cmp a b).isLE := by
  intro b hb
  have hsome : (l'.find? (ties cmp b)).isSome := by
    rw [List.find?_isSome]
    exact ⟨b, hb, ties_self b⟩
  obtain ⟨x, hx⟩ := Option.isSome_iff_exists.mp hsome
  rw [← h b] at hx
  have htie : ties cmp b x = true := List.find?_some hx
  have hle : (cmp a x).isLE := ha x (List.mem_of_find?_eq_some hx)
  rwa [Std.TransCmp.congr_right (Ordering.isEq_iff_eq_eq.mp htie)]

/-- How a sorted list begins depends on the first element of each tie only. -/
theorem head?_sortBy_congr (h : ∀ a, l.find? (ties cmp a) = l'.find? (ties cmp a)) :
    (sortBy cmp l).head? = (sortBy cmp l').head? := by
  apply Option.ext
  intro a
  have hleast : (∀ b ∈ l, (cmp a b).isLE) ↔ ∀ b ∈ l', (cmp a b).isLE :=
    ⟨forall_isLE_of_find?_eq h, forall_isLE_of_find?_eq fun x => (h x).symm⟩
  rw [head?_sortBy_eq_some_iff, head?_sortBy_eq_some_iff, h a, hleast]

end Ties

/-! ## Sorting by a key -/

/-- Comparing paired keys inserts like comparing the keys of the elements. -/
lemma insertBy_map_key [Ord κ] (key : α → κ) (a : α) (l : List α) :
    insertBy (fun p q : κ × α => compare p.1 q.1) (key a, a) (l.map fun b => (key b, b)) =
      (insertBy (compareOn key) a l).map fun b => (key b, b) := by
  induction l with
  | nil => rfl
  | cons b rest ih =>
    by_cases h : (compare (key a) (key b)).isLE
    · simp [insertBy, compareOn, h]
    · simp [insertBy, compareOn, h] at ih ⊢
      exact ih

/-- `sortOn` sorts by the order of keys. -/
theorem sortOn_eq_sortBy [Ord κ] (key : α → κ) (l : List α) :
    sortOn key l = sortBy (compareOn key) l := by
  have h : sortBy (fun p q : κ × α => compare p.1 q.1) (l.map fun a => (key a, a)) =
      (sortBy (compareOn key) l).map fun a => (key a, a) := by
    induction l with
    | nil => rfl
    | cons a rest ih => rw [List.map_cons, sortBy, ih, insertBy_map_key, sortBy]
  rw [sortOn, h, List.map_map]
  exact List.map_id _

lemma sortOn_perm [Ord κ] (key : α → κ) (l : List α) : (sortOn key l).Perm l := by
  rw [sortOn_eq_sortBy]
  exact sortBy_perm (compareOn key) l

/-- A list that is sorted by a key comes by increasing keys. -/
theorem pairwise_sortOn [Ord κ] [Std.TransOrd κ] (key : α → κ) (l : List α) :
    (sortOn key l).Pairwise fun a b => (compare (key a) (key b)).isLE := by
  rw [sortOn_eq_sortBy]
  have hsorted : (sortBy (compareOn key) l).Pairwise fun a b => (compareOn key a b).isLE :=
    pairwise_sortBy l
  exact hsorted

lemma sortOn_filter [Ord κ] [Std.TransOrd κ] (key : α → κ) (test : α → Bool) (l : List α) :
    sortOn key (l.filter test) = (sortOn key l).filter test := by
  rw [sortOn_eq_sortBy, sortOn_eq_sortBy, sortBy_filter]

/-! ## Functions that keep comparisons -/

/-- Sorting commutes with a function that keeps comparisons. -/
lemma map_sortBy {cmp : α → α → Ordering} {cmp' : β → β → Ordering} {f : α → β}
    (h : ∀ a b, cmp' (f a) (f b) = cmp a b) (l : List α) :
    (sortBy cmp l).map f = sortBy cmp' (l.map f) := by
  have hins : ∀ a l, (insertBy cmp a l).map f = insertBy cmp' (f a) (l.map f) := by
    intro a l
    induction l with
    | nil => rfl
    | cons b rest ih =>
      by_cases hab : (cmp a b).isLE
      · simp [insertBy, h, hab]
      · simp [insertBy, h, hab, ih]
  induction l with
  | nil => rfl
  | cons a rest ih => rw [sortBy, hins, ih, List.map_cons, sortBy]

/-- Dropping repetitions commutes with a function that keeps equality. -/
lemma map_dropRepeats [BEq α] [BEq β] {f : α → β} (h : ∀ a b, (f a == f b) = (a == b))
    (l : List α) : (dropRepeats l).map f = dropRepeats (l.map f) := by
  have hafter : ∀ (kept : α) (l : List α),
      (dropRepeatsAfter kept l).map f = dropRepeatsAfter (f kept) (l.map f) := by
    intro kept l
    induction l generalizing kept with
    | nil => rfl
    | cons b rest ih =>
      by_cases hb : kept == b
      · simp [dropRepeatsAfter, h, hb, ih]
      · simp [dropRepeatsAfter, h, hb, ih]
  cases l with
  | nil => rfl
  | cons a rest => rw [dropRepeats, List.map_cons, hafter, List.map_cons, dropRepeats]

lemma find?_filter_and (p q : α → Bool) (l : List α) :
    (l.filter p).find? q = l.find? fun a => p a && q a := by
  simp [List.find?_filter]

/-! ## What is left without repetitions -/

section Repetitions

variable [BEq α]

/-- What passes a test that does not tell equal elements apart is found without repetitions just as
it is with them. -/
lemma find?_dropRepeats {test : α → Bool} (h : ∀ a b, (a == b) = true → test a = test b)
    (l : List α) : (dropRepeats l).find? test = l.find? test := by
  -- repetitions of what fails the test fail it too
  have hafter : ∀ (kept : α) (l : List α), test kept = false →
      (dropRepeatsAfter kept l).find? test = l.find? test := by
    intro kept l hkept
    induction l generalizing kept with
    | nil => rfl
    | cons b rest ih =>
      rw [dropRepeatsAfter]
      by_cases hb : (kept == b) = true
      · have hbtest : test b = false := (h kept b hb).symm.trans hkept
        rw [if_pos hb, List.find?_cons_of_neg (by simp [hbtest])]
        exact ih kept hkept
      · rw [if_neg hb, List.find?_cons, List.find?_cons]
        cases hbtest : test b with
        | true => rfl
        | false => exact ih b hbtest
  cases l with
  | nil => rfl
  | cons a rest =>
    rw [dropRepeats, List.find?_cons, List.find?_cons]
    cases ha : test a with
    | true => rfl
    | false => exact hafter a rest ha

/-- What is kept after an element is in the list. -/
lemma mem_of_mem_dropRepeatsAfter {kept a : α} {l : List α} (h : a ∈ dropRepeatsAfter kept l) :
    a ∈ l := by
  induction l generalizing kept with
  | nil => cases h
  | cons b rest ih =>
    rw [dropRepeatsAfter] at h
    split at h
    · exact List.mem_cons_of_mem b (ih h)
    · rcases List.mem_cons.mp h with rfl | h
      · exact List.mem_cons_self
      · exact List.mem_cons_of_mem b (ih h)

/-- Dropping repetitions invents no elements. -/
lemma mem_of_mem_dropRepeats {a : α} {l : List α} (h : a ∈ dropRepeats l) : a ∈ l := by
  cases l with
  | nil => cases h
  | cons b rest =>
    rcases List.mem_cons.mp h with rfl | h
    · exact List.mem_cons_self
    · exact List.mem_cons_of_mem b (mem_of_mem_dropRepeatsAfter h)

/-- What is kept after an element comes in the order of the list. -/
lemma dropRepeatsAfter_sublist (kept : α) (l : List α) : (dropRepeatsAfter kept l).Sublist l := by
  induction l generalizing kept with
  | nil => exact List.Sublist.refl _
  | cons b rest ih =>
    rw [dropRepeatsAfter]
    split
    · exact (ih kept).cons b
    · exact (ih b).cons_cons b

/-- Dropping repetitions keeps the order. -/
lemma dropRepeats_sublist (l : List α) : (dropRepeats l).Sublist l := by
  cases l with
  | nil => exact List.Sublist.refl _
  | cons a rest => exact (dropRepeatsAfter_sublist a rest).cons_cons a

/-- Where nothing is repeated, nothing is dropped. -/
lemma dropRepeats_eq_self {l : List α} (h : l.Pairwise fun a b => (a == b) = false) :
    dropRepeats l = l := by
  have hafter : ∀ (kept : α) (l : List α), ((kept :: l).Pairwise fun a b => (a == b) = false) →
      dropRepeatsAfter kept l = l := by
    intro kept l h
    induction l generalizing kept with
    | nil => rfl
    | cons b rest ih =>
      obtain ⟨hkept, hrest⟩ := List.pairwise_cons.mp h
      rw [dropRepeatsAfter, hkept b List.mem_cons_self, if_neg Bool.false_ne_true, ih b hrest]
  cases l with
  | nil => rfl
  | cons a rest => rw [dropRepeats, hafter a rest h]

/-- An element after a kept one equals that one or another that is kept. -/
lemma exists_mem_dropRepeatsAfter [ReflBEq α] (kept : α) {a : α} {l : List α} (h : a ∈ l) :
    ∃ b ∈ kept :: dropRepeatsAfter kept l, (b == a) = true := by
  induction l generalizing kept with
  | nil => cases h
  | cons b rest ih =>
    rw [dropRepeatsAfter]
    by_cases hb : kept == b
    · rw [if_pos hb]
      rcases List.mem_cons.mp h with rfl | h
      · exact ⟨kept, List.mem_cons_self, hb⟩
      · exact ih kept h
    · rw [if_neg hb]
      rcases List.mem_cons.mp h with rfl | h
      · exact ⟨a, List.mem_cons_of_mem kept List.mem_cons_self, ReflBEq.rfl⟩
      · obtain ⟨x, hx, hxa⟩ := ih b h
        exact ⟨x, List.mem_cons_of_mem kept hx, hxa⟩

/-- Every element equals one that is kept. -/
lemma exists_mem_dropRepeats [ReflBEq α] {a : α} {l : List α} (h : a ∈ l) :
    ∃ b ∈ dropRepeats l, (b == a) = true := by
  cases l with
  | nil => cases h
  | cons b rest =>
    rcases List.mem_cons.mp h with rfl | h
    · exact ⟨a, List.mem_cons_self, ReflBEq.rfl⟩
    · exact exists_mem_dropRepeatsAfter b h

/-- Where equality is literal, the same elements are left without repetitions. -/
lemma mem_dropRepeats_iff [LawfulBEq α] {a : α} {l : List α} : a ∈ dropRepeats l ↔ a ∈ l := by
  refine ⟨mem_of_mem_dropRepeats, fun h => ?_⟩
  obtain ⟨b, hb, hba⟩ := exists_mem_dropRepeats h
  rwa [← eq_of_beq hba]

variable [LawfulBEq α] {cmp : α → α → Ordering} [Std.TransCmp cmp] [Std.LawfulEqCmp cmp]

/-- What is kept of a sorted list after an element is strictly increasing. -/
lemma pairwise_dropRepeatsAfter {kept : α} {l : List α}
    (h : (kept :: l).Pairwise fun x y => (cmp x y).isLE) :
    (kept :: dropRepeatsAfter kept l).Pairwise fun x y => cmp x y = .lt := by
  induction l generalizing kept with
  | nil => exact List.pairwise_singleton _ kept
  | cons b rest ih =>
    obtain ⟨hkept, hrest⟩ := List.pairwise_cons.mp h
    rw [dropRepeatsAfter]
    by_cases hb : kept == b
    · rw [if_pos hb]
      rw [← eq_of_beq hb] at hrest
      exact ih hrest
    · rw [if_neg hb]
      -- what ties with a kept element equals it, and would be dropped
      have hlt : cmp kept b = .lt := by
        have hle := hkept b List.mem_cons_self
        cases hc : cmp kept b with
        | lt => rfl
        | eq => exact absurd (beq_iff_eq.mpr (Std.LawfulEqCmp.eq_of_compare hc)) hb
        | gt => simp [hc] at hle
      have htail := ih hrest
      refine List.pairwise_cons.mpr ⟨fun x hx => ?_, htail⟩
      rcases List.mem_cons.mp hx with rfl | hx
      · exact hlt
      · exact Std.TransCmp.lt_trans hlt ((List.pairwise_cons.mp htail).1 x hx)

/-- A sorted list without repetitions is strictly increasing. -/
theorem pairwise_dropRepeats {l : List α} (h : l.Pairwise fun x y => (cmp x y).isLE) :
    (dropRepeats l).Pairwise fun x y => cmp x y = .lt := by
  cases l with
  | nil => exact List.Pairwise.nil
  | cons a rest => exact pairwise_dropRepeatsAfter h

/-- Sorted and without repetitions, lists of the same elements are equal. -/
theorem dropRepeats_sortBy_eq {l l' : List α} (h : ∀ a, a ∈ l ↔ a ∈ l') :
    dropRepeats (sortBy cmp l) = dropRepeats (sortBy cmp l') := by
  have hstrict : ∀ k : List α, (dropRepeats (sortBy cmp k)).Pairwise fun x y => cmp x y = .lt :=
    fun k => pairwise_dropRepeats (pairwise_sortBy k)
  -- sorting makes repetitions neighbours, so none is left
  have hnodup : ∀ k : List α, (dropRepeats (sortBy cmp k)).Nodup := by
    intro k
    refine (hstrict k).imp fun {x y} hlt heq => ?_
    have hself : cmp y y = .eq := Std.ReflCmp.compare_self
    rw [heq, hself] at hlt
    cases hlt
  have hsorted : ∀ k : List α, sortBy cmp (dropRepeats (sortBy cmp k)) =
      dropRepeats (sortBy cmp k) :=
    fun k => sortBy_eq_self ((hstrict k).imp fun hlt => by simp [hlt])
  have hperm : (dropRepeats (sortBy cmp l)).Perm (dropRepeats (sortBy cmp l')) := by
    rw [List.perm_ext_iff_of_nodup (hnodup l) (hnodup l')]
    intro a
    rw [mem_dropRepeats_iff, mem_dropRepeats_iff, mem_sortBy, mem_sortBy, h a]
  rw [← hsorted l, ← hsorted l', sortBy_eq_of_perm hperm]

end Repetitions

end RestFlow

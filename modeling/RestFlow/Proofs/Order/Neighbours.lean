import RestFlow.Proofs.Order.Sorting

/-!
# One more element in a sorted list

An element that is added to a list goes to a place of its own in the sorted list, and the rest of
the list is cut there: of the elements that tie with it, those that came before it are on one side,
and those that came after it on the other (`exists_sortBy_append_cons`). If repetitions are dropped
afterwards, the element makes no difference exactly if it has come to stand beside one that it
repeats (`dropRepeats_append_cons_eq_iff`): after an equal element, or before itself. Selecting and
sorting do not part such neighbours, which is what `Echoes` is for.
-/

namespace RestFlow

variable {α : Type}

/-! ## The place of an element -/

section Place

variable {cmp : α → α → Ordering}

/-- An element is put after the smaller ones. -/
lemma exists_insertBy_eq (cmp : α → α → Ordering) (a : α) (l : List α) :
    ∃ front back, l = front ++ back ∧ insertBy cmp a l = front ++ a :: back ∧
      ∀ x ∈ front, ¬(cmp a x).isLE := by
  induction l with
  | nil => exact ⟨[], [], rfl, rfl, fun _ hx => nomatch hx⟩
  | cons b rest ih =>
    by_cases hab : (cmp a b).isLE
    · exact ⟨[], b :: rest, rfl, if_pos hab, fun _ hx => nomatch hx⟩
    · obtain ⟨front, back, hrest, hinsert, hfront⟩ := ih
      refine ⟨b :: front, back, congrArg (b :: ·) hrest, ?_, List.forall_mem_cons.mpr ⟨hab, hfront⟩⟩
      rw [insertBy, if_neg hab, hinsert, List.cons_append]

/-- An element is put behind everything that is smaller. -/
lemma insertBy_append_of_forall_not_isLE {a : α} {front : List α}
    (h : ∀ x ∈ front, ¬(cmp a x).isLE) (back : List α) :
    insertBy cmp a (front ++ back) = front ++ insertBy cmp a back := by
  induction front with
  | nil => rfl
  | cons x front ih =>
    obtain ⟨hx, hfront⟩ := List.forall_mem_cons.mp h
    rw [List.cons_append, insertBy, if_neg hx, ih hfront, List.cons_append]

/-- An element is put before everything that is not smaller. -/
lemma insertBy_append_of_forall_isLE {a : α} {back : List α} (h : ∀ x ∈ back, (cmp a x).isLE)
    (front : List α) : insertBy cmp a (front ++ back) = insertBy cmp a front ++ back := by
  induction front with
  | nil =>
    cases back with
    | nil => rfl
    | cons b back => exact if_pos (h b List.mem_cons_self)
  | cons x front ih =>
    by_cases hx : (cmp a x).isLE
    · rw [List.cons_append, insertBy, insertBy, if_pos hx, if_pos hx]
      rfl
    · rw [List.cons_append, insertBy, insertBy, if_neg hx, if_neg hx, ih, List.cons_append]

variable [Std.TransCmp cmp]

/-- The place of an added element in a sorted list: the elements that tie with it are before or
after it as they came. -/
theorem exists_sortBy_append_cons (cmp : α → α → Ordering) [Std.TransCmp cmp] (r : α)
    (earlier later : List α) :
    ∃ front back, sortBy cmp (earlier ++ later) = front ++ back ∧
      sortBy cmp (earlier ++ r :: later) = front ++ r :: back ∧
      front.filter (ties cmp r) = earlier.filter (ties cmp r) ∧
      back.filter (ties cmp r) = later.filter (ties cmp r) := by
  induction earlier with
  | nil =>
    obtain ⟨front, back, hlater, hinsert, hfront⟩ := exists_insertBy_eq cmp r (sortBy cmp later)
    -- elements that tie with the added one go behind it
    have hnone : front.filter (ties cmp r) = [] := by
      rw [List.filter_eq_nil_iff]
      intro x hx htie
      have heq : cmp r x = .eq := Ordering.isEq_iff_eq_eq.mp htie
      exact hfront x hx (by simp [heq])
    refine ⟨front, back, hlater, hinsert, hnone, ?_⟩
    rw [← filter_sortBy compare_eq_of_ties later, hlater, List.filter_append, hnone, List.nil_append]
  | cons x rest ih =>
    obtain ⟨front, back, hwithout, hwith, hfront, hback⟩ := ih
    have hsorted : (front ++ r :: back).Pairwise fun a b => (cmp a b).isLE :=
      hwith ▸ pairwise_sortBy (rest ++ r :: later)
    obtain ⟨-, hrback, hle⟩ := List.pairwise_append.mp hsorted
    rw [List.cons_append, List.cons_append, sortBy, sortBy, hwithout, hwith]
    by_cases hxr : (cmp x r).isLE
    · -- the element goes before the added one
      have hxback : ∀ y ∈ r :: back, (cmp x y).isLE := fun y hy =>
        Std.TransCmp.isLE_trans hxr (isLE_of_mem_cons hrback hy)
      refine ⟨insertBy cmp x front, back, ?_, ?_, ?_, hback⟩
      · exact insertBy_append_of_forall_isLE (List.forall_mem_cons.mp hxback).2 front
      · exact insertBy_append_of_forall_isLE hxback front
      · rw [filter_insertBy compare_eq_of_ties, List.filter_cons, List.filter_cons, hfront]
    · -- the element goes after the added one, with which it does not tie
      have hxfront : ∀ y ∈ front, ¬(cmp x y).isLE := fun y hy hxy =>
        hxr (Std.TransCmp.isLE_trans hxy (hle y hy r List.mem_cons_self))
      have hties : ¬ties cmp r x = true := by
        intro htie
        have heq : cmp x r = .eq := Std.OrientedCmp.eq_symm (Ordering.isEq_iff_eq_eq.mp htie)
        exact hxr (by simp [heq])
      refine ⟨front, insertBy cmp x back, ?_, ?_, ?_, ?_⟩
      · exact insertBy_append_of_forall_not_isLE hxfront back
      · rw [insertBy_append_of_forall_not_isLE hxfront, insertBy, if_neg hxr]
      · rw [hfront, List.filter_cons_of_neg hties]
      · rw [filter_insertBy compare_eq_of_ties, List.filter_cons_of_neg hties, hback]

/-- In a sorted list, the last element that ties with a greatest one is the last of all. -/
lemma getLast?_eq_of_getLast?_filter_ties {a r : α} {front : List α}
    (hsorted : front.Pairwise fun x y => (cmp x y).isLE) (hle : ∀ x ∈ front, (cmp x r).isLE)
    (h : (front.filter (ties cmp r)).getLast? = some a) : front.getLast? = some a := by
  obtain ⟨hmem, htie⟩ := List.mem_filter.mp (List.mem_of_getLast? h)
  obtain ⟨x, hx⟩ := Option.isSome_iff_exists.mp
    (List.getLast?_isSome.mpr (List.ne_nil_of_mem hmem))
  obtain ⟨init, rfl⟩ := List.getLast?_eq_some_iff.mp hx
  have hra : (cmp r a).isLE := by
    rw [Ordering.isEq_iff_eq_eq.mp htie]
    rfl
  have hax : (cmp a x).isLE := by
    rcases List.mem_append.mp hmem with ha | ha
    · exact (List.pairwise_append.mp hsorted).2.2 a ha x (List.mem_singleton_self x)
    · rw [List.mem_singleton.mp ha]
      simp [Std.ReflCmp.compare_self]
  have hrx : ties cmp r x = true := by
    have hxr := hle x (List.mem_append_right init (List.mem_singleton_self x))
    have hrx := Std.TransCmp.isLE_trans hra hax
    exact Ordering.isEq_iff_eq_eq.mpr (Std.OrientedCmp.isLE_antisymm hrx hxr)
  rw [List.filter_append, List.filter_cons_of_pos hrx, List.filter_nil, List.getLast?_concat] at h
  rw [List.getLast?_concat, h]

/-- In a sorted list, the first element that ties with a least one is the first of all. -/
lemma head?_eq_of_head?_filter_ties {a r : α} {back : List α}
    (hsorted : back.Pairwise fun x y => (cmp x y).isLE) (hle : ∀ x ∈ back, (cmp r x).isLE)
    (h : (back.filter (ties cmp r)).head? = some a) : back.head? = some a := by
  obtain ⟨hmem, htie⟩ := List.mem_filter.mp (List.mem_of_mem_head? h)
  cases back with
  | nil => cases hmem
  | cons x rest =>
    have har : (cmp a r).isLE := by
      rw [Std.OrientedCmp.eq_symm (Ordering.isEq_iff_eq_eq.mp htie)]
      rfl
    have hxr : (cmp x r).isLE := Std.TransCmp.isLE_trans (isLE_of_mem_cons hsorted hmem) har
    have hrx : ties cmp r x = true :=
      Ordering.isEq_iff_eq_eq.mpr (Std.OrientedCmp.isLE_antisymm (hle x List.mem_cons_self) hxr)
    rwa [List.filter_cons_of_pos hrx] at h

end Place

/-! ## Neighbours -/

section Neighbours

variable [BEq α] {r : α} {front back : List α}

/-- An element between two lists stands beside one that it repeats: after an equal one, or before
itself. -/
def StandsBeside (r : α) (front back : List α) : Prop :=
  (∃ a ∈ front.getLast?, (a == r) = true) ∨ back.head? = some r

/-- A selection does not part an element from the one that it stands beside. -/
lemma StandsBeside.filter {test : α → Bool} (htest : ∀ a b, (a == b) = true → test a = test b)
    (hr : test r = true) (h : StandsBeside r front back) :
    StandsBeside r (front.filter test) (back.filter test) := by
  rcases h with ⟨a, ha, har⟩ | hback
  · obtain ⟨init, rfl⟩ := List.getLast?_eq_some_iff.mp ha
    refine .inl ⟨a, ?_, har⟩
    rw [List.filter_append, List.filter_cons_of_pos ((htest a r har).trans hr), List.filter_nil]
    exact List.getLast?_concat
  · obtain ⟨rest, rfl⟩ := List.head?_eq_some_iff.mp hback
    rw [List.filter_cons_of_pos hr]
    exact .inr rfl

/-- The second list is the first one with one more element, which stands beside one that it repeats,
or it is the first one. -/
inductive Echoes : List α → List α → Prop where
  | refl (l : List α) : Echoes l l
  | insert {r : α} {front back : List α} (h : StandsBeside r front back) :
    Echoes (front ++ back) (front ++ r :: back)

/-- A selection from a list with an echo has this echo or none. -/
lemma Echoes.filter {l l' : List α} {test : α → Bool}
    (htest : ∀ a b, (a == b) = true → test a = test b) (h : Echoes l l') :
    Echoes (l.filter test) (l'.filter test) := by
  cases h with
  | refl => exact .refl _
  | @insert r front back h =>
    rw [List.filter_append, List.filter_append, List.filter_cons]
    by_cases hr : test r = true
    · rw [if_pos hr]
      exact .insert (h.filter htest hr)
    · rw [if_neg hr]
      exact .refl _

variable {cmp : α → α → Ordering} [Std.TransCmp cmp]

/-- An element that came next to one that it repeats, among those that tie with it, stands beside it
in the sorted list. -/
theorem echoes_sortBy {earlier later : List α}
    (h : StandsBeside r (earlier.filter (ties cmp r)) (later.filter (ties cmp r))) :
    Echoes (sortBy cmp (earlier ++ later)) (sortBy cmp (earlier ++ r :: later)) := by
  obtain ⟨front, back, hwithout, hwith, hfront, hback⟩ :=
    exists_sortBy_append_cons cmp r earlier later
  have hsorted : (front ++ r :: back).Pairwise fun a b => (cmp a b).isLE :=
    hwith ▸ pairwise_sortBy (earlier ++ r :: later)
  obtain ⟨hsortedFront, hsortedBack, hle⟩ := List.pairwise_append.mp hsorted
  obtain ⟨hrback, hsortedBack⟩ := List.pairwise_cons.mp hsortedBack
  rw [hwithout, hwith]
  rw [← hfront, ← hback] at h
  refine .insert ?_
  rcases h with ⟨a, ha, har⟩ | h
  · have hlast := getLast?_eq_of_getLast?_filter_ties hsortedFront
      (fun x hx => hle x hx r List.mem_cons_self) ha
    exact .inl ⟨a, hlast, har⟩
  · exact .inr (head?_eq_of_head?_filter_ties hsortedBack hrback h)

/-- Sorting does not part an echo from what it repeats. -/
lemma Echoes.sortBy (hcmp : ∀ a b, (a == b) = true → cmp a b = .eq) {l l' : List α}
    (h : Echoes l l') : Echoes (sortBy cmp l) (RestFlow.sortBy cmp l') := by
  cases h with
  | refl => exact .refl _
  | @insert r front back h =>
    refine echoes_sortBy (h.filter (fun a b hab => ?_) (ties_self r))
    rw [ties, ties, Std.TransCmp.congr_right (hcmp a b hab)]

/-! ## Repetitions -/

variable [EquivBEq α]

/-- What is kept after an element is kept after an equal one. -/
lemma dropRepeatsAfter_congr {a b : α} (h : (a == b) = true) (l : List α) :
    dropRepeatsAfter a l = dropRepeatsAfter b l := by
  induction l with
  | nil => rfl
  | cons x rest ih => rw [dropRepeatsAfter, dropRepeatsAfter, BEq.congr_left h, ih]

/-- After an element of the list, repetitions are dropped as they are after this element alone. -/
lemma dropRepeatsAfter_append_cons (kept : α) (front : List α) (a : α) (l : List α) :
    dropRepeatsAfter kept (front ++ a :: l) =
      dropRepeatsAfter kept (front ++ [a]) ++ dropRepeatsAfter a l := by
  induction front generalizing kept with
  | nil =>
    rw [List.nil_append, List.nil_append, dropRepeatsAfter, dropRepeatsAfter, dropRepeatsAfter]
    by_cases h : (kept == a) = true
    · rw [if_pos h, if_pos h, dropRepeatsAfter_congr h]
      rfl
    · rw [if_neg h, if_neg h]
      rfl
  | cons x front ih =>
    rw [List.cons_append, List.cons_append, dropRepeatsAfter, dropRepeatsAfter]
    by_cases h : (kept == x) = true
    · rw [if_pos h, if_pos h, ih kept]
    · rw [if_neg h, if_neg h, ih x, List.cons_append]

/-- A list without repetitions may be cut after any of its elements. -/
lemma dropRepeats_append_cons (front : List α) (a : α) (l : List α) :
    dropRepeats (front ++ a :: l) = dropRepeats (front ++ [a]) ++ dropRepeatsAfter a l := by
  cases front with
  | nil => rfl
  | cons x front =>
    rw [List.cons_append, List.cons_append, dropRepeats, dropRepeats, dropRepeatsAfter_append_cons,
      List.cons_append]

/-- One more element after a kept one makes no difference exactly if it repeats that one, or stands
before itself. -/
lemma dropRepeatsAfter_cons_eq_iff {a : α} :
    dropRepeatsAfter a (r :: back) = dropRepeatsAfter a back ↔
      (a == r) = true ∨ back.head? = some r := by
  rw [dropRepeatsAfter]
  by_cases har : (a == r) = true
  · simp [har]
  rw [if_neg har, or_iff_right har]
  cases back with
  | nil => simp [dropRepeatsAfter]
  | cons x rest =>
    rw [List.head?_cons, Option.some_inj, dropRepeatsAfter, dropRepeatsAfter]
    by_cases hax : (a == x) = true
    · -- the added element would stand between two repetitions, both of which are kept then
      have hrx : ¬(r == x) = true := fun hrx => har (BEq.trans hax (BEq.symm hrx))
      rw [if_pos hax, if_neg hrx, dropRepeatsAfter_congr hax]
      constructor
      · intro h
        have hlength := congrArg List.length h
        rw [List.length_cons, List.length_cons] at hlength
        omega
      · rintro rfl
        exact absurd hax har
    · rw [if_neg hax]
      constructor
      · intro h
        exact (List.cons.inj h).1.symm
      · rintro rfl
        rw [if_pos BEq.rfl]

/-- One more element makes no difference to a list without repetitions exactly if it stands beside
one that it repeats. -/
theorem dropRepeats_append_cons_eq_iff :
    dropRepeats (front ++ r :: back) = dropRepeats (front ++ back) ↔ StandsBeside r front back := by
  rcases List.eq_nil_or_concat front with rfl | ⟨init, a, rfl⟩
  · have hnone : ¬∃ a ∈ ([] : List α).getLast?, (a == r) = true := by simp
    rw [StandsBeside, or_iff_right hnone, List.nil_append, List.nil_append]
    cases back with
    | nil => simp [dropRepeats]
    | cons x rest =>
      rw [List.head?_cons, Option.some_inj, dropRepeats, dropRepeats]
      constructor
      · intro h
        exact (List.cons.inj h).1.symm
      · rintro rfl
        rw [dropRepeatsAfter, if_pos BEq.rfl]
  · rw [List.concat_eq_append, List.append_assoc, List.append_assoc, List.singleton_append,
      List.singleton_append, dropRepeats_append_cons, dropRepeats_append_cons init a back,
      List.append_cancel_left_eq, dropRepeatsAfter_cons_eq_iff, StandsBeside, List.getLast?_concat]
    simp

/-- Without repetitions there are no echoes. -/
lemma Echoes.dropRepeats_eq {l l' : List α} (h : Echoes l l') :
    dropRepeats l' = dropRepeats l := by
  cases h with
  | refl => rfl
  | insert h => exact dropRepeats_append_cons_eq_iff.mpr h

end Neighbours

end RestFlow

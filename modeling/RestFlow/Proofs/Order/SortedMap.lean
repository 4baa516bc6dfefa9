import Mathlib.Data.List.Forall2
import Mathlib.Data.List.Perm.Basic
import Mathlib.Tactic.Lemma
import RestFlow.Order.SortedMap

/-!
# Equality of lists and sorted maps

Equality that is weaker than sameness, of lists and of sorted maps with such values.
-/

/-!
## Equality of lists, and equality that keys decide

Requests, constraints and JSON values have an equality of their own, which does not tell all of them
apart.  Lists of such elements are equal when they are element by element (`beq_of_forall₂`,
`forall₂_of_beq`).  Where equality means that two keys are the same, it is an equivalence
(`equivBEq_of_key`), and lists are equal when the lists of their keys are the same
(`list_beq_iff_map_eq`).
-/

namespace RestFlow

variable {α β : Type} [BEq α]

/-- Lists are equal when they are element by element. -/
lemma beq_of_forall₂ {l l' : List α} (h : List.Forall₂ (fun a b => (a == b) = true) l l') :
    (l == l') = true := by
  induction h with
  | nil => rfl
  | cons hab _ ih =>
    rw [List.cons_beq_cons, hab, ih]
    rfl

/-- Lists are equal only if they are element by element. -/
lemma forall₂_of_beq {l l' : List α} (h : (l == l') = true) :
    List.Forall₂ (fun a b => (a == b) = true) l l' := by
  induction l generalizing l' with
  | nil =>
    cases l' with
    | nil => exact .nil
    | cons b rest' => cases h
  | cons a rest ih =>
    cases l' with
    | nil => cases h
    | cons b rest' =>
      rw [List.cons_beq_cons, Bool.and_eq_true] at h
      exact .cons h.1 (ih h.2)

/-- Equal lists are the same if equality of their elements is literal. -/
lemma eq_of_beq_of_mem {l l' : List α} (h : (l == l') = true)
    (heq : ∀ a ∈ l, ∀ b ∈ l', (a == b) = true → a = b) : l = l' := by
  have hforall := forall₂_of_beq h
  clear h
  induction hforall with
  | nil => rfl
  | cons hab _ ih =>
    rw [heq _ List.mem_cons_self _ List.mem_cons_self hab,
      ih fun a ha b hb => heq a (List.mem_cons_of_mem _ ha) b (List.mem_cons_of_mem _ hb)]

section Keys

variable {key : α → β} (h : ∀ a b, (a == b) = true ↔ key a = key b)

include h

/-- If equality is decided by keys, it is an equivalence. -/
lemma equivBEq_of_key : EquivBEq α where
  rfl := (h _ _).mpr rfl
  symm hab := (h _ _).mpr ((h _ _).mp hab).symm
  trans hab hbc := (h _ _).mpr (((h _ _).mp hab).trans ((h _ _).mp hbc))

/-- If equality is decided by keys, elements are equal one by one when their keys are. -/
lemma forall₂_beq_iff_map_eq {l l' : List α} :
    List.Forall₂ (fun a b => (a == b) = true) l l' ↔ l.map key = l'.map key := by
  simp only [h]
  rw [← List.forall₂_eq_eq_eq, List.forall₂_map_left_iff, List.forall₂_map_right_iff]

/-- If equality is decided by keys, lists are equal when their keys are. -/
lemma list_beq_iff_map_eq {l l' : List α} : (l == l') = true ↔ l.map key = l'.map key :=
  ⟨fun hbeq => (forall₂_beq_iff_map_eq h).mp (forall₂_of_beq hbeq),
    fun hkeys => beq_of_forall₂ ((forall₂_beq_iff_map_eq h).mpr hkeys)⟩

end Keys

end RestFlow

/-!
## Look-ups in sorted maps

What a map answers (`mem_entries_iff`), that it is nothing else (`ext_get?`), and what it answers
after an insertion (`get?_insert`, `contains_insert`).  A map of lists gains one value when it is
appended to one of them (`get?_append`, `values_append_perm`), and where every list holds the values
of its key, what belongs to a key is found in its list, in the same order
(`filter_flatten_values`).

Equality of maps is equality of their entries, so it is decided by keys if equality of values is
(`beq_iff_mapValues_eq`).
-/

namespace RestFlow.SortedMap

variable {α β : Type}

/-- The first entry answers for its own key. -/
lemma lookup_cons_eq_ite (key : String) (e : String × α) (l : List (String × α)) :
    (e :: l).lookup key = if key = e.1 then some e.2 else l.lookup key := by
  rw [List.lookup_cons]
  by_cases h : key = e.1
  · rw [if_pos h, beq_iff_eq.mpr h]
  · rw [if_neg h, beq_eq_false_iff_ne.mpr h]

/-- Looking up a key in entries to which one was added. -/
lemma lookup_insertEntry (key : String) (value : α) (other : String) (l : List (String × α)) :
    (insertEntry key value l).lookup other =
      if other = key then some value else l.lookup other := by
  induction l with
  | nil => rw [insertEntry, lookup_cons_eq_ite]
  | cons e rest ih =>
    by_cases hlt : key < e.1
    · rw [insertEntry, if_pos hlt, lookup_cons_eq_ite]
    · by_cases heq : key = e.1
      · rw [insertEntry, if_neg hlt, if_pos heq, lookup_cons_eq_ite, lookup_cons_eq_ite, ← heq]
        by_cases h : other = key
        · rw [if_pos h, if_pos h]
        · rw [if_neg h, if_neg h, if_neg h]
      · rw [insertEntry, if_neg hlt, if_neg heq, lookup_cons_eq_ite, lookup_cons_eq_ite, ih]
        by_cases h : other = e.1
        · rw [if_pos h, if_pos h, if_neg (h ▸ Ne.symm heq)]
        · rw [if_neg h, if_neg h]

/-- An insertion changes the answer for its own key only. -/
theorem get?_insert (m : SortedMap α) (key : String) (value : α) (other : String) :
    (m.insert key value).get? other = if other = key then some value else m.get? other :=
  lookup_insertEntry key value other m.entries

/-- After an insertion the map has the new key and all the old ones. -/
lemma contains_insert (m : SortedMap α) (key : String) (value : α) (other : String) :
    (m.insert key value).contains other = (decide (other = key) || m.contains other) := by
  rw [contains, get?_insert]
  by_cases h : other = key <;> simp [h, contains]

/-- An entry answers for its key. -/
lemma lookup_eq_some_of_mem {e : String × α} {l : List (String × α)}
    (h : l.Pairwise fun a b => a.1 < b.1) (he : e ∈ l) : l.lookup e.1 = some e.2 := by
  induction l with
  | nil => cases he
  | cons d rest ih =>
    obtain ⟨hd, hrest⟩ := List.pairwise_cons.mp h
    rw [lookup_cons_eq_ite]
    rcases List.mem_cons.mp he with rfl | he
    · rw [if_pos rfl]
    · rw [if_neg (Std.ne_of_lt (hd e he)).symm, ih hrest he]

/-- The entries of a map are what it answers. -/
lemma mem_entries_iff (m : SortedMap α) {key : String} {value : α} :
    (key, value) ∈ m.entries ↔ m.get? key = some value := by
  refine ⟨lookup_eq_some_of_mem m.increasing, fun h => ?_⟩
  obtain ⟨before, after, hsplit, -⟩ := List.lookup_eq_some_iff.mp h
  rw [hsplit]
  exact List.mem_append_right _ List.mem_cons_self

/-- Maps that give the same answers are the same. -/
theorem ext_get? {m m' : SortedMap α} (h : ∀ key, m.get? key = m'.get? key) : m = m' := by
  have hnodup : ∀ a : SortedMap α, a.entries.Nodup := fun a =>
    a.increasing.imp fun hlt heq => Std.ne_of_lt hlt (congrArg Prod.fst heq)
  have hperm : m.entries.Perm m'.entries := by
    rw [List.perm_ext_iff_of_nodup (hnodup m) (hnodup m')]
    intro e
    rw [mem_entries_iff m, mem_entries_iff m', h]
  exact ext_entries (hperm.eq_of_pairwise
    (fun _ _ _ _ hlt hgt => absurd (String.lt_trans hlt hgt) (String.lt_irrefl _))
    m.increasing m'.increasing)

/-- A key below all the others is not found. -/
lemma lookup_eq_none_of_forall_lt {key : String} {l : List (String × α)}
    (h : ∀ e ∈ l, key < e.1) : l.lookup key = none := by
  rw [List.lookup_eq_none_iff]
  intro e he
  simpa using Std.ne_of_lt (h e he)

/-- Appending to the list under a key adds one value to the entries. -/
lemma insertEntry_append_perm (key : String) (value : α) {l : List (String × List α)}
    (h : l.Pairwise fun a b => a.1 < b.1) :
    ((insertEntry key ((l.lookup key).getD [] ++ [value]) l).map Prod.snd).flatten.Perm
      (value :: (l.map Prod.snd).flatten) := by
  induction l with
  | nil => simp [insertEntry]
  | cons e rest ih =>
    have h := List.pairwise_cons.mp h
    by_cases hlt : key < e.1
    · -- the key is new
      have hnone : (e :: rest).lookup key = none := by
        refine lookup_eq_none_of_forall_lt fun d hd => ?_
        rcases List.mem_cons.mp hd with rfl | hd
        · exact hlt
        · exact String.lt_trans hlt (h.1 d hd)
      rw [insertEntry, if_pos hlt, hnone]
      simp
    · by_cases heq : key = e.1
      · -- the value goes behind those under the key
        have hlookup : (e :: rest).lookup key = some e.2 := by
          rw [lookup_cons_eq_ite, if_pos heq]
        rw [insertEntry, if_neg hlt, if_pos heq, hlookup]
        rw [List.map_cons, List.map_cons, List.flatten_cons, List.flatten_cons, Option.getD_some,
          List.append_assoc]
        exact List.perm_middle
      · have hlookup : (e :: rest).lookup key = rest.lookup key := by
          rw [lookup_cons_eq_ite, if_neg heq]
        rw [insertEntry, if_neg hlt, if_neg heq, hlookup, List.map_cons, List.map_cons,
          List.flatten_cons, List.flatten_cons]
        exact ((ih h.2).append_left e.2).trans List.perm_middle

/-- Appending to the list under a key adds one value to the map. -/
theorem values_append_perm (m : SortedMap (List α)) (key : String) (value : α) :
    (m.append key value).values.flatten.Perm (value :: m.values.flatten) :=
  insertEntry_append_perm key value m.increasing

/-! ### Equality -/

/-- If keys decide the equality of values, maps are equal exactly when the maps of keys are the
same. -/
lemma beq_iff_mapValues_eq [BEq α] {key : α → β}
    (h : ∀ a b, (a == b) = true ↔ key a = key b) {m m' : SortedMap α} :
    (m == m') = true ↔ m.mapValues key = m'.mapValues key := by
  have hentry : ∀ e e' : String × α, (e == e') = true ↔ (e.1, key e.2) = (e'.1, key e'.2) := by
    intro e e'
    show (e.1 == e'.1 && e.2 == e'.2) = true ↔ _
    rw [Bool.and_eq_true, beq_iff_eq, h, Prod.mk.injEq]
  rw [beq_def, list_beq_iff_map_eq hentry]
  exact ⟨fun hentries => ext_entries hentries, fun hmaps => congrArg entries hmaps⟩

/-- If equality of values is literal, so is equality of maps. -/
instance [BEq α] [LawfulBEq α] : LawfulBEq (SortedMap α) where
  eq_of_beq h := ext_entries (eq_of_beq h)
  rfl {m} := by rw [beq_def, beq_self_eq_true]

/-! ### Maps of lists -/

/-- Appending to the list under a key changes this list only. -/
lemma get?_append (m : SortedMap (List α)) (key : String) (value : α) (other : String) :
    (m.append key value).get? other =
      if other = key then some ((m.get? key).getD [] ++ [value]) else m.get? other :=
  get?_insert m key _ other

/-- If nothing under other keys passes a test, what passes it is in one list. -/
lemma filter_flatten_entries {test : α → Bool} {key : String} {l : List (String × List α)}
    (hl : l.Pairwise fun a b => a.1 < b.1)
    (hothers : ∀ e ∈ l, key ≠ e.1 → e.2.filter test = []) :
    (l.map Prod.snd).flatten.filter test = ((l.lookup key).getD []).filter test := by
  induction l with
  | nil => rfl
  | cons e rest ih =>
    obtain ⟨hfirst, hrest⟩ := List.pairwise_cons.mp hl
    obtain ⟨he, hafter⟩ := List.forall_mem_cons.mp hothers
    rw [List.map_cons, List.flatten_cons, List.filter_append, ih hrest hafter,
      lookup_cons_eq_ite]
    by_cases hkey : key = e.1
    · rw [if_pos hkey, lookup_eq_none_of_forall_lt (hkey ▸ hfirst)]
      simp
    · rw [if_neg hkey, he hkey, List.nil_append]

/-- If every value is listed under its own key, what passes a test for one key is in one list. -/
lemma filter_flatten_values {m : SortedMap (List α)} {keyOf : α → String} {test : α → Bool}
    {key : String} (hkeys : ∀ k group, m.get? k = some group → ∀ a ∈ group, keyOf a = k)
    (htest : ∀ a, test a = true → keyOf a = key) :
    m.values.flatten.filter test = ((m.get? key).getD []).filter test := by
  refine filter_flatten_entries m.increasing fun e he hne => ?_
  rw [List.filter_eq_nil_iff]
  intro a ha hpasses
  exact hne ((htest a hpasses).symm.trans (hkeys e.1 e.2 (m.mem_entries_iff.mp he) a ha))

end RestFlow.SortedMap

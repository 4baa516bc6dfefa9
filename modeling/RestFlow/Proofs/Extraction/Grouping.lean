import RestFlow.Extraction.Result
import RestFlow.Proofs.Order.Keys
import RestFlow.Proofs.Order.SortedMap
import RestFlow.Proofs.Order.Sorting
import RestFlow.Proofs.Resource.Equality

/-!
# Groups and conflicts

Dependencies are grouped by key, unless two of them contradict each other.
-/

namespace RestFlow

/-!
## Grouping loses no dependency

When dependencies can be grouped, the groups hold the same dependencies as the list, each as often
as before (`ofList_perm`).  The group of a key holds those that are listed under it, in the order of
the list (`get?_ofList_eq_some_iff`), and all groups together, in the order of listings, are the
list again if it was in this order (`all_ofList`).

Dependencies can be grouped exactly if their bonds are unanimous (`exists_ofList_iff`): consumers
with one key then have one producer (`beq_of_key_beq`).  Otherwise the reason is a conflict
(`isConflict_of_group`).
-/

namespace Failure

/-- The failure of two producers for one consumer. -/
def isConflict : Failure → Bool
  | resolutionConflict .. => true
  | _ => false

end Failure

namespace DependencyGroups

/-- What dependencies bind consumers to, by the keys of these. -/
def bonds (l : List Dependency) : List (ConsumerKey × Producer) :=
  l.filterMap fun d => d.producer.map (d.consumer.key, ·)

/-- The bonds are those of the dependencies that have a producer. -/
lemma mem_bonds_iff {l : List Dependency} {b : ConsumerKey × Producer} :
    b ∈ bonds l ↔ ∃ d ∈ l, d.producer = some b.2 ∧ d.consumer.key = b.1 := by
  simp [bonds, Prod.ext_iff, and_comm]

lemma bonds_cons (d : Dependency) (l : List Dependency) : bonds (d :: l) = bonds [d] ++ bonds l :=
  List.filterMap_append (l := [d])

/-- The failure of a dependency whose consumer is bound to another producer already. -/
def failure? (bound : List (ConsumerKey × Producer)) (d : Dependency) : Option Failure :=
  d.producer.bind (conflict? bound d.consumer.key)

/-- A dependency that does not fail is appended to the group of its key, and what it binds counts
for the others. -/
lemma group_cons (bound : List (ConsumerKey × Producer)) (groups : DependencyGroups)
    (d : Dependency) (rest : List Dependency) :
    group bound groups (d :: rest) =
      match failure? bound d with
      | some f => .error f
      | none =>
        group (bound ++ bonds [d]) (SortedMap.append groups d.consumer.resource.mapKey d) rest := by
  rw [group, failure?, bonds, List.filterMap_cons, List.filterMap_nil]
  cases d.producer with
  | none => simp
  | some p =>
    cases h : conflict? bound d.consumer.key p <;> simp [h]

variable {bound : List (ConsumerKey × Producer)} {groups result : DependencyGroups}
  {d : Dependency} {l rest : List Dependency} {f : Failure}

/-- Grouping succeeds if the first dependency does not fail and the others can be grouped. -/
lemma group_cons_eq_ok_iff :
    group bound groups (d :: rest) = .ok result ↔
      failure? bound d = none ∧
        group (bound ++ bonds [d]) (SortedMap.append groups d.consumer.resource.mapKey d) rest =
          .ok result := by
  rw [group_cons]
  cases failure? bound d <;> simp

/-- Grouping fails with the first dependency or with the others. -/
lemma group_cons_eq_error_iff :
    group bound groups (d :: rest) = .error f ↔
      failure? bound d = some f ∨ failure? bound d = none ∧
        group (bound ++ bonds [d]) (SortedMap.append groups d.consumer.resource.mapKey d) rest =
          .error f := by
  rw [group_cons]
  cases failure? bound d <;> simp

/-- Grouping adds the dependencies of a list to those in groups already. -/
lemma group_perm (h : group bound groups l = .ok result) :
    (SortedMap.values result).flatten.Perm (l ++ (SortedMap.values groups).flatten) := by
  induction l generalizing bound groups with
  | nil =>
    rw [← Except.ok.inj h]
    exact List.Perm.refl _
  | cons d rest ih =>
    obtain ⟨-, h'⟩ := group_cons_eq_ok_iff.mp h
    have happend := SortedMap.values_append_perm groups d.consumer.resource.mapKey d
    exact (ih h').trans ((happend.append_left rest).trans List.perm_middle)

/-- The groups of a list hold its dependencies. -/
theorem ofList_perm (h : ofList l = .ok groups) :
    (SortedMap.values groups).flatten.Perm l := by
  have hperm := group_perm h
  rwa [show (SortedMap.values (SortedMap.empty : DependencyGroups)).flatten = [] from rfl,
    List.append_nil] at hperm

lemma mem_all_iff (h : ofList l = .ok groups) : d ∈ groups.all ↔ d ∈ l := by
  rw [all, mem_sortOn, (ofList_perm h).mem_iff]

/-- The number of dependencies with a producer is the same in the list and in its groups. -/
lemma resolvedCount_ofList (h : ofList l = .ok groups) :
    groups.resolvedCount = l.countP Dependency.isResolved :=
  (ofList_perm h).countP_eq _

/-! ### The group of a key -/

/-- The dependencies whose consumers are listed under a key. -/
def underKey (key : String) (l : List Dependency) : List Dependency :=
  l.filter fun d => d.consumer.resource.mapKey == key

/-- Grouping appends to the group of every key what is listed under it. -/
lemma getD_get?_group (h : group bound groups l = .ok result) (key : String) :
    (SortedMap.get? result key).getD [] =
      (SortedMap.get? groups key).getD [] ++ underKey key l := by
  induction l generalizing bound groups with
  | nil =>
    rw [← Except.ok.inj h]
    exact (List.append_nil _).symm
  | cons d rest ih =>
    obtain ⟨-, h'⟩ := group_cons_eq_ok_iff.mp h
    rw [ih h', SortedMap.get?_append, underKey, underKey, List.filter_cons]
    by_cases hkey : key = d.consumer.resource.mapKey
    · rw [if_pos hkey, if_pos (beq_iff_eq.mpr hkey.symm), Option.getD_some, List.append_assoc,
        List.singleton_append, ← hkey]
    · rw [if_neg hkey, if_neg fun hbeq => hkey (beq_iff_eq.mp hbeq).symm]

/-- Grouping leaves no group empty. -/
lemma ne_nil_of_get?_group
    (hgroups : ∀ key g, SortedMap.get? groups key = some g → g ≠ [])
    (h : group bound groups l = .ok result) {key : String} {g : List Dependency}
    (hg : SortedMap.get? result key = some g) : g ≠ [] := by
  induction l generalizing bound groups with
  | nil =>
    rw [← Except.ok.inj h] at hg
    exact hgroups key g hg
  | cons d rest ih =>
    obtain ⟨-, h'⟩ := group_cons_eq_ok_iff.mp h
    refine ih (fun other g' hg' => ?_) h'
    rw [SortedMap.get?_append] at hg'
    split at hg'
    · rw [← Option.some.inj hg']
      exact List.append_ne_nil_of_right_ne_nil _ (List.cons_ne_nil d [])
    · exact hgroups other g' hg'

/-- The group of a key holds what is listed under it, if anything is. -/
theorem get?_ofList_eq_some_iff (h : ofList l = .ok groups) {key : String} {g : List Dependency} :
    SortedMap.get? groups key = some g ↔ g = underKey key l ∧ g ≠ [] := by
  have hcontent : (SortedMap.get? groups key).getD [] = underKey key l := getD_get?_group h key
  constructor
  · intro hg
    rw [hg, Option.getD_some] at hcontent
    exact ⟨hcontent, ne_nil_of_get?_group (fun _ _ hnone => (Option.some_ne_none _ hnone.symm).elim)
      h hg⟩
  · rintro ⟨rfl, hne⟩
    cases hg : SortedMap.get? groups key with
    | none =>
      rw [hg, Option.getD_none] at hcontent
      exact absurd hcontent.symm hne
    | some g =>
      rw [hg, Option.getD_some] at hcontent
      rw [hcontent]

/-- What belongs to one key is in the groups as it is in the list. -/
lemma filter_flatten_ofList (h : ofList l = .ok groups) {test : Dependency → Bool} {key : String}
    (htest : ∀ d, test d = true → d.consumer.resource.mapKey = key) :
    (SortedMap.values groups).flatten.filter test = l.filter test := by
  have hkeys : ∀ k g, SortedMap.get? groups k = some g →
      ∀ d ∈ g, d.consumer.resource.mapKey = k := by
    intro k g hg d hd
    rw [((get?_ofList_eq_some_iff h).mp hg).1] at hd
    exact beq_iff_eq.mp (List.mem_filter.mp hd).2
  have hcontent : (SortedMap.get? groups key).getD [] = underKey key l := getD_get?_group h key
  rw [SortedMap.filter_flatten_values hkeys htest, hcontent, underKey, List.filter_filter]
  refine List.filter_congr fun d _ => ?_
  rw [Bool.and_eq_left_iff_imp]
  exact fun hd => beq_iff_eq.mpr (htest d hd)

/-- The order of listings is the order of the keys of listings. -/
def compareListed (a b : Dependency) : Ordering :=
  compareOn (fun d => d.consumer.listingKey) a b

instance : Std.TransCmp compareListed :=
  inferInstanceAs (Std.TransCmp (compareOn fun d : Dependency => d.consumer.listingKey))

/-- The dependencies of all groups are those of the list, if it is in the order of listings. -/
theorem all_ofList (h : ofList l = .ok groups)
    (hl : l.Pairwise fun x y => (compareListed x y).isLE) : groups.all = l := by
  have hsame : ∀ d, (SortedMap.values groups).flatten.filter (ties compareListed d) =
      l.filter (ties compareListed d) := by
    intro d
    have hkey : ∀ x, ties compareListed d x = true →
        x.consumer.resource.mapKey = d.consumer.resource.mapKey := by
      intro x hx
      exact (Consumer.mapKey_eq_of_compare_listingKey (Ordering.isEq_iff_eq_eq.mp hx)).symm
    exact filter_flatten_ofList h hkey
  rw [all, sortOn_eq_sortBy]
  exact (sortBy_eq_of_filter_ties hsame).trans (sortBy_eq_self hl)

/-! ### Conflicts -/

/-- A conflict is with a bond of the same key, and names both producers. -/
lemma of_conflict?_eq_some {key : ConsumerKey} {p : Producer}
    (h : conflict? bound key p = some f) :
    ∃ b ∈ bound, (b.1 == key) = true ∧ (b.2 == p) = false ∧
      f = .resolutionConflict key.text b.2.text p.text := by
  unfold conflict? at h
  split at h
  · rename_i other existing hfind
    split at h
    · cases h
    · rename_i hdiffer
      have hfound := List.find?_some hfind
      have hkey : (other == key) = true := hfound
      exact ⟨(other, existing), List.mem_of_find?_eq_some hfind, hkey,
        Bool.eq_false_iff.mpr hdiffer, (Option.some.inj h).symm⟩
  · cases h

/-- A list that cannot be grouped gives two producers to one consumer. -/
lemma isConflict_of_group (h : group bound groups l = .error f) : f.isConflict = true := by
  induction l generalizing bound groups with
  | nil => cases h
  | cons d rest ih =>
    rcases group_cons_eq_error_iff.mp h with hfailure | ⟨-, h'⟩
    · obtain ⟨p, -, hconflict⟩ := Option.bind_eq_some_iff.mp hfailure
      obtain ⟨b, -, -, -, rfl⟩ := of_conflict?_eq_some hconflict
      rfl
    · exact ih h'

/-- Equal keys are bound to equal producers. -/
def AreUnanimous (bonds : List (ConsumerKey × Producer)) : Prop :=
  ∀ a ∈ bonds, ∀ b ∈ bonds, (a.1 == b.1) = true → (a.2 == b.2) = true

lemma AreUnanimous.mono {bound' : List (ConsumerKey × Producer)} (h : AreUnanimous bound')
    (hsubset : bound ⊆ bound') : AreUnanimous bound :=
  fun a ha b hb => h a (hsubset ha) b (hsubset hb)

/-- A bond without a conflict is one with which all of the same key agree. -/
lemma beq_of_conflict?_eq_none (h : AreUnanimous bound) {key : ConsumerKey} {p : Producer}
    (hnone : conflict? bound key p = none) :
    ∀ b ∈ bound, (b.1 == key) = true → (b.2 == p) = true := by
  intro b hb hkey
  unfold conflict? at hnone
  split at hnone
  · rename_i other existing hfind
    have hfound := List.find?_some hfind
    have hother : (other == key) = true := hfound
    have hagree : (existing == p) = true := by
      by_contra hdiffer
      rw [if_neg hdiffer] at hnone
      cases hnone
    have hexisting := h b hb _ (List.mem_of_find?_eq_some hfind) (BEq.trans hkey (BEq.symm hother))
    exact BEq.trans hexisting hagree
  · rename_i hfind
    exact absurd hkey (List.find?_eq_none.mp hfind b hb)

/-- A bond without a conflict leaves all bonds unanimous. -/
lemma AreUnanimous.concat (h : AreUnanimous bound) {key : ConsumerKey} {p : Producer}
    (hnone : conflict? bound key p = none) : AreUnanimous (bound ++ [(key, p)]) := by
  have hagree := beq_of_conflict?_eq_none h hnone
  intro a ha b hb hkey
  rcases List.mem_append.mp ha with ha | ha
  · rcases List.mem_append.mp hb with hb | hb
    · exact h a ha b hb hkey
    · rw [List.mem_singleton.mp hb] at hkey ⊢
      exact hagree a ha hkey
  · rw [List.mem_singleton.mp ha] at hkey ⊢
    rcases List.mem_append.mp hb with hb | hb
    · exact BEq.symm (hagree b hb (BEq.symm hkey))
    · rw [List.mem_singleton.mp hb]
      exact BEq.rfl

/-- A dependency fails exactly if it is not unanimous with what was bound before. -/
lemma failure?_eq_none_iff (h : AreUnanimous bound) :
    failure? bound d = none ↔ AreUnanimous (bound ++ bonds [d]) := by
  rw [failure?, bonds, List.filterMap_cons, List.filterMap_nil]
  cases d.producer with
  | none => simp [h]
  | some p =>
    rw [Option.map_some, Option.bind_some]
    constructor
    · exact h.concat
    · intro hboth
      apply Option.eq_none_iff_forall_ne_some.mpr
      intro f hf
      obtain ⟨b, hb, hkey, hdiffer, -⟩ := of_conflict?_eq_some hf
      have hlast : (d.consumer.key, p) ∈ bound ++ [(d.consumer.key, p)] :=
        List.mem_append_right _ List.mem_cons_self
      have hagree := hboth b (List.mem_append_left _ hb) _ hlast hkey
      rw [hdiffer] at hagree
      cases hagree

/-- Dependencies can be grouped exactly if they are unanimous with what was bound before. -/
lemma exists_group_iff (h : AreUnanimous bound) :
    (∃ result, group bound groups l = .ok result) ↔ AreUnanimous (bound ++ bonds l) := by
  induction l generalizing bound groups with
  | nil =>
    rw [bonds, List.filterMap_nil, List.append_nil]
    exact ⟨fun _ => h, fun _ => ⟨groups, rfl⟩⟩
  | cons d rest ih =>
    simp only [group_cons_eq_ok_iff, exists_and_left, failure?_eq_none_iff h]
    rw [bonds_cons d rest, ← List.append_assoc]
    constructor
    · rintro ⟨hfirst, hrest⟩
      exact (ih hfirst).mp hrest
    · intro hall
      have hfirst := hall.mono (List.subset_append_left _ _)
      exact ⟨hfirst, (ih hfirst).mpr hall⟩

/-- A list can be grouped exactly if its bonds are unanimous. -/
lemma exists_ofList_iff : (∃ groups, ofList l = .ok groups) ↔ AreUnanimous (bonds l) := by
  have hnone : AreUnanimous [] := fun _ ha => absurd ha List.not_mem_nil
  simp only [ofList, exists_group_iff hnone, List.nil_append]

/-- In groups, consumers with equal keys have equal producers. -/
theorem beq_of_key_beq (h : ofList l = .ok groups) {x y : Dependency} {p q : Producer} (hx : x ∈ l)
    (hy : y ∈ l) (hp : x.producer = some p) (hq : y.producer = some q)
    (hkey : (x.consumer.key == y.consumer.key) = true) : (p == q) = true := by
  have hunanimous := exists_ofList_iff.mp ⟨groups, h⟩
  have hxp : (x.consumer.key, p) ∈ bonds l := mem_bonds_iff.mpr ⟨x, hx, hp, rfl⟩
  have hyq : (y.consumer.key, q) ∈ bonds l := mem_bonds_iff.mpr ⟨y, hy, hq, rfl⟩
  exact hunanimous _ hxp _ hyq hkey

end DependencyGroups

/-!
## Which lists can be grouped

A list of dependencies can be grouped unless two of them contradict each other
(`Dependency.Contradicts`): their consumers have one key, and they are bound to different producers.
Dependencies without a producer contradict nothing, however often they are repeated.

Keys and producers are compared up to the spelling of requests, so that what is bound first stands
for everything that is bound under its key.  A conflict is therefore found at the first dependency
that contradicts one before it, and the failure names the two (`DependencyGroups.ofList_exact`).
-/

/-- The consumers have one key, and are bound to the producers, which are different. -/
structure Dependency.Contradicts (x y : Dependency) (p q : Producer) : Prop where
  left : x.producer = some p
  right : y.producer = some q
  key : (x.consumer.key == y.consumer.key) = true
  differ : (p == q) = false

namespace DependencyGroups

open Dependency (Contradicts)

variable {bound : List (ConsumerKey × Producer)} {groups result : DependencyGroups}
  {l : List Dependency} {f : Failure}

/-- Bonds are unanimous unless two dependencies contradict each other. -/
lemma areUnanimous_bonds_iff :
    AreUnanimous (bonds l) ↔ ¬∃ x ∈ l, ∃ y ∈ l, ∃ p q, Contradicts x y p q := by
  constructor
  · rintro hunanimous ⟨x, hx, y, hy, p, q, h⟩
    have hxp : (x.consumer.key, p) ∈ bonds l := mem_bonds_iff.mpr ⟨x, hx, h.left, rfl⟩
    have hyq : (y.consumer.key, q) ∈ bonds l := mem_bonds_iff.mpr ⟨y, hy, h.right, rfl⟩
    have hagree : (p == q) = true := hunanimous _ hxp _ hyq h.key
    rw [h.differ] at hagree
    cases hagree
  · rintro hnone ⟨k, p⟩ ha ⟨k', q⟩ hb hkey
    obtain ⟨x, hx, hp, rfl⟩ := mem_bonds_iff.mp ha
    obtain ⟨y, hy, hq, rfl⟩ := mem_bonds_iff.mp hb
    by_contra hdiffer
    exact hnone ⟨x, hx, y, hy, p, q, ⟨hp, hq, hkey, Bool.eq_false_iff.mpr hdiffer⟩⟩

/-- Grouping fails at a dependency up to which all can be grouped. -/
lemma exists_of_group_eq_error (h : group bound groups l = .error f) :
    ∃ before y after result, l = before ++ y :: after ∧
      group bound groups before = .ok result ∧ failure? (bound ++ bonds before) y = some f := by
  induction l generalizing bound groups with
  | nil => cases h
  | cons d rest ih =>
    rcases group_cons_eq_error_iff.mp h with hfailure | ⟨hnone, h'⟩
    · refine ⟨[], d, rest, groups, rfl, rfl, ?_⟩
      rwa [bonds, List.filterMap_nil, List.append_nil]
    · -- the bond of the first dependency counts for the others
      obtain ⟨before, y, after, result, rfl, hbefore, hfailure⟩ := ih h'
      refine ⟨d :: before, y, after, result, rfl, group_cons_eq_ok_iff.mpr ⟨hnone, hbefore⟩, ?_⟩
      rwa [bonds_cons d before, ← List.append_assoc]

/-- A dependency that fails contradicts one whose bond counts, and the failure names the two. -/
lemma exists_contradicts_of_failure? {y : Dependency} (h : failure? (bonds l) y = some f) :
    ∃ x ∈ l, ∃ p q, Contradicts x y p q ∧
      f = .resolutionConflict y.consumer.key.text p.text q.text := by
  obtain ⟨q, hq, hconflict⟩ := Option.bind_eq_some_iff.mp h
  obtain ⟨⟨_, p⟩, hb, hkey, hdiffer, rfl⟩ := of_conflict?_eq_some hconflict
  obtain ⟨x, hx, hp, rfl⟩ := mem_bonds_iff.mp hb
  exact ⟨x, hx, p, q, ⟨hp, hq, hkey, hdiffer⟩, rfl⟩

/-- Grouping fails if and only if two dependencies of the list contradict each other.  The failure
is a conflict: it names the key of the first dependency that contradicts one before it, and the
producers of the two.  Otherwise the groups hold the same dependencies as the list, each as often as
before, and the group of a key is what is listed under it, in the order of the list, if anything
is. -/
theorem ofList_exact (l : List Dependency) :
    ((∃ f, ofList l = .error f ∧ f.isConflict = true) ↔
        ∃ x ∈ l, ∃ y ∈ l, ∃ p q, Contradicts x y p q) ∧
      (∀ f, ofList l = .error f →
        ∃ before y after, l = before ++ y :: after ∧
          (¬∃ x ∈ before, ∃ x' ∈ before, ∃ p q, Contradicts x x' p q) ∧
          ∃ x ∈ before, ∃ p q, Contradicts x y p q ∧
            f = .resolutionConflict y.consumer.key.text p.text q.text) ∧
      ((¬∃ x ∈ l, ∃ y ∈ l, ∃ p q, Contradicts x y p q) →
        ∃ groups, ofList l = .ok groups ∧ (SortedMap.values groups).flatten.Perm l ∧
          ∀ key g, SortedMap.get? groups key = some g ↔ g = underKey key l ∧ g ≠ []) := by
  refine ⟨?_, ?_, ?_⟩
  · constructor
    · rintro ⟨f, hf, -⟩
      -- dependencies that do not contradict each other can be grouped
      by_contra hnone
      obtain ⟨groups, hgroups⟩ := exists_ofList_iff.mpr (areUnanimous_bonds_iff.mpr hnone)
      rw [hf] at hgroups
      cases hgroups
    · intro hsome
      cases h : ofList l with
      | ok groups =>
        have hunanimous := exists_ofList_iff.mp ⟨groups, h⟩
        exact absurd hsome (areUnanimous_bonds_iff.mp hunanimous)
      | error f => exact ⟨f, rfl, isConflict_of_group h⟩
  · intro f h
    obtain ⟨before, y, after, result, hl, hbefore, hfailure⟩ := exists_of_group_eq_error h
    have hunanimous := exists_ofList_iff.mp ⟨result, hbefore⟩
    exact ⟨before, y, after, hl, areUnanimous_bonds_iff.mp hunanimous,
      exists_contradicts_of_failure? hfailure⟩
  · intro hnone
    obtain ⟨groups, hgroups⟩ := exists_ofList_iff.mpr (areUnanimous_bonds_iff.mpr hnone)
    exact ⟨groups, hgroups, ofList_perm hgroups, fun key g => get?_ofList_eq_some_iff hgroups⟩

end DependencyGroups

end RestFlow

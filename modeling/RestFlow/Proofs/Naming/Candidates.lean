import Mathlib.Data.List.Basic
import Mathlib.Data.List.Induction
import Mathlib.Data.List.Nodup
import Mathlib.Data.List.Pairwise
import RestFlow.Naming.TypeName
import RestFlow.Proofs.Order.Sorting

/-!
# Candidates for the type of a value inside a body

Inside a body every fragment of the container's name is a candidate for the type of a value: the
last words of the name, however many, and the first words, but not all of them
(`Naming.IsFragment`). The more words a fragment has the more specific it is, and with the same
number of words the first ones are more specific than the last ones (`FragmentRank.Precedes`).
Sorting the fragments by rank leads to the order in which they are tried
(`Naming.fragments_eq_sortBy`). Different fragments may be spelled alike, so that one candidate has
several ranks. Of equal candidates only the first is kept, which is the one with the best rank;
hence the candidates are in the order of their best ranks (`Naming.candidateTypes_ranked`).
-/

namespace RestFlow

/-- The rank of a fragment of a name. -/
structure FragmentRank where
  /-- The number of words. -/
  count : Nat
  /-- The words are the last ones of the name, not the first ones. -/
  isLast : Bool

namespace FragmentRank

/-- More words come before fewer and, of the same number, the first ones before the last ones. -/
def Precedes (r r' : FragmentRank) : Prop :=
  r'.count < r.count ∨ r.count = r'.count ∧ r.isLast = false ∧ r'.isLast = true

/-- No rank comes before itself. -/
lemma not_precedes_self (r : FragmentRank) : ¬r.Precedes r := by
  rintro (hcount | ⟨-, hfirst, hlast⟩)
  · exact Nat.lt_irrefl _ hcount
  · rw [hfirst] at hlast
    cases hlast

/-- Ranks in the order of fragments. -/
instance : Ord FragmentRank :=
  ⟨fun r r' => (compare r'.count r.count).then (compare r.isLast r'.isLast)⟩

instance : Std.TransOrd FragmentRank :=
  inferInstanceAs (Std.TransCmp
    (compareLex (fun r r' => compareOn FragmentRank.count r' r) (compareOn FragmentRank.isLast)))

/-- What precedes is smaller. -/
lemma compare_eq_lt_iff {r r' : FragmentRank} : compare r r' = .lt ↔ r.Precedes r' := by
  show (compare r'.count r.count).then (compare r.isLast r'.isLast) = .lt ↔ _
  have hlast : compare r.isLast r'.isLast = .lt ↔ r.isLast = false ∧ r'.isLast = true := by
    cases r.isLast <;> cases r'.isLast <;> decide
  rw [Ordering.then_eq_lt, Nat.compare_eq_lt, Nat.compare_eq_eq, hlast, Precedes,
    eq_comm (a := r'.count)]

end FragmentRank

namespace Naming

variable {words : List String}

/-! ## Names without repetitions -/

/-- Of equal names the first is kept. -/
lemma distinct_eq_eraseDups (names : List String) : distinct names = names.eraseDups := by
  induction names using List.reverseRecOn with
  | nil => rfl
  | append_singleton names name ih =>
    have hstep : distinct (names ++ [name]) =
        if name ∈ distinct names then distinct names else distinct names ++ [name] := by
      rw [distinct, List.foldl_append]
      rfl
    have hmem : name ∈ distinct names ↔ name ∈ names := by rw [ih, List.mem_eraseDups]
    rw [hstep, List.eraseDups_append, ← ih]
    by_cases hname : name ∈ names
    · rw [if_pos (hmem.mpr hname)]
      simp [List.removeAll, hname]
    · rw [if_neg (mt hmem.mp hname)]
      simp [List.removeAll, hname, List.eraseDups_cons]

/-- If names are made of a list that is in some order, then of two that are kept the first is made
of an element that comes before all those that the second is made of. -/
lemma pairwise_eraseDups_map {α : Type} {R : α → α → Prop} (f : α → String) :
    ∀ l : List α, l.Pairwise R →
      (l.map f).eraseDups.Pairwise fun x y => ∃ a ∈ l, f a = x ∧ ∀ b ∈ l, f b = y → R a b
  | [], _ => List.Pairwise.nil
  | a :: l, h => by
    obtain ⟨ha, hl⟩ := List.pairwise_cons.mp h
    have hfilter : (l.map f).filter (fun y => !y == f a) =
        (l.filter fun b => !f b == f a).map f := List.filter_map
    have hne : ∀ y ∈ ((l.filter fun b => !f b == f a).map f).eraseDups, y ≠ f a := by
      intro y hy
      obtain ⟨b, hb, rfl⟩ := List.mem_map.mp (List.mem_eraseDups.mp hy)
      simpa using (List.mem_filter.mp hb).2
    -- what is made into another name than `a` is in the rest, and is not dropped with `a`
    have hrest : ∀ b ∈ a :: l, f b ≠ f a → b ∈ l.filter fun b => !f b == f a := by
      intro b hb hba
      rcases List.mem_cons.mp hb with rfl | hb
      · exact absurd rfl hba
      · exact List.mem_filter.mpr ⟨hb, by simpa using hba⟩
    rw [List.map_cons, List.eraseDups_cons, hfilter, List.pairwise_cons]
    constructor
    · intro y hy
      refine ⟨a, List.mem_cons_self, rfl, fun b hb hby => ?_⟩
      have hb := hrest b hb (hby ▸ hne y hy)
      exact ha b (List.mem_filter.mp hb).1
    · refine List.Pairwise.imp_of_mem ?_ (pairwise_eraseDups_map f _ (hl.filter _))
      rintro x y - hy ⟨c, hc, hcx, hbefore⟩
      refine ⟨c, List.mem_cons_of_mem a (List.mem_filter.mp hc).1, hcx, fun b hb hby => ?_⟩
      exact hbefore b (hrest b hb (hby ▸ hne y hy)) hby
termination_by l => l.length
decreasing_by exact Nat.lt_succ_of_le (List.length_filter_le _ _)

/-! ## Fragments and their ranks -/

/-- A fragment of a list of words with its rank. -/
inductive IsFragment (words : List String) : FragmentRank → List String → Prop where
  /-- The last words. -/
  | last {tail : List String} (h : tail <:+ words) (hne : tail ≠ []) :
    IsFragment words ⟨tail.length, true⟩ tail
  /-- The first words, but not all of them. -/
  | first {head : List String} (h : head <+: words) (hne : head ≠ []) (hproper : head ≠ words) :
    IsFragment words ⟨head.length, false⟩ head

/-- The name is a fragment of this rank, spelled under the convention. -/
def Spells (convention : Convention) (words : List String) (rank : FragmentRank) (name : String) :
    Prop :=
  ∃ fragment, IsFragment words rank fragment ∧ convention.join fragment = name

/-- The fragments with as many words as a suffix, with their ranks. -/
def rankedOfLength (words tail : List String) : List (FragmentRank × List String) :=
  if tail.length = words.length then [(⟨tail.length, true⟩, tail)]
  else [(⟨tail.length, false⟩, words.take tail.length), (⟨tail.length, true⟩, tail)]

/-- The fragments of a list of words with their ranks, in the order in which they are tried. -/
def rankedFragments (words : List String) : List (FragmentRank × List String) :=
  (suffixes words).flatMap (rankedOfLength words)

/-- Without their ranks these are the fragments. -/
lemma map_snd_rankedFragments (words : List String) :
    (rankedFragments words).map Prod.snd = fragments words := by
  rw [rankedFragments, fragments, List.map_flatMap]
  refine List.flatMap_congr fun tail _ => ?_
  rw [rankedOfLength]
  split <;> rfl

/-- The suffixes of a list are those ends of it that are not empty. -/
lemma mem_suffixes_iff {tail : List String} : tail ∈ suffixes words ↔ tail <:+ words ∧ tail ≠ [] := by
  induction words with
  | nil => simp [suffixes]
  | cons w ws ih =>
    rw [suffixes, List.mem_cons, ih, List.suffix_cons_iff]
    constructor
    · rintro (rfl | ⟨h, hne⟩)
      · exact ⟨.inl rfl, List.cons_ne_nil w ws⟩
      · exact ⟨.inr h, hne⟩
    · rintro ⟨rfl | h, hne⟩
      · exact .inl rfl
      · exact .inr ⟨h, hne⟩

/-- The longer suffixes come first. -/
lemma pairwise_suffixes (words : List String) :
    (suffixes words).Pairwise fun tail tail' => tail'.length < tail.length := by
  induction words with
  | nil => exact List.Pairwise.nil
  | cons w ws ih =>
    refine List.pairwise_cons.mpr ⟨fun tail htail => ?_, ih⟩
    exact Nat.lt_succ_of_le (mem_suffixes_iff.mp htail).1.length_le

/-- A list has a suffix of every length up to its own. -/
lemma exists_mem_suffixes {n : Nat} (hpos : n ≠ 0) (hle : n ≤ words.length) :
    ∃ tail ∈ suffixes words, tail.length = n := by
  have hlength : (words.drop (words.length - n)).length = n := by
    rw [List.length_drop]
    omega
  refine ⟨_, mem_suffixes_iff.mpr ⟨List.drop_suffix _ _, fun hnil => ?_⟩, hlength⟩
  rw [hnil] at hlength
  exact hpos hlength.symm

/-- The first words of a list, less than all of them, are those that a shorter suffix has room
for. -/
lemma isFragment_take {tail : List String} (hne : tail ≠ []) (hlt : tail.length < words.length) :
    IsFragment words ⟨tail.length, false⟩ (words.take tail.length) := by
  have hlength : (words.take tail.length).length = tail.length :=
    List.length_take_of_le (Nat.le_of_lt hlt)
  have hnil : words.take tail.length ≠ [] := by
    refine List.ne_nil_of_length_pos ?_
    rw [hlength]
    exact List.length_pos_of_ne_nil hne
  have hproper : words.take tail.length ≠ words := by
    intro heq
    rw [heq] at hlength
    exact Nat.ne_of_gt hlt hlength
  have hstart := List.take_prefix tail.length words
  have hfirst := IsFragment.first hstart hnil hproper
  rwa [hlength] at hfirst

/-- What is tried are the fragments with their ranks. -/
lemma mem_rankedFragments_iff {rank : FragmentRank} {fragment : List String} :
    (rank, fragment) ∈ rankedFragments words ↔ IsFragment words rank fragment := by
  rw [rankedFragments, List.mem_flatMap]
  constructor
  · rintro ⟨tail, htail, h⟩
    obtain ⟨hsuffix, hne⟩ := mem_suffixes_iff.mp htail
    rw [rankedOfLength] at h
    split at h
    · cases List.mem_singleton.mp h
      exact .last hsuffix hne
    · rename_i hlength
      rcases List.mem_cons.mp h with h | h
      · cases h
        exact isFragment_take hne (Nat.lt_of_le_of_ne hsuffix.length_le hlength)
      · cases List.mem_singleton.mp h
        exact .last hsuffix hne
  · rintro (⟨hsuffix, hne⟩ | ⟨hstart, hne, hproper⟩)
    · refine ⟨fragment, mem_suffixes_iff.mpr ⟨hsuffix, hne⟩, ?_⟩
      rw [rankedOfLength]
      split
      · exact List.mem_singleton_self _
      · exact List.mem_cons_of_mem _ (List.mem_singleton_self _)
    · have hlength : fragment.length ≠ words.length := mt hstart.eq_of_length hproper
      obtain ⟨tail, htail, heq⟩ :=
        exists_mem_suffixes (mt List.length_eq_zero_iff.mp hne) hstart.length_le
      refine ⟨tail, htail, ?_⟩
      rw [rankedOfLength, heq, if_neg hlength, ← List.prefix_iff_eq_take.mp hstart]
      exact List.mem_cons_self

/-- The fragments are tried in the order of their ranks. -/
lemma pairwise_rankedFragments (words : List String) :
    (rankedFragments words).Pairwise fun a b => a.1.Precedes b.1 := by
  -- all fragments that are tried at one length have this length
  have hcount : ∀ tail, ∀ a ∈ rankedOfLength words tail, a.1.count = tail.length := by
    intro tail a ha
    rw [rankedOfLength] at ha
    split at ha
    · rw [List.mem_singleton.mp ha]
    · rcases List.mem_cons.mp ha with rfl | ha
      · rfl
      · rw [List.mem_singleton.mp ha]
  refine List.pairwise_flatMap.mpr ⟨fun tail _ => ?_, (pairwise_suffixes words).imp ?_⟩
  · rw [rankedOfLength]
    split
    · exact List.pairwise_singleton _ _
    · exact List.pairwise_pair.mpr (.inr ⟨rfl, rfl, rfl⟩)
  · intro tail tail' hlt a ha b hb
    left
    rwa [hcount tail a ha, hcount tail' b hb]

/-! ## Fragments in order of rank -/

/-- The fragments with their ranks as they are found: the last words, with fewer of them each time,
and then the first words, with more of them each time. -/
def foundFragments (words : List String) : List (FragmentRank × List String) :=
  (suffixes words).map (fun tail => (⟨tail.length, true⟩, tail)) ++
    (List.range' 1 (words.length - 1)).map fun n => (⟨n, false⟩, words.take n)

/-- What is found are the fragments with their ranks. -/
lemma mem_foundFragments_iff {rank : FragmentRank} {fragment : List String} :
    (rank, fragment) ∈ foundFragments words ↔ IsFragment words rank fragment := by
  rw [foundFragments, List.mem_append, List.mem_map, List.mem_map]
  constructor
  · rintro (⟨tail, htail, h⟩ | ⟨n, hn, h⟩)
    · cases h
      obtain ⟨hsuffix, hne⟩ := mem_suffixes_iff.mp htail
      exact .last hsuffix hne
    · cases h
      obtain ⟨hpos, hlt⟩ := List.mem_range'_1.mp hn
      obtain ⟨tail, htail, rfl⟩ : ∃ tail ∈ suffixes words, tail.length = n :=
        exists_mem_suffixes (by omega) (by omega)
      exact isFragment_take (mem_suffixes_iff.mp htail).2 (by omega)
  · rintro (⟨hsuffix, hne⟩ | ⟨hstart, hne, hproper⟩)
    · exact .inl ⟨fragment, mem_suffixes_iff.mpr ⟨hsuffix, hne⟩, rfl⟩
    · -- a fragment that starts the words is found by its length
      have hlength : fragment.length ≠ words.length := mt hstart.eq_of_length hproper
      have hle := hstart.length_le
      have hpos := List.length_pos_of_ne_nil hne
      refine .inr ⟨fragment.length, List.mem_range'_1.mpr (by omega), ?_⟩
      rw [← List.prefix_iff_eq_take.mp hstart]

/-- No fragment is found twice. -/
lemma nodup_foundFragments (words : List String) : (foundFragments words).Nodup := by
  have hsuffixes : (suffixes words).Nodup := by
    refine (pairwise_suffixes words).imp ?_
    rintro tail _ hlt rfl
    exact Nat.lt_irrefl _ hlt
  have hlast : Function.Injective fun tail : List String =>
      (FragmentRank.mk tail.length true, tail) :=
    fun _ _ h => congrArg Prod.snd h
  have hfirst : Function.Injective fun n => (FragmentRank.mk n false, words.take n) :=
    fun _ _ h => congrArg (fun a => a.1.count) h
  refine List.nodup_append.mpr ⟨hsuffixes.map hlast, List.Nodup.map hfirst List.nodup_range', ?_⟩
  rintro a ha b hb rfl
  obtain ⟨tail, -, rfl⟩ := List.mem_map.mp ha
  obtain ⟨n, -, h⟩ := List.mem_map.mp hb
  cases h

/-- What was found comes in the order in which it is tried when it is sorted by rank. -/
lemma sortBy_foundFragments (words : List String) :
    sortBy (compareOn Prod.fst) (foundFragments words) = rankedFragments words := by
  have hordered : (rankedFragments words).Pairwise fun a b => compareOn Prod.fst a b = .lt :=
    (pairwise_rankedFragments words).imp FragmentRank.compare_eq_lt_iff.mpr
  have hnodup : (rankedFragments words).Nodup := by
    refine (pairwise_rankedFragments words).imp ?_
    rintro a _ hprecedes rfl
    exact a.1.not_precedes_self hprecedes
  have hperm : (rankedFragments words).Perm (foundFragments words) := by
    refine (List.perm_ext_iff_of_nodup hnodup (nodup_foundFragments words)).mpr ?_
    rintro ⟨rank, fragment⟩
    rw [mem_rankedFragments_iff, mem_foundFragments_iff]
  have hsymm : Std.Symm fun a b : FragmentRank × List String => compareOn Prod.fst a b ≠ .eq :=
    ⟨fun a b hne heq => hne (Std.OrientedCmp.eq_symm heq)⟩
  have hdiffer : (rankedFragments words).Pairwise fun a b => compareOn Prod.fst a b ≠ .eq :=
    hordered.imp fun hlt heq => Ordering.noConfusion (hlt.symm.trans heq)
  rw [← sortBy_eq_of_perm_of_ne hperm fun a ha b hb => hdiffer.forall ha hb]
  exact sortBy_eq_self (hordered.imp fun hlt => Ordering.isLE_of_eq_lt hlt)

/-- The fragments are what was found, sorted by rank. -/
theorem fragments_eq_sortBy (words : List String) :
    fragments words = (sortBy (compareOn Prod.fst) (foundFragments words)).map Prod.snd := by
  rw [sortBy_foundFragments, map_snd_rankedFragments]

/-! ## Candidates -/

/-- The candidates inside a body are the spelled fragments without repetitions. -/
lemma candidateTypes_nested {container : String} (convention : Convention)
    (resourceWords : List String) (h : containerWords container ≠ []) :
    candidateTypes (some container) convention true resourceWords =
      ((rankedFragments (containerWords container)).map fun a =>
        convention.join a.2).eraseDups := by
  have hempty : (containerWords container).isEmpty = false := List.isEmpty_eq_false_iff.mpr h
  simp only [candidateTypes, hempty, Bool.false_eq_true, if_false, if_true]
  rw [distinct_eq_eraseDups, ← map_snd_rankedFragments, List.map_map]
  rfl

/-- The fragment that is tried first is the whole name. -/
lemma head?_rankedFragments (h : words ≠ []) :
    (rankedFragments words).head? = some (⟨words.length, true⟩, words) := by
  cases words with
  | nil => exact absurd rfl h
  | cons w ws =>
    rw [rankedFragments, suffixes, List.flatMap_cons, rankedOfLength, if_pos rfl]
    rfl

/-- Inside a body the candidates for the type of a value are the spelled fragments of the
container's name in the singular, each of them once.  The whole name comes first, and of two
candidates the one that comes first has a rank before all ranks of the other. -/
theorem candidateTypes_ranked {container : String} (convention : Convention)
    (resourceWords : List String) (h : containerWords container ≠ []) :
    let words := containerWords container
    let types := candidateTypes (some container) convention true resourceWords
    types.Nodup ∧
      (∀ type, type ∈ types ↔ ∃ rank, Spells convention words rank type) ∧
      types.head? = some (convention.join words) ∧
      types.Pairwise fun a b => ∃ rank, Spells convention words rank a ∧
        ∀ other, Spells convention words other b → rank.Precedes other := by
  intro words types
  have htypes : types = ((rankedFragments words).map fun a => convention.join a.2).eraseDups :=
    candidateTypes_nested convention resourceWords h
  have hmem : ∀ type, type ∈ types ↔ ∃ rank, Spells convention words rank type := by
    intro type
    rw [htypes, List.mem_eraseDups, List.mem_map]
    constructor
    · rintro ⟨⟨rank, fragment⟩, hfragment, hspelled⟩
      exact ⟨rank, fragment, mem_rankedFragments_iff.mp hfragment, hspelled⟩
    · rintro ⟨rank, fragment, hfragment, hspelled⟩
      exact ⟨(rank, fragment), mem_rankedFragments_iff.mpr hfragment, hspelled⟩
  have hordered : types.Pairwise fun a b => ∃ rank, Spells convention words rank a ∧
      ∀ other, Spells convention words other b → rank.Precedes other := by
    rw [htypes]
    refine (pairwise_eraseDups_map _ _ (pairwise_rankedFragments words)).imp ?_
    rintro x y ⟨⟨rank, fragment⟩, hfragment, hspelled, hbefore⟩
    refine ⟨rank, ⟨fragment, mem_rankedFragments_iff.mp hfragment, hspelled⟩, ?_⟩
    rintro other ⟨fragment', hfragment', hspelled'⟩
    exact hbefore (other, fragment') (mem_rankedFragments_iff.mpr hfragment') hspelled'
  -- no rank precedes itself, so no candidate comes twice
  refine ⟨hordered.imp ?_, hmem, ?_, hordered⟩
  · rintro x _ ⟨rank, hspells, hbefore⟩ rfl
    exact rank.not_precedes_self (hbefore rank hspells)
  · obtain ⟨rest, hrest⟩ := List.head?_eq_some_iff.mp (head?_rankedFragments h)
    rw [htypes, hrest, List.map_cons, List.eraseDups_cons, List.head?_cons]

/-- A name that starts and ends with the same word: this word is a candidate once, although two
fragments are spelled so. -/
theorem candidateTypes_ranked_userTagUsers :
    containerWords "userTagUsers" ≠ [] ∧
      ["userTagUser", "userTag", "tagUser", "user"].Nodup ∧
      ["userTagUser", "userTag", "tagUser", "user"].Pairwise fun a b =>
        ∃ rank, Spells .camelCase ["user", "tag", "user"] rank a ∧
          ∀ other, Spells .camelCase ["user", "tag", "user"] other b → rank.Precedes other := by
  have hwords : containerWords "userTagUsers" = ["user", "tag", "user"] := by decide +kernel
  have htypes : candidateTypes (some "userTagUsers") .camelCase true [] =
      ["userTagUser", "userTag", "tagUser", "user"] := by decide +kernel
  have hne : containerWords "userTagUsers" ≠ [] := by
    rw [hwords]
    exact List.cons_ne_nil _ _
  obtain ⟨hnodup, -, -, hordered⟩ := candidateTypes_ranked .camelCase [] hne
  rw [htypes] at hnodup hordered
  rw [hwords] at hordered
  exact ⟨hne, hnodup, hordered⟩

end Naming

end RestFlow

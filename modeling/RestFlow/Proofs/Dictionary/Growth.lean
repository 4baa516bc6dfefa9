import RestFlow.Dictionary.Basic
import RestFlow.Proofs.Order.SortedMap

/-!
# Dictionaries only grow

In the course of a run a dictionary gains uuid suffixes and loses nothing (`Dictionary.Grows`).
Whatever is found in a dictionary other than a suffix is found in it later and in the beginning
(`Grows.findPayload_eq`), and a suffix that is found once is found from then on
(`Grows.findSuffix_eq`).

Every suffix that is gained has been generated for its name, and `Dictionary.GrowsFor` says what
names may gain one.  If all of them have one already, the dictionary stays as it is
(`GrowsFor.eq_of_forall`).
-/

namespace RestFlow.Dictionary

/-- The dictionary `d'` is `d` with further uuid suffixes. -/
structure Grows (d d' : Dictionary) : Prop where
  /-- Nothing but uuid suffixes is different. -/
  rest : d' = { d with uuidSuffixes := d'.uuidSuffixes }
  /-- The uuid suffixes stay. -/
  kept : ∀ name text, d.uuidSuffixes.get? name = some text → d'.uuidSuffixes.get? name = some text

lemma Grows.refl (d : Dictionary) : d.Grows d :=
  ⟨rfl, fun _ _ h => h⟩

/-- Growth goes on. -/
lemma Grows.trans {d d' d'' : Dictionary} (h : d.Grows d') (h' : d'.Grows d'') : d.Grows d'' where
  rest := by
    have hrest := h'.rest
    rw [h.rest] at hrest
    exact hrest
  kept name text ht := h'.kept name text (h.kept name text ht)

/-- A name has a suffix when a suffix is found for it. -/
lemma contains_uuidSuffixes_iff {d : Dictionary} {name : String} :
    d.uuidSuffixes.contains name = true ↔ ∃ text, d.uuidSuffixes.get? name = some text := by
  rw [SortedMap.contains, Option.isSome_iff_exists]

/-- Names keep having suffixes. -/
lemma Grows.contains {d d' : Dictionary} (h : d.Grows d') {name : String}
    (hc : d.uuidSuffixes.contains name = true) : d'.uuidSuffixes.contains name = true := by
  obtain ⟨text, ht⟩ := contains_uuidSuffixes_iff.mp hc
  exact contains_uuidSuffixes_iff.mpr ⟨text, h.kept name text ht⟩

/-- A new suffix is further to those that are there. -/
lemma grows_withSuffix (d : Dictionary) (name : String) : d.Grows (d.withSuffix name) := by
  unfold withSuffix
  by_cases hc : d.uuidSuffixes.contains name
  · rw [if_pos hc]
    exact Grows.refl d
  · rw [if_neg hc]
    refine ⟨rfl, fun other text ht => ?_⟩
    rw [SortedMap.get?_insert]
    have hne : other ≠ name := by
      rintro rfl
      exact hc (contains_uuidSuffixes_iff.mpr ⟨text, ht⟩)
    simpa [hne] using ht

/-- The names with a suffix after a suffix was added. -/
lemma contains_withSuffix (d : Dictionary) (name other : String) :
    (d.withSuffix name).uuidSuffixes.contains other =
      (decide (other = name) || d.uuidSuffixes.contains other) := by
  unfold withSuffix
  by_cases hc : d.uuidSuffixes.contains name
  · rw [if_pos hc]
    by_cases hne : other = name
    · simp [hne, hc]
    · simp [hne]
  · rw [if_neg hc, SortedMap.contains_insert]

/-- Custom payloads stay as they are. -/
lemma Grows.findPayload_eq {d d' : Dictionary} (h : d.Grows d') (kind : Option CustomKind)
    (key : String) (type : PrimitiveType) :
    d'.findPayload kind key type = d.findPayload kind key type := by
  rw [h.rest]
  rfl

/-- The suffix of a name stays. -/
lemma Grows.findSuffix_eq {d d' : Dictionary} (h : d.Grows d') {name : String}
    {type : PrimitiveType} {p : DictionaryPayload} (hp : d.findSuffix name type = some p) :
    d'.findSuffix name type = some p := by
  unfold findSuffix at hp ⊢
  by_cases hc : d.uuidSuffixes.contains name
  · rw [if_pos hc] at hp
    rw [if_pos (h.contains hc), hp]
  · rw [if_neg hc] at hp
    cases hp

/-! ## Growth with a reason -/

/-- The dictionary `d'` is `d` with further uuid suffixes, each of them generated for a name for
which there is a reason. -/
structure GrowsFor (reason : String → Prop) (d d' : Dictionary) : Prop extends Grows d d' where
  /-- A further suffix is generated, and there is a reason for it. -/
  added : ∀ name text, d'.uuidSuffixes.get? name = some text → d.uuidSuffixes.get? name = none →
    text = generatedSuffix name ∧ reason name

namespace GrowsFor

variable {reason reason' : String → Prop} {d d' d'' : Dictionary}

/-- Nothing is added without a reason if nothing is added. -/
lemma refl (reason : String → Prop) (d : Dictionary) : d.GrowsFor reason d where
  toGrows := .refl d
  added name text hsome hnone := by
    rw [hnone] at hsome
    cases hsome

/-- Growth goes on. -/
lemma trans (h : d.GrowsFor reason d') (h' : d'.GrowsFor reason d'') : d.GrowsFor reason d'' where
  toGrows := h.toGrows.trans h'.toGrows
  added name text hsome hnone := by
    cases hname : d'.uuidSuffixes.get? name with
    | none => exact h'.added name text hsome hname
    | some text' =>
      have hkept := h'.kept name text' hname
      rw [hsome] at hkept
      rw [Option.some.inj hkept]
      exact h.added name text' hname hnone

/-- Reasons may be given up for weaker ones. -/
lemma mono (h : d.GrowsFor reason d') (hreason : ∀ name, reason name → reason' name) :
    d.GrowsFor reason' d' where
  toGrows := h.toGrows
  added name text hsome hnone :=
    (h.added name text hsome hnone).imp_right (hreason name)

/-- Nothing is added if there are reasons only for names that have a suffix. -/
lemma eq_of_forall (h : d.GrowsFor reason d')
    (hnames : ∀ name, reason name → d.uuidSuffixes.contains name = true) : d' = d := by
  have hsuffixes : d'.uuidSuffixes = d.uuidSuffixes := by
    refine SortedMap.ext_get? fun name => ?_
    cases hname : d.uuidSuffixes.get? name with
    | some text => exact h.kept name text hname
    | none =>
      rw [Option.eq_none_iff_forall_ne_some]
      intro text htext
      obtain ⟨text', hkept⟩ :=
        contains_uuidSuffixes_iff.mp (hnames name (h.added name text htext hname).2)
      rw [hname] at hkept
      cases hkept
  rw [h.rest, hsuffixes]

/-- A new suffix is generated for its name. -/
lemma withSuffix (d : Dictionary) {name : String} (hname : reason name) :
    d.GrowsFor reason (d.withSuffix name) where
  toGrows := d.grows_withSuffix name
  added other text hsome hnone := by
    unfold Dictionary.withSuffix at hsome
    by_cases hc : d.uuidSuffixes.contains name
    · rw [if_pos hc, hnone] at hsome
      cases hsome
    · rw [if_neg hc, SortedMap.get?_insert] at hsome
      by_cases hother : other = name
      · rw [if_pos hother] at hsome
        rw [← Option.some.inj hsome, hother]
        exact ⟨rfl, hname⟩
      · rw [if_neg hother, hnone] at hsome
        cases hsome

end GrowsFor

end RestFlow.Dictionary

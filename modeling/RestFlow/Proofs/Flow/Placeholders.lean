import Mathlib.Data.List.Chain
import RestFlow.Flow.Dependency
import RestFlow.Proofs.Body.AccessPath

/-!
# Names of placeholders

The name of a placeholder is made of the runs of ASCII letters and digits of a text about the
resource, with one underscore before each of them.  The runs are all that is left of the text, and
they can be read off the name again, so resources share a placeholder exactly if they have the same
runs (`DynamicObject.name_ofResource_runs`).
-/

namespace RestFlow

namespace Text

/-- The longest runs of characters that pass a test, in order. -/
def runs (test : Char → Bool) (cs : List Char) : List (List Char) :=
  (cs.splitOnP fun c => !test c).filter fun run => !run.isEmpty

variable {test : Char → Bool} {sep : Char}

/-- A character that fails the test ends a run, any other one belongs to one. -/
lemma splitOnP_cons_of_eq {c : Char} {cs first : List Char} {others : List (List Char)}
    (h : cs.splitOnP (fun c => !test c) = first :: others) :
    (c :: cs).splitOnP (fun c => !test c) =
      if test c then (c :: first) :: others else [] :: first :: others := by
  rw [List.splitOnP_cons_eq_if_modifyHead, h]
  by_cases hc : test c <;> simp [hc]

/-- The pieces of a text between characters that fail the test. -/
lemma exists_splitOnP_eq_cons (test : Char → Bool) (cs : List Char) :
    ∃ first others, cs.splitOnP (fun c => !test c) = first :: others :=
  List.exists_cons_of_ne_nil (List.splitOnP_ne_nil _ cs)

/-- The runs of a text are not empty, and all their characters pass the test. -/
lemma of_mem_runs {cs run : List Char} (h : run ∈ runs test cs) :
    run ≠ [] ∧ ∀ c ∈ run, test c = true := by
  obtain ⟨hmem, hne⟩ := List.mem_filter.mp h
  refine ⟨by simpa using hne, ?_⟩
  clear h hne
  induction cs generalizing run with
  | nil =>
    rw [List.splitOnP_nil, List.mem_singleton] at hmem
    subst hmem
    exact fun c hc => nomatch hc
  | cons c cs ih =>
    obtain ⟨first, others, hsplit⟩ := exists_splitOnP_eq_cons test cs
    rw [hsplit] at ih
    rw [splitOnP_cons_of_eq hsplit] at hmem
    split at hmem
    · rename_i hc
      rcases List.mem_cons.mp hmem with rfl | hmem
      · exact List.forall_mem_cons.mpr ⟨hc, ih List.mem_cons_self⟩
      · exact ih (List.mem_cons_of_mem first hmem)
    · rcases List.mem_cons.mp hmem with rfl | hmem
      · exact fun c hc => nomatch hc
      · exact ih hmem

/-- Characters in front that fail the test belong to no run. -/
lemma runs_dropWhile (cs : List Char) : runs test (cs.dropWhile fun c => !test c) = runs test cs := by
  induction cs with
  | nil => rfl
  | cons c cs ih =>
    by_cases hc : test c
    · simp [hc]
    · obtain ⟨first, others, hsplit⟩ := exists_splitOnP_eq_cons test cs
      rw [List.dropWhile_cons_of_pos (by simpa using hc), ih, runs, runs,
        splitOnP_cons_of_eq hsplit, hsplit, if_neg hc]
      rfl

/-- The runs of a text are its characters that pass the test. -/
lemma flatten_runs (cs : List Char) : (runs test cs).flatten = cs.filter test := by
  rw [runs, List.flatten_filter_not_isEmpty]
  induction cs with
  | nil => rfl
  | cons c cs ih =>
    obtain ⟨first, others, hsplit⟩ := exists_splitOnP_eq_cons test cs
    rw [hsplit, List.flatten_cons] at ih
    rw [splitOnP_cons_of_eq hsplit]
    by_cases hc : test c
    · rw [if_pos hc, List.filter_cons_of_pos hc, ← ih]
      rfl
    · rw [if_neg hc, List.filter_cons_of_neg hc, ← ih]
      rfl

/-- A text with a character that passes the test has a run. -/
lemma runs_ne_nil {cs : List Char} {c : Char} (hmem : c ∈ cs) (hc : test c = true) :
    runs test cs ≠ [] := by
  intro hnil
  have hfilter : (runs test cs).flatten = cs.filter test := flatten_runs cs
  rw [hnil] at hfilter
  exact List.ne_nil_of_mem (List.mem_filter.mpr ⟨hmem, hc⟩) hfilter.symm

/-! ## Separators before runs -/

/-- Separators in front of texts that have none and are not empty do not touch. -/
lemma isChain_flatMap_cons {ws : List (List Char)} (h : ∀ w ∈ ws, sep ∉ w ∧ w ≠ []) :
    (ws.flatMap (sep :: ·)).IsChain fun a b => ¬(a = sep ∧ b = sep) := by
  induction ws with
  | nil => exact List.IsChain.nil
  | cons w ws ih =>
    obtain ⟨⟨hsep, hne⟩, hrest⟩ := List.forall_mem_cons.mp h
    have hother : ∀ c ∈ w, c ≠ sep := by
      rintro c hc rfl
      exact hsep hc
    have hword : (sep :: w).IsChain fun a b => ¬(a = sep ∧ b = sep) := by
      refine (List.pairwise_cons.mpr ⟨fun b hb hboth => hother b hb hboth.2, ?_⟩).isChain
      exact List.pairwise_of_forall_mem_list fun a ha b _ hboth => hother a ha hboth.1
    rw [List.flatMap_cons, List.isChain_append]
    refine ⟨hword, ih hrest, fun a ha b _ hboth => ?_⟩
    rw [List.getLast?_cons_of_ne_nil hne] at ha
    exact hother a (List.mem_of_getLast? ha) hboth.1

/-- The last of some texts that have no separators ends what they make up. -/
lemma getLast?_flatMap_cons {ws : List (List Char)} (hne : ws ≠ [])
    (h : ∀ w ∈ ws, sep ∉ w ∧ w ≠ []) : (ws.flatMap (sep :: ·)).getLast? ≠ some sep := by
  obtain ⟨before, w, rfl⟩ := (List.eq_nil_or_concat' ws).resolve_left hne
  obtain ⟨hsep, hw⟩ := h w (List.mem_append_right before (List.mem_singleton_self w))
  rw [List.flatMap_append, List.flatMap_singleton,
    List.getLast?_append_of_ne_nil _ (List.cons_ne_nil sep w), List.getLast?_cons_of_ne_nil hw]
  exact fun hlast => hsep (List.mem_of_getLast? hlast)

end Text

namespace DynamicObject

open Text

/-- What is left of a text in the middle of a run, and after a separator. -/
lemma squeeze_eq {cs first : List Char} {others : List (List Char)}
    (h : cs.splitOnP (fun c => !isNameChar c) = first :: others) :
    squeeze false cs = first ++ (others.filter (!·.isEmpty)).flatMap ('_' :: ·) ∧
      squeeze true cs = ((first :: others).filter (!·.isEmpty)).flatMap ('_' :: ·) := by
  -- the induction takes both states at once, since each leads into the other
  induction cs generalizing first others with
  | nil =>
    cases h
    exact ⟨rfl, rfl⟩
  | cons c cs ih =>
    obtain ⟨first', others', hsplit⟩ := exists_splitOnP_eq_cons isNameChar cs
    obtain ⟨hwithin, hafter⟩ := ih hsplit
    rw [splitOnP_cons_of_eq hsplit] at h
    by_cases hc : isNameChar c
    · rw [if_pos hc] at h
      cases h
      simp [squeeze, hc, hwithin]
    · rw [if_neg hc] at h
      cases h
      simp [squeeze, hc, hafter]

/-- The runs of letters and digits of the text about a resource. -/
def nameRuns (r : Resource) : List (List Char) :=
  runs isNameChar (rawName r).toList

/-- The runs have no underscores and are not empty. -/
lemma of_mem_nameRuns {r : Resource} {run : List Char} (h : run ∈ nameRuns r) :
    '_' ∉ run ∧ run ≠ [] := by
  obtain ⟨hne, htest⟩ := of_mem_runs h
  refine ⟨fun hmem => ?_, hne⟩
  exact absurd (htest '_' hmem) (by decide)

/-- There is a run, because the name of the method is part of the text. -/
lemma nameRuns_ne_nil (r : Resource) : nameRuns r ≠ [] := by
  obtain ⟨c, hmem, hc⟩ : ∃ c ∈ r.request.method.lowerName.toList, isNameChar c = true := by
    cases r.request.method <;> exact ⟨_, List.mem_cons_self, by decide⟩
  refine runs_ne_nil (c := c) ?_ hc
  simp [rawName, hmem]

/-- The name of a placeholder is made of runs after underscores. -/
lemma toList_name_ofResource (r : Resource) (isWriter : Bool) :
    (ofResource r isWriter).name.toList = (nameRuns r).flatMap ('_' :: ·) := by
  have hne := nameRuns_ne_nil r
  rw [nameRuns, ← runs_dropWhile] at hne ⊢
  rw [ofResource, String.toList_ofList]
  cases hrest : (rawName r).toList.dropWhile fun c => !isNameChar c with
  | nil =>
    rw [hrest] at hne
    exact absurd rfl hne
  | cons c rest =>
    have hc : isNameChar c = true := by
      have hhead := List.head?_dropWhile_not (fun c => !isNameChar c) (rawName r).toList
      rw [hrest] at hhead
      simpa using hhead
    obtain ⟨first, others, hsplit⟩ := exists_splitOnP_eq_cons isNameChar rest
    have hcons := splitOnP_cons_of_eq (c := c) hsplit
    rw [if_pos hc] at hcons
    rw [runs, hcons, (squeeze_eq hcons).1]
    rfl

/-- The name of a placeholder is an underscore before the runs of letters and digits of the text
about the resource, which are joined by single underscores.  No two underscores touch, and none is
at the end, so two resources have placeholders of the same name exactly if the runs are the same. -/
theorem name_ofResource_runs (r r' : Resource) (isWriter isWriter' : Bool) :
    (ofResource r isWriter).name = "_" ++ "_".intercalate ((nameRuns r).map String.ofList) ∧
      ¬['_', '_'] <:+: (ofResource r isWriter).name.toList ∧
      (ofResource r isWriter).name.toList.getLast? ≠ some '_' ∧
      ((ofResource r isWriter).name = (ofResource r' isWriter').name ↔ nameRuns r = nameRuns r') := by
  have hname := toList_name_ofResource r isWriter
  have hname' := toList_name_ofResource r' isWriter'
  have hruns : ∀ run ∈ nameRuns r, '_' ∉ run ∧ run ≠ [] := fun _ => of_mem_nameRuns
  have hruns' : ∀ run ∈ nameRuns r', '_' ∉ run ∧ run ≠ [] := fun _ => of_mem_nameRuns
  refine ⟨String.toList_injective ?_, ?_, ?_, ?_⟩
  · rw [hname, ← cons_intercalate (nameRuns_ne_nil r), String.toList_append,
      String.toList_intercalate, List.map_map]
    simp
  · -- runs are not empty, so no separator follows another one
    rintro ⟨before, after, heq⟩
    have hchain := isChain_flatMap_cons hruns
    rw [← hname, ← heq, List.isChain_append, List.isChain_append] at hchain
    exact (List.isChain_cons_cons.mp hchain.1.2.1).1 ⟨rfl, rfl⟩
  · rw [hname]
    exact getLast?_flatMap_cons (nameRuns_ne_nil r) hruns
  · rw [← String.toList_inj, hname, hname']
    constructor
    · intro heq
      rw [← pieces_flatMap_cons hruns, heq, pieces_flatMap_cons hruns']
    · exact fun heq => congrArg _ heq

/-- Braces and brackets separate runs just as slashes do. -/
example :
    (ofResource (.situated .input ⟨"/stores/{storeId}/items", .put, none⟩
      (.ofPlace (.ofPointer "/item/[0]/id")) .camelCase .string) true).name =
      "_stores_storeId_items_put_item_0_id" := by
  decide +kernel

end DynamicObject

end RestFlow

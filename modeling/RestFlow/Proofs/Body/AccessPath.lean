import Mathlib.Data.List.Basic
import Mathlib.Tactic.Lemma
import RestFlow.Body.AccessPath

/-!
# Pointers and initial parts of access paths

A pointer names its path when no segment could be mistaken for something else: `AccessPath.Plain`
says that every segment is a non-empty text without slashes.  Reading the pointer of such a path
gives the path back (`ofPointer_pointer`), so plain paths with one pointer are one path
(`Plain.eq_of_pointer_eq`).

Of two lists of segments, `sharedLength` is the length of the longest initial part of both
(`isPrefix_iff_length_le`).
-/

namespace RestFlow

namespace Text

variable {sep : Char}

/-- A piece without separators is read up to the end of the text that follows it. -/
lemma cut_append {w : List Char} (h : sep ∉ w) (rest : List Char) :
    cut sep (w ++ rest) = (w ++ (cut sep rest).1, (cut sep rest).2) := by
  induction w with
  | nil => rfl
  | cons c w ih =>
    rw [List.mem_cons, not_or] at h
    simp [cut, ih h.2, Ne.symm h.1]

/-- Pieces that follow a separator each are cut off before the text that follows them, if this
starts with a separator. -/
lemma cut_flatMap_cons_append {ws : List (List Char)} (h : ∀ w ∈ ws, sep ∉ w) {rest : List Char}
    (hrest : (cut sep rest).1 = []) :
    cut sep (ws.flatMap (sep :: ·) ++ rest) = ([], ws ++ (cut sep rest).2) := by
  induction ws with
  | nil => exact Prod.ext hrest rfl
  | cons w ws ih =>
    have hw := cut_append (h w List.mem_cons_self) (ws.flatMap (sep :: ·) ++ rest)
    rw [ih fun v hv => h v (List.mem_cons_of_mem w hv), List.append_nil] at hw
    rw [List.flatMap_cons, List.append_assoc, List.cons_append, cut, hw]
    simp

/-- The pieces of a text that starts with non-empty pieces after separators are these and those of
the rest. -/
lemma pieces_flatMap_cons_append {ws : List (List Char)} (h : ∀ w ∈ ws, sep ∉ w ∧ w ≠ [])
    {rest : List Char} (hrest : (cut sep rest).1 = []) :
    pieces sep (ws.flatMap (sep :: ·) ++ rest) = ws ++ pieces sep rest := by
  have hcut := cut_flatMap_cons_append (fun w hw => (h w hw).1) hrest
  have hfilter : ws.filter (fun w => !w.isEmpty) = ws :=
    List.filter_eq_self.mpr fun w hw => by simp [(h w hw).2]
  rw [pieces, pieces, hcut]
  simp [hrest, hfilter]

/-- The pieces of a text that is made of non-empty pieces after separators are these. -/
lemma pieces_flatMap_cons {ws : List (List Char)} (h : ∀ w ∈ ws, sep ∉ w ∧ w ≠ []) :
    pieces sep (ws.flatMap (sep :: ·)) = ws := by
  have hpieces : pieces sep (ws.flatMap (sep :: ·) ++ []) = ws ++ pieces sep [] :=
    pieces_flatMap_cons_append h rfl
  rwa [List.append_nil, pieces_nil, List.append_nil] at hpieces

/-- A separator before each piece is one in front and one between any two. -/
lemma cons_intercalate {ws : List (List Char)} (h : ws ≠ []) :
    sep :: [sep].intercalate ws = ws.flatMap (sep :: ·) := by
  induction ws with
  | nil => exact absurd rfl h
  | cons w rest ih =>
    cases rest with
    | nil => simp
    | cons next rest =>
      rw [List.intercalate_cons_cons, List.flatMap_cons, ← ih (List.cons_ne_nil next rest)]
      simp

/-- A text is cut into the non-empty pieces that it was made of. -/
lemma pieces_intercalate {ws : List (List Char)} (h : ∀ w ∈ ws, sep ∉ w ∧ w ≠ []) :
    pieces sep ([sep].intercalate ws) = ws := by
  have hfront : ∀ cs, pieces sep (sep :: cs) = pieces sep cs := by
    intro cs
    simp [pieces, cut]
  cases ws with
  | nil => rfl
  | cons w rest =>
    rw [← hfront, cons_intercalate (List.cons_ne_nil w rest), pieces_flatMap_cons h]

/-- The characters of a text with separators between its pieces. -/
lemma mem_intercalate {c : Char} {ws : List (List Char)} (h : c ∈ [sep].intercalate ws) :
    c = sep ∨ ∃ w ∈ ws, c ∈ w := by
  cases ws with
  | nil => cases h
  | cons w rest =>
    have hmem : c ∈ (w :: rest).flatMap (sep :: ·) := by
      rw [← cons_intercalate (List.cons_ne_nil w rest)]
      exact List.mem_cons_of_mem sep h
    obtain ⟨v, hv, hc⟩ := List.mem_flatMap.mp hmem
    exact (List.mem_cons.mp hc).imp_right fun hc => ⟨v, hv, hc⟩

end Text

namespace AccessPath

/-- The text is not empty and has no slash in it. -/
def IsPlainSegment (segment : String) : Prop :=
  segment ≠ "" ∧ '/' ∉ segment.toList

/-- Every segment is a non-empty text without slashes. -/
def Plain (p : AccessPath) : Prop :=
  ∀ segment ∈ p.segments, IsPlainSegment segment

/-- The characters of a pointer are those of the segments, each after a slash. -/
lemma toList_pointer (p : AccessPath) :
    p.pointer.toList = (p.segments.map String.toList).flatMap ('/' :: ·) := by
  rw [pointer, String.toList_join]
  induction p.segments with
  | nil => rfl
  | cons s rest ih => simpa using ih

/-- The segments of a plain path are pieces between slashes. -/
lemma Plain.forall_toList {p : AccessPath} (h : p.Plain) :
    ∀ w ∈ p.segments.map String.toList, '/' ∉ w ∧ w ≠ [] := by
  intro w hw
  obtain ⟨s, hs, rfl⟩ := List.mem_map.mp hw
  exact ⟨(h s hs).2, mt String.toList_eq_nil_iff.mp (h s hs).1⟩

/-- Segments are made of their characters. -/
lemma map_ofList_segments (p : AccessPath) :
    (p.segments.map String.toList).map String.ofList = p.segments := by
  have hid : String.ofList ∘ String.toList = id := funext fun s => String.ofList_toList
  rw [List.map_map, hid, List.map_id]

/-- Reading the pointer of a plain path gives the path. -/
theorem ofPointer_pointer {p : AccessPath} (h : p.Plain) : ofPointer p.pointer = p := by
  rw [ofPointer, Text.piecesOf, toList_pointer, Text.pieces_flatMap_cons h.forall_toList,
    map_ofList_segments]

/-- Plain paths with the same pointer are equal. -/
theorem Plain.eq_of_pointer_eq {p q : AccessPath} (hp : p.Plain) (hq : q.Plain)
    (h : p.pointer = q.pointer) : p = q := by
  rw [← ofPointer_pointer hp, h, ofPointer_pointer hq]

lemma plain_root : root.Plain := by
  simp [Plain]

/-- A plain path stays plain when a plain segment is added. -/
lemma Plain.child {p : AccessPath} (hp : p.Plain) {segment : String}
    (h : IsPlainSegment segment) : (p.child segment).Plain := by
  intro s hs
  rw [segments_child, List.mem_append, List.mem_singleton] at hs
  rcases hs with hs | rfl
  · exact hp s hs
  · exact h

lemma isPlainSegment_arrayMarker : IsPlainSegment arrayMarker := by
  constructor <;> decide

/-! ## Initial parts -/

/-- An initial part of a path is the path itself or an ancestor of it. -/
lemma isPrefix_iff {p q : AccessPath} :
    p.segments <+: q.segments ↔ p = q ∨ p.isAncestorOf q = true := by
  constructor
  · intro h
    rcases Nat.lt_or_ge p.segments.length q.segments.length with hlt | hge
    · right
      rw [isAncestorOf, Bool.and_eq_true, decide_eq_true_eq]
      exact ⟨hlt, List.isPrefixOf_iff_prefix.mpr h⟩
    · left
      have hsegments := h.eq_of_length (Nat.le_antisymm h.length_le hge)
      cases p
      cases q
      exact congrArg AccessPath.mk hsegments
  · rintro (rfl | h)
    · exact List.prefix_rfl
    · rw [isAncestorOf, Bool.and_eq_true] at h
      exact List.isPrefixOf_iff_prefix.mp h.2

/-- The test for paths that are neither a given one nor ancestors of it. -/
lemma bne_and_not_isAncestorOf_iff {p q : AccessPath} :
    (p != q && !p.isAncestorOf q) = true ↔ ¬p.segments <+: q.segments := by
  rw [isPrefix_iff, not_or, Bool.and_eq_true, bne_iff_ne, Bool.not_eq_true', Bool.not_eq_true]

/-- Two lists share no more than the second one has. -/
lemma sharedLength_le (as bs : List String) : sharedLength as bs ≤ bs.length := by
  induction as generalizing bs with
  | nil => exact Nat.zero_le _
  | cons a as ih =>
    cases bs with
    | nil => exact Nat.zero_le _
    | cons b bs =>
      rw [sharedLength]
      split
      · exact Nat.succ_le_succ (ih bs)
      · exact Nat.zero_le _

/-- An initial part of one list is one of another if it is no longer than what the two share. -/
lemma isPrefix_iff_length_le {common as bs : List String} (h : common <+: bs) :
    common <+: as ↔ common.length ≤ sharedLength as bs := by
  induction common generalizing as bs with
  | nil => simp
  | cons segment common ih =>
    obtain ⟨rest, rfl⟩ := h
    cases as with
    | nil => simp [sharedLength]
    | cons a as =>
      rw [List.cons_append, sharedLength, List.cons_prefix_cons, List.length_cons]
      by_cases hsegment : segment = a
      · rw [if_pos hsegment.symm, ih (List.prefix_append common rest)]
        simp [hsegment]
      · rw [if_neg fun ha => hsegment ha.symm]
        simp [hsegment]

end AccessPath

end RestFlow

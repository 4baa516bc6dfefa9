import Mathlib.Data.List.Infix
import Mathlib.Tactic.Lemma
import RestFlow.Naming.TypeName
import RestFlow.Proofs.Naming.CamelCase

/-!
# Singulars and types

The singular of a word is final, and it is the type of what a collection of this name holds.
-/

namespace RestFlow

/-!
## Singular forms are final

A word either keeps its ending or loses a plural one (`Naming.singularByEnding_eq_or`), and what is
left of it then does not end in a single `s` (`Naming.LosesPlural.not_endsInSingleS`). Words that do
not end so keep their endings (`Naming.singular_eq_self`), so that a singular has no other singular.
All that is dropped are letters of one byte, so a singular takes no more bytes than its plural, and
the last two bytes of a word that loses `es` are these two letters (`Naming.singular_eq_extract`).
-/

namespace Naming

variable {w r stem ending : List Char}

/-! ### Endings -/

/-- The word ends in an `s`, but not in two. -/
def EndsInSingleS (w : List Char) : Prop :=
  w.getLast? = some 's' ∧ w.dropLast.getLast? ≠ some 's'
  deriving Decidable

/-- The longer endings, of which `es` is dropped. -/
def esEndings : List String :=
  ["sses", "shes", "ches", "xes", "zes"]

/-- The word loses a plural ending. -/
inductive LosesPlural : List Char → List Char → Prop where
  | ies {stem : List Char} (h : stem ≠ []) : LosesPlural (stem ++ "ies".toList) (stem ++ ['y'])
  | es {stem : List Char} (hne : stem ≠ []) (h : ¬EndsInSingleS stem) :
    LosesPlural (stem ++ "es".toList) stem
  | s {stem : List Char} (h : stem.getLast? ≠ some 's') : LosesPlural (stem ++ ['s']) stem

/-- The last letter and the one before it decide. -/
lemma endsInSingleS_concat {c : Char} :
    EndsInSingleS (stem ++ [c]) ↔ c = 's' ∧ stem.getLast? ≠ some 's' := by
  simp [EndsInSingleS]

/-- What stands before an ending with two `s` or with another letter makes no difference. -/
lemma not_endsInSingleS_append (hne : ending ≠ []) (h : ¬EndsInSingleS ending)
    (front : List Char) : ¬EndsInSingleS (front ++ ending) := by
  obtain ⟨init, c, rfl⟩ := (List.eq_nil_or_concat ending).resolve_left hne
  rw [List.concat_eq_append, endsInSingleS_concat] at h
  rw [List.concat_eq_append, ← List.append_assoc, endsInSingleS_concat]
  rintro ⟨rfl, hlast⟩
  have hinit : init.getLast? = some 's' := by
    by_contra hinit
    exact h ⟨rfl, hinit⟩
  exact hlast (by simp [hinit])

namespace LosesPlural

/-- Only words that end in a single `s` lose an ending. -/
lemma endsInSingleS (h : LosesPlural w r) : EndsInSingleS w := by
  cases h with
  | @ies stem _ =>
    rw [show stem ++ "ies".toList = (stem ++ ['i', 'e']) ++ ['s'] by simp, endsInSingleS_concat]
    simp
  | @es _ _ _ =>
    rw [show r ++ "es".toList = (r ++ ['e']) ++ ['s'] by simp, endsInSingleS_concat]
    simp
  | s h => exact endsInSingleS_concat.mpr ⟨rfl, h⟩

/-- What is left does not end in a single `s`. -/
lemma not_endsInSingleS (h : LosesPlural w r) : ¬EndsInSingleS r := by
  cases h with
  | ies _ => exact not_endsInSingleS_append (List.cons_ne_nil _ _) (by decide) _
  | es _ h => exact h
  | s h => exact fun hsingle => h hsingle.1

/-- Something is left, unless the word is just an `s`. -/
lemma ne_nil (h : LosesPlural w r) (hs : w ≠ ['s']) : r ≠ [] := by
  cases h with
  | ies _ => exact List.append_ne_nil_of_right_ne_nil _ (List.cons_ne_nil _ _)
  | es hne _ => exact hne
  | s _ =>
    rintro rfl
    exact hs rfl

/-- What is left is made of characters of the word, and maybe a `y`. -/
lemma mem_or_eq {c : Char} (h : LosesPlural w r) (hc : c ∈ r) : c ∈ w ∨ c = 'y' := by
  cases h with
  | ies _ => exact (List.mem_append.mp hc).imp (List.mem_append_left _) List.mem_singleton.mp
  | es _ _ => exact .inl (List.mem_append_left _ hc)
  | s _ => exact .inl (List.mem_append_left _ hc)

/-- What is left takes no more bytes than the word. -/
lemma utf8ByteSize_le (h : LosesPlural w r) :
    (String.ofList r).utf8ByteSize ≤ (String.ofList w).utf8ByteSize := by
  cases h with
  | ies _ =>
    rw [String.ofList_append, String.ofList_append, String.utf8ByteSize_append,
      String.utf8ByteSize_append]
    exact Nat.add_le_add_left (by decide) _
  | es _ _ =>
    rw [String.ofList_append, String.utf8ByteSize_append]
    exact Nat.le_add_right _ _
  | s _ =>
    rw [String.ofList_append, String.utf8ByteSize_append]
    exact Nat.le_add_right _ _

end LosesPlural

/-! ### Singulars by ending -/

/-- A word ends in what it was cut off from. -/
lemma eq_append_of_stem? (h : stem? ending w = some stem) : w = stem ++ ending := by
  unfold stem? at h
  split at h
  · rename_i hsuffix
    obtain ⟨front, rfl⟩ := List.isSuffixOf_iff_suffix.mp hsuffix
    rw [← Option.some.inj h]
    simp
  · cases h

/-- The longer endings go on with `es` after letters that are no single `s`. -/
lemma exists_stem_of_mem_esEndings {e : String} (he : e ∈ esEndings) :
    ∃ init, e.toList = init ++ "es".toList ∧ init ≠ [] ∧ ¬EndsInSingleS init := by
  have hall : ∀ e ∈ esEndings, e.toList = e.toList.take (e.length - 2) ++ "es".toList ∧
      e.toList.take (e.length - 2) ≠ [] ∧ ¬EndsInSingleS (e.toList.take (e.length - 2)) := by
    decide
  exact ⟨_, hall e he⟩

/-- A word with one of the longer endings is made of its stem and `es`. -/
lemma exists_stem_of_esEnding {e : String} (he : e ∈ esEndings) (h : e.toList <:+ w) :
    ∃ stem, w = stem ++ "es".toList ∧ stem ≠ [] ∧ ¬EndsInSingleS stem := by
  obtain ⟨front, rfl⟩ := h
  obtain ⟨init, hinit, hne, hsingle⟩ := exists_stem_of_mem_esEndings he
  refine ⟨front ++ init, ?_, List.append_ne_nil_of_right_ne_nil _ hne,
    not_endsInSingleS_append hne hsingle front⟩
  rw [hinit, List.append_assoc]

/-- The last two letters of a word are dropped with `es`. -/
lemma take_append_es (stem : List Char) :
    (stem ++ "es".toList).take ((stem ++ "es".toList).length - 2) = stem := by
  have htwo : "es".toList.length = 2 := rfl
  rw [List.length_append, htwo, Nat.add_sub_cancel, List.take_left]

/-- A word keeps its ending or loses a plural one. -/
theorem singularByEnding_eq_or (w : List Char) :
    singularByEnding w = w ∨ LosesPlural w (singularByEnding w) := by
  unfold singularByEnding
  split
  · rename_i c stem hstem
    rw [eq_append_of_stem? hstem]
    exact .inr (.ies (List.cons_ne_nil c stem))
  · split
    · rename_i hany
      obtain ⟨e, he, hsuffix⟩ := List.any_eq_true.mp hany
      obtain ⟨stem, rfl, hne, hsingle⟩ :=
        exists_stem_of_esEnding he (List.isSuffixOf_iff_suffix.mp hsuffix)
      rw [take_append_es]
      exact .inr (.es hne hsingle)
    · split
      · exact .inl rfl
      · rename_i hkept
        cases hstem : stem? ['s'] w with
        | none => exact .inl rfl
        | some stem =>
          obtain rfl := eq_append_of_stem? hstem
          refine .inr (.s fun hlast => hkept ?_)
          -- a second `s` is one of the endings that are kept
          obtain ⟨init, rfl⟩ := List.getLast?_eq_some_iff.mp hlast
          refine List.any_eq_true.mpr ⟨"ss", List.mem_cons_self, ?_⟩
          rw [List.isSuffixOf_iff_suffix, List.append_assoc]
          exact List.suffix_append _ _

/-- With one of the longer endings, a word loses `es`. -/
lemma singularByEnding_of_esEnding {e : String} (he : e ∈ esEndings)
    (h : e.toList <:+ stem ++ "es".toList) : singularByEnding (stem ++ "es".toList) = stem := by
  unfold singularByEnding
  split
  · rename_i c before hstem
    -- the ending would end in `ies`
    have hies : "ies".toList <:+ stem ++ "es".toList :=
      ⟨c :: before, (eq_append_of_stem? hstem).symm⟩
    have hall : ∀ e ∈ esEndings, "ies".toList.length ≤ e.toList.length ∧
        ¬"ies".toList <:+ e.toList := by decide
    obtain ⟨hlength, hno⟩ := hall e he
    exact absurd (List.suffix_of_suffix_length_le hies h hlength) hno
  · have hany : esEndings.any (fun e => e.toList.isSuffixOf (stem ++ "es".toList)) = true :=
      List.any_eq_true.mpr ⟨e, he, List.isSuffixOf_iff_suffix.mpr h⟩
    exact (if_pos hany).trans (take_append_es stem)

/-! ### Singulars -/

/-- A word stays as it is, or it has more than two bytes and loses a plural ending. -/
lemma singular_eq_or (word : String) :
    singular word = word ∨
      2 < word.utf8ByteSize ∧ LosesPlural word.toList (singular word).toList := by
  unfold singular
  split
  · exact .inl rfl
  · rename_i hlong
    rw [Bool.or_eq_true, not_or, decide_eq_true_eq, decide_eq_true_eq, Nat.not_le] at hlong
    rcases singularByEnding_eq_or word.toList with hkept | hlost
    · rw [hkept, String.ofList_toList]
      exact .inl rfl
    · rw [String.toList_ofList]
      exact .inr ⟨hlong.2, hlost⟩

lemma singular_eq_self {word : String} (h : ¬EndsInSingleS word.toList) : singular word = word :=
  (singular_eq_or word).resolve_right fun ⟨_, hlost⟩ => h hlost.endsInSingleS

/-- A singular has no other singular. -/
theorem singular_singular (word : String) : singular (singular word) = singular word := by
  rcases singular_eq_or word with hkept | ⟨-, hlost⟩
  · rw [hkept, hkept]
  · exact singular_eq_self hlost.not_endsInSingleS

/-- A singular takes no more bytes than its plural. -/
lemma utf8ByteSize_singular_le (word : String) :
    (singular word).utf8ByteSize ≤ word.utf8ByteSize := by
  rcases singular_eq_or word with hkept | ⟨-, hlost⟩
  · rw [hkept]
  · simpa using hlost.utf8ByteSize_le

/-- Something is left of a word. -/
lemma singular_ne_empty {word : String} (h : word ≠ "") : singular word ≠ "" := by
  rcases singular_eq_or word with hkept | ⟨hlong, hlost⟩
  · rwa [hkept]
  · refine mt String.toList_eq_nil_iff.mpr (hlost.ne_nil fun hs => ?_)
    rw [show word = "s" from String.toList_injective hs] at hlong
    exact absurd hlong (by decide)

/-- A word with one of the longer endings is its singular and `es`. -/
lemma eq_singular_append {word e : String} (he : e ∈ esEndings) (h : e.toList <:+ word.toList) :
    word = singular word ++ "es" := by
  -- words that never change have none of these endings, and all endings are long enough
  have hchanging : word ∉ unchangingWords := by
    have hall : ∀ word ∈ unchangingWords, ∀ e ∈ esEndings, ¬e.toList <:+ word.toList := by decide
    exact fun hmem => hall word hmem e he h
  have hlong : ¬word.utf8ByteSize ≤ 2 := by
    have hall : ∀ e ∈ esEndings, 2 < e.utf8ByteSize := by decide
    obtain ⟨front, hfront⟩ := h
    have hword : word = String.ofList front ++ e := by
      refine String.toList_injective ?_
      rw [String.toList_append, String.toList_ofList, hfront]
    have hsize := hall e he
    rw [hword, String.utf8ByteSize_append]
    omega
  obtain ⟨stem, hstem, -, -⟩ := exists_stem_of_esEnding he h
  have hsingular : singular word = String.ofList stem := by
    rw [hstem] at h
    rw [singular, if_neg (by simp [hchanging, hlong]), hstem, singularByEnding_of_esEnding he h]
  refine String.toList_injective ?_
  rw [hsingular, String.toList_append, String.toList_ofList, hstem]

/-- The two bytes that a word with one of the longer endings loses start with a character. -/
theorem singular_eq_extract {word e : String} (he : e ∈ esEndings) (h : e.toList <:+ word.toList) :
    String.Pos.Raw.IsValid word ⟨word.utf8ByteSize - 2⟩ ∧
      (singular word).toByteArray = word.toByteArray.extract 0 (word.utf8ByteSize - 2) := by
  have hword := eq_singular_append he h
  generalize singular word = short at hword ⊢
  subst hword
  have hes : "es".utf8ByteSize = 2 := rfl
  rw [String.utf8ByteSize_append, hes, Nat.add_sub_cancel]
  constructor
  · exact String.Pos.Raw.isValid_iff_exists_append.mpr ⟨short, "es", rfl, rfl⟩
  · rw [String.toByteArray_append]
    exact (ByteArray.extract_append_eq_left String.size_toByteArray.symm).symm

lemma endsWith_iff_suffix {word e : String} :
    word.endsWith e = true ↔ e.toList <:+ word.toList := by
  rw [String.endsWith_eq_endsWith_toSlice, String.Slice.endsWith_string_iff, String.copy_toSlice]

/-- A singular is its own singular.  It takes no more bytes than the word, is not empty unless the
word is, and is another word only if that one ends in an `s`.  Where two bytes are dropped, they
start with a character. -/
theorem singular_final (word : String) :
    singular (singular word) = singular word ∧
      (singular word).utf8ByteSize ≤ word.utf8ByteSize ∧
      (word ≠ "" → singular word ≠ "") ∧
      (singular word ≠ word → word.endsWith "s" = true) ∧
      ∀ ending ∈ esEndings, word.endsWith ending = true →
        String.Pos.Raw.IsValid word ⟨word.utf8ByteSize - 2⟩ ∧
          (singular word).toByteArray = word.toByteArray.extract 0 (word.utf8ByteSize - 2) := by
  refine ⟨singular_singular word, utf8ByteSize_singular_le word, singular_ne_empty, fun hne => ?_,
    fun ending he h => singular_eq_extract he (endsWith_iff_suffix.mp h)⟩
  have hsingle : EndsInSingleS word.toList := by
    by_contra hsingle
    exact hne (singular_eq_self hsingle)
  obtain ⟨init, hinit⟩ := List.getLast?_eq_some_iff.mp hsingle.1
  rw [endsWith_iff_suffix, hinit]
  exact List.suffix_append init _

/-- Of `boxes` the last two bytes are dropped, and `box` stays as it is. -/
theorem singular_final_boxes :
    "boxes".endsWith "xes" = true ∧ String.Pos.Raw.IsValid "boxes" ⟨3⟩ ∧
      singular (singular "boxes") = "box" := by
  have hxes : "boxes".endsWith "xes" = true := by
    rw [endsWith_iff_suffix]
    decide
  obtain ⟨hfinal, -, -, -, hslice⟩ := singular_final "boxes"
  refine ⟨hxes, (hslice "xes" (by decide) hxes).1, hfinal.trans ?_⟩
  decide

end Naming

/-!
## Type names of items

A collection whose name is a word holds items of one type, the singular of this word
(`Naming.candidateTypes_word`), which is a word again (`Naming.IsWord.singular`). If a name in camel
case starts with the type, the rest of its words is the name that a producer is expected to give the
value (`Naming.producerParameter_join`).
-/

namespace Naming

variable {w : String}

/-- The singular of a word is a word. -/
lemma IsWord.singular (h : IsWord w) : IsWord (singular w) := by
  refine ⟨singular_ne_empty h.ne_empty, fun c hc => ?_⟩
  rcases singular_eq_or w with hkept | ⟨-, hlost⟩
  · rw [hkept] at hc
    exact h.small c hc
  · rcases hlost.mem_or_eq hc with hc | rfl
    · exact h.small c hc
    · rfl

/-! ### The type and the name of a value -/

/-- A word is the only one of itself. -/
lemma split_infer_word (h : IsWord w) : (Convention.infer w).split w = [w] := by
  have hnone : ∀ v ∈ ([] : List String), IsHump v := fun _ => (nomatch ·)
  have hjoin : Convention.camelCase.join [w] = w := String.append_empty
  have hinfer := Convention.infer_join_camelCase h hnone
  have hsplit := Convention.split_join_camelCase h hnone
  rw [hjoin] at hinfer hsplit
  rw [hinfer, hsplit]

/-- What a collection holds is of the type that its name is the plural of. -/
theorem candidateTypes_word (h : IsWord w) (words : List String) :
    candidateTypes (some w) .camelCase false words = [singular w] := by
  have hwords : containerWords w = [singular w] := by
    rw [containerWords, split_infer_word h]
    rfl
  have hjoin : Convention.camelCase.join [singular w] = singular w := String.append_empty
  simp only [candidateTypes, hwords, List.isEmpty_cons, Bool.false_eq_true, if_false, hjoin]

/-- The name that a producer is expected to give a value lacks the type with which the name of the
consumer starts. -/
theorem producerParameter_join {ws : List String} (h : IsWord w) (hne : ws ≠ [])
    (hws : ∀ v ∈ ws, IsHump v) :
    producerParameter (Convention.camelCase.join (w :: ws)) .camelCase [w] =
      Convention.camelCase.join ws := by
  have hlonger : decide ((w :: ws).length > [w].length) = true :=
    decide_eq_true (Nat.succ_lt_succ (List.length_pos_of_ne_nil hne))
  have hstarts : [w].isPrefixOf (w :: ws) = true := List.isPrefixOf_iff_prefix.mpr ⟨ws, rfl⟩
  simp only [producerParameter, Convention.split_join_camelCase h hws, split_infer_word h,
    List.findSome?_cons, List.isEmpty_cons, Bool.not_false, Bool.true_and, hlonger, hstarts,
    if_true]
  rfl

end Naming

end RestFlow

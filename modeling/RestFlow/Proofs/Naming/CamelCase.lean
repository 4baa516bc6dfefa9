import Mathlib.Data.List.Basic
import Mathlib.Tactic.Lemma
import RestFlow.Naming.Convention
import RestFlow.Proofs.Body.AccessPath

/-!
# Names in camel case

A name that is joined in camel case from words of small letters and digits is read as these words
again (`Convention.split_join_camelCase`), and its convention is recognized
(`Convention.infer_join_camelCase`).  Every word but the first has to start with a letter, which
becomes the capital that marks its start, and to go on after it: of two capitals in a row the second
one need not start a word.

The words are cut from the end on.  Where a small character stands before a capital, the capital
starts a word (`Convention.humpsAfter_capitals`), and up to there the small characters belong to the
word before (`Convention.humpsAfter_append`).
-/

namespace RestFlow

/-! ## Small letters and digits -/

namespace Text

/-- A small ASCII letter or a digit. -/
def isSmall (c : Char) : Bool :=
  c.isLower || c.isDigit

/-- What is checked for all code points below 128 holds of every ASCII character. -/
lemma of_isAscii {P : Char → Prop} (h : ∀ n < 128, P (Char.ofNat n)) {c : Char}
    (hc : isAscii c = true) : P c := by
  have hn := h c.toNat (of_decide_eq_true hc)
  rwa [Char.ofNat_toNat] at hn

/-- What is not after an ASCII character is one. -/
lemma isAscii_of_le {c top : Char} (h : c.val ≤ top.val) (htop : isAscii top = true) :
    isAscii c = true :=
  decide_eq_true (Nat.lt_of_le_of_lt (UInt32.le_iff_toNat_le.mp h) (of_decide_eq_true htop))

/-- Letters and digits are ASCII characters. -/
lemma isAscii_of_isAlphanum {c : Char} (h : c.isAlphanum = true) : isAscii c = true := by
  rcases Bool.or_eq_true_iff.mp h with hletter | hdigit
  · rcases Bool.or_eq_true_iff.mp hletter with hcapital | hsmall
    · have hle : c.val ≤ 'Z'.val := (of_decide_eq_true hcapital).2
      exact isAscii_of_le hle rfl
    · have hle : c.val ≤ 'z'.val := of_decide_eq_true (Bool.and_eq_true_iff.mp hsmall).2
      exact isAscii_of_le hle rfl
  · have hle : c.val ≤ '9'.val := of_decide_eq_true (Bool.and_eq_true_iff.mp hdigit).2
    exact isAscii_of_le hle rfl

lemma isAlphanum_of_isSmall {c : Char} (h : isSmall c = true) : c.isAlphanum = true := by
  rw [isSmall, Bool.or_eq_true] at h
  exact Bool.or_eq_true_iff.mpr (h.imp_left fun hsmall => Bool.or_eq_true_iff.mpr (.inr hsmall))

/-- No letter or digit separates words or segments, or encloses the name of a parameter. -/
lemma notMem_separators {c : Char} (h : c.isAlphanum = true) :
    c ∉ ['-', '_', '/', '\x7b', '\x7d'] := by
  have hall : ∀ n < 128, (Char.ofNat n).isAlphanum = true →
      Char.ofNat n ∉ ['-', '_', '/', '\x7b', '\x7d'] := by decide
  exact of_isAscii (P := fun c => c.isAlphanum = true → c ∉ ['-', '_', '/', '\x7b', '\x7d']) hall
    (isAscii_of_isAlphanum h) h

/-- Small characters are no capitals, and they are what their lower case is. -/
lemma of_isSmall {c : Char} (h : isSmall c = true) :
    isUpper c = false ∧ (isLower c || c.isDigit) = true ∧ lowerChar c = [c] := by
  have hall : ∀ n < 128, isSmall (Char.ofNat n) = true →
      isUpper (Char.ofNat n) = false ∧ (isLower (Char.ofNat n) || (Char.ofNat n).isDigit) = true ∧
        lowerChar (Char.ofNat n) = [Char.ofNat n] := by decide
  exact of_isAscii (P := fun c => isSmall c = true → isUpper c = false ∧
    (isLower c || c.isDigit) = true ∧ lowerChar c = [c]) hall
    (isAscii_of_isAlphanum (isAlphanum_of_isSmall h)) h

/-- A small letter has a capital, whose lower case it is. -/
lemma of_isLower {c : Char} (h : c.isLower = true) :
    upperChar c = [c.toUpper] ∧ isUpper c.toUpper = true ∧ c.toUpper.isAlphanum = true ∧
      lowerChar c.toUpper = [c] := by
  have hall : ∀ n < 128, (Char.ofNat n).isLower = true →
      upperChar (Char.ofNat n) = [(Char.ofNat n).toUpper] ∧
        isUpper (Char.ofNat n).toUpper = true ∧ (Char.ofNat n).toUpper.isAlphanum = true ∧
        lowerChar (Char.ofNat n).toUpper = [Char.ofNat n] := by decide
  have hsmall : isSmall c = true := by rw [isSmall, h, Bool.true_or]
  exact of_isAscii (P := fun c => c.isLower = true → upperChar c = [c.toUpper] ∧
    isUpper c.toUpper = true ∧ c.toUpper.isAlphanum = true ∧ lowerChar c.toUpper = [c]) hall
    (isAscii_of_isAlphanum (isAlphanum_of_isSmall hsmall)) h

/-- The lower case of letters and digits is taken character by character. -/
lemma lower_of_isAlphanum {cs : List Char} (h : ∀ c ∈ cs, c.isAlphanum = true) :
    lower cs = cs.flatMap lowerChar := by
  refine lowerAfter_eq_flatMap fun hsigma => ?_
  have hascii := isAscii_of_isAlphanum (h _ hsigma)
  cases hascii

/-- Small characters are their own lower case. -/
lemma lower_of_isSmall {cs : List Char} (h : ∀ c ∈ cs, isSmall c = true) : lower cs = cs := by
  rw [lower_of_isAlphanum fun c hc => isAlphanum_of_isSmall (h c hc)]
  induction cs with
  | nil => rfl
  | cons c rest ih =>
    rw [List.flatMap_cons, (of_isSmall (h c List.mem_cons_self)).2.2,
      ih fun a ha => h a (List.mem_cons_of_mem c ha), List.singleton_append]

/-- A text without separators is in one piece. -/
lemma pieces_of_notMem {sep : Char} {cs : List Char} (hne : cs ≠ []) (h : sep ∉ cs) :
    pieces sep cs = [cs] := by
  have hcut := cut_append h []
  rw [List.append_nil] at hcut
  rw [pieces, hcut]
  simp [cut, hne]

end Text

/-! ## Words -/

namespace Naming

/-- A non-empty text of small letters and digits. -/
structure IsWord (w : String) : Prop where
  ne_empty : w ≠ ""
  small : ∀ c ∈ w.toList, Text.isSmall c = true

/-- A word of at least two characters that starts with a letter. -/
def IsHump (w : String) : Prop :=
  ∃ a b rest, w.toList = a :: b :: rest ∧ a.isLower = true ∧
    ∀ c ∈ b :: rest, Text.isSmall c = true

variable {w : String}

/-- Humps are words. -/
lemma IsHump.isWord (h : IsHump w) : IsWord w := by
  obtain ⟨a, b, rest, hw, ha, hrest⟩ := h
  constructor
  · rintro rfl
    cases hw
  · rw [hw]
    refine List.forall_mem_cons.mpr ⟨?_, hrest⟩
    rw [Text.isSmall, ha, Bool.true_or]

lemma IsWord.toList_ne_nil (h : IsWord w) : w.toList ≠ [] :=
  fun hnil => h.ne_empty (String.toList_eq_nil_iff.mp hnil)

lemma IsWord.lower (h : IsWord w) : String.ofList (Text.lower w.toList) = w := by
  rw [Text.lower_of_isSmall h.small, String.ofList_toList]

/-- A hump is written with a capital, after which small characters follow. -/
lemma IsHump.exists_capitalize (h : IsHump w) :
    ∃ capital tail, Text.capitalize w.toList = capital :: tail ∧ tail ≠ [] ∧
      Text.isUpper capital = true ∧ capital.isAlphanum = true ∧
      (∀ c ∈ tail, Text.isSmall c = true) ∧ Text.lowerChar capital ++ tail = w.toList := by
  obtain ⟨a, b, rest, hw, ha, hrest⟩ := h
  obtain ⟨hupper, hcapital, halphanum, hlower⟩ := Text.of_isLower ha
  refine ⟨a.toUpper, b :: rest, ?_, List.cons_ne_nil b rest, hcapital, halphanum, hrest, ?_⟩
  · rw [hw, Text.capitalize, hupper, List.singleton_append]
  · rw [hlower, hw, List.singleton_append]

/-- The lower case of a word that is written with a capital is the word. -/
lemma IsHump.lower_capitalize (h : IsHump w) :
    String.ofList (Text.lower (Text.capitalize w.toList)) = w := by
  obtain ⟨capital, tail, hcapitalize, -, -, halphanum, htail, hlower⟩ := h.exists_capitalize
  have hall : ∀ c ∈ capital :: tail, c.isAlphanum = true :=
    List.forall_mem_cons.mpr ⟨halphanum, fun c hc => Text.isAlphanum_of_isSmall (htail c hc)⟩
  have hself := Text.lower_of_isSmall htail
  rw [Text.lower_of_isAlphanum fun c hc => Text.isAlphanum_of_isSmall (htail c hc)] at hself
  rw [hcapitalize, Text.lower_of_isAlphanum hall, List.flatMap_cons, hself, hlower,
    String.ofList_toList]

end Naming

/-! ## Cutting at capitals -/

namespace Convention

open Naming Text

/-- Small characters belong to the word that they follow on, up to where the next word starts. -/
lemma humpsAfter_append {w tail : List Char} {others : List (List Char)}
    (hw : ∀ c ∈ w, isSmall c = true)
    (htail : ∀ b, isSmall b = true → humpsAfter b tail = ([], others)) {before : Char}
    (hbefore : isSmall before = true ∨ w ≠ []) :
    humpsAfter before (w ++ tail) = (w, others) := by
  induction w generalizing before with
  | nil => exact htail before (hbefore.resolve_right (· rfl))
  | cons c w ih =>
    have hc : isSmall c = true := hw c List.mem_cons_self
    have hrest := ih (fun a ha => hw a (List.mem_cons_of_mem c ha)) (.inl hc)
    rw [List.cons_append, humpsAfter, hrest, startsWord, (of_isSmall hc).1]
    rfl

/-- After a small character, words that are written with capitals are told apart. -/
lemma humpsAfter_capitals {ws : List String} (hws : ∀ w ∈ ws, IsHump w) {before : Char}
    (hbefore : isSmall before = true) :
    humpsAfter before (ws.flatMap fun w => capitalize w.toList) =
      ([], ws.map fun w => capitalize w.toList) := by
  induction ws generalizing before with
  | nil => rfl
  | cons w ws ih =>
    obtain ⟨capital, tail, hcapitalize, hne, hcapital, -, htail, -⟩ :=
      (hws w List.mem_cons_self).exists_capitalize
    have hrest : humpsAfter capital (tail ++ ws.flatMap fun w => capitalize w.toList) =
        (tail, ws.map fun w => capitalize w.toList) :=
      humpsAfter_append htail (fun b hb => ih (fun v hv => hws v (List.mem_cons_of_mem w hv)) hb)
        (.inr hne)
    -- a capital after a small character starts a word, whatever follows
    have hstarts : ∀ next, startsWord before capital next = true := by
      intro next
      rw [startsWord, hcapital, (of_isSmall hbefore).2.1]
      rfl
    rw [List.flatMap_cons, List.map_cons, hcapitalize, List.cons_append, humpsAfter, hrest]
    simp only [hstarts, if_true]

variable {w : String} {ws : List String}

/-- The characters of a name in camel case. -/
lemma toList_join_camelCase (w : String) (ws : List String) :
    (camelCase.join (w :: ws)).toList =
      w.toList ++ ws.flatMap fun v => capitalize v.toList := by
  rw [join, String.toList_append, String.toList_join, List.flatMap_map]
  simp only [capitalized, String.toList_ofList]

/-- Words that are written with capitals consist of letters and digits. -/
lemma isAlphanum_capitals (hws : ∀ v ∈ ws, IsHump v) :
    ∀ c ∈ ws.flatMap fun v => capitalize v.toList, c.isAlphanum = true := by
  intro c hc
  obtain ⟨v, hv, hc⟩ := List.mem_flatMap.mp hc
  obtain ⟨capital, tail, hcapitalize, -, -, halphanum, htail, -⟩ := (hws v hv).exists_capitalize
  rw [hcapitalize] at hc
  rcases List.mem_cons.mp hc with rfl | hc
  · exact halphanum
  · exact isAlphanum_of_isSmall (htail c hc)

/-- The lower case of words that are written with capitals are the words. -/
lemma map_lower_capitals (hws : ∀ v ∈ ws, IsHump v) :
    (ws.map fun v => capitalize v.toList).map (fun v => String.ofList (lower v)) = ws := by
  rw [List.map_map]
  conv_rhs => rw [← List.map_id ws]
  exact List.map_congr_left fun v hv => (hws v hv).lower_capitalize

/-- A name in camel case consists of letters and digits. -/
lemma isAlphanum_join_camelCase (hw : IsWord w) (hws : ∀ v ∈ ws, IsHump v) :
    ∀ c ∈ (camelCase.join (w :: ws)).toList, c.isAlphanum = true := by
  intro c hc
  rw [toList_join_camelCase, List.mem_append] at hc
  rcases hc with hc | hc
  · exact isAlphanum_of_isSmall (hw.small c hc)
  · exact isAlphanum_capitals hws c hc

/-- No separator is in a name in camel case. -/
lemma notMem_join_camelCase (hw : IsWord w) (hws : ∀ v ∈ ws, IsHump v) :
    ∀ sep ∈ ['-', '_', '/', '\x7b', '\x7d'], sep ∉ (camelCase.join (w :: ws)).toList :=
  fun sep hsep hmem => notMem_separators (isAlphanum_join_camelCase hw hws sep hmem) hsep

/-- A name in camel case is not empty. -/
lemma toList_join_camelCase_ne_nil (hw : IsWord w) (ws : List String) :
    (camelCase.join (w :: ws)).toList ≠ [] := by
  rw [toList_join_camelCase]
  exact List.append_ne_nil_of_left_ne_nil hw.toList_ne_nil _

/-- Reading a name that was joined in camel case gives the words back. -/
theorem split_join_camelCase (hw : IsWord w) (hws : ∀ v ∈ ws, IsHump v) :
    camelCase.split (camelCase.join (w :: ws)) = w :: ws := by
  have hne := toList_join_camelCase_ne_nil hw ws
  have hhyphens := pieces_of_notMem hne (notMem_join_camelCase hw hws '-' (by decide))
  have hunderscores := pieces_of_notMem hne (notMem_join_camelCase hw hws '_' (by decide))
  have hhumps : humps (camelCase.join (w :: ws)).toList =
      w.toList :: ws.map fun v => capitalize v.toList := by
    rw [toList_join_camelCase]
    obtain ⟨c, cs, hcs⟩ := List.exists_cons_of_ne_nil hw.toList_ne_nil
    have hsmall := hw.small
    rw [hcs] at hsmall ⊢
    have hrest : humpsAfter c (cs ++ ws.flatMap fun v => capitalize v.toList) =
        (cs, ws.map fun v => capitalize v.toList) :=
      humpsAfter_append (fun a ha => hsmall a (List.mem_cons_of_mem c ha))
        (fun b hb => humpsAfter_capitals hws hb) (.inl (hsmall c List.mem_cons_self))
    rw [List.cons_append, humps, hrest]
  rw [split, hhyphens, List.flatMap_singleton, chunkWords, hunderscores, List.flatMap_singleton,
    hhumps, List.map_cons, hw.lower, map_lower_capitals hws]

/-- The convention of a name in camel case is recognized. -/
theorem infer_join_camelCase (hw : IsWord w) (hws : ∀ v ∈ ws, IsHump v) :
    infer (camelCase.join (w :: ws)) = camelCase := by
  have hhead : ((camelCase.join (w :: ws)).toList.head?.any isUpper) = false := by
    rw [toList_join_camelCase]
    obtain ⟨c, cs, hcs⟩ := List.exists_cons_of_ne_nil hw.toList_ne_nil
    have hsmall := hw.small
    rw [hcs] at hsmall ⊢
    exact (of_isSmall (hsmall c List.mem_cons_self)).1
  unfold infer
  simp only [hhead, notMem_join_camelCase hw hws '_' (by decide),
    notMem_join_camelCase hw hws '-' (by decide), Bool.false_eq_true, if_false, ite_self]

end Convention

end RestFlow

import RestFlow.Naming.TypeName
import RestFlow.Proofs.Naming.TypeName
import RestFlow.Proofs.Request.Identity

/-!
# Spellings

What spellings of a name have in common: the words that are read again, and the letters that types
are compared by.
-/

namespace RestFlow

/-!
## Spellings of a name

A list of words can be spelled under every convention.  If every word starts with two small letters
and goes on with small letters and digits, each of the four spellings is read as the words again
(`Convention.split_join`), and of two words or more the convention can be told from the spelling
(`Convention.infer_join_or`).  So all spellings name one type (`Convention.join_faithful`).

The second letter is there for words that are written with capitals: it shows that the name is not
one run of capitals.  A single word looks the same with either separator, and as in camel case.
-/

namespace Text

lemma isLower_of_isLower {c : Char} (h : c.isLower = true) : isLower c = true := by
  have hsmall : isSmall c = true := by rw [isSmall, h, Bool.true_or]
  rw [isLower, if_pos (isAscii_of_isAlphanum (isAlphanum_of_isSmall hsmall)), h]

end Text

namespace Naming

/-- A word of small letters and digits that starts with two letters. -/
def IsPlainWord (w : String) : Prop :=
  ∃ a b rest, w.toList = a :: b :: rest ∧ a.isLower = true ∧ b.isLower = true ∧
    ∀ c ∈ rest, Text.isSmall c = true

variable {w : String}

/-- Plain words are humps. -/
lemma IsPlainWord.isHump (h : IsPlainWord w) : IsHump w := by
  obtain ⟨a, b, rest, hw, ha, hb, hrest⟩ := h
  refine ⟨a, b, rest, hw, ha, List.forall_mem_cons.mpr ⟨?_, hrest⟩⟩
  rw [Text.isSmall, hb, Bool.true_or]

lemma IsPlainWord.isWord (h : IsPlainWord w) : IsWord w :=
  h.isHump.isWord

/-- The lower case of words are the words. -/
lemma map_lower_words {ws : List String} (hws : ∀ w ∈ ws, IsWord w) :
    (ws.map String.toList).map (fun w => String.ofList (Text.lower w)) = ws := by
  rw [List.map_map]
  conv_rhs => rw [← List.map_id ws]
  exact List.map_congr_left fun w hw => (hws w hw).lower

end Naming

namespace Convention

open Naming Text

variable {w : String} {ws : List String}

/-! ### Words that start with capitals -/

/-- The characters of a name in Pascal case. -/
lemma toList_join_pascalCase (ws : List String) :
    (pascalCase.join ws).toList = ws.flatMap fun v => capitalize v.toList := by
  rw [join, String.toList_join, List.flatMap_map]
  simp only [capitalized, String.toList_ofList]

/-- Words that are all written with capitals are told apart. -/
lemma humps_capitals (hws : ∀ w ∈ ws, IsHump w) :
    humps (ws.flatMap fun v => capitalize v.toList) = ws.map fun v => capitalize v.toList := by
  cases ws with
  | nil => rfl
  | cons w ws =>
    obtain ⟨hw, hrest⟩ := List.forall_mem_cons.mp hws
    obtain ⟨capital, tail, hcapitalize, hne, -, -, htail, -⟩ := hw.exists_capitalize
    have hafter : humpsAfter capital (tail ++ ws.flatMap fun v => capitalize v.toList) =
        (tail, ws.map fun v => capitalize v.toList) :=
      humpsAfter_append htail (fun b hb => humpsAfter_capitals hrest hb) (.inr hne)
    rw [List.flatMap_cons, List.map_cons, hcapitalize, List.cons_append, humps, hafter]

/-- A name in Pascal case starts with a capital, and with a small letter after it. -/
lemma exists_join_pascalCase (hw : IsPlainWord w) (ws : List String) :
    ∃ capital small rest, (pascalCase.join (w :: ws)).toList = capital :: small :: rest ∧
      isUpper capital = true ∧ isLower small = true := by
  obtain ⟨a, b, rest, hlist, ha, hb, -⟩ := hw
  obtain ⟨hupper, hcapital, -, -⟩ := of_isLower ha
  refine ⟨a.toUpper, b, rest ++ ws.flatMap fun v => capitalize v.toList, ?_, hcapital,
    isLower_of_isLower hb⟩
  rw [toList_join_pascalCase, List.flatMap_cons, hlist, capitalize, hupper]
  rfl

/-- Reading a name that was joined in Pascal case gives the words back. -/
theorem split_join_pascalCase (hne : ws ≠ []) (hws : ∀ w ∈ ws, IsPlainWord w) :
    pascalCase.split (pascalCase.join ws) = ws := by
  have hhumps : ∀ w ∈ ws, IsHump w := fun w hw => (hws w hw).isHump
  have hnil : (pascalCase.join ws).toList ≠ [] := by
    obtain ⟨w, rest, rfl⟩ := List.exists_cons_of_ne_nil hne
    obtain ⟨_, _, _, hlist, -⟩ := exists_join_pascalCase (hws w List.mem_cons_self) rest
    rw [hlist]
    exact List.cons_ne_nil _ _
  have hseparators : ∀ sep ∈ ['-', '_', '/', '\x7b', '\x7d'],
      sep ∉ (pascalCase.join ws).toList := by
    intro sep hsep hmem
    rw [toList_join_pascalCase] at hmem
    exact notMem_separators (isAlphanum_capitals hhumps sep hmem) hsep
  have hhyphens := pieces_of_notMem hnil (hseparators '-' (by decide))
  have hunderscores := pieces_of_notMem hnil (hseparators '_' (by decide))
  rw [split, hhyphens, List.flatMap_singleton, chunkWords, hunderscores, List.flatMap_singleton,
    toList_join_pascalCase, humps_capitals hhumps, map_lower_capitals hhumps]

/-- The convention of a name in Pascal case is recognized. -/
theorem infer_join_pascalCase (hne : ws ≠ []) (hws : ∀ w ∈ ws, IsPlainWord w) :
    infer (pascalCase.join ws) = pascalCase := by
  obtain ⟨w, rest, rfl⟩ := List.exists_cons_of_ne_nil hne
  obtain ⟨capital, small, more, hlist, hcapital, hsmall⟩ :=
    exists_join_pascalCase (hws w List.mem_cons_self) rest
  unfold infer
  simp [hlist, hcapital, hsmall]

/-! ### Words between separators -/

lemma toList_join_hyphenated (ws : List String) :
    (hyphenated.join ws).toList = ['-'].intercalate (ws.map String.toList) :=
  String.toList_intercalate

lemma toList_join_underscored (ws : List String) :
    (underscored.join ws).toList = ['_'].intercalate (ws.map String.toList) :=
  String.toList_intercalate

/-- A text with separators between words is cut into the words. -/
lemma pieces_words {sep : Char} (hsep : sep ∈ ['-', '_', '/', '\x7b', '\x7d'])
    (hws : ∀ w ∈ ws, IsWord w) :
    pieces sep ([sep].intercalate (ws.map String.toList)) = ws.map String.toList := by
  refine pieces_intercalate fun cs hcs => ?_
  obtain ⟨w, hw, rfl⟩ := List.mem_map.mp hcs
  refine ⟨fun hmem => ?_, (hws w hw).toList_ne_nil⟩
  exact notMem_separators (isAlphanum_of_isSmall ((hws w hw).small sep hmem)) hsep

/-- Only the separator itself may be in a text in which it stands between words. -/
lemma notMem_intercalate_words {sep other : Char}
    (hother : other ∈ ['-', '_', '/', '\x7b', '\x7d']) (hne : other ≠ sep)
    (hws : ∀ w ∈ ws, IsWord w) : other ∉ [sep].intercalate (ws.map String.toList) := by
  intro hmem
  rcases mem_intercalate hmem with hsep | ⟨cs, hcs, hmem⟩
  · exact hne hsep
  · obtain ⟨w, hw, rfl⟩ := List.mem_map.mp hcs
    exact notMem_separators (isAlphanum_of_isSmall ((hws w hw).small other hmem)) hother

/-- Reading a name with hyphens between its words gives the words back. -/
theorem split_join_hyphenated (hws : ∀ w ∈ ws, IsWord w) :
    hyphenated.split (hyphenated.join ws) = ws := by
  have hchunks : (ws.map String.toList).flatMap hyphenated.chunkWords = ws.map String.toList :=
    List.flatMap_singleton' _
  rw [split, toList_join_hyphenated, pieces_words (by decide) hws, hchunks, map_lower_words hws]

/-- Reading a name with underscores between its words gives the words back. -/
theorem split_join_underscored (hne : ws ≠ []) (hws : ∀ w ∈ ws, IsWord w) :
    underscored.split (underscored.join ws) = ws := by
  have hpieces : pieces '_' (['_'].intercalate (ws.map String.toList)) = ws.map String.toList :=
    pieces_words (by decide) hws
  have hnil : ['_'].intercalate (ws.map String.toList) ≠ [] := by
    intro hnil
    rw [hnil, pieces_nil] at hpieces
    exact hne (List.map_eq_nil_iff.mp hpieces.symm)
  have hhyphens : '-' ∉ ['_'].intercalate (ws.map String.toList) :=
    notMem_intercalate_words (by decide) (by decide) hws
  rw [split, toList_join_underscored, pieces_of_notMem hnil hhyphens, List.flatMap_singleton,
    chunkWords, hpieces, map_lower_words hws]

/-- The convention of a name without capitals is decided by its separators. -/
lemma infer_of_isUpper_eq_false {s : String} (h : ∀ c ∈ s.toList, isUpper c = false) :
    infer s = if '_' ∈ s.toList then underscored else if '-' ∈ s.toList then hyphenated
      else camelCase := by
  have hcapitals : s.toList.any isUpper = false :=
    List.any_eq_false.mpr fun c hc => Bool.eq_false_iff.mp (h c hc)
  unfold infer
  simp only [hcapitals, Bool.false_and, Bool.false_eq_true, if_false]

/-- Neither separators nor words have capitals in them. -/
lemma isUpper_intercalate_words {sep : Char} (hsep : isUpper sep = false)
    (hws : ∀ w ∈ ws, IsWord w) :
    ∀ c ∈ [sep].intercalate (ws.map String.toList), isUpper c = false := by
  intro c hc
  rcases mem_intercalate hc with rfl | ⟨cs, hcs, hc⟩
  · exact hsep
  · obtain ⟨w, hw, rfl⟩ := List.mem_map.mp hcs
    exact (of_isSmall ((hws w hw).small c hc)).1

/-- The convention of a name with separators is recognized. -/
theorem infer_join_separated {v : String} (hws : ∀ u ∈ w :: v :: ws, IsWord u) :
    infer (hyphenated.join (w :: v :: ws)) = hyphenated ∧
      infer (underscored.join (w :: v :: ws)) = underscored := by
  have hhyphens := toList_join_hyphenated (w :: v :: ws)
  have hunderscores := toList_join_underscored (w :: v :: ws)
  have hmem : ∀ sep : Char, sep ∈ [sep].intercalate ((w :: v :: ws).map String.toList) := by
    intro sep
    rw [List.map_cons, List.map_cons, List.intercalate_cons_cons]
    simp
  constructor
  · rw [infer_of_isUpper_eq_false
        (by rw [hhyphens]; exact isUpper_intercalate_words (by decide) hws),
      hhyphens, if_neg (notMem_intercalate_words (by decide) (by decide) hws), if_pos (hmem '-')]
  · rw [infer_of_isUpper_eq_false
        (by rw [hunderscores]; exact isUpper_intercalate_words (by decide) hws),
      hunderscores, if_pos (hmem '_')]

/-! ### All conventions -/

/-- Reading a name under the convention under which it was joined gives the words back. -/
theorem split_join (convention : Convention) (hne : ws ≠ []) (hws : ∀ w ∈ ws, IsPlainWord w) :
    convention.split (convention.join ws) = ws := by
  have hwords : ∀ w ∈ ws, IsWord w := fun w hw => (hws w hw).isWord
  cases convention with
  | camelCase =>
    obtain ⟨w, rest, rfl⟩ := List.exists_cons_of_ne_nil hne
    obtain ⟨hw, hrest⟩ := List.forall_mem_cons.mp hws
    exact split_join_camelCase hw.isWord fun v hv => (hrest v hv).isHump
  | pascalCase => exact split_join_pascalCase hne hws
  | hyphenated => exact split_join_hyphenated hwords
  | underscored => exact split_join_underscored hne hwords

/-- The convention is recognized unless there is only one word, written without a capital. -/
theorem infer_join_or (convention : Convention) (hne : ws ≠ []) (hws : ∀ w ∈ ws, IsPlainWord w) :
    infer (convention.join ws) = convention ∨ ∃ w, ws = [w] ∧ convention.join ws = w := by
  obtain ⟨w, rest, rfl⟩ := List.exists_cons_of_ne_nil hne
  obtain ⟨hw, hrest⟩ := List.forall_mem_cons.mp hws
  cases convention with
  | camelCase => exact .inl (infer_join_camelCase hw.isWord fun v hv => (hrest v hv).isHump)
  | pascalCase => exact .inl (infer_join_pascalCase hne hws)
  | hyphenated =>
    cases rest with
    | nil => exact .inr ⟨w, rfl, by rw [join, String.intercalate_singleton]⟩
    | cons v rest => exact .inl (infer_join_separated fun u hu => (hws u hu).isWord).1
  | underscored =>
    cases rest with
    | nil => exact .inr ⟨w, rfl, by rw [join, String.intercalate_singleton]⟩
    | cons v rest => exact .inl (infer_join_separated fun u hu => (hws u hu).isWord).2

/-- The key of a type name is its words run together, under whatever convention it is spelled. -/
theorem typeKey_join (convention : Convention) (hne : ws ≠ []) (hws : ∀ w ∈ ws, IsPlainWord w) :
    typeKey (convention.join ws) = String.join ws := by
  rcases infer_join_or convention hne hws with hinfer | ⟨w, rfl, hjoin⟩
  · rw [typeKey, hinfer, split_join convention hne hws]
  · rw [typeKey, hjoin, split_infer_word (hws w List.mem_cons_self).isWord]

/-- Words that are joined under a convention are read again, and if there are two of them or more
the convention is recognized.  The key of the name is the words run together, so that all spellings
name one type. -/
theorem join_faithful (convention : Convention) {ws : List String} (hne : ws ≠ [])
    (hws : ∀ w ∈ ws, IsPlainWord w) :
    convention.split (convention.join ws) = ws ∧
      (2 ≤ ws.length → infer (convention.join ws) = convention) ∧
      typeKey (convention.join ws) = String.join ws ∧
      ∀ other : Convention, sameType (convention.join ws) (other.join ws) = true := by
  refine ⟨split_join convention hne hws, fun htwo => ?_, typeKey_join convention hne hws,
    fun other => ?_⟩
  · rcases infer_join_or convention hne hws with hinfer | ⟨w, rfl, -⟩
    · exact hinfer
    · rw [List.length_singleton] at htwo
      omega
  · rw [sameType, typeKey_join convention hne hws, typeKey_join other hne hws, beq_self_eq_true]

/-- Three words, two of them with digits, in Pascal case and with hyphens. -/
theorem join_faithful_ipv4Address :
    (∀ w ∈ ["ipv4", "address", "no2"], IsPlainWord w) ∧
      pascalCase.split "Ipv4AddressNo2" = ["ipv4", "address", "no2"] ∧
      infer "Ipv4AddressNo2" = pascalCase ∧ typeKey "Ipv4AddressNo2" = "ipv4addressno2" ∧
      sameType "Ipv4AddressNo2" "ipv4-address-no2" = true := by
  have hws : ∀ w ∈ ["ipv4", "address", "no2"], IsPlainWord w := by
    simp only [List.forall_mem_cons]
    -- characters are finitely many: `decide` on the quantifier itself would try each of them
    refine ⟨⟨'i', 'p', ['v', '4'], ?_⟩, ⟨'a', 'd', ['d', 'r', 'e', 's', 's'], ?_⟩,
      ⟨'n', 'o', ['2'], ?_⟩, fun _ h => nomatch h⟩ <;>
      exact ⟨by decide, by decide, by decide, List.all_eq_true.mp (by decide)⟩
  have hpascal : pascalCase.join ["ipv4", "address", "no2"] = "Ipv4AddressNo2" := by
    decide +kernel
  have hhyphens : hyphenated.join ["ipv4", "address", "no2"] = "ipv4-address-no2" := by
    decide +kernel
  obtain ⟨hsplit, hinfer, hkey, hsame⟩ := join_faithful pascalCase (List.cons_ne_nil _ _) hws
  rw [hpascal] at hsplit hinfer hkey hsame
  have hsame := hsame hyphenated
  rw [hhyphens] at hsame
  exact ⟨hws, hsplit, hinfer (by decide), hkey, hsame⟩

end Convention

/-!
## Type names are compared letter by letter

The key of a type name is put together from words, but where a name is cut into words makes no
difference: words are cut at separators, which are left out, and at capitals, where nothing is.
Under every convention the words of a name are its characters without the separators of the
convention (`Convention.flatten_words`), so the key of a type name is the name without hyphens and
underscores in lower case (`Naming.typeKey_eq`), and names are compared by what is left of them
(`Naming.sameType_iff`).

The lower case of a text is taken character by character but for the capital sigma, whose lower case
depends on whether it ends a word.  For names with this letter it does make a difference where they
are cut.
-/

namespace Text

/-- Texts that are all cut further hold together what the smaller parts hold. -/
lemma flatten_flatMap (l : List (List Char)) (f : List Char → List (List Char)) :
    (l.flatMap f).flatten = l.flatMap fun cs => (f cs).flatten := by
  rw [← List.flatMap_id, List.flatMap_assoc]
  simp only [List.flatMap_id]

end Text

/-! ### Words -/

namespace Convention

open Text

/-- The characters that separate words and belong to none of them. -/
def separators : Convention → List Char
  | hyphenated => ['-']
  | underscored | camelCase | pascalCase => ['-', '_']

/-- Texts between hyphens that are cut further at underscores are the text without either. -/
lemma flatten_flatMap_pieces {f : List Char → List (List Char)}
    (hf : ∀ chunk, (f chunk).flatten = chunk.filter (· != '_')) (cs : List Char) :
    ((pieces '-' cs).flatMap f).flatten = cs.filter (· ∉ ['-', '_']) := by
  have hchunks : ((pieces '-' cs).flatMap f).flatten =
      (pieces '-' cs).flatten.filter (· != '_') := by
    rw [flatten_flatMap, List.filter_flatten, ← List.flatMap_def]
    simp only [hf]
  rw [hchunks, flatten_pieces, List.filter_filter]
  refine List.filter_congr fun c _ => ?_
  by_cases hhyphen : c = '-' <;> by_cases hunderscore : c = '_' <;> simp [hhyphen, hunderscore]

/-- The words of a name are its characters without the separators. -/
theorem flatten_words (convention : Convention) (cs : List Char) :
    ((pieces '-' cs).flatMap convention.chunkWords).flatten =
      cs.filter (· ∉ convention.separators) := by
  have hcase : ∀ chunk, ((pieces '_' chunk).flatMap humps).flatten =
      chunk.filter (· != '_') := by
    intro chunk
    rw [flatten_flatMap, ← flatten_pieces]
    simp only [humps_flatten, List.flatMap_id']
  cases convention with
  | camelCase => exact flatten_flatMap_pieces hcase cs
  | pascalCase => exact flatten_flatMap_pieces hcase cs
  | underscored => exact flatten_flatMap_pieces (flatten_pieces '_') cs
  | hyphenated =>
    have hchunks : (pieces '-' cs).flatMap hyphenated.chunkWords = pieces '-' cs :=
      List.flatMap_singleton' _
    rw [hchunks, flatten_pieces]
    refine List.filter_congr fun c _ => ?_
    by_cases hc : c = '-' <;> simp [separators, hc]

/-- Run together, the words that are read are the name without separators in lower case. -/
theorem toList_join_split (convention : Convention) {name : String}
    (h : capitalSigma ∉ name.toList) :
    (String.join (convention.split name)).toList =
      (name.toList.filter (· ∉ convention.separators)).flatMap lowerChar := by
  have hletters : ∀ words : List (List Char), words.flatten.flatMap lowerChar =
      words.flatMap fun word => word.flatMap lowerChar := by
    intro words
    rw [← List.flatMap_id, List.flatMap_assoc]
    rfl
  have hwords := flatten_words convention name.toList
  -- without a capital sigma the lower case of a word is that of its characters
  have hsigma : ∀ word ∈ (pieces '-' name.toList).flatMap convention.chunkWords,
      capitalSigma ∉ word := by
    intro word hword hmem
    have hflatten := List.mem_flatten.mpr ⟨word, hword, hmem⟩
    rw [hwords] at hflatten
    exact h (List.mem_filter.mp hflatten).1
  rw [String.toList_join, split, List.flatMap_map, ← hwords, hletters]
  refine List.flatMap_congr fun word hword => ?_
  rw [String.toList_ofList, lower, lowerAfter_eq_flatMap (hsigma word hword)]

/-- A name that is taken for one with hyphens has no underscores. -/
lemma underscore_notMem_of_infer {name : String} (h : infer name = hyphenated) :
    '_' ∉ name.toList := by
  intro hmem
  unfold infer at h
  simp only [hmem, if_true] at h
  split at h
  · split at h <;> cases h
  · cases h

end Convention

/-! ### Keys -/

namespace Naming

open Text

/-- What is left of a name without hyphens and underscores, in lower case letter by letter. -/
def letters (name : String) : String :=
  String.ofList ((name.toList.filter (· ∉ ['-', '_'])).flatMap lowerChar)

/-- The key of a type name is what is left of it. -/
theorem typeKey_eq {name : String} (h : capitalSigma ∉ name.toList) :
    typeKey name = letters name := by
  refine String.toList_injective ?_
  rw [typeKey, Convention.toList_join_split _ h, letters, String.toList_ofList]
  cases hinfer : Convention.infer name with
  | camelCase | pascalCase | underscored => rfl
  | hyphenated =>
    have hnone := Convention.underscore_notMem_of_infer hinfer
    refine congrArg (List.flatMap lowerChar) (List.filter_congr fun c hc => ?_)
    have hne : c ≠ '_' := by
      rintro rfl
      exact hnone hc
    simp [Convention.separators, hne]

/-- Names without a capital sigma are spellings of one type exactly if the same is left of them
without hyphens and underscores, in lower case letter by letter.  For under every convention the
words of a name, run together, are its characters without the separators, in lower case. -/
theorem sameType_iff {a b : String} (ha : capitalSigma ∉ a.toList) (hb : capitalSigma ∉ b.toList) :
    (∀ convention : Convention, (String.join (convention.split a)).toList =
      (a.toList.filter (· ∉ convention.separators)).flatMap lowerChar) ∧
      (sameType a b = true ↔ letters a = letters b) := by
  refine ⟨fun convention => convention.toList_join_split ha, ?_⟩
  rw [sameType, beq_iff_eq, typeKey_eq ha, typeKey_eq hb]

/-- An acronym, a digit and both separators in one of two spellings. -/
theorem sameType_httpServer :
    (capitalSigma ∉ "HTTP2-server_Größe".toList ∧ capitalSigma ∉ "http2ServerGRÖßE".toList) ∧
      sameType "HTTP2-server_Größe" "http2ServerGRÖßE" = true := by
  have hmixed : capitalSigma ∉ "HTTP2-server_Größe".toList := by decide +kernel
  have hcamel : capitalSigma ∉ "http2ServerGRÖßE".toList := by decide +kernel
  exact ⟨⟨hmixed, hcamel⟩, (sameType_iff hmixed hcamel).2.mpr (by decide +kernel)⟩

/-- A capital sigma at the end of a word is another small letter than the one inside a word. -/
example : letters "AΣ-b" = letters "AΣb" ∧ sameType "AΣ-b" "AΣb" = false := by
  decide +kernel

end Naming

end RestFlow

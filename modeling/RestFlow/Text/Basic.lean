import RestFlow.Text.Tables

/-!
# Texts

How a text is cut into pieces, and the letters that it is made of.
-/

namespace RestFlow.Text

/-!
## Pieces of a text between separators

A text is cut at every occurrence of a separator character. The non-empty pieces are what endpoints,
access paths and compound names are made of.
-/

/-- The piece before the first separator, and the pieces after it. -/
def cut (sep : Char) : List Char → List Char × List (List Char)
  | [] => ([], [])
  | c :: cs =>
    let (first, others) := cut sep cs
    if c = sep then ([], first :: others) else (c :: first, others)

/-- The non-empty pieces between separators, in order. -/
def pieces (sep : Char) (cs : List Char) : List (List Char) :=
  let (first, others) := cut sep cs
  (first :: others).filter fun piece => !piece.isEmpty

@[simp] theorem pieces_nil (sep : Char) : pieces sep [] = [] := rfl

/-- No piece is empty. -/
theorem ne_nil_of_mem_pieces {sep : Char} {cs piece : List Char} (h : piece ∈ pieces sep cs) :
    piece ≠ [] := by
  have := (List.mem_filter.mp h).2
  rintro rfl
  simp at this

/-- The non-empty pieces of a string between separators, in order. -/
def piecesOf (sep : Char) (text : String) : List String :=
  (pieces sep text.toList).map String.ofList

@[simp] theorem piecesOf_empty (sep : Char) : piecesOf sep "" = [] := rfl

/-!
## Letters and letter case

Classes and case mappings of characters, and the lower case of a text. Below U+0080 everything is
decided by arithmetic on the code point; above it the tables decide. The only mapping that looks at
the neighbours of a character is that of the capital sigma, which has a form of its own at the end
of a word.
-/

/-- Whether a code point is on one of the runs. -/
def onRuns (runs : List (Nat × Nat × Nat)) (n : Nat) : Bool :=
  runs.any fun (first, last, step) => first ≤ n && n ≤ last && (n - first) % step == 0

/-- A character is ASCII when its code point is below 128. -/
def isAscii (c : Char) : Bool :=
  c.toNat < 128

/-- A capital letter. -/
def isUpper (c : Char) : Bool :=
  if isAscii c then c.isUpper else onRuns uppercaseRuns c.toNat

/-- A small letter. -/
def isLower (c : Char) : Bool :=
  if isAscii c then c.isLower else onRuns lowercaseRuns c.toNat

/-- A letter, or a mark that takes part in words. -/
def isAlphabetic (c : Char) : Bool :=
  if isAscii c then c.isAlpha else onRuns alphabeticRuns c.toNat

/-- The digraphs and Greek letters written with a capital first part. -/
def isTitlecase (c : Char) : Bool :=
  onRuns
    [(0x1C5, 0x1CB, 3), (0x1F2, 0x1F2, 1), (0x1F88, 0x1F8F, 1), (0x1F98, 0x1F9F, 1),
      (0x1FA8, 0x1FAF, 1), (0x1FBC, 0x1FBC, 1), (0x1FCC, 0x1FCC, 1), (0x1FFC, 0x1FFC, 1)]
    c.toNat

/-- A letter with case of any kind. -/
def isCased (c : Char) : Bool :=
  isUpper c || isLower c || isTitlecase c

/-- A character that casing looks through. -/
def isCaseIgnorable (c : Char) : Bool :=
  if isAscii c then c.toNat ∈ [0x27, 0x2E, 0x3A, 0x5E, 0x60]
  else onRuns caseIgnorableRuns c.toNat

/-- The image of a code point on the runs of a one-character mapping. -/
def imageOnRuns (runs : List (Nat × Nat × Nat × Nat)) (n : Nat) : Option Nat :=
  runs.findSome? fun (first, last, step, image) =>
    if first ≤ n && n ≤ last && (n - first) % step == 0 then some (image + (n - first)) else none

/-- The lower case of one character, one character long except for the dotted capital I. -/
def lowerChar (c : Char) : List Char :=
  if isAscii c then [c.toLower]
  else match lowerExpansions.lookup c.toNat with
    | some images => images.map Char.ofNat
    | none => [Char.ofNat ((imageOnRuns lowerRuns c.toNat).getD c.toNat)]

/-- The upper case of one character, up to three characters long. -/
def upperChar (c : Char) : List Char :=
  if isAscii c then [c.toUpper]
  else match upperExpansions.lookup c.toNat with
    | some images => images.map Char.ofNat
    | none => [Char.ofNat ((imageOnRuns upperRuns c.toNat).getD c.toNat)]

/-- The capital sigma. -/
def capitalSigma : Char :=
  Char.ofNat 0x3A3

/-- The nearest character that casing does not look through has case. -/
def touchesCased (cs : List Char) : Bool :=
  match cs.dropWhile isCaseIgnorable with
  | [] => false
  | c :: _ => isCased c

/-- The lower case of a capital sigma between `before`, nearest character first, and `after`. -/
def lowerSigma (before after : List Char) : Char :=
  if touchesCased before && !touchesCased after then Char.ofNat 0x3C2 else Char.ofNat 0x3C3

/-- The lower case of the characters that follow `before`, which lists the nearest one first. -/
def lowerAfter (before : List Char) : List Char → List Char
  | [] => []
  | c :: rest =>
    (if c = capitalSigma then [lowerSigma before rest] else lowerChar c) ++
      lowerAfter (c :: before) rest

/-- The lower case of a text. -/
def lower (cs : List Char) : List Char :=
  lowerAfter [] cs

@[simp] theorem lower_nil : lower [] = [] := rfl

/-- Away from the capital sigma the lower case is taken character by character. -/
theorem lowerAfter_eq_flatMap {before cs : List Char} (h : capitalSigma ∉ cs) :
    lowerAfter before cs = cs.flatMap lowerChar := by
  induction cs generalizing before with
  | nil => rfl
  | cons c rest ih =>
    simp only [List.mem_cons, not_or] at h
    simp [lowerAfter, Ne.symm h.1, ih h.2]

/-- The text with capital ASCII letters in lower case. -/
def lowerAscii (text : String) : String :=
  String.ofList (text.toList.map Char.toLower)

/-- The first character in upper case, the rest as it is. -/
def capitalize : List Char → List Char
  | [] => []
  | c :: rest => upperChar c ++ rest

@[simp] theorem capitalize_nil : capitalize [] = [] := rfl

end RestFlow.Text

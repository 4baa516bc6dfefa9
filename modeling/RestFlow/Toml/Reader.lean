import RestFlow.Toml.Table

/-!
# Reading TOML

From the text of a document to its table.
-/

namespace RestFlow.Toml

/-!
## Numbers and moments in TOML

Whether a word is the written form of an integer, a float, a date, a time of day or both.
-/

/-- Digits of some kind, with single underscores between them. -/
def areDigits (isDigit : Char → Bool) : List Char → Bool
  | [] => false
  | [c] => isDigit c
  | c :: '_' :: rest => isDigit c && areDigits isDigit rest
  | c :: rest => isDigit c && areDigits isDigit rest

/-- A decimal number without a leading zero. -/
def isDecimal (cs : List Char) : Bool :=
  areDigits Char.isDigit cs && (cs.head? != some '0' || cs.length == 1)

/-- What follows a sign, if there is one. -/
def afterSign : List Char → List Char
  | '+' :: rest | '-' :: rest => rest
  | cs => cs

/-- A hexadecimal digit. -/
def isHexDigit (c : Char) : Bool :=
  c.isDigit || ('a' ≤ c && c ≤ 'f') || ('A' ≤ c && c ≤ 'F')

/-- An integer: decimal with or without a sign, or to base 16, 8 or 2. -/
def isInteger : List Char → Bool
  | '0' :: 'x' :: rest => areDigits isHexDigit rest
  | '0' :: 'o' :: rest => areDigits (fun c => '0' ≤ c && c ≤ '7') rest
  | '0' :: 'b' :: rest => areDigits (fun c => c == '0' || c == '1') rest
  | cs => isDecimal (afterSign cs)

/-- The characters before the first that passes a test, and those after it if there is one. -/
def splitAtFirst (p : Char → Bool) (cs : List Char) : List Char × Option (List Char) :=
  match cs.dropWhile fun c => !p c with
  | [] => (cs, none)
  | _ :: rest => (cs.takeWhile fun c => !p c, some rest)

/-- A float: with a fraction, an exponent or both, or one of the special words. -/
def isFloat (cs : List Char) : Bool :=
  let unsigned := afterSign cs
  if unsigned == ['i', 'n', 'f'] || unsigned == ['n', 'a', 'n'] then true
  else
    let (mantissa, exponent) := splitAtFirst (fun c => c == 'e' || c == 'E') unsigned
    let (whole, fraction) := splitAtFirst (· == '.') mantissa
    isDecimal whole && (fraction.isSome || exponent.isSome) &&
      fraction.all (areDigits Char.isDigit) &&
      exponent.all fun e => areDigits Char.isDigit (afterSign e)

/-- The number of some digits. -/
def digitsNumber? (cs : List Char) : Option Nat :=
  if cs.all Char.isDigit then
    some (cs.foldl (fun n c => n * 10 + (c.toNat - '0'.toNat)) 0)
  else none

/-- The number of days of a month. -/
def daysOf (year month : Nat) : Nat :=
  if month == 2 then
    if year % 4 == 0 && (year % 100 != 0 || year % 400 == 0) then 29 else 28
  else if month == 4 || month == 6 || month == 9 || month == 11 then 30
  else 31

/-- A date: year, month and day. -/
def isDate : List Char → Bool
  | [a, b, c, d, '-', e, f, '-', g, h] =>
    match digitsNumber? [a, b, c, d], digitsNumber? [e, f], digitsNumber? [g, h] with
    | some year, some month, some day =>
      1 ≤ month && month ≤ 12 && 1 ≤ day && day ≤ daysOf year month
    | _, _, _ => false
  | _ => false

/-- Hours and minutes. -/
def isClock (a b c d : Char) : Bool :=
  match digitsNumber? [a, b], digitsNumber? [c, d] with
  | some hours, some minutes => hours < 24 && minutes < 60
  | _, _ => false

/-- The distance from universal time. -/
def isOffset : List Char → Bool
  | ['Z'] | ['z'] => true
  | ['+', a, b, ':', c, d] | ['-', a, b, ':', c, d] => isClock a b c d
  | _ => false

/-- A time of day, with an offset after it where one is allowed. -/
def isTime (offset : Bool) : List Char → Bool
  | a :: b :: ':' :: c :: d :: ':' :: e :: f :: rest =>
    isClock a b c d && (digitsNumber? [e, f]).any (· ≤ 60) &&
      match rest with
      | '.' :: fraction =>
        let tail := fraction.dropWhile Char.isDigit
        fraction.head?.any Char.isDigit && (tail.isEmpty || (offset && isOffset tail))
      | tail => tail.isEmpty || (offset && isOffset tail)
  | _ => false

/-- A date, a time of day, or a date with a time of day. -/
def isMoment (cs : List Char) : Bool :=
  isTime false cs || isDate cs ||
    (isDate (cs.take 10) && (cs[10]?).any (fun c => c == 'T' || c == 't' || c == ' ') &&
      isTime true (cs.drop 11))

/-!
## Reading TOML text

`Toml.read` reads a document. A document that breaks a rule has no value at all.
-/

/-- A step of reading: what it finds at the front of the text, and what is left. -/
abbrev Scan := StateT (List Char) Option

/-- A character that may stand in a quoted text or in a comment. -/
def isPlain (c : Char) : Bool :=
  c == '\t' || (' ' ≤ c && c.toNat != 127)

/-- The text after spaces and tabs. -/
def afterSpace (cs : List Char) : List Char :=
  cs.dropWhile fun c => c == ' ' || c == '\t'

/-- Skip spaces and tabs. -/
def skipSpace : Scan Unit :=
  modify afterSpace

/-- The text after a line break. -/
def afterBreak? : List Char → Option (List Char)
  | '\n' :: rest => some rest
  | '\r' :: '\n' :: rest => some rest
  | _ => none

/-- The text after blanks, line breaks and comments. -/
def afterGap? (inComment : Bool) : List Char → Option (List Char)
  | [] => some []
  | '\n' :: rest => afterGap? false rest
  | '\r' :: '\n' :: rest => afterGap? false rest
  | c :: rest =>
    if inComment then
      if isPlain c then afterGap? true rest else none
    else if c == ' ' || c == '\t' then afterGap? false rest
    else if c == '#' then afterGap? true rest
    else some (c :: rest)

/-- Skip blanks, line breaks and comments. -/
def skipGap : Scan Unit := do
  set (← liftM (afterGap? false (← get)))

/-- Skip what may stand at the end of a line, and the end. -/
def endLine : Scan Unit := do
  skipSpace
  let cs ← get
  let tail := if cs.head? == some '#' then cs.dropWhile isPlain else cs
  if tail.isEmpty then set tail else set (← liftM (afterBreak? tail))

/-- Skip a character that has to be there. -/
def expect (c : Char) : Scan Unit := do
  match ← get with
  | d :: rest => if d = c then set rest else failure
  | [] => failure

/-- Skip a character if it is there. -/
def accept (c : Char) : Scan Bool := do
  match ← get with
  | d :: rest => if d = c then do set rest; pure true else pure false
  | [] => pure false

/-- The character of a one-letter escape. -/
def escape? : Char → Option Char
  | '"' => some '"'
  | '\\' => some '\\'
  | 'b' => some (Char.ofNat 8)
  | 'f' => some (Char.ofNat 12)
  | 'n' => some '\n'
  | 'r' => some '\r'
  | 't' => some '\t'
  | _ => none

/-- The value of a hexadecimal digit. -/
def hexDigit? (c : Char) : Option Nat :=
  if c.isDigit then some (c.toNat - '0'.toNat)
  else if 'a' ≤ c && c ≤ 'f' then some (c.toNat - 'a'.toNat + 10)
  else if 'A' ≤ c && c ≤ 'F' then some (c.toNat - 'A'.toNat + 10)
  else none

/-- The character whose number is written in hexadecimal digits. -/
def hexChar? (digits : List Char) : Option Char := do
  let n ← digits.foldlM (fun n c => do return n * 16 + (← hexDigit? c)) 0
  if n.isValidChar then some (Char.ofNat n) else none

/-- Put a character in front of what is read after it. -/
def prepend (c : Char) (found : Option (List Char × List Char)) : Option (List Char × List Char) :=
  found.map fun (text, rest) => (c :: text, rest)

/-- The text up to the closing double quote. -/
def quotedText? : List Char → Option (List Char × List Char)
  | [] => none
  | '"' :: rest => some ([], rest)
  | '\\' :: 'u' :: a :: b :: c :: d :: rest => do
    prepend (← hexChar? [a, b, c, d]) (quotedText? rest)
  | '\\' :: 'U' :: a :: b :: c :: d :: e :: f :: g :: h :: rest => do
    prepend (← hexChar? [a, b, c, d, e, f, g, h]) (quotedText? rest)
  | '\\' :: c :: rest => do prepend (← escape? c) (quotedText? rest)
  | c :: rest => if isPlain c && c != '\\' then prepend c (quotedText? rest) else none

/-- The text up to the closing single quote, taken as it is. -/
def literalText? : List Char → Option (List Char × List Char)
  | [] => none
  | '\x27' :: rest => some ([], rest)
  | c :: rest => if isPlain c then prepend c (literalText? rest) else none

/-- The text up to three closing double quotes, which may follow two quotes of the text. After a
backslash at the end of a line `trimming` goes on to the next character that is no blank. -/
def quotedLines? (trimming : Bool) : List Char → Option (List Char × List Char)
  | [] => none
  | '"' :: '"' :: '"' :: '"' :: '"' :: rest => some (['"', '"'], rest)
  | '"' :: '"' :: '"' :: '"' :: rest => some (['"'], rest)
  | '"' :: '"' :: '"' :: rest => some ([], rest)
  | '\n' :: rest =>
    if trimming then quotedLines? true rest else prepend '\n' (quotedLines? false rest)
  | '\r' :: '\n' :: rest =>
    if trimming then quotedLines? true rest else prepend '\n' (quotedLines? false rest)
  | '\\' :: 'u' :: a :: b :: c :: d :: rest => do
    prepend (← hexChar? [a, b, c, d]) (quotedLines? false rest)
  | '\\' :: 'U' :: a :: b :: c :: d :: e :: f :: g :: h :: rest => do
    prepend (← hexChar? [a, b, c, d, e, f, g, h]) (quotedLines? false rest)
  | '\\' :: c :: rest =>
    if (afterBreak? (afterSpace (c :: rest))).isSome then quotedLines? true (c :: rest)
    else do prepend (← escape? c) (quotedLines? false rest)
  | c :: rest =>
    if trimming && (c == ' ' || c == '\t') then quotedLines? true rest
    else if isPlain c && c != '\\' then prepend c (quotedLines? false rest)
    else none

/-- The text up to three closing single quotes, taken as it is. -/
def literalLines? : List Char → Option (List Char × List Char)
  | [] => none
  | '\x27' :: '\x27' :: '\x27' :: '\x27' :: '\x27' :: rest => some (['\x27', '\x27'], rest)
  | '\x27' :: '\x27' :: '\x27' :: '\x27' :: rest => some (['\x27'], rest)
  | '\x27' :: '\x27' :: '\x27' :: rest => some ([], rest)
  | '\r' :: '\n' :: rest => prepend '\n' (literalLines? rest)
  | c :: rest => if isPlain c || c == '\n' then prepend c (literalLines? rest) else none

/-- The text after a line break that follows the opening quotes of a text over several lines. -/
def afterFirstBreak (cs : List Char) : List Char :=
  (afterBreak? cs).getD cs

/-- The one-line text whose opening quote is next. -/
def line? : List Char → Option (List Char × List Char)
  | '"' :: rest => quotedText? rest
  | '\x27' :: rest => literalText? rest
  | _ => none

/-- The text whose opening quotes are next. -/
def text? : List Char → Option (List Char × List Char)
  | '"' :: '"' :: '"' :: rest => quotedLines? false (afterFirstBreak rest)
  | '\x27' :: '\x27' :: '\x27' :: rest => literalLines? (afterFirstBreak rest)
  | cs => line? cs

/-- A character of a key without quotes. -/
def isBare (c : Char) : Bool :=
  c.isAlphanum || c == '_' || c == '-'

/-- One name of a key. -/
def name : Scan String := do
  let cs ← get
  match cs.takeWhile isBare with
  | [] =>
    let (text, rest) ← liftM (line? cs)
    set rest
    pure (String.ofList text)
  | bare => do
    set (cs.dropWhile isBare)
    pure (String.ofList bare)

/-- A dotted key, and the spaces after it. -/
def key (fuel : Nat) : Scan (List String) := do
  match fuel with
  | 0 => failure
  | fuel + 1 =>
    let first ← name
    skipSpace
    if ← accept '.' then do
      skipSpace
      return first :: (← key fuel)
    else return [first]

/-- A character of a word: a number, a moment or one of the truth values. -/
def isWordPart (c : Char) : Bool :=
  c.isAlphanum || c == '+' || c == '-' || c == '_' || c == '.' || c == ':'

/-- The value that a word stands for. -/
def ofWord? (word : List Char) : Option Toml :=
  if word == "true".toList then some (bool true)
  else if word == "false".toList then some (bool false)
  else if isInteger word || isFloat word then some (number (String.ofList word))
  else if isMoment word then some (moment (String.ofList word))
  else none

/-- The length of the word in front: a date may be parted from the time that follows by a space. -/
def wordLength (cs : List Char) : Nat :=
  let first := (cs.takeWhile isWordPart).length
  match cs.drop first with
  | ' ' :: c :: rest =>
    if isDate (cs.take first) && c.isDigit then
      first + 1 + ((c :: rest).takeWhile isWordPart).length
    else first
  | _ => first

/-- The value of the word in front. -/
def word : Scan Toml := do
  let cs ← get
  let length := wordLength cs
  set (cs.drop length)
  liftM (ofWord? (cs.take length))

mutual

/-- The value in front. -/
def value (fuel : Nat) : Scan Toml := do
  match fuel with
  | 0 => failure
  | fuel + 1 =>
    match ← get with
    | '[' :: rest => do
      set rest
      skipGap
      return array (← items fuel)
    | '\x7b' :: rest => do
      set rest
      skipSpace
      let entries ← if ← accept '\x7d' then pure [] else inlineEntries fuel
      table .inline <$> liftM (addEntries entries [])
    | '"' :: _ | '\x27' :: _ => do
      let (text, rest) ← liftM (text? (← get))
      set rest
      return string (String.ofList text)
    | _ => word

/-- The items up to the closing bracket. -/
def items (fuel : Nat) : Scan (List Toml) := do
  match fuel with
  | 0 => failure
  | fuel + 1 =>
    if ← accept ']' then return []
    let item ← value fuel
    skipGap
    if ← accept ',' then do
      skipGap
      return item :: (← items fuel)
    expect ']'
    return [item]

/-- The entries up to the closing brace, of which there is at least one. -/
def inlineEntries (fuel : Nat) : Scan (List (List String × Toml)) := do
  match fuel with
  | 0 => failure
  | fuel + 1 =>
    let path ← key fuel
    expect '='
    skipSpace
    let item ← value fuel
    skipSpace
    if ← accept ',' then do
      skipSpace
      return (path, item) :: (← inlineEntries fuel)
    expect '\x7d'
    return [(path, item)]

end

/-- The entry on a line. -/
def entry (fuel : Nat) : Scan (List String × Toml) := do
  let path ← key fuel
  expect '='
  skipSpace
  let item ← value fuel
  endLine
  return (path, item)

/-- The header on a line, after its first bracket. -/
def header (fuel : Nat) : Scan (SectionKind × List String) := do
  let repeated ← accept '['
  skipSpace
  let path ← key fuel
  expect ']'
  if repeated then expect ']'
  endLine
  return (if repeated then .repeated else .single, path)

/-- The entries up to the next header or to the end of the text. -/
def entries (fuel : Nat) : Scan (List (List String × Toml)) := do
  match fuel with
  | 0 => failure
  | fuel + 1 =>
    skipGap
    match ← get with
    | [] | '[' :: _ => return []
    | _ => do
      let first ← entry fuel
      return first :: (← entries fuel)

/-- The sections up to the end of the text. -/
def sections (fuel : Nat) : Scan (List Section) := do
  match fuel with
  | 0 => failure
  | fuel + 1 =>
    if ← accept '[' then do
      let (kind, path) ← header fuel
      let own ← entries fuel
      return ⟨kind, path, own⟩ :: (← sections fuel)
    else return []

/-- The whole document. -/
def document (fuel : Nat) : Scan Document := do
  let own ← entries fuel
  return ⟨own, ← sections fuel⟩

/-- The text after a byte order mark. -/
def afterMark : List Char → List Char
  | '\ufeff' :: rest => rest
  | cs => cs

/-- The table of a document. -/
def read (text : String) : Option Toml := do
  let cs := afterMark text.toList
  let (document, rest) ← (document (2 * cs.length + 2)).run cs
  if rest.isEmpty then document.table? else none

end RestFlow.Toml

import SelectionSql.Document.Numeral

/-!
# Quoted TOML text - Space, comments and strings

There are four kinds of strings: with escapes or without, on one line or on
several.  An escape is a single letter or gives the number of a character in
two, four or eight hexadecimal digits.  A string on several lines may begin with
a line break that does not count, keeps its other line breaks as they are, and
may end in up to two quotes of its own before the closing ones.
-/

namespace SelectionSql.Toml

/-! ## Space and comments -/

/-- Whether a character may stand between the tokens of a line. -/
def isSpace (c : Char) : Bool :=
  c = ' ' || c = '\t'

/-- Whether a character may stand in a comment or a string of one line. -/
def isPrintable (c : Char) : Bool :=
  c = '\t' || (' ' ≤ c && c ≠ '\x7f')

/-- The text after the space at its head. -/
def skipSpace (chars : List Char) : List Char :=
  chars.dropWhile isSpace

/-- The text after a line break at its head. -/
def afterBreak? : List Char → Option (List Char)
  | '\n' :: rest => some rest
  | '\r' :: '\n' :: rest => some rest
  | _ => none

/-- The text after space, line breaks and comments, of which one may be open. -/
def skipLines (comment : Bool) : List Char → Option (List Char)
  | [] => some []
  | '\n' :: rest => skipLines false rest
  | '\r' :: '\n' :: rest => skipLines false rest
  | c :: rest =>
      if comment then if isPrintable c then skipLines true rest else none
      else if isSpace c then skipLines false rest
      else if c = '#' then skipLines true rest
      else some (c :: rest)

/-- The text after a line that holds at most space and a comment, which may be
open. -/
def endLine (comment : Bool) : List Char → Option (List Char)
  | [] => some []
  | '\n' :: rest => some rest
  | '\r' :: '\n' :: rest => some rest
  | c :: rest =>
      if comment then if isPrintable c then endLine true rest else none
      else if isSpace c then endLine false rest
      else if c = '#' then endLine true rest
      else none

/-! ## Escapes -/

/-- The character that a short escape stands for. -/
def shortEscape? (c : Char) : Option Char :=
  if c = '"' ∨ c = '\\' then some c
  else if c = 'b' then some '\x08'
  else if c = 't' then some '\t'
  else if c = 'n' then some '\n'
  else if c = 'f' then some '\x0c'
  else if c = 'r' then some '\r'
  else if c = 'e' then some '\x1b'
  else none

/-- The character with a number in hexadecimal digits; surrogates are none. -/
def scalar? (digits : List Char) : Option Char :=
  let number := Numeral.ofDigits 16 digits
  if digits.all (Numeral.isDigitOf 16) ∧ (number < 0xD800 ∨ 0xE000 ≤ number ∧ number < 0x110000)
  then some (Char.ofNat number)
  else none

/-- Put a character in front of what was read. -/
def prepend (c : Char) (read : List Char × List Char) : List Char × List Char :=
  (c :: read.1, read.2)

/-! ## Strings on one line -/

/-- The characters of a string without escapes and the text after its quote. -/
def literalString : List Char → Option (List Char × List Char)
  | [] => none
  | c :: rest =>
      if c = '\'' then some ([], rest)
      else if isPrintable c then (literalString rest).map (prepend c)
      else none

/-- The characters of a string with escapes and the text after its quote. -/
def basicString : List Char → Option (List Char × List Char)
  | [] => none
  | c :: rest =>
      if c = '"' then some ([], rest)
      else if c = '\\' then
        match rest with
        | 'x' :: d₁ :: d₂ :: rest => do
            let c ← scalar? [d₁, d₂]
            (basicString rest).map (prepend c)
        | 'u' :: d₁ :: d₂ :: d₃ :: d₄ :: rest => do
            let c ← scalar? [d₁, d₂, d₃, d₄]
            (basicString rest).map (prepend c)
        | 'U' :: d₁ :: d₂ :: d₃ :: d₄ :: d₅ :: d₆ :: d₇ :: d₈ :: rest => do
            let c ← scalar? [d₁, d₂, d₃, d₄, d₅, d₆, d₇, d₈]
            (basicString rest).map (prepend c)
        | escape :: rest => do
            let c ← shortEscape? escape
            (basicString rest).map (prepend c)
        | [] => none
      else if isPrintable c then (basicString rest).map (prepend c)
      else none

/-! ## Strings on several lines -/

/-- What ends a string on several lines: up to two quotes of the text, after
three quotes that have been read. -/
def closingQuotes (quote : Char) : List Char → List Char × List Char
  | c :: d :: rest =>
      if c = quote then if d = quote then ([c, d], rest) else ([c], d :: rest)
      else ([], c :: d :: rest)
  | [c] => if c = quote then ([c], []) else ([], [c])
  | [] => ([], [])

/-- The characters of a string without escapes on several lines and the text
after its quotes. -/
def literalLines : List Char → Option (List Char × List Char)
  | [] => none
  | '\'' :: '\'' :: '\'' :: rest => some (closingQuotes '\'' rest)
  | '\r' :: '\n' :: rest => ((literalLines rest).map (prepend '\n')).map (prepend '\r')
  | c :: rest =>
      if isPrintable c || c = '\n' then (literalLines rest).map (prepend c) else none

/-- The characters of a string with escapes on several lines and the text after
its quotes.  A backslash at the end of a line drops the space and the line
breaks that follow it. -/
def basicLines (trimming : Bool) : List Char → Option (List Char × List Char)
  | [] => none
  | '"' :: '"' :: '"' :: rest => some (closingQuotes '"' rest)
  | '\r' :: '\n' :: rest =>
      if trimming then basicLines true rest
      else ((basicLines false rest).map (prepend '\n')).map (prepend '\r')
  | '\n' :: rest =>
      if trimming then basicLines true rest else (basicLines false rest).map (prepend '\n')
  | c :: rest =>
      if trimming && isSpace c then basicLines true rest
      else if c = '\\' then
        if (afterBreak? (skipSpace rest)).isSome then basicLines true rest
        else
          match rest with
          | 'x' :: d₁ :: d₂ :: rest => do
              let c ← scalar? [d₁, d₂]
              (basicLines false rest).map (prepend c)
          | 'u' :: d₁ :: d₂ :: d₃ :: d₄ :: rest => do
              let c ← scalar? [d₁, d₂, d₃, d₄]
              (basicLines false rest).map (prepend c)
          | 'U' :: d₁ :: d₂ :: d₃ :: d₄ :: d₅ :: d₆ :: d₇ :: d₈ :: rest => do
              let c ← scalar? [d₁, d₂, d₃, d₄, d₅, d₆, d₇, d₈]
              (basicLines false rest).map (prepend c)
          | escape :: rest => do
              let c ← shortEscape? escape
              (basicLines false rest).map (prepend c)
          | [] => none
      else if isPrintable c then (basicLines false rest).map (prepend c)
      else none

/-- A string of any kind at the head of a text. -/
def quotedString : List Char → Option (List Char × List Char)
  | '"' :: '"' :: '"' :: rest => basicLines false ((afterBreak? rest).getD rest)
  | '\'' :: '\'' :: '\'' :: rest => literalLines ((afterBreak? rest).getD rest)
  | '"' :: rest => basicString rest
  | '\'' :: rest => literalString rest
  | _ => none

end SelectionSql.Toml

import SelectionSql.Document

/-!
# Writing JSON - From documents to text

Quotes, backslashes and control characters of a text are escaped, all else stands as it is.
-/

namespace SelectionSql.Json

/-- A character as it stands in a string literal.  Control characters are
written by their number. -/
def escapeChar (c : Char) : List Char :=
  if c = '"' then ['\\', '"']
  else if c = '\\' then ['\\', '\\']
  else if c < ' ' then
    ['\\', 'u', '0', '0', Nat.digitChar (c.toNat / 16), Nat.digitChar (c.toNat % 16)]
  else [c]

/-- A text as it stands in a string literal. -/
def escape (chars : List Char) : List Char :=
  chars.flatMap escapeChar

/-- A text as a string literal. -/
def quote (text : String) : String :=
  "\"" ++ String.ofList (escape text.toList) ++ "\""

mutual

/-- The JSON text of a document.  A literal without a value is written as null. -/
def write : Document → String
  | .null => "null"
  | .bool true => "true"
  | .bool false => "false"
  | .nat value => toString value
  | .number literal => literal
  | .text value => quote value
  | .list items => "[" ++ String.intercalate "," (writeItems items) ++ "]"
  | .record members => "\x7b" ++ String.intercalate "," (writeMembers members) ++ "\x7d"
  | .unusable => "null"

/-- The text of each item. -/
def writeItems : List Document → List String
  | [] => []
  | item :: items => write item :: writeItems items

/-- The text of each member. -/
def writeMembers : List (String × Document) → List String
  | [] => []
  | (name, item) :: members => (quote name ++ ":" ++ write item) :: writeMembers members

end

end SelectionSql.Json

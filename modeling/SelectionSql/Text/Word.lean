import SelectionSql.Text.WordRanges

/-!
# Words - The characters of names

A word character is alphabetic, a mark, a decimal digit, connector punctuation
or a join control.
-/

namespace SelectionSql.Text

/-- Whether a character may stand in a word. -/
def isWord (c : Char) : Bool :=
  let code := c.toNat
  if code < 0x80 then c.isAlphanum || c == '_'
  else wordRanges.any fun range => decide (range.1 ≤ code) && decide (code ≤ range.2)

end SelectionSql.Text

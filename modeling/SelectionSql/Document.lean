/-!
# Documents - Values of the data formats

A document is what a JSON or a TOML text holds.  A record keeps its members in
the order they are written, and keeps a repeated name twice: what a repetition
means is for the reader of the record to say.

Main results:

- `Document.plain_of_le`: a document that fits a depth fits any larger one.
-/

namespace SelectionSql

/-- A value of a data format. -/
inductive Document
  | null
  | bool (value : Bool)
  /-- A whole number below 2⁶⁴, written with digits alone. -/
  | nat (value : Nat)
  /-- Any other number, by its literal. -/
  | number (literal : String)
  | text (value : String)
  | list (items : List Document)
  | record (members : List (String × Document))
  /-- A well-formed literal that no value answers to.  It may be skipped but
  not used. -/
  | unusable
  deriving Inhabited

namespace Document

/-! ## Setting documents aside -/

/-- Whether a document can be set aside unread: all its literals have a value
and it nests no deeper than given. -/
def plain : Nat → Document → Bool
  | _, .unusable => false
  | 0, .list _ => false
  | 0, .record _ => false
  | depth + 1, .list items => items.all (plain depth)
  | depth + 1, .record members => members.all fun member => plain depth member.2
  | _, _ => true

/-- A document that fits a depth fits any larger one. -/
theorem plain_of_le {depth deeper : Nat} (h : depth ≤ deeper) :
    ∀ {document : Document}, document.plain depth = true → document.plain deeper = true := by
  induction depth generalizing deeper with
  | zero =>
      intro document hplain
      cases document <;> cases deeper <;> simp_all [plain]
  | succ depth ih =>
      intro document hplain
      obtain ⟨deeper, rfl⟩ : ∃ n, deeper = n + 1 := ⟨deeper - 1, by omega⟩
      have hle : depth ≤ deeper := by omega
      cases document <;> simp only [plain, List.all_eq_true] at hplain ⊢
      case list items => exact fun item hitem => ih hle (hplain item hitem)
      case record members => exact fun member hmember => ih hle (hplain member hmember)
      case unusable => exact absurd hplain (by simp)

/-! ## Usable documents -/

mutual

/-- Whether all literals of a document have a value. -/
def usable : Document → Bool
  | .unusable => false
  | .list items => usableItems items
  | .record members => usableMembers members
  | _ => true

/-- Whether all items of a list are usable. -/
def usableItems : List Document → Bool
  | [] => true
  | item :: items => item.usable && usableItems items

/-- Whether all members of a record are usable. -/
def usableMembers : List (String × Document) → Bool
  | [] => true
  | member :: members => member.2.usable && usableMembers members

end

end Document

end SelectionSql

import SelectionSql.Document
import SelectionSql.Sorted.Map
import SelectionSql.Sorted.Set

/-!
# Shapes - What is expected of a document

A structure is written as a record of its fields or as a list of them in their
declared order.  A record may hold other members as well, but no field twice; a
list may end early, and what it leaves off counts as absent.  How strict a
reader is beyond that depends on how the document comes to it.

Main results:

- `Document.parts?_record`: the fields of a record that repeats none.
- `Document.listOf?_map`: a list of written items is read item by item.
-/

namespace SelectionSql

/-- How a document comes to its reader. -/
inductive Reading
  /-- Straight from a text.  Members that no field asks for are passed over
  unseen. -/
  | streamed
  /-- As a value that was set aside.  An empty record then stands for null where
  a name has no data. -/
  | setAside
  /-- Out of a table.  All members of a record are looked at, but no items of a
  list beyond the fields. -/
  | tabular
  deriving DecidableEq

namespace Document

universe u

/-! ## Plain values -/

/-- The text of a document. -/
def text? : Document → Option String
  | .text value => some value
  | _ => none

/-- The truth value of a document. -/
def bool? : Document → Option Bool
  | .bool value => some value
  | _ => none

/-- The whole number of a document. -/
def nat? : Document → Option Nat
  | .nat value => some value
  | _ => none

@[simp] theorem text?_text (value : String) : text? (.text value) = some value := rfl

/-! ## Collections -/

section Collections

variable {α : Type u}

/-- The items of a list, each of which must be readable. -/
def listOf? (read : Document → Option α) : Document → Option (List α)
  | .list items => items.mapM read
  | _ => none

/-- The map that a record stands for.  The last of several members with one name
counts, but every member must be readable. -/
def mapOf? (read : Document → Option α) : Document → Option (SortedMap α)
  | .record members =>
      (members.mapM fun member => (read member.2).map (member.1, ·)).map SortedMap.ofList
  | _ => none

/-- The set of the texts in a list. -/
def setOf? (document : Document) : Option SortedSet :=
  (document.listOf? text?).map SortedSet.ofList

/-- A map as a record. -/
def ofMap (write : α → Document) (map : SortedMap α) : Document :=
  .record (map.entries.map fun entry => (entry.1, write entry.2))

/-- A set as a list of its members in order. -/
def ofSet (set : SortedSet) : Document :=
  .list (set.toList.map .text)

/-- A list of written items is read item by item. -/
theorem listOf?_map {read : Document → Option α} {write : α → Document}
    (h : ∀ value, read (write value) = some value) (values : List α) :
    (Document.list (values.map write)).listOf? read = some values := by
  induction values with
  | nil => rfl
  | cons value values ih =>
      have ih' : (values.map write).mapM read = some values := ih
      simp [listOf?, h, ih']

end Collections

/-! ## Structures -/

/-- What a document holds for each field of a structure. -/
abbrev Parts := String → Option Document

/-- The member of a record with a name. -/
def member? (members : List (String × Document)) (name : String) : Option Document :=
  (members.find? fun member => member.1 = name).map Prod.snd

/-- Whether two members of a record have a name. -/
def repeats (members : List (String × Document)) (name : String) : Bool :=
  2 ≤ members.countP fun member => member.1 = name

/-- Whether the members of a record that no field asks for can be left out. -/
def skippable (reading : Reading) (names : List String) (members : List (String × Document)) :
    Bool :=
  reading ≠ .tabular || members.all fun member => names.contains member.1 || member.2.usable

/-- The fields of a structure, given their names in order. -/
def parts? (reading : Reading) (names : List String) : Document → Option Parts
  | .record members =>
      if names.any (repeats members) || !skippable reading names members then none
      else some (member? members)
  | .list items =>
      if reading ≠ .tabular ∧ names.length < items.length then none
      else some (member? (names.zip items))
  | _ => none

/-- The fields of a record that repeats none. -/
theorem parts?_record {reading : Reading} {names : List String}
    {members : List (String × Document)} (hrepeats : ∀ name ∈ names, repeats members name = false)
    (hskippable : skippable reading names members = true) :
    parts? reading names (.record members) = some (member? members) := by
  have hany : names.any (repeats members) = false := by
    rw [List.any_eq_false]
    exact fun name hname => by simp [hrepeats name hname]
  simp [parts?, hany, hskippable]

namespace Parts

variable {α : Type u}

/-- A field that must be there. -/
def required (parts : Parts) (name : String) (read : Document → Option α) : Option α :=
  (parts name).bind read

/-- A field that has a default. -/
def orDefault (parts : Parts) (name : String) (default : α) (read : Document → Option α) :
    Option α :=
  match parts name with
  | some document => read document
  | none => some default

/-- A field that may be absent, for which null may stand. -/
def optional (parts : Parts) (name : String) (read : Document → Option α) :
    Option (Option α) :=
  match parts name with
  | none => some none
  | some .null => some none
  | some document => (read document).map some

end Parts

/-- An optional text. -/
def ofOption : Option String → Document
  | some value => .text value
  | none => .null

/-! ## Choices -/

section Choices

variable {α : Type u}

/-- The first of some alternatives with a name. -/
def named? (alternatives : List α) (nameOf : α → String) (name : String) : Option α :=
  alternatives.find? fun alternative => nameOf alternative = name

/-- One of some alternatives without data, written as its name or as a record of
its name and null. -/
def choice? (reading : Reading) (alternatives : List α) (nameOf : α → String) :
    Document → Option α
  | .text name => named? alternatives nameOf name
  | .record [(name, .null)] => named? alternatives nameOf name
  | .record [(name, .record [])] =>
      if reading = .setAside then named? alternatives nameOf name else none
  | _ => none

end Choices

end Document

end SelectionSql

import Mathlib.Data.List.Nodup
import SelectionSql.Document.Shape
import SelectionSql.Proofs.Outcome

/-!
# Shapes - What written structures and collections are read as

A structure may stand in a document as a record of its fields or as a list of them in their
order.  Both hold the same fields, so a structure can be read without knowing which of them it
is, and structures within structures may be written either way.

Main results:

- `Document.listOf?_of_forall₂`: a list of written items is read item by item.
- `Document.mapOf?_ofMap`, `Document.setOf?_ofSet`: written maps and sets are read back.
- `Document.Holds.parts?`: the fields of a structure, whichever way it is written.
- `Document.Holds.plain`: a structure nests one deeper than its fields.
-/

namespace SelectionSql

universe u

variable {α : Type u}

namespace Document

variable {read : Document → Option α} {document : Document}

/-! ## Collections -/

/-- A list of items that are each read as something is read item by item. -/
theorem listOf?_of_forall₂ {written : α → Document → Prop} {values : List α}
    {documents : List Document}
    (hread : ∀ value document, written value document → read document = some value)
    (h : List.Forall₂ written values documents) :
    (Document.list documents).listOf? read = some values := by
  induction h with
  | nil => rfl
  | @cons value document values documents hhead hrest ih =>
      have hvalue := hread value document hhead
      have hvalues : documents.mapM read = some values := ih
      simp [listOf?, hvalue, hvalues]

/-- Items are written one by one. -/
theorem forall₂_map_written {written : α → Document → Prop} {write : α → Document}
    (h : ∀ value, written value (write value)) (values : List α) :
    List.Forall₂ written values (values.map write) := by
  rw [List.forall₂_map_right_iff, List.forall₂_same]
  exact fun value _ => h value

/-- A written map is read back. -/
theorem mapOf?_ofMap {write : α → Document} (hread : ∀ value, read (write value) = some value)
    (map : SortedMap α) : (ofMap write map).mapOf? read = some map := by
  have hentry : ∀ entry : String × α,
      (read (write entry.2)).map (Prod.mk entry.1) = some (id entry) := by
    intro entry
    rw [hread]
    rfl
  have hentries : (map.entries.map fun entry => (entry.1, write entry.2)).mapM
      (fun member => (read member.2).map (Prod.mk member.1)) = some map.entries := by
    rw [List.mapM_map]
    have hall := Outcome.mapM_eq_some id fun entry (_ : entry ∈ map.entries) => hentry entry
    rwa [List.map_id] at hall
  show Option.map SortedMap.ofList _ = some map
  rw [hentries, Option.map_some, SortedMap.ofList_entries]

/-- A written set is read back. -/
theorem setOf?_ofSet (set : SortedSet) : (ofSet set).setOf? = some set := by
  unfold setOf? ofSet
  rw [listOf?_map text?_text, Option.map_some, SortedSet.ofList_toList]

/-! ## Structures -/

/-- A document holds some fields as a record of them or as a list of them in order. -/
inductive Holds (fields : List (String × Document)) : Document → Prop
  | record : Holds fields (.record fields)
  | list : Holds fields (.list (fields.map Prod.snd))

variable {fields : List (String × Document)} {names : List String}

/-- The first member of a record, or else a later one. -/
@[simp] theorem member?_cons (member : String × Document) (members : List (String × Document))
    (name : String) :
    member? (member :: members) name =
      if member.1 = name then some member.2 else member? members name := by
  unfold member?
  rw [List.find?_cons]
  by_cases h : member.1 = name <;> simp [h]

/-- Distinct names are not repeated. -/
theorem repeats_eq_false (hnames : (fields.map Prod.fst).Nodup) (name : String) :
    repeats fields name = false := by
  have hcount : (fields.map Prod.fst).count name ≤ 1 := List.nodup_iff_count_le_one.mp hnames name
  have hsame : (fields.map Prod.fst).count name =
      fields.countP fun member => member.1 = name := by
    rw [List.count, List.countP_map]
    congr 1
  unfold repeats
  rw [decide_eq_false_iff_not]
  omega

/-- A record of some fields that are asked for holds these. -/
theorem parts?_record_of_subset (hsubset : fields.map Prod.fst ⊆ names)
    (hnames : (fields.map Prod.fst).Nodup) (reading : Reading) :
    (Document.record fields).parts? reading names = some (member? fields) := by
  have hskippable : skippable reading names fields = true := by
    unfold skippable
    rw [Bool.or_eq_true]
    right
    rw [List.all_eq_true]
    intro member hmember
    have hname : member.1 ∈ names := hsubset (List.mem_map_of_mem hmember)
    rw [List.contains_iff_mem.mpr hname, Bool.true_or]
  exact parts?_record (fun name _ => repeats_eq_false hnames name) hskippable

/-- The fields of a structure are those that its document holds. -/
theorem Holds.parts? (h : document.Holds fields) (reading : Reading) (names : List String)
    (hfields : fields.map Prod.fst = names) (hnames : names.Nodup) :
    document.parts? reading names = some (member? fields) := by
  subst hfields
  cases h with
  | record => exact parts?_record_of_subset (List.Subset.refl _) hnames reading
  | list =>
      have hlength : ¬ (fields.map Prod.fst).length < (fields.map Prod.snd).length := by simp
      have hzip : (fields.map Prod.fst).zip (fields.map Prod.snd) = fields := by
        rw [List.zip_map', List.map_id']
      show (if reading ≠ .tabular ∧ (fields.map Prod.fst).length < (fields.map Prod.snd).length
        then none else some (member? ((fields.map Prod.fst).zip (fields.map Prod.snd)))) = _
      rw [if_neg fun hmore => hlength hmore.2, hzip]

/-! ## Depth -/

/-- A structure nests one deeper than its fields. -/
theorem Holds.plain {depth : Nat} (h : document.Holds fields)
    (hfields : ∀ field ∈ fields, field.2.plain depth = true) :
    document.plain (depth + 1) = true := by
  cases h with
  | record =>
      rw [Document.plain, List.all_eq_true]
      exact hfields
  | list =>
      rw [Document.plain, List.all_eq_true]
      intro item hitem
      rcases List.mem_map.mp hitem with ⟨field, hfield, rfl⟩
      exact hfields field hfield

/-- A list of items that are each written nests one deeper than them. -/
theorem plain_list_of_forall₂ {written : α → Document → Prop} {values : List α}
    {documents : List Document} {depth : Nat}
    (hplain : ∀ value document, written value document → document.plain depth = true)
    (h : List.Forall₂ written values documents) :
    (Document.list documents).plain (depth + 1) = true := by
  rw [Document.plain, List.all_eq_true]
  induction h with
  | nil => simp
  | @cons value document values documents hhead hrest ih =>
      intro item hitem
      rcases List.mem_cons.mp hitem with rfl | hmem
      · exact hplain value _ hhead
      · exact ih item hmem

/-- A written map nests one deeper than its values. -/
theorem plain_ofMap {write : α → Document} {depth : Nat}
    (hwrite : ∀ value, (write value).plain depth = true) (map : SortedMap α) :
    (ofMap write map).plain (depth + 1) = true := by
  unfold ofMap
  rw [Document.plain, List.all_eq_true]
  intro member hmember
  rcases List.mem_map.mp hmember with ⟨entry, -, rfl⟩
  exact hwrite entry.2

/-! ## Fields of a structure -/

namespace Parts

variable {parts : Parts} {name : String} {value : α}

/-- A field that is read gives its value. -/
theorem required_eq (hpart : parts name = some document) (hread : read document = some value) :
    parts.required name read = some value := by
  rw [required, hpart]
  exact hread

/-- A field of an optional text gives what there is. -/
theorem optional_eq {text : Option String} (hpart : parts name = some (ofOption text)) :
    parts.optional name text? = some text := by
  rw [optional, hpart]
  cases text <;> rfl

end Parts

end Document

end SelectionSql

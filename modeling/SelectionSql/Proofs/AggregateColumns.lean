import SelectionSql.Proofs.Aggregates

/-!
# Aggregate columns - Every checked aggregate on one column of its level

Checking takes a key apart at its first dot, and selecting a level puts the keys of its columns
together again.  What passes the check is therefore found at the level that it names, on the
one item that its column has there.

Main results:

- `splitKey_eq_iff`: which level and column a key names.
- `exists_checkedAggregates_iff`: which aggregates pass the check.
- `filter_selectItems_eq`: an aggregate is applied by the one item of its column.
- `checkedAggregates_exact`: what is checked is selected once at its level, and nothing else is
  aggregated.
-/

namespace SelectionSql

/-! ## Keys -/

/-- A key names a column of the level before its first dot, or of the anchor if it has none. -/
inductive NamesColumn (anchor : Level) : String → Level → String → Prop
  | dotted {level : Level} {column : String} (hlevel : '.' ∉ level.toList) :
      NamesColumn anchor (level ++ "." ++ column) level column
  | plain {key : String} (hkey : '.' ∉ key.toList) : NamesColumn anchor key anchor key

/-- A key is split into the level and the column that it names. -/
theorem splitKey_eq_iff {anchor level : Level} {key column : String} :
    splitKey anchor key = (level, column) ↔ NamesColumn anchor key level column := by
  constructor
  · intro h
    unfold splitKey at h
    split at h
    next before after hcut =>
      obtain ⟨hkey, hdot⟩ := Text.eq_of_cutFirst hcut
      obtain ⟨rfl, rfl⟩ := Prod.mk.inj h
      have hjoined : key = String.ofList before ++ "." ++ String.ofList after := by
        rw [← String.toList_inj, hkey]
        simp
      rw [hjoined]
      exact NamesColumn.dotted (by simpa using hdot)
    next hcut =>
      obtain ⟨rfl, rfl⟩ := Prod.mk.inj h
      exact NamesColumn.plain (Text.cutFirst_eq_none.mp hcut)
  · intro h
    cases h with
    | dotted hlevel =>
        have hchars : (level ++ "." ++ column).toList = level.toList ++ '.' :: column.toList := by
          simp
        unfold splitKey
        rw [hchars, Text.cutFirst_append_cons _ hlevel]
        simp
    | plain hkey => exact splitKey_of_not_mem hkey

section

variable {request : Request} {anchor level : Level} {style : ColumnStyle}
variable {aggregates checked : AggregateMap} {items : List SelectItem} {entity : Entity}
variable {key column : String} {function : Aggregate}

/-- Aggregates pass the check exactly when each key names a column that the entity at its level
has, and the anchor for a single table. -/
theorem exists_checkedAggregates_iff :
    (∃ checked, checkedAggregates request anchor style aggregates = .ok checked) ↔
      ∀ key ∈ aggregates.keys, ∃ level column, NamesColumn anchor key level column ∧
        (style = .bare → level = anchor) ∧
        ∃ entity, request.entityAt level = .ok entity ∧ entity.hasColumn column = true := by
  constructor
  · rintro ⟨checked, hchecked⟩ key hkey
    obtain ⟨bindings, hbindings, -⟩ := Outcome.map_eq_ok.mp hchecked
    obtain ⟨entry, hentry, rfl⟩ := List.mem_map.mp hkey
    obtain ⟨binding, -, hbinding⟩ := Outcome.exists_of_mem_mapM hbindings hentry
    obtain ⟨written, hwritten, -⟩ := Outcome.map_eq_ok.mp hbinding
    obtain ⟨hlevel, hcolumn, -⟩ := checkedKey_eq_ok.mp hwritten
    exact ⟨_, _, splitKey_eq_iff.mp rfl, hlevel, hcolumn⟩
  · intro hkeys
    have hentries : ∀ entry ∈ aggregates.entries, ∃ binding,
        ((checkedKey request anchor style entry.1).map fun key => (key, entry.2)) =
          .ok binding := by
      intro entry hentry
      obtain ⟨level, column, hnames, hlevel, hcolumn⟩ :=
        hkeys entry.1 (List.mem_map_of_mem hentry)
      refine ⟨(style.key level column, entry.2), Outcome.map_eq_ok.mpr ⟨_, ?_, rfl⟩⟩
      rw [checkedKey_eq_ok, splitKey_eq_iff.mpr hnames]
      exact ⟨hlevel, hcolumn, rfl⟩
    obtain ⟨bindings, hbindings⟩ := Outcome.exists_mapM_eq_ok hentries
    exact ⟨_, Outcome.map_eq_ok.mpr ⟨bindings, hbindings, rfl⟩⟩

/-! ## Items -/

/-- The one item of a column with an aggregate applies it. -/
theorem filter_selectItems_eq (hwell : entity.WellFormed)
    (hentity : request.entityAt level = .ok entity) (hcolumn : entity.hasColumn column = true)
    (hkey : checked.get? (style.key level column) = some function)
    (h : selectItems request style level checked = .ok items) :
    items.filter (fun item => decide (item.column = column)) =
      [⟨style, level, column, some function⟩] := by
  have hitem := columnItem_mem_selectItems (fun column field => (hwell.paired column field).mp)
    hentity hcolumn hkey h
  have hfilter := filter_key_eq (nodup_columns h) hitem
  rw [columnItem, hkey] at hfilter
  exact hfilter

/-- An item is aggregated for a column of the entity, by what its key has. -/
theorem get?_of_mem_selectItems (hwell : entity.WellFormed)
    (hentity : request.entityAt level = .ok entity)
    (h : selectItems request style level checked = .ok items) {item : SelectItem}
    (hitem : item ∈ items) :
    entity.hasColumn item.column = true ∧
      item.aggregate = checked.get? (style.key level item.column) := by
  obtain ⟨found, hfound, name, -, column, hresolve, rfl⟩ := (mem_of_selectItems h).mp hitem
  cases Except.ok.inj (hentity.symm.trans hfound)
  exact ⟨hwell.hasColumn_of_resolve? hresolve, rfl⟩

/-- Aggregates over accepted metadata pass the check exactly when every key names a column that
the entity at its level has.  What is checked are the columns that the keys name, as the style
writes them.  At every level that is selected each checked key of a column is applied by the
one item of this column, and no other item has an aggregate. -/
theorem checkedAggregates_exact {definitions : List EntityDef} {catalog : Catalog}
    (hcatalog : Catalog.ofDefs definitions = .ok catalog)
    (hrequest : request.metadata = catalog.metadata) (anchor : Level) (style : ColumnStyle)
    (aggregates : AggregateMap) :
    ((∃ checked, checkedAggregates request anchor style aggregates = .ok checked) ↔
      ∀ key ∈ aggregates.keys, ∃ level column, NamesColumn anchor key level column ∧
        (style = .bare → level = anchor) ∧
        ∃ entity, request.entityAt level = .ok entity ∧ entity.hasColumn column = true) ∧
    ∀ checked, checkedAggregates request anchor style aggregates = .ok checked →
      (∀ key ∈ aggregates.keys, ∀ level column, NamesColumn anchor key level column →
        style.key level column ∈ checked.keys) ∧
      (∀ written function, checked.get? written = some function →
        ∃ key level column, aggregates.get? key = some function ∧
          NamesColumn anchor key level column ∧ style.key level column = written) ∧
      ∀ fields level items,
        selectItems (request.withFields fields) style level checked = .ok items →
        ∃ entity, request.entityAt level = .ok entity ∧
          (∀ column function, entity.hasColumn column = true →
            checked.get? (style.key level column) = some function →
            ∃ item, items.filter (fun other => decide (other.column = column)) = [item] ∧
              item.aggregate = some function ∧
              item.text = function.apply (style.key level column) ++ " AS " ++
                (style.outputPrefix level ++ column)) ∧
          ∀ item ∈ items, ∀ function, item.aggregate = some function →
            entity.hasColumn item.column = true ∧
              checked.get? (style.key level item.column) = some function := by
  refine ⟨exists_checkedAggregates_iff, ?_⟩
  intro checked hchecked
  refine ⟨?_, ?_, ?_⟩
  · intro key hkey level column hnames
    obtain ⟨function, hfunction⟩ := SortedMap.exists_get?_of_mem_keys hkey
    obtain ⟨-, last, hlast⟩ := exists_get?_checkedAggregates hchecked hfunction
    rw [splitKey_eq_iff.mpr hnames] at hlast
    exact SortedMap.mem_keys_of_get? hlast
  · intro written function hwritten
    obtain ⟨key, hkey, hsource⟩ := exists_of_get?_checkedAggregates hchecked hwritten
    exact ⟨key, _, _, hkey, splitKey_eq_iff.mp rfl, hsource⟩
  · intro fields level items hitems
    obtain ⟨-, entity, hentity, -⟩ := selectItems_eq_ok.mp hitems
    obtain ⟨name, -, hname⟩ := Request.entityAt_eq_ok.mp hentity
    -- fields and columns of accepted metadata map one to one, so no column is lost on the
    -- way from a key to a field and back
    have hwell : entity.WellFormed :=
      Catalog.wellFormed_of_ofDefs hcatalog (hrequest ▸ hname)
    refine ⟨entity, hentity, ?_, ?_⟩
    · intro column function hcolumn hkey
      refine ⟨_, filter_selectItems_eq hwell hentity hcolumn hkey hitems, rfl, ?_⟩
      cases style <;> rfl
    · intro item hitem function hfunction
      obtain ⟨hcolumn, hkey⟩ := get?_of_mem_selectItems hwell hentity hitems hitem
      exact ⟨hcolumn, hkey.symm.trans hfunction⟩

end

namespace Hospital

/-- A request for the names of hospitals. -/
def nameRequest : Request :=
  Request.ofSelection catalog.metadata hospitalNames

/-- Keys with and without a level. -/
def summarized : AggregateMap :=
  SortedMap.ofList [("hospital_id", .max), ("surgeon.surgeon_id", .count)]

/-- The same keys, all with their level. -/
def summarizedByLevel : AggregateMap :=
  SortedMap.ofList [("rootObject.hospital_id", .max), ("surgeon.surgeon_id", .count)]

/-- Surgeons are counted by one column of theirs, and a key of wards is refused. -/
theorem surgeons_counted_once :
    (∃ checked items,
      checkedAggregates nameRequest Level.root (.qualified Level.root) summarized = .ok checked ∧
      selectItems nameRequest (.qualified Level.root) "surgeon" checked = .ok items ∧
      ∃ item, items.filter (fun other => decide (other.column = "surgeon_id")) = [item] ∧
        item.text = "COUNT(surgeon.surgeon_id) AS surgeon_surgeon_id") ∧
    ¬ ∃ checked, checkedAggregates nameRequest Level.root (.qualified Level.root)
      (SortedMap.ofList [("surgeon.ward_id", .count)]) = .ok checked := by
  have hmetadata : nameRequest.metadata = catalog.metadata := rfl
  have hcolumn : ((nameRequest.entityAt "surgeon").map fun entity =>
      (entity.hasColumn "surgeon_id", entity.hasColumn "ward_id")) = .ok (true, false) := by
    decide +kernel
  obtain ⟨surgeon, hsurgeon, hcolumns⟩ := Outcome.map_eq_ok.mp hcolumn
  obtain ⟨hid, hward⟩ := Prod.mk.inj hcolumns
  refine ⟨?_, ?_⟩
  · obtain ⟨-, hselected⟩ := checkedAggregates_exact ofDefs_definitions hmetadata Level.root
      (.qualified Level.root) summarized
    have hchecked : checkedAggregates nameRequest Level.root (.qualified Level.root) summarized =
        .ok summarizedByLevel := by
      decide +kernel
    have hitems : selectItems nameRequest (.qualified Level.root) "surgeon" summarizedByLevel =
        .ok [⟨.qualified Level.root, "surgeon", "surgeon_id", some .count⟩] := by
      decide +kernel
    obtain ⟨entity, hentity, happlied, -⟩ :=
      (hselected summarizedByLevel hchecked).2.2 nameRequest.fields "surgeon" _ hitems
    cases Except.ok.inj (hsurgeon.symm.trans hentity)
    obtain ⟨item, hitem, -, htext⟩ := happlied "surgeon_id" .count hid (by decide +kernel)
    exact ⟨summarizedByLevel, _, hchecked, hitems, item, hitem, htext.trans (by decide +kernel)⟩
  · rw [(checkedAggregates_exact ofDefs_definitions hmetadata Level.root (.qualified Level.root)
      (SortedMap.ofList [("surgeon.ward_id", .count)])).1]
    intro hkeys
    obtain ⟨level, column, hnames, -, entity, hentity, hfound⟩ :=
      hkeys "surgeon.ward_id" (by decide +kernel)
    have hsplit : splitKey Level.root "surgeon.ward_id" = ("surgeon", "ward_id") := by
      decide +kernel
    obtain ⟨rfl, rfl⟩ := Prod.mk.inj (hsplit.symm.trans (splitKey_eq_iff.mpr hnames))
    cases Except.ok.inj (hsurgeon.symm.trans hentity)
    exact absurd (hward.symm.trans hfound) (by decide)

end Hospital

end SelectionSql

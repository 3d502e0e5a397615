/-!
# Sorted maps - Finite maps from text in key order

A map is the list of its entries with strictly increasing keys, so two maps
that answer every lookup alike are equal and a traversal needs no sorting.
Keys are compared by code point.

Main results:

- `SortedMap.get?_insert`: looking up after an insertion.
- `SortedMap.ext_get?`: maps with the same lookups are equal.
- `SortedMap.mem_keys_insert`: insertion adds exactly its key.
- `SortedMap.get?_union`: in a union the later map decides.
- `SortedMap.ofList_eq_foldl_insert`: a map built from a list holds its bindings
  as if they were inserted one after another.
- `SortedMap.mem_of_get?_ofList`, `SortedMap.exists_get?_ofList`: it binds the keys
  of the list, each to one of the values given there.
- `SortedMap.get?_ofList_cons`: of two bindings of a key the later one is found.
- `SortedMap.ofList_entries`: a map is made anew from its entries.
-/

namespace SelectionSql

universe u v

/-- A finite map from text to values, kept in the order of its keys. -/
structure SortedMap (α : Type u) where
  entries : List (String × α)
  /-- The keys increase strictly, so none occurs twice. -/
  increasing : (entries.map Prod.fst).Pairwise (· < ·)
  deriving DecidableEq

namespace SortedMap

variable {α : Type u} {β : Type v}

/-! ## Entry lists -/

/-- Put an entry at its place, replacing an entry with the same key. -/
def insertEntry (key : String) (value : α) : List (String × α) → List (String × α)
  | [] => [(key, value)]
  | (other, old) :: rest =>
      if key < other then (key, value) :: (other, old) :: rest
      else if key = other then (key, value) :: rest
      else (other, old) :: insertEntry key value rest

/-- The value of the first entry with the given key. -/
def findEntry (key : String) : List (String × α) → Option α
  | [] => none
  | (other, value) :: rest => if key = other then some value else findEntry key rest

/-- The keys after an insertion are the inserted key and the old ones. -/
theorem mem_keys_insertEntry {key other : String} {value : α}
    {entries : List (String × α)} :
    other ∈ (insertEntry key value entries).map Prod.fst ↔
      other = key ∨ other ∈ entries.map Prod.fst := by
  induction entries with
  | nil => simp [insertEntry]
  | cons head rest ih =>
      obtain ⟨k, v⟩ := head
      unfold insertEntry
      split
      · simp
      · split
        next heq => subst heq; simp
        next => simp [ih]; grind

/-- Insertion keeps the keys strictly increasing. -/
theorem increasing_insertEntry {key : String} {value : α}
    {entries : List (String × α)}
    (h : (entries.map Prod.fst).Pairwise (· < ·)) :
    ((insertEntry key value entries).map Prod.fst).Pairwise (· < ·) := by
  induction entries with
  | nil => simp [insertEntry]
  | cons head rest ih =>
      obtain ⟨k, v⟩ := head
      rw [List.map_cons, List.pairwise_cons] at h
      unfold insertEntry
      split
      next hlt =>
        rw [List.map_cons, List.pairwise_cons]
        refine ⟨?_, List.pairwise_cons.mpr h⟩
        intro other hother
        rcases List.mem_cons.mp hother with rfl | hmem
        · exact hlt
        · exact String.lt_trans hlt (h.1 other hmem)
      next hnlt =>
        split
        next heq => subst heq; exact List.pairwise_cons.mpr h
        next hne =>
          rw [List.map_cons, List.pairwise_cons]
          refine ⟨?_, ih h.2⟩
          intro other hother
          rcases mem_keys_insertEntry.mp hother with rfl | hmem
          · have hle : k ≤ other := String.not_lt.mp hnlt
            exact Std.lt_of_le_of_ne hle (fun h => hne h.symm)
          · exact h.1 other hmem

/-- Looking up after an insertion finds the new value at its key and the old
one elsewhere. -/
theorem findEntry_insertEntry {key other : String} {value : α}
    {entries : List (String × α)} :
    findEntry other (insertEntry key value entries) =
      if other = key then some value else findEntry other entries := by
  induction entries with
  | nil => simp [insertEntry, findEntry]
  | cons head rest ih =>
      obtain ⟨k, v⟩ := head
      unfold insertEntry
      split
      · simp [findEntry]
      · split
        next heq => subst heq; simp only [findEntry]; split <;> rfl
        next hne =>
          simp only [findEntry, ih]
          by_cases h : other = k
          · subst h; simp [Ne.symm hne]
          · simp [h]

/-- A key is found exactly when it is one of the keys. -/
theorem findEntry_isSome {key : String} {entries : List (String × α)} :
    (findEntry key entries).isSome = true ↔ key ∈ entries.map Prod.fst := by
  induction entries with
  | nil => simp [findEntry]
  | cons head rest ih =>
      obtain ⟨k, v⟩ := head
      simp only [findEntry, List.map_cons, List.mem_cons]
      split
      next heq => simp [heq]
      next hne => simp [hne, ih]

/-- A found value stands in an entry with the key. -/
theorem mem_of_findEntry {key : String} {value : α} {entries : List (String × α)}
    (h : findEntry key entries = some value) : (key, value) ∈ entries := by
  induction entries with
  | nil => simp [findEntry] at h
  | cons head rest ih =>
      obtain ⟨k, v⟩ := head
      simp only [findEntry] at h
      split at h
      next heq => subst heq; simp_all
      next => exact List.mem_cons_of_mem _ (ih h)

/-- With strictly increasing keys every entry is found by its key. -/
theorem findEntry_of_mem {key : String} {value : α} {entries : List (String × α)}
    (hinc : (entries.map Prod.fst).Pairwise (· < ·)) (h : (key, value) ∈ entries) :
    findEntry key entries = some value := by
  induction entries with
  | nil => simp at h
  | cons head rest ih =>
      obtain ⟨k, v⟩ := head
      rw [List.map_cons, List.pairwise_cons] at hinc
      simp only [findEntry]
      rcases List.mem_cons.mp h with heq | hmem
      · obtain ⟨rfl, rfl⟩ := Prod.mk.inj heq
        simp
      · have hlt : k < key := hinc.1 key (List.mem_map_of_mem hmem)
        have hne : key ≠ k := fun heq => String.lt_irrefl k (heq ▸ hlt)
        simp [hne, ih hinc.2 hmem]

/-- Two strictly increasing entry lists with the same lookups are equal. -/
theorem eq_of_findEntry_eq {left right : List (String × α)}
    (hleft : (left.map Prod.fst).Pairwise (· < ·))
    (hright : (right.map Prod.fst).Pairwise (· < ·))
    (h : ∀ key, findEntry key left = findEntry key right) : left = right := by
  induction left generalizing right with
  | nil =>
      cases right with
      | nil => rfl
      | cons head rest =>
          have := h head.1
          simp [findEntry] at this
  | cons lhead lrest ih =>
      obtain ⟨lk, lv⟩ := lhead
      cases right with
      | nil =>
          have := h lk
          simp [findEntry] at this
      | cons rhead rrest =>
          obtain ⟨rk, rv⟩ := rhead
          rw [List.map_cons, List.pairwise_cons] at hleft hright
          have hkeys : lk = rk := by
            have hl : lk ∈ ((rk, rv) :: rrest).map Prod.fst := by
              rw [← findEntry_isSome, ← h lk]; simp [findEntry]
            have hr : rk ∈ ((lk, lv) :: lrest).map Prod.fst := by
              rw [← findEntry_isSome, h rk]; simp [findEntry]
            rw [List.map_cons, List.mem_cons] at hl hr
            rcases hl with hl | hl
            · exact hl
            · rcases hr with hr | hr
              · exact hr.symm
              · exact absurd (String.lt_trans (hleft.1 _ hr) (hright.1 _ hl))
                  (String.lt_irrefl _)
          subst hkeys
          have hvals : lv = rv := by simpa [findEntry] using h lk
          subst hvals
          refine congrArg (List.cons _) (ih hleft.2 hright.2 fun key => ?_)
          by_cases hkey : key = lk
          · subst hkey
            have hl : findEntry key lrest = none := by
              rw [← Option.not_isSome_iff_eq_none, findEntry_isSome]
              exact fun hmem => String.lt_irrefl _ (hleft.1 _ hmem)
            have hr : findEntry key rrest = none := by
              rw [← Option.not_isSome_iff_eq_none, findEntry_isSome]
              exact fun hmem => String.lt_irrefl _ (hright.1 _ hmem)
            rw [hl, hr]
          · simpa [findEntry, hkey] using h key

/-! ## Merging entry lists -/

/-- Merge an entry, which comes before those that a function merges, into later
entries. -/
def mergeEntry (key : String) (value : α) (mergeRest : List (String × α) → List (String × α)) :
    List (String × α) → List (String × α)
  | [] => (key, value) :: mergeRest []
  | (other, new) :: later =>
      if key < other then (key, value) :: mergeRest ((other, new) :: later)
      else if key = other then (other, new) :: mergeRest later
      else (other, new) :: mergeEntry key value mergeRest later

/-- The entries of two lists in key order.  Where both have a key, the later list
decides. -/
def mergeEntries : List (String × α) → List (String × α) → List (String × α)
  | [], later => later
  | (key, value) :: earlier, later => mergeEntry key value (mergeEntries earlier) later

/-- The keys of merged entries are those of both lists. -/
theorem mem_keys_mergeEntries {earlier later : List (String × α)} {key : String} :
    key ∈ (mergeEntries earlier later).map Prod.fst ↔
      key ∈ earlier.map Prod.fst ∨ key ∈ later.map Prod.fst := by
  induction earlier generalizing later with
  | nil => simp [mergeEntries]
  | cons head earlier ih =>
      obtain ⟨k, v⟩ := head
      show key ∈ (mergeEntry k v (mergeEntries earlier) later).map Prod.fst ↔ _
      induction later with
      | nil => simp [mergeEntry, ih]
      | cons other later ihlater =>
          obtain ⟨l, w⟩ := other
          unfold mergeEntry
          split
          · simp only [List.map_cons, List.mem_cons, ih]
            exact or_assoc.symm
          · split
            next heq => subst heq; simp only [List.map_cons, List.mem_cons, ih]; grind
            next => simp only [List.map_cons, List.mem_cons, ihlater]; grind

/-- Merging keeps the keys strictly increasing. -/
theorem increasing_mergeEntries {earlier later : List (String × α)}
    (hearlier : (earlier.map Prod.fst).Pairwise (· < ·))
    (hlater : (later.map Prod.fst).Pairwise (· < ·)) :
    ((mergeEntries earlier later).map Prod.fst).Pairwise (· < ·) := by
  induction earlier generalizing later with
  | nil => exact hlater
  | cons head earlier ih =>
      obtain ⟨k, v⟩ := head
      rw [List.map_cons, List.pairwise_cons] at hearlier
      show ((mergeEntry k v (mergeEntries earlier) later).map Prod.fst).Pairwise (· < ·)
      induction later with
      | nil =>
          rw [mergeEntry, List.map_cons, List.pairwise_cons]
          refine ⟨fun other hother => ?_, ih hearlier.2 hlater⟩
          rcases mem_keys_mergeEntries.mp hother with hmem | hmem
          · exact hearlier.1 other hmem
          · simp at hmem
      | cons other later ihlater =>
          obtain ⟨l, w⟩ := other
          have htail := hlater
          rw [List.map_cons, List.pairwise_cons] at hlater
          unfold mergeEntry
          split
          next hlt =>
            rw [List.map_cons, List.pairwise_cons]
            refine ⟨fun other hother => ?_, ih hearlier.2 htail⟩
            rcases mem_keys_mergeEntries.mp hother with hmem | hmem
            · exact hearlier.1 other hmem
            · rcases List.mem_cons.mp hmem with rfl | hmem
              · exact hlt
              · exact String.lt_trans hlt (hlater.1 other hmem)
          next hnlt =>
            split
            next heq =>
              subst heq
              rw [List.map_cons, List.pairwise_cons]
              refine ⟨fun other hother => ?_, ih hearlier.2 hlater.2⟩
              rcases mem_keys_mergeEntries.mp hother with hmem | hmem
              · exact hearlier.1 other hmem
              · exact hlater.1 other hmem
            next hne =>
              have hlt : l < k :=
                Std.lt_of_le_of_ne (String.not_lt.mp hnlt) (fun heq => hne heq.symm)
              rw [List.map_cons, List.pairwise_cons]
              refine ⟨fun other hother => ?_, ihlater hlater.2⟩
              have hmem : other ∈ (mergeEntries ((k, v) :: earlier) later).map Prod.fst := hother
              rcases mem_keys_mergeEntries.mp hmem with hmem | hmem
              · rcases List.mem_cons.mp hmem with rfl | hmem
                · exact hlt
                · exact String.lt_trans hlt (hearlier.1 other hmem)
              · exact hlater.1 other hmem

/-- Looking up in merged entries finds what the later list holds, or else what
the earlier one holds. -/
theorem findEntry_mergeEntries {earlier later : List (String × α)} {key : String}
    (hlater : (later.map Prod.fst).Pairwise (· < ·)) :
    findEntry key (mergeEntries earlier later) =
      (findEntry key later).or (findEntry key earlier) := by
  induction earlier generalizing later with
  | nil => simp [mergeEntries, findEntry]
  | cons head earlier ih =>
      obtain ⟨k, v⟩ := head
      show findEntry key (mergeEntry k v (mergeEntries earlier) later) = _
      induction later with
      | nil => simp [mergeEntry, findEntry, ih hlater]
      | cons other later ihlater =>
          obtain ⟨l, w⟩ := other
          have htail := hlater
          rw [List.map_cons, List.pairwise_cons] at hlater
          unfold mergeEntry
          split
          next hlt =>
            rw [findEntry, ih htail]
            split
            next heq =>
              subst heq
              have hno : findEntry key ((l, w) :: later) = none := by
                rw [← Option.not_isSome_iff_eq_none, findEntry_isSome, List.map_cons,
                  List.mem_cons, not_or]
                exact ⟨fun h : key = l => String.lt_irrefl l (h ▸ hlt),
                  fun h => String.lt_irrefl key (String.lt_trans hlt (hlater.1 key h))⟩
              rw [hno]
              simp [findEntry]
            next hne => simp [findEntry, hne]
          next hnlt =>
            split
            next heq =>
              subst heq
              simp only [findEntry, ih hlater.2]
              split <;> simp
            next hne =>
              simp only [findEntry, ihlater hlater.2]
              split <;> simp

/-! ## Maps -/

/-- The map without entries. -/
def empty : SortedMap α := ⟨[], List.Pairwise.nil⟩

instance : EmptyCollection (SortedMap α) := ⟨empty⟩

instance : Inhabited (SortedMap α) := ⟨empty⟩

/-- Bind a key, replacing an earlier binding. -/
def insert (map : SortedMap α) (key : String) (value : α) : SortedMap α :=
  ⟨insertEntry key value map.entries, increasing_insertEntry map.increasing⟩

/-- The value bound to a key. -/
def get? (map : SortedMap α) (key : String) : Option α :=
  findEntry key map.entries

/-- Whether a key is bound. -/
def contains (map : SortedMap α) (key : String) : Bool :=
  (map.get? key).isSome

/-- The keys in order. -/
def keys (map : SortedMap α) : List String :=
  map.entries.map Prod.fst

/-- The number of entries. -/
def size (map : SortedMap α) : Nat :=
  map.entries.length

/-- The bindings of two maps.  Where both bind a key, the later map decides. -/
def union (earlier later : SortedMap α) : SortedMap α :=
  ⟨mergeEntries earlier.entries later.entries,
    increasing_mergeEntries earlier.increasing later.increasing⟩

/-- Add a map after others, the latest of which comes first.  Two maps of one
rank make one of the next rank, so that maps of like sizes are united. -/
def addRun (rank : Nat) (map : SortedMap α) :
    List (Nat × SortedMap α) → List (Nat × SortedMap α)
  | [] => [(rank, map)]
  | (other, earlier) :: runs =>
      if other = rank then addRun (rank + 1) (earlier.union map) runs
      else (rank, map) :: (other, earlier) :: runs

/-- The union of some maps, the latest of which comes first. -/
def unionRuns : List (Nat × SortedMap α) → SortedMap α
  | [] => empty
  | (_, map) :: runs => (unionRuns runs).union map

/-- The map of a list of bindings, in which a later binding of a key wins. -/
def ofList (bindings : List (String × α)) : SortedMap α :=
  unionRuns (bindings.foldl
    (fun runs binding => addRun 0 (empty.insert binding.1 binding.2) runs) [])

/-- Apply a function to every value. -/
def mapValues (f : α → β) (map : SortedMap α) : SortedMap β :=
  ⟨map.entries.map fun entry => (entry.1, f entry.2), by
    simpa [List.map_map, Function.comp_def] using map.increasing⟩

/-- Bind a key to the outcome of a function of its present value. -/
def update (map : SortedMap α) (key : String) (f : Option α → α) : SortedMap α :=
  map.insert key (f (map.get? key))

@[simp] theorem get?_empty (key : String) : (empty : SortedMap α).get? key = none := rfl

/-- Looking up after an insertion. -/
theorem get?_insert (map : SortedMap α) (key other : String) (value : α) :
    (map.insert key value).get? other =
      if other = key then some value else map.get? other :=
  findEntry_insertEntry

@[simp] theorem get?_insert_self (map : SortedMap α) (key : String) (value : α) :
    (map.insert key value).get? key = some value := by
  simp [get?_insert]

/-- Looking up after an update. -/
theorem get?_update (map : SortedMap α) (key other : String) (f : Option α → α) :
    (map.update key f).get? other =
      if other = key then some (f (map.get? key)) else map.get? other :=
  get?_insert map key other _

/-- A key is bound exactly when it is one of the keys. -/
theorem contains_iff_mem_keys (map : SortedMap α) (key : String) :
    map.contains key = true ↔ key ∈ map.keys :=
  findEntry_isSome

/-- A bound key is one of the keys. -/
theorem mem_keys_of_get? {map : SortedMap α} {key : String} {value : α}
    (h : map.get? key = some value) : key ∈ map.keys :=
  (map.contains_iff_mem_keys key).mp (Option.isSome_iff_exists.mpr ⟨value, h⟩)

/-- One of the keys is bound to a value. -/
theorem exists_get?_of_mem_keys {map : SortedMap α} {key : String} (h : key ∈ map.keys) :
    ∃ value, map.get? key = some value :=
  Option.isSome_iff_exists.mp ((map.contains_iff_mem_keys key).mpr h)

/-- A key that is bound to nothing is none of the keys. -/
theorem not_mem_keys_of_get? {map : SortedMap α} {key : String} (h : map.get? key = none) :
    key ∉ map.keys := by
  intro hkey
  obtain ⟨value, hvalue⟩ := exists_get?_of_mem_keys hkey
  exact absurd (h.symm.trans hvalue) (by simp)

theorem contains_insert (map : SortedMap α) (key other : String) (value : α) :
    (map.insert key value).contains other =
      (decide (other = key) || map.contains other) := by
  simp only [contains, get?_insert]
  split <;> simp_all

/-- Insertion adds exactly its key. -/
theorem mem_keys_insert {map : SortedMap α} {key other : String} {value : α} :
    other ∈ (map.insert key value).keys ↔ other = key ∨ other ∈ map.keys :=
  mem_keys_insertEntry

/-- The entries of a map are its bindings. -/
theorem mem_entries_iff (map : SortedMap α) (key : String) (value : α) :
    (key, value) ∈ map.entries ↔ map.get? key = some value :=
  ⟨findEntry_of_mem map.increasing, mem_of_findEntry⟩

/-- Maps with the same lookups are equal. -/
theorem ext_get? {left right : SortedMap α}
    (h : ∀ key, left.get? key = right.get? key) : left = right := by
  obtain ⟨left, hleft⟩ := left
  obtain ⟨right, hright⟩ := right
  have : left = right := eq_of_findEntry_eq hleft hright h
  subst this
  rfl

/-- Looking up in a union. -/
theorem get?_union (earlier later : SortedMap α) (key : String) :
    (earlier.union later).get? key = (later.get? key).or (earlier.get? key) :=
  findEntry_mergeEntries later.increasing

/-- A map that is added decides, or else the maps before it. -/
theorem get?_unionRuns_addRun (rank : Nat) (map : SortedMap α)
    (runs : List (Nat × SortedMap α)) (key : String) :
    (unionRuns (addRun rank map runs)).get? key =
      (map.get? key).or ((unionRuns runs).get? key) := by
  induction runs generalizing rank map with
  | nil => simp [addRun, unionRuns, get?_union]
  | cons head runs ih =>
      obtain ⟨other, earlier⟩ := head
      unfold addRun
      split
      · simp only [ih, unionRuns, get?_union, Option.or_assoc]
      · simp only [unionRuns, get?_union]

/-- Adding a map of one binding inserts it. -/
theorem unionRuns_addRun_insert (key : String) (value : α) (runs : List (Nat × SortedMap α)) :
    unionRuns (addRun 0 (empty.insert key value) runs) = (unionRuns runs).insert key value := by
  refine ext_get? fun other => ?_
  rw [get?_unionRuns_addRun, get?_insert, get?_insert]
  split <;> simp

/-- A map built from a list holds its bindings as if they were inserted one after
another. -/
theorem ofList_eq_foldl_insert (bindings : List (String × α)) :
    ofList bindings =
      bindings.foldl (fun map binding => map.insert binding.1 binding.2) empty := by
  have hruns : ∀ runs : List (Nat × SortedMap α),
      unionRuns (bindings.foldl
        (fun runs binding => addRun 0 (empty.insert binding.1 binding.2) runs) runs) =
      bindings.foldl (fun map binding => map.insert binding.1 binding.2) (unionRuns runs) := by
    induction bindings with
    | nil => exact fun _ => rfl
    | cons head rest ih =>
        intro runs
        rw [List.foldl_cons, ih, unionRuns_addRun_insert, List.foldl_cons]
  exact hruns []

/-- What is bound after inserting bindings is one of them, or was bound before. -/
theorem mem_of_get?_foldl_insert {bindings : List (String × α)} {map : SortedMap α}
    {key : String} {value : α}
    (h : (bindings.foldl (fun map binding => map.insert binding.1 binding.2) map).get? key =
      some value) : (key, value) ∈ bindings ∨ map.get? key = some value := by
  induction bindings generalizing map with
  | nil => exact Or.inr h
  | cons head rest ih =>
      rw [List.foldl_cons] at h
      rcases ih h with hmem | hget
      · exact Or.inl (List.mem_cons_of_mem _ hmem)
      · rw [get?_insert] at hget
        by_cases heq : key = head.1
        · rw [if_pos heq] at hget
          have hhead : (key, value) = head := Prod.ext heq (Option.some.inj hget).symm
          exact Or.inl (hhead ▸ List.mem_cons_self)
        · rw [if_neg heq] at hget
          exact Or.inr hget

/-- A map built from a list binds a key to what the list does. -/
theorem mem_of_get?_ofList {bindings : List (String × α)} {key : String} {value : α}
    (h : (ofList bindings).get? key = some value) : (key, value) ∈ bindings := by
  rw [ofList_eq_foldl_insert] at h
  rcases mem_of_get?_foldl_insert h with hmem | hget
  · exact hmem
  · simp at hget

/-- After inserting bindings the last of them decides, or else what was bound before. -/
theorem get?_foldl_insert (bindings : List (String × α)) (map : SortedMap α) (key : String) :
    (bindings.foldl (fun map binding => map.insert binding.1 binding.2) map).get? key =
      ((ofList bindings).get? key).or (map.get? key) := by
  rw [ofList_eq_foldl_insert]
  induction bindings generalizing map with
  | nil => simp
  | cons head rest ih =>
      rw [List.foldl_cons, List.foldl_cons, ih, ih (empty.insert head.1 head.2), Option.or_assoc]
      congr 1
      rw [get?_insert, get?_insert]
      split <;> simp

/-- In a map built from a list a first binding gives way to the later ones of its key. -/
theorem get?_ofList_cons (binding : String × α) (bindings : List (String × α)) (key : String) :
    (ofList (binding :: bindings)).get? key =
      ((ofList bindings).get? key).or (if key = binding.1 then some binding.2 else none) := by
  rw [ofList_eq_foldl_insert, List.foldl_cons, get?_foldl_insert, get?_insert]
  rfl

/-- What was bound before, or is bound by one of the insertions, stays bound. -/
theorem isSome_get?_foldl_insert {bindings : List (String × α)} {map : SortedMap α}
    {key : String} (h : key ∈ bindings.map Prod.fst ∨ (map.get? key).isSome = true) :
    ((bindings.foldl (fun map binding => map.insert binding.1 binding.2) map).get?
      key).isSome = true := by
  induction bindings generalizing map with
  | nil => simpa using h
  | cons head rest ih =>
      rw [List.foldl_cons]
      apply ih
      rw [get?_insert]
      by_cases heq : key = head.1
      · simp [heq]
      · simpa [heq] using h

/-- A map built from a list binds every key of the list. -/
theorem exists_get?_ofList {bindings : List (String × α)} {key : String}
    (h : key ∈ bindings.map Prod.fst) : ∃ value, (ofList bindings).get? key = some value := by
  rw [ofList_eq_foldl_insert]
  exact Option.isSome_iff_exists.mp (isSome_get?_foldl_insert (Or.inl h))

/-- A map is made anew from its entries. -/
theorem ofList_entries (map : SortedMap α) : ofList map.entries = map := by
  refine ext_get? fun key => ?_
  cases hmap : map.get? key with
  | some value =>
      have hentry := (map.mem_entries_iff key value).mpr hmap
      rcases exists_get?_ofList (List.mem_map_of_mem hentry) with ⟨found, hfound⟩
      have hsame := (map.mem_entries_iff key found).mp (mem_of_get?_ofList hfound)
      cases Option.some.inj (hmap.symm.trans hsame)
      exact hfound
  | none =>
      cases hnew : (ofList map.entries).get? key with
      | none => rfl
      | some found =>
          have hsame := (map.mem_entries_iff key found).mp (mem_of_get?_ofList hnew)
          exact absurd (hmap.symm.trans hsame) (by simp)

end SortedMap

end SelectionSql

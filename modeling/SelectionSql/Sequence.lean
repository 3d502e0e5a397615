/-!
# Sequences - Keeping first occurrences

Main results:

- `mem_keepFirst`, `nodup_keepFirst`: nothing is lost and nothing stays twice.
- `keepFirst_of_nodup`: a list without repetitions stays as it is.
- `mem_keepFirstBy_iff`: what is kept is what is found first under its key.
- `filter_key_eq`: where no key occurs twice, an element is the only one with its key.
- `filter_key_eq_of_perm`: where no key occurs twice, what has a key is the same in any order.
- `keepFirstBy_append`: what is kept of two lists in a row.
- `keepFirst_append_cons`: an element that occurred before is not kept again.
- `keepFirst_filter`, `keepFirst_flatMap_keepFirst`: first occurrences may be kept later.
- `firstOccurrences_keepFirst`, `FirstOccurrences.eq_keepFirst`: what is kept, said by places.
- `appendNew_of_mem`, `appendNew_of_not_mem`: only new elements are appended.
- `map_declareAll`, `find?_declareAll`: declared entries stand where their keys came first, and
  are those that came last.
- `eq_declareAll`: nothing else does.
-/

namespace SelectionSql

universe u v

variable {α : Type u} {β : Type v} [DecidableEq β]

/-- The list without the later of two elements that share a key. -/
def keepFirstBy (key : α → β) : List α → List α
  | [] => []
  | head :: rest =>
      head :: (keepFirstBy key rest).filter fun other => decide (key other ≠ key head)

/-- The list without repetitions, each element at its first place. -/
def keepFirst (list : List β) : List β :=
  keepFirstBy id list

/-- Every key stays represented. -/
theorem mem_map_keepFirstBy {key : α → β} {list : List α} {value : β} :
    value ∈ (keepFirstBy key list).map key ↔ value ∈ list.map key := by
  induction list with
  | nil => simp [keepFirstBy]
  | cons head rest ih =>
      simp only [keepFirstBy, List.map_cons, List.mem_cons]
      constructor
      · rintro (rfl | h)
        · exact Or.inl rfl
        · obtain ⟨element, hmem, rfl⟩ := List.mem_map.mp h
          exact Or.inr (ih.mp (List.mem_map_of_mem (List.mem_filter.mp hmem).1))
      · rintro (rfl | h)
        · exact Or.inl rfl
        · by_cases heq : value = key head
          · exact Or.inl heq
          · obtain ⟨element, hmem, rfl⟩ := List.mem_map.mp (ih.mpr h)
            exact Or.inr (List.mem_map_of_mem (List.mem_filter.mpr ⟨hmem, by simpa using heq⟩))

/-- The keys that are kept are distinct. -/
theorem nodup_map_keepFirstBy (key : α → β) (list : List α) :
    ((keepFirstBy key list).map key).Nodup := by
  induction list with
  | nil => simp [keepFirstBy]
  | cons head rest ih =>
      simp only [keepFirstBy, List.map_cons, List.nodup_cons]
      constructor
      · intro h
        obtain ⟨element, hmem, heq⟩ := List.mem_map.mp h
        simpa [heq] using (List.mem_filter.mp hmem).2
      · exact ih.sublist (List.Sublist.map _ List.filter_sublist)

/-- Keeping first occurrences loses no element. -/
theorem mem_keepFirst {list : List β} {element : β} :
    element ∈ keepFirst list ↔ element ∈ list := by
  have h : element ∈ (keepFirstBy id list).map id ↔ element ∈ list.map id :=
    mem_map_keepFirstBy
  simpa [keepFirst] using h

/-- Keeping first occurrences leaves nothing twice. -/
theorem nodup_keepFirst (list : List β) : (keepFirst list).Nodup := by
  simpa [keepFirst] using nodup_map_keepFirstBy id list

/-- A list with distinct keys stays as it is. -/
theorem keepFirstBy_of_nodup {key : α → β} {list : List α} (h : (list.map key).Nodup) :
    keepFirstBy key list = list := by
  induction list with
  | nil => rfl
  | cons head rest ih =>
      rw [List.map_cons, List.nodup_cons] at h
      rw [keepFirstBy, ih h.2]
      congr 1
      rw [List.filter_eq_self]
      intro element hmem
      simp only [ne_eq, decide_not, Bool.not_eq_eq_eq_not, Bool.not_true, decide_eq_false_iff_not]
      exact fun heq => h.1 (heq ▸ List.mem_map_of_mem hmem)

/-- A list without repetitions stays as it is. -/
theorem keepFirst_of_nodup {list : List β} (h : list.Nodup) : keepFirst list = list :=
  keepFirstBy_of_nodup (by simpa using h)

/-- Where no key occurs twice, an element is the only one with its key. -/
theorem filter_key_eq {key : α → β} {list : List α} (hnodup : (list.map key).Nodup)
    {element : α} (h : element ∈ list) :
    list.filter (fun other => decide (key other = key element)) = [element] := by
  induction list with
  | nil => exact absurd h List.not_mem_nil
  | cons head rest ih =>
      rw [List.map_cons, List.nodup_cons] at hnodup
      rcases List.mem_cons.mp h with rfl | hrest
      · have hnone : rest.filter (fun other => decide (key other = key element)) = [] := by
          rw [List.filter_eq_nil_iff]
          intro other hother
          simp only [decide_eq_true_eq]
          exact fun heq => hnodup.1 (heq ▸ List.mem_map_of_mem hother)
        rw [List.filter_cons_of_pos (by simp), hnone]
      · have hne : key head ≠ key element := fun heq =>
          hnodup.1 (heq ▸ List.mem_map_of_mem hrest)
        rw [List.filter_cons_of_neg (by simpa using hne), ih hnodup.2 hrest]

/-- Where no key occurs twice, what has a key is the same in any order. -/
theorem filter_key_eq_of_perm {key : α → β} {list other : List α} (h : list.Perm other)
    (hnodup : (list.map key).Nodup) (value : β) :
    list.filter (fun element => decide (key element = value)) =
      other.filter fun element => decide (key element = value) := by
  have hperm := h.filter fun element => decide (key element = value)
  cases hfilter : list.filter fun element => decide (key element = value) with
  | nil =>
      rw [hfilter] at hperm
      exact hperm.nil_eq
  | cons first rest =>
      -- the list has one such element at most
      have hmem : first ∈ list.filter fun element => decide (key element = value) := by
        rw [hfilter]
        exact List.mem_cons_self
      obtain ⟨hfirst, hkey⟩ := List.mem_filter.mp hmem
      cases of_decide_eq_true hkey
      rw [filter_key_eq hnodup hfirst] at hperm hfilter
      rw [← hfilter]
      exact (List.perm_singleton.mp hperm.symm).symm

/-- What is kept is what is found first under its key. -/
theorem mem_keepFirstBy_iff {key : α → β} {list : List α} {element : α} :
    element ∈ keepFirstBy key list ↔
      list.find? (fun other => decide (key other = key element)) = some element := by
  induction list with
  | nil => simp [keepFirstBy]
  | cons head rest ih =>
      rw [keepFirstBy, List.mem_cons, List.mem_filter, ih, List.find?_cons]
      by_cases hkey : key head = key element
      · simp [hkey, eq_comm]
      · have hne : element ≠ head := fun heq => hkey (heq ▸ rfl)
        simp [hkey, hne, Ne.symm hkey]

/-- The keys that are kept are the first occurrences of the keys. -/
theorem map_keepFirstBy (key : α → β) (list : List α) :
    (keepFirstBy key list).map key = keepFirst (list.map key) := by
  induction list with
  | nil => rfl
  | cons head rest ih =>
      have hfilter : ((keepFirstBy key rest).filter fun other =>
          decide (key other ≠ key head)).map key =
            ((keepFirstBy key rest).map key).filter fun other => decide (other ≠ key head) := by
        rw [List.filter_map]
        rfl
      rw [keepFirstBy, List.map_cons, hfilter, ih]
      rfl

/-- Of two lists in a row, the second one keeps what is new to the first. -/
theorem keepFirstBy_append (key : α → β) (first second : List α) :
    keepFirstBy key (first ++ second) =
      keepFirstBy key first ++
        (keepFirstBy key second).filter fun other => decide (key other ∉ first.map key) := by
  induction first with
  | nil =>
      rw [List.nil_append, List.filter_eq_self.mpr (by simp)]
      rfl
  | cons head rest ih =>
      rw [List.cons_append, keepFirstBy, ih, List.filter_append, List.filter_filter]
      rw [keepFirstBy, List.cons_append]
      congr 3
      funext other
      simp

/-- An element that occurred before is not kept again. -/
theorem keepFirst_append_cons {list more : List β} {element : β} (h : element ∈ list) :
    keepFirst (list ++ element :: more) = keepFirst (list ++ more) := by
  unfold keepFirst
  rw [keepFirstBy_append, keepFirstBy_append, keepFirstBy, List.filter_cons, List.filter_filter]
  simp only [List.map_id, id_eq, h, not_true_eq_false, decide_false, Bool.false_eq_true, if_false]
  congr 1
  refine List.filter_congr fun other _ => ?_
  by_cases hother : other ∈ list
  · simp [hother]
  · have hne : other ≠ element := fun heq => hother (heq ▸ h)
    simp [hother, hne]

/-- Among elements that are left out, a first one leaves what is kept as it is. -/
theorem filter_keepFirst_cons_of_mem {excluded list : List β} {element : β}
    (h : element ∈ excluded) :
    ((keepFirst (element :: list)).filter fun other => decide (other ∉ excluded)) =
      (keepFirst list).filter fun other => decide (other ∉ excluded) := by
  rw [keepFirst, keepFirstBy, List.filter_cons_of_neg (by simpa using h), List.filter_filter]
  refine List.filter_congr fun other _ => ?_
  by_cases hother : other = element <;> simp [hother, h]

/-- A first element is kept unless it is left out, and it is left out after that. -/
theorem filter_keepFirst_cons_of_not_mem {excluded list : List β} {element : β}
    (h : element ∉ excluded) :
    ((keepFirst (element :: list)).filter fun other => decide (other ∉ excluded)) =
      element :: (keepFirst list).filter fun other => decide (other ∉ element :: excluded) := by
  rw [keepFirst, keepFirstBy, List.filter_cons_of_pos (by simpa using h), List.filter_filter]
  refine congrArg (element :: ·) (List.filter_congr fun other _ => ?_)
  simp [Bool.and_comm]

/-- The first element is kept, and it is left out of what follows. -/
theorem keepFirst_cons (head : β) (rest : List β) :
    keepFirst (head :: rest) = head :: (keepFirst rest).filter fun other => decide (other ≠ head) :=
  rfl

/-- Elements may be left out before or after first occurrences are kept. -/
theorem keepFirst_filter (test : β → Bool) (list : List β) :
    keepFirst (list.filter test) = (keepFirst list).filter test := by
  induction list with
  | nil => rfl
  | cons head rest ih =>
      by_cases htest : test head = true
      · rw [List.filter_cons_of_pos htest, keepFirst_cons, keepFirst_cons,
          List.filter_cons_of_pos htest, ih, List.filter_filter, List.filter_filter]
        simp only [Bool.and_comm]
      · rw [List.filter_cons_of_neg htest, keepFirst_cons, List.filter_cons_of_neg htest, ih,
          List.filter_filter]
        refine List.filter_congr fun other _ => ?_
        by_cases hother : other = head
        · simp [hother, htest]
        · simp [hother]

/-- Elements that lead to nothing may be left out. -/
theorem flatMap_filter_eq {γ : Type v} {step : α → List γ} {test : α → Bool} {list : List α}
    (h : ∀ element ∈ list, test element = false → step element = []) :
    (list.filter test).flatMap step = list.flatMap step := by
  induction list with
  | nil => rfl
  | cons head rest ih =>
      have hrest := ih fun element helement => h element (List.mem_cons_of_mem _ helement)
      by_cases htest : test head = true
      · rw [List.filter_cons_of_pos htest, List.flatMap_cons, List.flatMap_cons, hrest]
      · have hnothing := h head List.mem_cons_self (Bool.not_eq_true _ ▸ htest)
        rw [List.filter_cons_of_neg htest, List.flatMap_cons, hnothing, List.nil_append, hrest]

/-- What a list leads to is kept alike when its repetitions are left out first. -/
theorem keepFirst_flatMap_keepFirst {γ : Type v} [DecidableEq γ] (step : β → List γ)
    (list : List β) :
    keepFirst ((keepFirst list).flatMap step) = keepFirst (list.flatMap step) := by
  induction list with
  | nil => rfl
  | cons head rest ih =>
      have happend : ∀ second : List γ, keepFirst (step head ++ second) =
          keepFirst (step head) ++ keepFirst (second.filter fun other =>
            decide (other ∉ step head)) := by
        intro second
        rw [keepFirst_filter, keepFirst, keepFirstBy_append, List.map_id]
        rfl
      have hfilter : ((keepFirst rest).filter fun other => decide (other ≠ head)).flatMap
          (fun other => (step other).filter fun result => decide (result ∉ step head)) =
            (keepFirst rest).flatMap
              fun other => (step other).filter fun result => decide (result ∉ step head) := by
        refine flatMap_filter_eq fun other _ hother => ?_
        have heq : other = head := by simpa using hother
        rw [heq, List.filter_eq_nil_iff]
        intro result hresult
        simp [hresult]
      rw [keepFirst_cons, List.flatMap_cons, List.flatMap_cons, happend, happend,
        List.filter_flatMap, hfilter, ← List.filter_flatMap, keepFirst_filter, ih,
        ← keepFirst_filter]

/-- Elements in which nothing is found may be left out. -/
theorem findSome?_filter_eq {γ : Type v} {find : α → Option γ} {test : α → Bool} {list : List α}
    (h : ∀ element ∈ list, test element = false → find element = none) :
    (list.filter test).findSome? find = list.findSome? find := by
  induction list with
  | nil => rfl
  | cons head rest ih =>
      have hrest := ih fun element helement => h element (List.mem_cons_of_mem _ helement)
      by_cases htest : test head = true
      · rw [List.filter_cons_of_pos htest, List.findSome?_cons, List.findSome?_cons, hrest]
      · have hnothing := h head List.mem_cons_self (Bool.not_eq_true _ ▸ htest)
        rw [List.filter_cons_of_neg htest, List.findSome?_cons, hnothing, hrest]

/-- What is found first is found among first occurrences. -/
theorem findSome?_keepFirst {γ : Type v} (find : β → Option γ) (list : List β) :
    (keepFirst list).findSome? find = list.findSome? find := by
  induction list with
  | nil => rfl
  | cons head rest ih =>
      rw [keepFirst_cons, List.findSome?_cons, List.findSome?_cons, ← ih]
      cases hhead : find head with
      | some found => rfl
      | none =>
          refine findSome?_filter_eq fun other _ hother => ?_
          have heq : other = head := by simpa using hother
          rw [heq, hhead]

/-- A list holds the first occurrences of another one when it has the same elements, each of them
once, in the order in which they come up first. -/
structure FirstOccurrences (kept list : List β) : Prop where
  mem_iff : ∀ element, element ∈ kept ↔ element ∈ list
  nodup : kept.Nodup
  ordered : kept.Pairwise fun first second => list.idxOf first < list.idxOf second

/-- What is kept are the first occurrences. -/
theorem firstOccurrences_keepFirst (list : List β) : FirstOccurrences (keepFirst list) list where
  mem_iff _ := mem_keepFirst
  nodup := nodup_keepFirst list
  ordered := by
    induction list with
    | nil => exact List.Pairwise.nil
    | cons head rest ih =>
        have hpast : ∀ element : β, element ≠ head →
            (head :: rest).idxOf element = rest.idxOf element + 1 := by
          intro element hne
          rw [List.idxOf_cons, beq_false_of_ne (Ne.symm hne), cond_false]
        rw [keepFirst_cons, List.pairwise_cons]
        constructor
        · intro other hother
          have hne := of_decide_eq_true (List.mem_filter.mp hother).2
          rw [List.idxOf_cons_self, hpast other hne]
          exact Nat.succ_pos _
        · refine (ih.filter _).imp_of_mem fun hfirst hsecond hlt => ?_
          rw [hpast _ (of_decide_eq_true (List.mem_filter.mp hfirst).2),
            hpast _ (of_decide_eq_true (List.mem_filter.mp hsecond).2)]
          exact Nat.succ_lt_succ hlt

/-- A list has its first occurrences in one way only. -/
theorem FirstOccurrences.eq_keepFirst {kept list : List β} (h : FirstOccurrences kept list) :
    kept = keepFirst list := by
  have hkeep := firstOccurrences_keepFirst list
  have hperm : kept.Perm (keepFirst list) :=
    (List.perm_ext_iff_of_nodup h.nodup hkeep.nodup).mpr fun element =>
      (h.mem_iff element).trans (hkeep.mem_iff element).symm
  refine List.Perm.eq_of_pairwise ?_ h.ordered hkeep.ordered hperm
  intro first second _ _ hlt hgt
  exact absurd hgt (Nat.lt_asymm hlt)

/-- Of two different lists without repetitions some elements come up in different orders, or come
up in one of them alone. -/
theorem exists_head?_filter_ne {left right : List β}
    (hleft : left.Nodup) (hright : right.Nodup) (h : left ≠ right) :
    ∃ kept : List β, (left.filter fun element => decide (element ∈ kept)).head? ≠
      (right.filter fun element => decide (element ∈ kept)).head? := by
  induction left generalizing right with
  | nil =>
      obtain ⟨other, rest, rfl⟩ := List.exists_cons_of_ne_nil (Ne.symm h)
      exact ⟨[other], by simp⟩
  | cons head tail ih =>
      cases right with
      | nil => exact ⟨[head], by simp⟩
      | cons other rest =>
          by_cases heq : head = other
          · subst heq
            rw [List.nodup_cons] at hleft hright
            have htails : tail ≠ rest := fun hsame => h (hsame ▸ rfl)
            obtain ⟨kept, hkept⟩ := ih hleft.2 hright.2 htails
            have hskip : ∀ {list : List β}, head ∉ list →
                ((head :: list).filter fun element =>
                  decide (element ∈ kept.filter fun other => decide (other ≠ head))) =
                    list.filter fun element => decide (element ∈ kept) := by
              intro list hnew
              rw [List.filter_cons_of_neg (by simp)]
              refine List.filter_congr fun element hmem => ?_
              have hne : element ≠ head := fun heq => hnew (heq ▸ hmem)
              simp [List.mem_filter, hne]
            refine ⟨kept.filter fun other => decide (other ≠ head), ?_⟩
            rw [hskip hleft.1, hskip hright.1]
            exact hkept
          · refine ⟨[head, other], ?_⟩
            simp [heq]

/-! ## Appending what is new -/

/-- Append the elements of a second list, in order, that are not there already. -/
def appendNew (list more : List β) : List β :=
  more.foldl (fun grown element => if element ∈ grown then grown else grown ++ [element]) list

@[simp] theorem appendNew_nil (list : List β) : appendNew list [] = list := rfl

/-- What is there already is not appended. -/
theorem appendNew_of_mem {list more : List β} {element : β} (h : element ∈ list) :
    appendNew list (element :: more) = appendNew list more := by
  simp [appendNew, h]

/-- What is new is appended. -/
theorem appendNew_of_not_mem {list more : List β} {element : β} (h : element ∉ list) :
    appendNew list (element :: more) = appendNew (list ++ [element]) more := by
  simp [appendNew, h]

/-- Appending two lists in a row is appending them both at once. -/
theorem appendNew_appendNew (list more last : List β) :
    appendNew (appendNew list more) last = appendNew list (more ++ last) :=
  List.foldl_append.symm

/-- What is appended are the first occurrences of what is new. -/
theorem appendNew_eq (list more : List β) :
    appendNew list more = list ++ (keepFirst more).filter fun other => decide (other ∉ list) := by
  induction more generalizing list with
  | nil => simp [keepFirst, keepFirstBy]
  | cons element more ih =>
      by_cases hmem : element ∈ list
      · rw [appendNew_of_mem hmem, ih, filter_keepFirst_cons_of_mem hmem]
      · rw [appendNew_of_not_mem hmem, ih, filter_keepFirst_cons_of_not_mem hmem,
          List.append_assoc, List.singleton_append]
        congr 2
        refine List.filter_congr fun other _ => ?_
        simp [and_comm]

/-! ## Declarations -/

/-- Replace the first element with a key, or append a new element. -/
def declareBy (key : α → β) (entry : α) : List α → List α
  | [] => [entry]
  | head :: rest =>
      if key head = key entry then entry :: rest else head :: declareBy key entry rest

/-- The list that results when the elements of a list are declared one after another. -/
def declareAll (key : α → β) (list : List α) : List α :=
  list.foldl (fun declared entry => declareBy key entry declared) []

/-- A declaration adds its key unless it is there already. -/
theorem map_declareBy (key : α → β) (entry : α) (list : List α) :
    (declareBy key entry list).map key = appendNew (list.map key) [key entry] := by
  induction list with
  | nil => rfl
  | cons head rest ih =>
      rw [declareBy]
      by_cases hhead : key head = key entry
      · rw [if_pos hhead, List.map_cons, List.map_cons, hhead,
          appendNew_of_mem List.mem_cons_self, appendNew_nil]
      · rw [if_neg hhead, List.map_cons, List.map_cons, ih]
        by_cases hmem : key entry ∈ rest.map key
        · rw [appendNew_of_mem hmem, appendNew_of_mem (List.mem_cons_of_mem _ hmem), appendNew_nil,
            appendNew_nil]
        · have hnew : key entry ∉ key head :: rest.map key := by
            rw [List.mem_cons, not_or]
            exact ⟨Ne.symm hhead, hmem⟩
          rw [appendNew_of_not_mem hmem, appendNew_of_not_mem hnew]
          rfl

/-- A declaration adds exactly its key. -/
theorem mem_map_declareBy {key : α → β} {entry : α} {list : List α} {value : β} :
    value ∈ (declareBy key entry list).map key ↔
      value = key entry ∨ value ∈ list.map key := by
  rw [map_declareBy]
  by_cases hmem : key entry ∈ list.map key
  · rw [appendNew_of_mem hmem, appendNew_nil]
    constructor
    · exact Or.inr
    · rintro (rfl | hvalue)
      · exact hmem
      · exact hvalue
  · rw [appendNew_of_not_mem hmem, appendNew_nil, List.mem_append, List.mem_singleton, or_comm]

/-- What is found under a key is the entry that was declared for it last. -/
theorem find?_declareBy (key : α → β) (entry : α) (list : List α) (value : β) :
    (declareBy key entry list).find? (fun other => decide (key other = value)) =
      if key entry = value then some entry
      else list.find? fun other => decide (key other = value) := by
  induction list with
  | nil =>
      by_cases hentry : key entry = value <;> simp [declareBy, hentry]
  | cons head rest ih =>
      rw [declareBy]
      by_cases hhead : key head = key entry
      · rw [if_pos hhead, List.find?_cons, List.find?_cons, hhead]
        by_cases hentry : key entry = value <;> simp [hentry]
      · rw [if_neg hhead, List.find?_cons, List.find?_cons, ih]
        by_cases hvalue : key head = value
        · have hentry : key entry ≠ value := fun heq => hhead (hvalue.trans heq.symm)
          simp [hvalue, hentry]
        · simp [hvalue]

/-- Declaring all elements keeps the first place of every key. -/
theorem map_declareAll (key : α → β) (list : List α) :
    (declareAll key list).map key = keepFirst (list.map key) := by
  have hfold : ∀ start : List α,
      (list.foldl (fun declared entry => declareBy key entry declared) start).map key =
        appendNew (start.map key) (list.map key) := by
    induction list with
    | nil => exact fun start => rfl
    | cons entry rest ih =>
        intro start
        rw [List.foldl_cons, ih, map_declareBy, appendNew_appendNew]
        rfl
  rw [declareAll, hfold, appendNew_eq]
  simp

/-- Declaring all elements keeps the last one of every key. -/
theorem find?_declareAll (key : α → β) (list : List α) (value : β) :
    (declareAll key list).find? (fun other => decide (key other = value)) =
      list.reverse.find? fun other => decide (key other = value) := by
  have hfold : ∀ start : List α,
      (list.foldl (fun declared entry => declareBy key entry declared) start).find?
          (fun other => decide (key other = value)) =
        (list.reverse.find? fun other => decide (key other = value)).or
          (start.find? fun other => decide (key other = value)) := by
    induction list with
    | nil => exact fun start => rfl
    | cons entry rest ih =>
        intro start
        rw [List.foldl_cons, ih, find?_declareBy, List.reverse_cons, List.find?_append,
          Option.or_assoc]
        by_cases hentry : key entry = value <;> simp [hentry]
  rw [declareAll, hfold, List.find?_nil, Option.or_none]

/-- One more declaration is made after those before it. -/
theorem declareAll_concat (key : α → β) (list : List α) (entry : α) :
    declareAll key (list ++ [entry]) = declareBy key entry (declareAll key list) :=
  List.foldl_append

/-- Keys stay where they were declared first. -/
theorem firstOccurrences_declareAll (key : α → β) (list : List α) :
    FirstOccurrences ((declareAll key list).map key) (list.map key) := by
  rw [map_declareAll]
  exact firstOccurrences_keepFirst _

/-- What stays of the declarations of a key is the last one. -/
theorem find?_reverse_of_mem_declareAll {key : α → β} {list : List α} {entry : α}
    (h : entry ∈ declareAll key list) :
    list.reverse.find? (fun other => decide (key other = key entry)) = some entry := by
  have hnodup : ((declareAll key list).map key).Nodup := by
    rw [map_declareAll]
    exact nodup_keepFirst _
  rw [← find?_declareAll, ← mem_keepFirstBy_iff, keepFirstBy_of_nodup hnodup]
  exact h

/-- Declarations are settled by their keys, each where it was declared first and as it was
declared last. -/
theorem eq_declareAll {key : α → β} {list declared : List α}
    (hkeys : FirstOccurrences (declared.map key) (list.map key))
    (hlast : ∀ entry ∈ declared,
      list.reverse.find? (fun other => decide (key other = key entry)) = some entry) :
    declared = declareAll key list := by
  have hsettled : ∀ entries : List α, (∀ entry ∈ entries,
      list.reverse.find? (fun other => decide (key other = key entry)) = some entry) →
        entries.map some = (entries.map key).map fun value =>
          list.reverse.find? fun other => decide (key other = value) := by
    intro entries hentries
    rw [List.map_map]
    exact List.map_congr_left fun entry hentry => (hentries entry hentry).symm
  have hsame : declared.map some = (declareAll key list).map some := by
    rw [hsettled declared hlast, hsettled _ fun entry => find?_reverse_of_mem_declareAll,
      hkeys.eq_keepFirst, map_declareAll]
  exact (List.map_inj_right fun _ _ => Option.some.inj).mp hsame

end SelectionSql

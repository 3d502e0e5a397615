import Mathlib.Control.Monad.Basic
import Mathlib.Data.List.Forall2

/-!
# Outcomes - Taking apart computations that may fail

Main results:

- `Outcome.bind_eq_ok`, `Outcome.map_eq_ok`: what succeeded before a success.
- `Outcome.bind_eq_error`, `Outcome.map_eq_error`: what a failure comes from.
- `Outcome.foldlM_eq_error`: a run fails at one of its elements, after those before it.
- `Outcome.foldlM_eq_error_iff_findSome?`: it fails for the first element that fails, when the
  state plays no role.
- `Outcome.mapM_eq_ok`, `Outcome.mapM_eq_error`: a traversal succeeds element by element, and
  fails at the first of them that fails.
- `Outcome.foldlM_invariant`: a run keeps what each of its steps keeps.
- `Outcome.map_eq_of_mapM`: a traversal keeps what each of its steps keeps.
- `Outcome.mapM_eq_some`: a traversal of elements that all have something finds it all.
-/

namespace SelectionSql.Outcome

universe u v

variable {ε : Type u} {α β γ : Type v}

/-- A sequence succeeds exactly when both of its steps do. -/
theorem bind_eq_ok {first : Except ε α} {next : α → Except ε β} {result : β} :
    (first >>= next) = .ok result ↔
      ∃ middle, first = .ok middle ∧ next middle = .ok result := by
  cases first <;> simp [bind, Except.bind]

/-- A sequence fails exactly when its first step does, or its second one after that. -/
theorem bind_eq_error {first : Except ε α} {next : α → Except ε β} {fault : ε} :
    (first >>= next) = .error fault ↔
      first = .error fault ∨ ∃ middle, first = .ok middle ∧ next middle = .error fault := by
  cases first <;> simp [bind, Except.bind]

/-- A mapped computation succeeds exactly when the computation does. -/
theorem map_eq_ok {first : Except ε α} {next : α → β} {result : β} :
    first.map next = .ok result ↔ ∃ middle, first = .ok middle ∧ next middle = result := by
  cases first <;> simp [Except.map]

/-- A mapped computation fails exactly when the computation does. -/
theorem map_eq_error {first : Except ε α} {next : α → β} {fault : ε} :
    first.map next = .error fault ↔ first = .error fault := by
  cases first <;> simp [Except.map]

/-- Second steps that agree after a function agree behind the same first step. -/
theorem map_bind_congr {first : Except ε α} {next other : α → Except ε β} {result : β → γ}
    (h : ∀ middle, (next middle).map result = (other middle).map result) :
    (first >>= next).map result = (first >>= other).map result := by
  cases first with
  | error fault => rfl
  | ok middle => exact h middle

/-- What fails for the same faults succeeds under the same conditions. -/
theorem exists_ok_iff_of_error_iff {first : Except ε α} {second : Except ε β}
    (h : ∀ fault, first = .error fault ↔ second = .error fault) :
    (∃ result, first = .ok result) ↔ ∃ result, second = .ok result := by
  cases first with
  | error fault => simp [(h fault).mp rfl]
  | ok result =>
      cases second with
      | error fault => exact absurd ((h fault).mpr rfl) (by simp)
      | ok other => simp

/-- A traversal succeeds exactly when every element does, with the results in order. -/
theorem mapM_eq_ok {step : α → Except ε β} {list : List α} {results : List β} :
    list.mapM step = .ok results ↔
      List.Forall₂ (fun element result => step element = .ok result) list results := by
  induction list generalizing results with
  | nil =>
      rw [List.forall₂_nil_left_iff, List.mapM_nil]
      show Except.ok [] = Except.ok results ↔ results = []
      rw [Except.ok.injEq, eq_comm]
  | cons head rest ih =>
      rw [List.mapM_cons, bind_eq_ok, List.forall₂_cons_left_iff]
      constructor
      · intro hparts
        rcases hparts with ⟨first, hfirst, h⟩
        rcases bind_eq_ok.mp h with ⟨others, hothers, hresult⟩
        exact ⟨first, others, hfirst, ih.mp hothers, (Except.ok.inj hresult).symm⟩
      · intro hparts
        rcases hparts with ⟨first, others, hfirst, hothers, rfl⟩
        exact ⟨first, hfirst, bind_eq_ok.mpr ⟨others, ih.mpr hothers, rfl⟩⟩

/-- A traversal that fails does so at one of its elements. -/
theorem exists_of_mapM_eq_error {step : α → Except ε β} {list : List α} {fault : ε}
    (h : list.mapM step = .error fault) : ∃ element ∈ list, step element = .error fault := by
  induction list with
  | nil => exact absurd h (by simp [pure, Except.pure])
  | cons head rest ih =>
      rw [List.mapM_cons] at h
      rcases bind_eq_error.mp h with hhead | ⟨first, -, hrest⟩
      · exact ⟨head, List.mem_cons_self, hhead⟩
      · rcases bind_eq_error.mp hrest with hrest | ⟨others, -, hdone⟩
        · obtain ⟨element, helement, hfault⟩ := ih hrest
          exact ⟨element, List.mem_cons_of_mem _ helement, hfault⟩
        · exact absurd hdone (by simp [pure, Except.pure])

/-- A traversal fails exactly at its first element that fails. -/
theorem mapM_eq_error {step : α → Except ε β} {list : List α} {fault : ε} :
    list.mapM step = .error fault ↔
      ∃ before element after, list = before ++ element :: after ∧
        (∀ earlier ∈ before, ∃ result, step earlier = .ok result) ∧
        step element = .error fault := by
  constructor
  · intro h
    induction list with
    | nil => exact absurd h (by simp [pure, Except.pure])
    | cons head rest ih =>
        rw [List.mapM_cons, bind_eq_error] at h
        rcases h with hhead | ⟨first, hfirst, hrest⟩
        · exact ⟨[], head, rest, rfl, by simp, hhead⟩
        · rcases bind_eq_error.mp hrest with hrest | ⟨others, -, hdone⟩
          · obtain ⟨before, element, after, rfl, hbefore, hfault⟩ := ih hrest
            exact ⟨head :: before, element, after, rfl,
              List.forall_mem_cons.mpr ⟨⟨first, hfirst⟩, hbefore⟩, hfault⟩
          · exact absurd hdone (by simp [pure, Except.pure])
  · rintro ⟨before, element, after, rfl, hbefore, hfault⟩
    induction before with
    | nil =>
        rw [List.nil_append, List.mapM_cons, hfault]
        rfl
    | cons head before ih =>
        rw [List.forall_mem_cons] at hbefore
        obtain ⟨⟨first, hfirst⟩, hrest⟩ := hbefore
        rw [List.cons_append, List.mapM_cons]
        exact bind_eq_error.mpr (Or.inr ⟨first, hfirst, bind_eq_error.mpr (Or.inl (ih hrest))⟩)

/-- A traversal has results when every element has one. -/
theorem exists_mapM_eq_ok {step : α → Except ε β} {list : List α}
    (h : ∀ element ∈ list, ∃ result, step element = .ok result) :
    ∃ results, list.mapM step = .ok results := by
  cases hresults : list.mapM step with
  | ok results => exact ⟨results, rfl⟩
  | error fault =>
      obtain ⟨element, helement, hfault⟩ := exists_of_mapM_eq_error hresults
      obtain ⟨result, hresult⟩ := h element helement
      exact absurd (hresult.symm.trans hfault) (by simp)

/-- A run over one more element is the run before it and then its step. -/
theorem foldlM_concat_eq_ok {σ α : Type*} {ε : Type*} {step : σ → α → Except ε σ} {list : List α}
    {element : α} {start stop : σ} :
    (list ++ [element]).foldlM step start = .ok stop ↔
      ∃ state, list.foldlM step start = .ok state ∧ step state element = .ok stop := by
  rw [List.foldlM_append, bind_eq_ok]
  simp only [List.foldlM_cons, List.foldlM_nil, bind_pure]

/-- A run fails at the one element whose step fails after the run over those before it. -/
theorem foldlM_eq_error {σ α : Type*} {ε : Type*} {step : σ → α → Except ε σ} {list : List α}
    {start : σ} {fault : ε} :
    list.foldlM step start = .error fault ↔
      ∃ before element after state, list = before ++ element :: after ∧
        before.foldlM step start = .ok state ∧ step state element = .error fault := by
  constructor
  · intro h
    induction list generalizing start with
    | nil => exact absurd h (by simp [pure, Except.pure])
    | cons head rest ih =>
        rw [List.foldlM_cons, bind_eq_error] at h
        rcases h with hhead | ⟨next, hnext, hrest⟩
        · exact ⟨[], head, rest, start, rfl, rfl, hhead⟩
        · obtain ⟨before, element, after, state, rfl, hbefore, hfault⟩ := ih hrest
          refine ⟨head :: before, element, after, state, rfl, ?_, hfault⟩
          rw [List.foldlM_cons]
          exact bind_eq_ok.mpr ⟨next, hnext, hbefore⟩
  · rintro ⟨before, element, after, state, rfl, hbefore, hfault⟩
    rw [List.foldlM_append, hbefore]
    show List.foldlM step state (element :: after) = .error fault
    rw [List.foldlM_cons, hfault]
    rfl

/-- When the failure of a step depends on its element alone, a run fails for the first element
that fails. -/
theorem foldlM_eq_error_iff_findSome? {σ α κ ε : Type*} {step : σ → α → Except ε σ}
    {cause? : α → Option κ} {fault : κ → ε}
    (hstep : ∀ state element result, step state element = .error result ↔
      ∃ cause, cause? element = some cause ∧ result = fault cause)
    {list : List α} {start : σ} {result : ε} :
    list.foldlM step start = .error result ↔
      ∃ cause, list.findSome? cause? = some cause ∧ result = fault cause := by
  induction list generalizing start with
  | nil => simp [pure, Except.pure]
  | cons head rest ih =>
      rw [List.foldlM_cons, bind_eq_error, hstep, List.findSome?_cons]
      cases hcause : cause? head with
      | some cause =>
          have hfails : ∀ next, step start head ≠ .ok next := by
            intro next hnext
            have hfault := (hstep start head (fault cause)).mpr ⟨cause, hcause, rfl⟩
            exact absurd (hnext.symm.trans hfault) (by simp)
          simp [hfails]
      | none =>
          cases hhead : step start head with
          | error other =>
              obtain ⟨cause, hsome, -⟩ := (hstep start head other).mp hhead
              exact absurd (hcause.symm.trans hsome) (by simp)
          | ok next => simp [ih]

/-- What every step of a run keeps, the run keeps. -/
theorem foldlM_invariant {σ α : Type*} {ε : Type*} {step : σ → α → Except ε σ}
    (invariant : σ → Prop) {list : List α} {start stop : σ}
    (hstep : ∀ state element next, element ∈ list → invariant state →
      step state element = .ok next → invariant next)
    (hstart : invariant start) (h : list.foldlM step start = .ok stop) : invariant stop := by
  induction list generalizing start with
  | nil => exact Except.ok.inj h ▸ hstart
  | cons head rest ih =>
      rw [List.foldlM_cons] at h
      rcases bind_eq_ok.mp h with ⟨next, hnext, hrest⟩
      refine ih ?_ (hstep start head next List.mem_cons_self hstart hnext) hrest
      intro state element next helement
      exact hstep state element next (List.mem_cons_of_mem _ helement)

/-- Results may be mapped one by one or all together. -/
theorem map_mapM (step : α → Except ε β) (next : β → γ) (list : List α) :
    (list.mapM step).map (List.map next) = list.mapM fun element => (step element).map next := by
  induction list with
  | nil => rfl
  | cons head rest ih =>
      rw [List.mapM_cons, List.mapM_cons, ← ih]
      cases step head with
      | error fault => rfl
      | ok result => cases rest.mapM step <;> rfl

/-- What every step of a traversal keeps of its element, the traversal keeps in order. -/
theorem map_eq_of_mapM {κ : Type*} {step : α → Except ε β} {before : α → κ} {after : β → κ}
    (hstep : ∀ element result, step element = .ok result → after result = before element)
    {list : List α} {results : List β} (h : list.mapM step = .ok results) :
    results.map after = list.map before := by
  induction mapM_eq_ok.mp h with
  | nil => rfl
  | cons hhead hrest ih =>
      rw [List.map_cons, List.map_cons, hstep _ _ hhead, ih (mapM_eq_ok.mpr hrest)]

/-- Every result of a traversal comes from one of the elements. -/
theorem exists_of_mapM {step : α → Except ε β} {list : List α} {results : List β}
    (h : list.mapM step = .ok results) {result : β} (hresult : result ∈ results) :
    ∃ element ∈ list, step element = .ok result := by
  induction mapM_eq_ok.mp h with
  | nil => simp at hresult
  | cons hhead hrest ih =>
      rcases List.mem_cons.mp hresult with rfl | hmem
      · exact ⟨_, List.mem_cons_self, hhead⟩
      · rcases ih (mapM_eq_ok.mpr hrest) hmem with ⟨element, helement, hstep⟩
        exact ⟨element, List.mem_cons_of_mem _ helement, hstep⟩

/-- Every element of a traversal that succeeds has its result there. -/
theorem exists_of_mem_mapM {step : α → Except ε β} {list : List α} {results : List β}
    (h : list.mapM step = .ok results) {element : α} (helement : element ∈ list) :
    ∃ result ∈ results, step element = .ok result := by
  induction mapM_eq_ok.mp h with
  | nil => simp at helement
  | cons hhead hrest ih =>
      rcases List.mem_cons.mp helement with rfl | hmem
      · exact ⟨_, List.mem_cons_self, hhead⟩
      · rcases ih (mapM_eq_ok.mpr hrest) hmem with ⟨result, hresult, hstep⟩
        exact ⟨result, List.mem_cons_of_mem _ hresult, hstep⟩

/-- A traversal finds something for every element when each of them has something. -/
theorem mapM_eq_some {α β : Type*} {step : α → Option β} (value : α → β) {list : List α}
    (h : ∀ element ∈ list, step element = some (value element)) :
    list.mapM step = some (list.map value) := by
  induction list with
  | nil => rfl
  | cons head rest ih =>
      have hhead := h head List.mem_cons_self
      have hrest := ih fun element helement => h element (List.mem_cons_of_mem _ helement)
      rw [List.mapM_cons, hhead, hrest]
      rfl

end SelectionSql.Outcome

import Mathlib.Data.List.Nodup
import SelectionSql.Level
import SelectionSql.Proofs.Cycles

/-!
# Paths - References followed one after another

A path is a list of references, each declared by the entity that the one before it leads
to.  Its level joins the names of its references.

Main results:

- `isPath_concat`, `Level.follow_concat`: a path with one more reference.
- `leadsTo_of_isPath`, `exists_isPath`: paths are what leads from entity to entity.
- `ReferenceGraph.length_lt_of_isPath`: without cycles no path is as long as there are
  definitions.
-/

namespace SelectionSql

open Relation

variable {definitions : List EntityDef} {path : List ReferenceDef}
variable {source target : String} {reference : ReferenceDef} {level : Level}

/-! ## Paths -/

/-- References lead one after another from an entity to another one. -/
def IsPath (definitions : List EntityDef) : String → List ReferenceDef → String → Prop
  | source, [], target => source = target
  | source, reference :: rest, target =>
      Declares definitions source reference ∧ IsPath definitions reference.target rest target

/-- A path ends with a reference when the entity before it declares that reference. -/
theorem isPath_concat : IsPath definitions source (path ++ [reference]) target ↔
    ∃ above, IsPath definitions source path above ∧ Declares definitions above reference ∧
      reference.target = target := by
  induction path generalizing source with
  | nil => simp [IsPath]
  | cons head rest ih =>
      rw [List.cons_append]
      unfold IsPath
      rw [ih]
      constructor
      · rintro ⟨hhead, above, hrest, hlast⟩
        exact ⟨above, ⟨hhead, hrest⟩, hlast⟩
      · rintro ⟨above, ⟨hhead, hrest⟩, hlast⟩
        exact ⟨hhead, above, hrest, hlast⟩

/-- A path of one or more references has a last one. -/
theorem exists_concat_of_isPath (hnonempty : path ≠ [])
    (h : IsPath definitions source path target) :
    ∃ before last above, path = before ++ [last] ∧ IsPath definitions source before above ∧
      Declares definitions above last ∧ last.target = target := by
  obtain ⟨before, last, rfl⟩ := (List.eq_nil_or_concat' path).resolve_left hnonempty
  obtain ⟨above, hbefore, hlast⟩ := isPath_concat.mp h
  exact ⟨before, last, above, rfl, hbefore, hlast⟩

/-- A path leads from its start to its end. -/
theorem reflTransGen_of_isPath (h : IsPath definitions source path target) :
    ReflTransGen (RefersTo definitions) source target := by
  induction path generalizing source with
  | nil =>
      cases h
      exact ReflTransGen.refl
  | cons head rest ih =>
      rcases h with ⟨hhead, hrest⟩
      exact ReflTransGen.head ⟨head, hhead, rfl⟩ (ih hrest)

/-- A path of one or more references leads from its start to its end. -/
theorem leadsTo_of_isPath (hpath : path ≠ []) (h : IsPath definitions source path target) :
    LeadsTo definitions source target := by
  cases path with
  | nil => exact absurd rfl hpath
  | cons head rest =>
      rcases h with ⟨hhead, hrest⟩
      exact TransGen.head' ⟨head, hhead, rfl⟩ (reflTransGen_of_isPath hrest)

/-- Where references lead, a path leads. -/
theorem exists_isPath (h : ReflTransGen (RefersTo definitions) source target) :
    ∃ path, IsPath definitions source path target := by
  induction h with
  | refl => exact ⟨[], rfl⟩
  | tail _ hlast ih =>
      rcases ih with ⟨path, hpath⟩
      rcases hlast with ⟨reference, hreference, htarget⟩
      exact ⟨path ++ [reference], isPath_concat.mpr ⟨_, hpath, hreference, htarget⟩⟩

/-- The entities on a path refer to each other in turn. -/
theorem isChain_of_isPath (h : IsPath definitions source path target) :
    List.IsChain (RefersTo definitions) (source :: path.map ReferenceDef.target) := by
  induction path generalizing source with
  | nil => exact List.IsChain.singleton source
  | cons head rest ih =>
      rcases h with ⟨hhead, hrest⟩
      rw [List.map_cons, List.isChain_cons_cons]
      exact ⟨⟨head, hhead, rfl⟩, ih hrest⟩

/-- Without cycles a path meets no entity twice. -/
theorem nodup_of_isPath (hacyclic : ∀ name, ¬ LeadsTo definitions name name)
    (h : IsPath definitions source path target) :
    (source :: path.map ReferenceDef.target).Nodup := by
  have hchain : List.IsChain (LeadsTo definitions) (source :: path.map ReferenceDef.target) :=
    (isChain_of_isPath h).imp fun _ _ hrefers => TransGen.single hrefers
  have hpairwise := List.isChain_iff_pairwise.mp hchain
  refine hpairwise.imp ?_
  rintro entity other hleads rfl
  exact hacyclic entity hleads

/-! ## Levels of paths -/

/-- The level reached from a level along references. -/
def Level.follow (level : Level) (path : List ReferenceDef) : Level :=
  path.foldl (fun above reference => Level.child above reference.name) level

/-- The last reference of a path names a child of the level before it. -/
theorem Level.follow_concat :
    level.follow (path ++ [reference]) = Level.child (level.follow path) reference.name := by
  simp [follow]

namespace ReferenceGraph

variable {graph : ReferenceGraph}

/-- Reference names hold no separator. -/
theorem separator_not_mem (h : Declares graph.definitions source reference) :
    Level.separator ∉ reference.name.toList :=
  (wellFormed_of_mem (mem_referencesOf.mpr h)).1

/-- Without cycles no path from an entity is as long as there are definitions. -/
theorem length_lt_of_isPath (hacyclic : ∀ name, ¬ LeadsTo graph.definitions name name)
    (hsource : source ∈ graph.definitions.map EntityDef.name)
    (h : IsPath graph.definitions source path target) :
    path.length < graph.definitions.length := by
  have hdefined : ∀ entity ∈ source :: path.map ReferenceDef.target,
      entity ∈ graph.definitions.map EntityDef.name := by
    induction path generalizing source with
    | nil => simpa using hsource
    | cons head rest ih =>
        rcases h with ⟨hhead, hrest⟩
        have htarget := mem_names.mp (target_mem_names hhead)
        intro entity hentity
        rcases List.mem_cons.mp hentity with rfl | hentity
        · exact hsource
        · exact ih htarget hrest entity hentity
  have hsubperm := (nodup_of_isPath hacyclic h).subperm hdefined
  have hlength := hsubperm.length_le
  simp only [List.length_cons, List.length_map] at hlength
  omega

end ReferenceGraph

end SelectionSql

import SelectorNavigation.Path.Resolve
import SelectorNavigation.Proofs.PathComponents
import Mathlib.Data.List.Induction
import Mathlib.Logic.Relation

/-!
# Normal forms of resolved paths

A resolved path is the normal form of the resource path joined to the directory of the
document.  A path in normal form holds names only, with single slashes between them, so it
cannot be shortened without looking at the disk.

The normal form depends on nothing but the components and on whether the path starts at the
root.  Hence a path can be brought into normal form before it is continued, which is why a
resource may be resolved in two steps, the second one from the place that the first one
leads to.
-/

namespace SelectorNavigation

namespace Path

/-- A piece that names an entry of a directory, as opposed to a step up or no step. -/
def IsName (piece : Bytes) : Prop :=
  piece ≠ [] ∧ piece ≠ here ∧ piece ≠ up ∧ slash ∉ piece

/-- What a path spells behind the root, if it starts there. -/
def body (path : Path) : Bytes :=
  if path.isAbsolute then path.bytes.tail else path.bytes

/-- Single slashes separate names, and none stands behind them. -/
def IsNormal (path : Path) : Prop :=
  path.body = [] ∨ ∀ piece ∈ path.body.splitOn slash, IsName piece

/-- The path without its last component, spelled by its components.  The root has no parent,
and neither has the empty path. -/
def parent? (path : Path) : Option Path :=
  if path.components = [] ∧ (path.isAbsolute ∨ path.bytes = []) then none
  else some (ofComponents path.isAbsolute path.components.dropLast)

/-- The path with steps up carried out. -/
def normalized (path : Path) : Path :=
  ofComponents path.isAbsolute (path.components.foldl climb [])

/-- One step up is taken out of a list of components, with the name that it takes back if there
is one in front of it. -/
inductive Shortens : List Bytes → List Bytes → Prop where
  | back (front rest : List Bytes) {name : Bytes} (named : IsName name) :
      Shortens (front ++ name :: up :: rest) (front ++ rest)
  | top (rest : List Bytes) : Shortens (up :: rest) rest

theorem IsName.isStep {piece : Bytes} (named : IsName piece) : IsStep piece := by
  obtain ⟨occupied, moving, -, free⟩ := named
  exact ⟨by simp [isComponent, occupied, moving], free⟩

theorem isName_of_isStep {piece : Bytes} (step : IsStep piece) (descends : piece ≠ up) :
    IsName piece := by
  obtain ⟨component, free⟩ := step
  simp only [isComponent, Bool.and_eq_true, bne_iff_ne] at component
  exact ⟨component.1, component.2, descends, free⟩

theorem climb_of_ne_up (names : List Bytes) {piece : Bytes} (descends : piece ≠ up) :
    climb names piece = names ++ [piece] := by
  simp [climb, descends]

theorem isName_of_mem_climb {names : List Bytes} {piece : Bytes}
    (named : ∀ name ∈ names, IsName name) (step : IsStep piece) :
    ∀ name ∈ climb names piece, IsName name := by
  intro name member
  by_cases ascends : piece = up
  · have earlier : name ∈ names.dropLast := by simpa [climb, ascends] using member
    exact named name (List.dropLast_subset _ earlier)
  · rw [climb_of_ne_up names ascends, List.mem_append, List.mem_singleton] at member
    rcases member with earlier | rfl
    · exact named name earlier
    · exact isName_of_isStep step ascends

theorem isName_of_mem_foldl_climb {names pieces : List Bytes}
    (named : ∀ name ∈ names, IsName name) (steps : ∀ piece ∈ pieces, IsStep piece) :
    ∀ name ∈ pieces.foldl climb names, IsName name := by
  induction pieces generalizing names with
  | nil => exact named
  | cons piece pieces ih =>
      obtain ⟨step, others⟩ := List.forall_mem_cons.mp steps
      exact ih (isName_of_mem_climb named step) others

theorem foldl_climb_of_names (names : List Bytes) {pieces : List Bytes}
    (named : ∀ piece ∈ pieces, IsName piece) : pieces.foldl climb names = names ++ pieces := by
  induction pieces generalizing names with
  | nil => simp
  | cons piece pieces ih =>
      obtain ⟨isName, others⟩ := List.forall_mem_cons.mp named
      rw [List.foldl_cons, climb_of_ne_up names isName.2.2.1, ih _ others, List.append_assoc,
        List.singleton_append]

/-- Carrying out the steps of a path takes them out one by one. -/
theorem shortens_foldl_climb {names pieces : List Bytes} (named : ∀ name ∈ names, IsName name)
    (steps : ∀ piece ∈ pieces, IsStep piece) :
    Relation.ReflTransGen Shortens (names ++ pieces) (pieces.foldl climb names) := by
  -- The names kept so far stand in front of the components that are still to come.
  induction pieces generalizing names with
  | nil => rw [List.append_nil, List.foldl_nil]
  | cons piece pieces ih =>
      obtain ⟨step, others⟩ := List.forall_mem_cons.mp steps
      have later := ih (isName_of_mem_climb named step) others
      by_cases ascends : piece = up
      · subst ascends
        cases names using List.reverseRecOn with
        | nil => exact .head (.top pieces) later
        | append_singleton front name =>
            have first : Shortens (front ++ [name] ++ up :: pieces) (front ++ pieces) := by
              rw [List.append_assoc]
              exact .back front pieces (named name (by simp))
            have climbed : climb (front ++ [name]) up = front := by simp [climb]
            rw [climbed] at later
            rw [List.foldl_cons, climbed]
            exact .head first later
      · rw [climb_of_ne_up names ascends, List.append_assoc] at later
        rwa [List.foldl_cons, climb_of_ne_up names ascends]

theorem isName_of_mem_normalized (path : Path) :
    ∀ name ∈ path.components.foldl climb [], IsName name :=
  isName_of_mem_foldl_climb (by simp) fun _ member => isStep_of_mem_components member

theorem isAbsolute_ofSteps (absolute : Bool) {steps : List Bytes}
    (areSteps : ∀ step ∈ steps, IsStep step) :
    (ofComponents absolute steps).isAbsolute = absolute := by
  cases absolute with
  | false => simpa using not_isAbsolute_ofComponents areSteps
  | true => rfl

theorem components_ofSteps (absolute : Bool) {steps : List Bytes}
    (areSteps : ∀ step ∈ steps, IsStep step) :
    (ofComponents absolute steps).components = steps := by
  have behindRoot := components_ofComponents areSteps
  cases absolute with
  | false => exact behindRoot
  | true =>
      have rooted := components_append_slash [] (ofComponents false steps).bytes
      rw [components_empty, List.nil_append, behindRoot] at rooted
      exact rooted

theorem isNormal_ofNames (absolute : Bool) {names : List Bytes}
    (named : ∀ name ∈ names, IsName name) : (ofComponents absolute names).IsNormal := by
  have body_eq : (ofComponents absolute names).body = [slash].intercalate names := by
    rw [body, isAbsolute_ofSteps absolute fun name member => (named name member).isStep]
    cases absolute <;> rfl
  rw [IsNormal, body_eq]
  by_cases occupied : names = []
  · exact .inl (by rw [occupied]; rfl)
  · rw [List.splitOn_intercalate slash (fun name member => (named name member).2.2.2) occupied]
    exact .inr named

theorem isNormal_normalized (path : Path) : path.normalized.IsNormal :=
  isNormal_ofNames _ path.isName_of_mem_normalized

theorem isAbsolute_normalized (path : Path) : path.normalized.isAbsolute = path.isAbsolute :=
  isAbsolute_ofSteps _ fun name member => (path.isName_of_mem_normalized name member).isStep

theorem components_normalized (path : Path) :
    path.normalized.components = path.components.foldl climb [] :=
  components_ofSteps _ fun name member => (path.isName_of_mem_normalized name member).isStep

theorem normalized_join (base : Path) {continuation : Path}
    (isRelative : ¬ continuation.isAbsolute) :
    (base.join continuation).normalized =
      ofComponents base.isAbsolute
        ((base.components ++ continuation.components).foldl climb []) := by
  rw [normalized, isAbsolute_join isRelative, components_join isRelative]

/-- A path may be brought into normal form before it is continued. -/
theorem normalized_join_normalized (base : Path) {continuation : Path}
    (isRelative : ¬ continuation.isAbsolute) :
    (base.normalized.join continuation).normalized = (base.join continuation).normalized := by
  have again : (base.components.foldl climb []).foldl climb [] = base.components.foldl climb [] :=
    foldl_climb_of_names [] base.isName_of_mem_normalized
  rw [normalized_join _ isRelative, normalized_join _ isRelative, isAbsolute_normalized,
    components_normalized, List.foldl_append, List.foldl_append, again]

/-- A spelling with a slash inside is joined like the two parts around the slash, one after the
other. -/
theorem normalized_join_append_slash (base : Path) {first second : Path}
    (occupied : first.bytes ≠ []) (isRelative : ¬ second.isAbsolute) :
    (base.join ⟨first.bytes ++ slash :: second.bytes⟩).normalized =
      ((base.join first).join second).normalized := by
  have sameStart : (⟨first.bytes ++ slash :: second.bytes⟩ : Path).isAbsolute =
      first.isAbsolute := by
    obtain ⟨byte, bytes, spelled⟩ := List.exists_cons_of_ne_nil occupied
    simp [isAbsolute, spelled]
  rw [normalized_join _ isRelative]
  by_cases rooted : first.isAbsolute
  · rw [join, if_pos (sameStart.trans rooted), join, if_pos rooted, normalized, sameStart,
      components_append_slash]
  · have unrooted : ¬ (⟨first.bytes ++ slash :: second.bytes⟩ : Path).isAbsolute := by
      rwa [sameStart]
    rw [normalized_join _ unrooted, isAbsolute_join rooted, components_join rooted,
      components_append_slash, List.append_assoc]

/-- The directory in which the resources of a document are looked for.  A document without a
parent is taken to stand in the empty relative directory. -/
def directory (document : Path) : Path :=
  document.parent?.getD ⟨[]⟩

theorem isAbsolute_directory_iff (document : Path) :
    document.directory.isAbsolute ↔ ∃ parent ∈ document.parent?, parent.isAbsolute := by
  cases found : document.parent? with
  | none => simp [directory, found, isAbsolute]
  | some parent => simp [directory, found]

theorem isStep_of_mem_dropLast (document : Path) :
    ∀ step ∈ document.components.dropLast, IsStep step := fun _ member =>
  isStep_of_mem_components (List.dropLast_subset _ member)

theorem isAbsolute_directory (document : Path) :
    document.directory.isAbsolute = (document.isAbsolute && document.components != []) := by
  rw [directory, parent?]
  split
  · rename_i atTop
    simp [atTop.1, isAbsolute]
  · rename_i below
    rw [Option.getD_some, isAbsolute_ofSteps _ document.isStep_of_mem_dropLast]
    by_cases empty : document.components = []
    · simpa [empty] using fun rooted => below ⟨empty, .inl rooted⟩
    · simp [empty]

theorem components_directory (document : Path) :
    document.directory.components = document.components.dropLast := by
  rw [directory, parent?]
  split
  · rename_i atTop
    simp [atTop.1]
  · rw [Option.getD_some, components_ofSteps _ document.isStep_of_mem_dropLast]

/-- The resource path is joined to the directory of the document and brought into normal form. -/
theorem resolve_eq_normalized (document resource : Path) :
    resolve document resource = (document.directory.join resource).normalized := by
  by_cases rooted : resource.isAbsolute
  · rw [resolve, if_pos rooted, join, if_pos rooted, normalized, rooted]
  · rw [resolve, if_neg rooted, normalized_join _ rooted, isAbsolute_directory,
      components_directory]

/-- A file stands in the directory that its name is joined to. -/
theorem resolve_join_name (path resource : Path) {name : Bytes} (named : IsName name)
    (isRelative : ¬ resource.isAbsolute) :
    resolve (path.join ⟨name⟩) resource = (path.join resource).normalized := by
  have areSteps : ∀ step ∈ [name], IsStep step := by simpa using named.isStep
  have spelled : (⟨name⟩ : Path) = ofComponents false [name] := by simp [ofComponents]
  have nameRelative : ¬ (⟨name⟩ : Path).isAbsolute := by
    simp [spelled, isAbsolute_ofSteps false areSteps]
  have single : (⟨name⟩ : Path).components = [name] := by
    rw [spelled, components_ofSteps false areSteps]
  have occupied : (path.components ++ [name] != []) = true := bne_iff_ne.mpr (by simp)
  rw [resolve_eq_normalized, normalized_join _ isRelative, normalized_join _ isRelative,
    isAbsolute_directory, components_directory, isAbsolute_join nameRelative,
    components_join nameRelative, single, List.dropLast_concat, occupied, Bool.and_true]

/-- Resolving a resource of a document takes the steps up out of the joined path until it is in
normal form.  It starts at the root exactly if the resource or the parent of the document does.
A resource path with a slash inside may be resolved in two steps, the second one for any file in
the place that the first one leads to. -/
theorem resolve_composes_in_normal_form (document resource : Path) :
    (resolve document resource).IsNormal ∧
    Relation.ReflTransGen Shortens (document.directory.join resource).components
      (resolve document resource).components ∧
    ((resolve document resource).isAbsolute ↔
      resource.isAbsolute ∨ ∃ parent ∈ document.parent?, parent.isAbsolute) ∧
    ∀ (continuation : Path) (name : Bytes), resource.bytes ≠ [] → ¬ continuation.isAbsolute →
      IsName name →
        resolve document ⟨resource.bytes ++ slash :: continuation.bytes⟩ =
          resolve ((resolve document resource).join ⟨name⟩) continuation := by
  refine ⟨?_, ?_, ?_, ?_⟩
  · rw [resolve_eq_normalized]
    exact isNormal_normalized _
  · rw [resolve_eq_normalized, components_normalized]
    have started : ∀ name ∈ ([] : List Bytes), IsName name := by simp
    exact shortens_foldl_climb started fun _ member => isStep_of_mem_components member
  · rw [resolve_eq_normalized, isAbsolute_normalized, ← isAbsolute_directory_iff]
    by_cases rooted : resource.isAbsolute
    · simp [join, rooted]
    · simp [isAbsolute_join rooted, rooted]
  · intro continuation name occupied isRelative named
    rw [resolve_join_name _ _ named isRelative, resolve_eq_normalized, resolve_eq_normalized,
      normalized_join_normalized _ isRelative, normalized_join_append_slash _ occupied isRelative]

/-- A resource that climbs above the root and back, continued by one that takes a name back. -/
theorem resolve_composes_above_root :
    let document := ofText "/src/app.ts".toList
    let resource := ofText "../.././lib//a".toList
    IsName (Text.utf8 "x".toList) ∧
      resolve document (ofText "../.././lib//a/../b/".toList) =
        resolve ((resolve document resource).join (ofText "x".toList)) (ofText "../b/".toList) := by
  intro document resource
  have named : IsName (Text.utf8 "x".toList) := by
    unfold IsName
    decide
  obtain ⟨-, -, -, composes⟩ := resolve_composes_in_normal_form document resource
  exact ⟨named, composes (ofText "../b/".toList) _ (by decide) (by decide) named⟩

end Path

end SelectorNavigation

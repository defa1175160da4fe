import SelectorNavigation.Proofs.Search

/-!
# The files of a tree in order

The files that a search takes from the disk are the admitted ones to which only directories
lead that the filter descends into.  They come in the order of their paths, component by
component, so the files in a directory stand where the directory itself would.  How the
disk lists a directory makes no difference, and a directory that cannot be listed counts as
an empty one.
-/

namespace SelectorNavigation

namespace Node

/-- Two nodes look alike to a walk if they differ only in the order in which directories
list their entries and in directories that cannot be listed, which hold nothing. -/
inductive Alike : Node → Node → Prop where
  | refl (node : Node) : Alike node node
  | symm {first second : Node} (alike : Alike first second) : Alike second first
  | trans {first second third : Node} (alike : Alike first second)
      (onward : Alike second third) : Alike first third
  | reordered {entries others : List (Bytes × Node)} (permuted : entries.Perm others) :
      Alike (.directory entries) (.directory others)
  | unlisted : Alike .lockedDirectory (.directory [])
  | inside {child other : Node} (before after : List (Bytes × Node)) (name : Bytes)
      (alike : Alike child other) :
      Alike (.directory (before ++ (name, child) :: after))
        (.directory (before ++ (name, other) :: after))

theorem leads_directory_iff {entries : List (Bytes × Node)} {names : List Bytes} {leaf : Node}
    (isLeaf : leaf.isLeaf) :
    Leads (.directory entries) names leaf ↔
      ∃ name rest, names = name :: rest ∧
        ∃ child, (name, child) ∈ entries ∧ Leads child rest leaf := by
  constructor
  · intro leads
    cases leads with
    | stay => exact absurd isLeaf (by simp [Node.isLeaf])
    | enter member rest => exact ⟨_, _, rfl, _, member, rest⟩
  · rintro ⟨name, rest, rfl, child, member, leads⟩
    exact .enter member leads

/-- Names lead to the same leaves from nodes that look alike. -/
theorem Alike.leads_iff {first second leaf : Node} (alike : Alike first second)
    (isLeaf : leaf.isLeaf) (names : List Bytes) :
    Leads first names leaf ↔ Leads second names leaf := by
  induction alike generalizing names with
  | refl => exact Iff.rfl
  | symm _ ih => exact (ih names).symm
  | trans _ _ ih onward => exact (ih names).trans (onward names)
  | reordered permuted => simp only [leads_directory_iff isLeaf, permuted.mem_iff]
  | unlisted =>
      -- Neither side leads to a leaf at all.
      rw [leads_directory_iff isLeaf]
      constructor
      · rintro ⟨⟩
        exact absurd isLeaf (by simp [Node.isLeaf])
      · rintro ⟨name, rest, -, child, member, -⟩
        exact absurd member List.not_mem_nil
  | inside before after name _ ih =>
      simp only [leads_directory_iff isLeaf, List.mem_append, List.mem_cons, Prod.mk.injEq,
        or_and_right, exists_or, and_assoc, exists_and_left, exists_eq_left, ih]

end Node

namespace PathFilter

/-- The filter admits the file that names lead to, and descends into all directories on the
way there. -/
def Selects (filter : PathFilter) (names : List Bytes) : Prop :=
  filter.admits (Node.relative names) ∧
    ∀ directory, directory ≠ [] → directory <+: names → directory ≠ names →
      filter.descends (Node.relative directory)

theorem selects_iff {filter : PathFilter} {names : List Bytes} :
    filter.Selects names ↔
      filter.admits (Node.relative names) ∧ ¬ filter.Excludes names := by
  refine and_congr_right fun admitted => ⟨?_, ?_⟩
  · rintro descended ⟨front, nonempty, isPrefix, isMatch⟩
    have kept : filter.descends (Node.relative front) := by
      by_cases whole : front = names
      · rw [whole]
        exact filter.descends_of_admits admitted
      · exact descended front nonempty isPrefix whole
    simp [descends, isMatch] at kept
  · intro kept directory nonempty isPrefix _
    rw [descends, Bool.not_eq_true', Bool.eq_false_iff]
    exact fun isMatch => kept ⟨directory, nonempty, isPrefix, isMatch⟩

end PathFilter

namespace Workspace

variable {workspace : Workspace} {filter : PathFilter} {names : List Bytes}

/-- The names lead from the root of the workspace to a file or link below it. -/
def Reaches (workspace : Workspace) (names : List Bytes) : Prop :=
  names ≠ [] ∧ ∃ node leaf, workspace.disk.find workspace.root = .ok node ∧
    node.Leads names leaf ∧ leaf.isLeaf

/-- The URI of the file that names lead to from the root. -/
def uriBelow? (workspace : Workspace) (names : List Bytes) : Option Uri :=
  Uri.ofFilePath? (workspace.root.join (Node.relative names))

theorem mem_walk_iff_reaches :
    names ∈ workspace.disk.walk filter workspace.root ↔
      workspace.Reaches names ∧ filter.Selects names := by
  rw [Disk.mem_walk_iff, PathFilter.selects_iff]
  constructor
  · rintro ⟨entries, leaf, found, leads, isLeaf, selected⟩
    obtain ⟨name, rest, rfl, -⟩ := (Node.leads_directory_iff isLeaf).mp leads
    exact ⟨⟨by simp, _, leaf, found, leads, isLeaf⟩, selected⟩
  · rintro ⟨⟨nonempty, node, leaf, found, leads, isLeaf⟩, selected⟩
    cases leads with
    | stay => contradiction
    | enter member rest => exact ⟨_, leaf, found, .enter member rest, isLeaf, selected⟩

theorem isAbsolute_of_mem_walk (absolute : workspace.root.isAbsolute)
    (found : names ∈ workspace.disk.walk filter workspace.root) :
    (workspace.root.join (Node.relative names)).isAbsolute := by
  have isRelative := Path.not_isAbsolute_ofComponents (isStep_of_mem_walk found)
  rw [Node.relative, Path.isAbsolute_join isRelative, absolute]

/-- Below an absolute root every file has a URI. -/
theorem isSome_uriBelow? (absolute : workspace.root.isAbsolute)
    (found : names ∈ workspace.disk.walk filter workspace.root) :
    (workspace.uriBelow? names).isSome := by
  simp [uriBelow?, Uri.ofFilePath?, isAbsolute_of_mem_walk absolute found]

theorem map_some_filesOnDisk (absolute : workspace.root.isAbsolute) :
    (workspace.filesOnDisk filter).map some =
      (workspace.disk.walk filter workspace.root).map workspace.uriBelow? := by
  have all_some : ∀ chains : List (List Bytes),
      (∀ names ∈ chains, (workspace.uriBelow? names).isSome) →
      (chains.filterMap workspace.uriBelow?).map some = chains.map workspace.uriBelow? := by
    intro chains isSome
    induction chains with
    | nil => rfl
    | cons names chains ih =>
        obtain ⟨first, others⟩ := List.forall_mem_cons.mp isSome
        obtain ⟨uri, built⟩ := Option.isSome_iff_exists.mp first
        rw [List.filterMap_cons_some built, List.map_cons, List.map_cons, built, ih others]
  exact all_some _ fun names found => isSome_uriBelow? absolute found

/-- A walk depends only on what can be reached from the root. -/
theorem walk_congr {other : Workspace}
    (same : ∀ names, workspace.Reaches names ↔ other.Reaches names) :
    workspace.disk.walk filter workspace.root = other.disk.walk filter other.root := by
  have ordered := workspace.disk.pairwise_walk filter workspace.root
  have otherOrdered := other.disk.pairwise_walk filter other.root
  refine eq_of_pairwise_of_mem_iff (fun _ _ => List.lt_asymm) ordered otherOrdered fun names => ?_
  rw [mem_walk_iff_reaches, mem_walk_iff_reaches, same names]

theorem reaches_iff_of_alike {other : Workspace} {node otherNode : Node}
    (found : workspace.disk.find workspace.root = .ok node)
    (otherFound : other.disk.find other.root = .ok otherNode) (alike : node.Alike otherNode)
    (names : List Bytes) : workspace.Reaches names ↔ other.Reaches names := by
  unfold Reaches
  rw [found, otherFound]
  refine and_congr_right fun _ => ⟨?_, ?_⟩
  · rintro ⟨_, leaf, ⟨⟩, leads, isLeaf⟩
    exact ⟨_, leaf, rfl, (alike.leads_iff isLeaf names).mp leads, isLeaf⟩
  · rintro ⟨_, leaf, ⟨⟩, leads, isLeaf⟩
    exact ⟨_, leaf, rfl, (alike.leads_iff isLeaf names).mpr leads, isLeaf⟩

/-- Below an absolute root, the files on the disk are listed by their URIs, each once and in
strictly increasing order of the names that lead to them.  They are exactly the files and
links that the filter selects.  The list is the same for every tree that looks alike. -/
theorem filesOnDisk_lists_selected_in_order (workspace : Workspace) (filter : PathFilter)
    (absolute : workspace.root.isAbsolute) :
    (∃ chains : List (List Bytes),
      (workspace.filesOnDisk filter).map some = chains.map workspace.uriBelow? ∧
      (∀ names, names ∈ chains ↔ workspace.Reaches names ∧ filter.Selects names) ∧
      chains.Pairwise (· < ·)) ∧
    (workspace.filesOnDisk filter).Nodup ∧
    ∀ (other : Disk) (node otherNode : Node),
      workspace.disk.find workspace.root = .ok node → other.find workspace.root = .ok otherNode →
      node.Alike otherNode →
      ({ workspace with disk := other }).filesOnDisk filter = workspace.filesOnDisk filter := by
  refine ⟨⟨workspace.disk.walk filter workspace.root, map_some_filesOnDisk absolute,
    fun names => mem_walk_iff_reaches, workspace.disk.pairwise_walk filter workspace.root⟩,
    nodup_filesOnDisk workspace filter, ?_⟩
  intro other node otherNode found otherFound alike
  let rearranged : Workspace := { workspace with disk := other }
  have same : ∀ names, workspace.Reaches names ↔ rearranged.Reaches names :=
    reaches_iff_of_alike found otherFound alike
  have sameWalk : workspace.disk.walk filter workspace.root =
      other.walk filter workspace.root := walk_congr same
  simp only [filesOnDisk, sameWalk]

/-- A link in the directory `a` is listed, and so is a file `a.c` beside it, behind the link. -/
theorem filesOnDisk_lists_link_in_directory :
    let name (text : String) : Bytes := Text.utf8 text.toList
    let disk : Disk :=
      ⟨[(name "r", .directory
        [(name "a.c", .file []), (name "n", .lockedDirectory),
          (name "a", .directory [(name "z", .link ⟨[]⟩)]),
          (name "a-b", .directory [(name "c", .file [])])])], by decide +kernel⟩
    let workspace : Workspace := ⟨disk, .ofText "/r".toList, .empty⟩
    let filter : PathFilter := ⟨none, [[.literal 'n']]⟩
    let link := [name "a", name "z"]
    let file := [name "a.c"]
    workspace.root.isAbsolute ∧ ∃ chains : List (List Bytes),
      (workspace.filesOnDisk filter).map some = chains.map workspace.uriBelow? ∧
      link ∈ chains ∧ file ∈ chains ∧ link < file ∧ chains.Pairwise (· < ·) := by
  intro name disk workspace filter link file
  have absolute : workspace.root.isAbsolute := by decide +kernel
  obtain ⟨⟨chains, listed, selected, ordered⟩, -⟩ :=
    filesOnDisk_lists_selected_in_order workspace filter absolute
  have linkReached : workspace.Reaches link :=
    ⟨by simp [link], _, _, rfl, .enter (.tail _ (.tail _ (.head _))) (.enter (.head _) (.stay _)),
      rfl⟩
  have fileReached : workspace.Reaches file :=
    ⟨by simp [file], _, _, rfl, .enter (.head _) (.stay _), rfl⟩
  have linkSelected : filter.Selects link := PathFilter.selects_iff.mpr (by decide +kernel)
  have fileSelected : filter.Selects file := PathFilter.selects_iff.mpr (by decide +kernel)
  exact ⟨absolute, chains, listed, (selected link).mpr ⟨linkReached, linkSelected⟩,
    (selected file).mpr ⟨fileReached, fileSelected⟩, by decide +kernel, ordered⟩

end Workspace

end SelectorNavigation

import SelectorNavigation.Disk.Walk
import SelectorNavigation.Proofs.PathComponents
import Mathlib.Data.List.Infix

/-!
# What a walk finds

A walk finds a chain of names exactly if the names lead to a file or link that the filter
admits, through directories that the filter descends into.  It finds the chains in the
order of their names, so it finds none of them twice.
-/

namespace SelectorNavigation

namespace PathFilter

/-- The filter excludes the place that names lead to: the place itself or a directory on
the way matches one of its globs. -/
def Excludes (filter : PathFilter) (names : List Bytes) : Prop :=
  ∃ front, front ≠ [] ∧ front <+: names ∧ anyMatch filter.excluded (Node.relative front)

instance (filter : PathFilter) (names : List Bytes) : Decidable (filter.Excludes names) :=
  decidable_of_iff
    (∃ front ∈ names.inits, front ≠ [] ∧ anyMatch filter.excluded (Node.relative front))
    ⟨fun ⟨front, isPrefix, nonempty, isMatch⟩ =>
        ⟨front, nonempty, (List.mem_inits front names).mp isPrefix, isMatch⟩,
      fun ⟨front, nonempty, isPrefix, isMatch⟩ =>
        ⟨front, (List.mem_inits front names).mpr isPrefix, nonempty, isMatch⟩⟩

theorem descends_of_admits (filter : PathFilter) {path : Path} (admitted : filter.admits path) :
    filter.descends path := by
  simp only [admits, Bool.and_eq_true] at admitted
  exact admitted.1

end PathFilter

namespace Node

/-- A property of all nodes is proved of a directory from its entries. -/
@[elab_as_elim]
theorem entriesInduction {motive : Node → Prop}
    (file : ∀ content, motive (.file content)) (link : ∀ target, motive (.link target))
    (directory : ∀ entries, (∀ entry ∈ entries, motive entry.2) → motive (.directory entries))
    (lockedDirectory : motive .lockedDirectory) : ∀ node, motive node
  | .file content => file content
  | .link target => link target
  | .directory entries => directory entries fun entry member =>
      have smaller : sizeOf entry.2 < sizeOf entries := by
        have entrySmaller := List.sizeOf_lt_of_mem member
        have nodeSmaller : sizeOf entry.2 < sizeOf entry := by
          cases entry
          simp only [Prod.mk.sizeOf_spec]
          omega
        omega
      entriesInduction file link directory lockedDirectory entry.2
  | .lockedDirectory => lockedDirectory
termination_by node => sizeOf node

def isLeaf : Node → Bool
  | .file _ => true
  | .link _ => true
  | .directory _ => false
  | .lockedDirectory => false

/-- The names lead from one node through directories to another. -/
inductive Leads : Node → List Bytes → Node → Prop where
  /-- No name leads nowhere else. -/
  | stay (node : Node) : Leads node [] node
  /-- The first name is that of an entry, and the others lead on from there. -/
  | enter {entries : List (Bytes × Node)} {name : Bytes} {child goal : Node}
      {names : List Bytes} (member : (name, child) ∈ entries)
      (rest : Leads child names goal) : Leads (.directory entries) (name :: names) goal

theorem Leads.isEntryName_of_mem {node goal : Node} {names : List Bytes}
    (leads : Leads node names goal) (proper : node.isProper) :
    ∀ name ∈ names, Path.isEntryName name := by
  induction leads with
  | stay => simp
  | enter member _ ih =>
      simp only [isProper, areProper_iff] at proper
      obtain ⟨named, childProper⟩ := proper.1 _ member
      exact List.forall_mem_cons.mpr ⟨named, ih childProper⟩

variable {filter : PathFilter}

theorem mem_inNameOrder {blocks : List (Bytes × List (List Bytes))} {found : List Bytes} :
    found ∈ inNameOrder blocks ↔ ∃ block ∈ blocks, found ∈ block.2 := by
  simp [inNameOrder, List.mem_mergeSort]

theorem walkEntries_eq_map (names : List Bytes) (entries : List (Bytes × Node)) :
    walkEntries filter names entries =
      entries.map fun entry => (entry.1, walk filter (names ++ [entry.1]) entry.2) := by
  induction entries with
  | nil => rfl
  | cons entry entries ih => rw [walkEntries, ih, List.map_cons]

theorem mem_walkEntries {names found : List Bytes} {entries : List (Bytes × Node)} :
    found ∈ inNameOrder (walkEntries filter names entries) ↔
      ∃ name child, (name, child) ∈ entries ∧ found ∈ walk filter (names ++ [name]) child := by
  rw [mem_inNameOrder, walkEntries_eq_map]
  constructor
  · rintro ⟨_, isBlock, member⟩
    obtain ⟨⟨name, child⟩, isEntry, rfl⟩ := List.mem_map.mp isBlock
    exact ⟨name, child, isEntry, member⟩
  · rintro ⟨name, child, isEntry, member⟩
    exact ⟨_, List.mem_map.mpr ⟨(name, child), isEntry, rfl⟩, member⟩

/-- The filter admits the end of a chain of names and descends into everything on the way
from the node that the first names lead to. -/
def Passes (filter : PathFilter) (names below : List Bytes) : Prop :=
  filter.admits (relative (names ++ below)) ∧
    ∀ front, front <+: below → filter.descends (relative (names ++ front))

theorem passes_nil {names : List Bytes} :
    Passes filter names [] ↔ filter.admits (relative names) := by
  simpa [Passes] using filter.descends_of_admits

/-- Passing from a directory means to descend into it and to pass from the next node. -/
theorem passes_cons {names below : List Bytes} {name : Bytes} :
    Passes filter names (name :: below) ↔
      filter.descends (relative names) ∧ Passes filter (names ++ [name]) below := by
  simp only [Passes, List.append_assoc, List.singleton_append]
  constructor
  · rintro ⟨admitted, descended⟩
    refine ⟨by simpa using descended [] List.nil_prefix, admitted, ?_⟩
    exact fun front isPrefix => descended (name :: front) (by simpa using isPrefix)
  · rintro ⟨start, admitted, descended⟩
    refine ⟨admitted, fun front isPrefix => ?_⟩
    rcases List.prefix_cons_iff.mp isPrefix with rfl | ⟨later, rfl, isLater⟩
    · simpa using start
    · exact descended later isLater

/-- Passing from an entry of the start of a walk means that nothing on the way from the
start is excluded. -/
theorem passes_singleton {below : List Bytes} {name : Bytes} :
    Passes filter [name] below ↔
      filter.admits (relative (name :: below)) ∧ ¬ filter.Excludes (name :: below) := by
  refine and_congr_right fun _ => ⟨?_, ?_⟩
  · rintro descended ⟨front, nonempty, isPrefix, isMatch⟩
    rcases List.prefix_cons_iff.mp isPrefix with rfl | ⟨later, rfl, isLater⟩
    · exact nonempty rfl
    · have kept := descended later isLater
      simp [PathFilter.descends, isMatch] at kept
  · intro kept front isPrefix
    rw [PathFilter.descends, Bool.not_eq_true', Bool.eq_false_iff]
    exact fun isMatch => kept ⟨name :: front, by simp, by simpa using isPrefix, isMatch⟩

/-- A walk finds the leaves that names lead to and the filter lets pass. -/
theorem mem_walk_iff {node : Node} {names found : List Bytes} :
    found ∈ walk filter names node ↔
      ∃ below leaf, found = names ++ below ∧ Leads node below leaf ∧ leaf.isLeaf ∧
        Passes filter names below := by
  induction node using entriesInduction generalizing names with
  | file _ | link _ =>
      simp only [walk, List.mem_ite_nil_right, List.mem_singleton]
      constructor
      · rintro ⟨admitted, rfl⟩
        exact ⟨[], _, by simp, .stay _, rfl, passes_nil.mpr admitted⟩
      · rintro ⟨below, leaf, rfl, ⟨⟩, -, passed⟩
        exact ⟨passes_nil.mp passed, by simp⟩
  | lockedDirectory =>
      simp only [walk, List.not_mem_nil, false_iff]
      rintro ⟨below, leaf, -, ⟨⟩, isLeaf, -⟩
      exact absurd isLeaf (by simp [Node.isLeaf])
  | directory entries ih =>
      simp only [walk, List.mem_ite_nil_right, mem_walkEntries]
      constructor
      · rintro ⟨descended, name, child, member, inChild⟩
        obtain ⟨below, leaf, rfl, leads, isLeaf, passed⟩ := (ih _ member).mp inChild
        exact ⟨name :: below, leaf, by simp, .enter member leads, isLeaf,
          passes_cons.mpr ⟨descended, passed⟩⟩
      · rintro ⟨below, leaf, rfl, leads, isLeaf, passed⟩
        cases leads with
        | stay => exact absurd isLeaf (by simp [Node.isLeaf])
        | enter member rest =>
            obtain ⟨descended, passed⟩ := passes_cons.mp passed
            exact ⟨descended, _, _, member,
              (ih _ member).mpr ⟨_, leaf, by simp, rest, isLeaf, passed⟩⟩

/-- Blocks of chains that go on with their own names come out in order. -/
theorem pairwise_inNameOrder (names : List Bytes) {blocks : List (Bytes × List (List Bytes))}
    (distinct : (blocks.map (·.1)).Nodup)
    (ordered : ∀ block ∈ blocks, block.2.Pairwise (· < ·))
    (under : ∀ block ∈ blocks, ∀ found ∈ block.2, ∃ below, found = names ++ block.1 :: below) :
    (inNameOrder blocks).Pairwise (· < ·) := by
  refine List.pairwise_flatMap.mpr ⟨fun block member => ?_, ?_⟩
  · exact ordered block (List.mem_mergeSort.mp member)
  · refine (pairwise_mergeSort_keys Prod.fst distinct).imp_of_mem ?_
    intro first second firstMember secondMember less found isFound other isOther
    obtain ⟨below, rfl⟩ := under first (List.mem_mergeSort.mp firstMember) found isFound
    obtain ⟨otherBelow, rfl⟩ := under second (List.mem_mergeSort.mp secondMember) other isOther
    exact List.append_left_lt (List.cons_lt_cons_iff.mpr (Or.inl less))

theorem pairwise_walkEntries {names : List Bytes} {entries : List (Bytes × Node)}
    (distinct : (entries.map (·.1)).Nodup)
    (ordered : ∀ entry ∈ entries,
      (walk filter (names ++ [entry.1]) entry.2).Pairwise (· < ·)) :
    (inNameOrder (walkEntries filter names entries)).Pairwise (· < ·) := by
  rw [walkEntries_eq_map]
  refine pairwise_inNameOrder names ?_ ?_ ?_
  · simpa [List.map_map, Function.comp_def] using distinct
  · intro block isBlock
    obtain ⟨entry, member, rfl⟩ := List.mem_map.mp isBlock
    exact ordered entry member
  · intro block isBlock found isFound
    obtain ⟨entry, -, rfl⟩ := List.mem_map.mp isBlock
    obtain ⟨below, -, rfl, -⟩ := mem_walk_iff.mp isFound
    exact ⟨below, by simp⟩

theorem pairwise_walk {node : Node} (proper : node.isProper) (names : List Bytes) :
    (walk filter names node).Pairwise (· < ·) := by
  induction node using entriesInduction generalizing names with
  | file _ | link _ =>
      simp only [walk]
      split <;> simp
  | lockedDirectory => exact List.Pairwise.nil
  | directory entries ih =>
      obtain ⟨entriesProper, distinct⟩ := areProper_iff.mp proper
      simp only [walk]
      split
      · exact pairwise_walkEntries distinct fun entry member =>
          ih entry member (entriesProper entry member).2 _
      · exact List.Pairwise.nil

end Node

namespace Disk

theorem isProper_root (disk : Disk) : disk.root.isProper :=
  disk.proper

/-- Following pieces from proper nodes ends at one, if jumps from proper nodes do. -/
theorem isProper_of_followUntilLink {disk : Disk}
    {jump : Node → List Node → List Bytes → Except DiskError Node}
    (jumpProper : ∀ start above pieces goal, start.isProper → (∀ node ∈ above, node.isProper) →
      jump start above pieces = .ok goal → goal.isProper)
    {start goal : Node} {above : List Node} {pieces : List Bytes} (startProper : start.isProper)
    (aboveProper : ∀ node ∈ above, node.isProper)
    (followed : disk.followUntilLink jump start above pieces = .ok goal) : goal.isProper := by
  induction pieces generalizing start above with
  | nil =>
      simp only [followUntilLink, Except.ok.injEq] at followed
      exact followed ▸ startProper
  | cons piece rest ih =>
      cases start with
      | file _ | link _ | lockedDirectory => simp [followUntilLink] at followed
      | directory entries =>
          simp only [followUntilLink] at followed
          split at followed
          · exact ih startProper aboveProper followed
          · split at followed
            · cases above with
              | nil => exact ih startProper aboveProper followed
              | cons parent above =>
                  obtain ⟨parentProper, othersProper⟩ := List.forall_mem_cons.mp aboveProper
                  exact ih parentProper othersProper followed
            · split at followed
              · simp at followed
              · -- a link: the jump starts at the root or goes on from here
                split at followed
                · exact jumpProper _ _ _ _ disk.isProper_root (by simp) followed
                · exact jumpProper _ _ _ _ startProper aboveProper followed
              · rename_i child _ found
                have childProper := (Node.isProper_of_lookup startProper found).2
                exact ih childProper (List.forall_mem_cons.mpr ⟨startProper, aboveProper⟩) followed

theorem isProper_of_follow {disk : Disk} {links : Nat} {start goal : Node} {above : List Node}
    {pieces : List Bytes} (startProper : start.isProper)
    (aboveProper : ∀ node ∈ above, node.isProper)
    (followed : disk.follow links start above pieces = .ok goal) : goal.isProper := by
  induction links generalizing start above pieces goal with
  | zero => exact isProper_of_followUntilLink (by simp) startProper aboveProper followed
  | succ links ih =>
      exact isProper_of_followUntilLink (fun _ _ _ _ first second third => ih first second third)
        startProper aboveProper followed

theorem isProper_of_find {disk : Disk} {path : Path} {node : Node}
    (found : disk.find path = .ok node) : node.isProper := by
  unfold find at found
  split at found
  · contradiction
  · split at found
    · exact isProper_of_follow disk.isProper_root (by simp) found
    · contradiction

/-- A walk finds exactly the files and links below a directory that the filter admits and
does not exclude together with a directory above them. -/
theorem mem_walk_iff {disk : Disk} {filter : PathFilter} {directory : Path}
    {names : List Bytes} :
    names ∈ disk.walk filter directory ↔
      ∃ entries leaf, disk.find directory = .ok (.directory entries) ∧
        Node.Leads (.directory entries) names leaf ∧ leaf.isLeaf ∧
        filter.admits (Node.relative names) ∧ ¬ filter.Excludes names := by
  constructor
  · intro member
    unfold walk at member
    split at member
    · rename_i entries found
      obtain ⟨name, child, isEntry, inChild⟩ := Node.mem_walkEntries.mp member
      obtain ⟨below, leaf, rfl, leads, isLeaf, passed⟩ := Node.mem_walk_iff.mp inChild
      exact ⟨entries, leaf, found, .enter isEntry leads, isLeaf, Node.passes_singleton.mp passed⟩
    · simp at member
  · rintro ⟨entries, leaf, found, leads, isLeaf, passed⟩
    simp only [walk, found]
    cases leads with
    | stay => exact absurd isLeaf (by simp [Node.isLeaf])
    | enter isEntry rest =>
        exact Node.mem_walkEntries.mpr ⟨_, _, isEntry, Node.mem_walk_iff.mpr
          ⟨_, leaf, rfl, rest, isLeaf, Node.passes_singleton.mpr passed⟩⟩

theorem pairwise_walk (disk : Disk) (filter : PathFilter) (directory : Path) :
    (disk.walk filter directory).Pairwise (· < ·) := by
  unfold walk
  split
  · rename_i entries found
    obtain ⟨entriesProper, distinct⟩ := Node.areProper_iff.mp (isProper_of_find found)
    exact Node.pairwise_walkEntries distinct fun entry member =>
      Node.pairwise_walk (entriesProper entry member).2 _
  · exact List.Pairwise.nil

end Disk

end SelectorNavigation

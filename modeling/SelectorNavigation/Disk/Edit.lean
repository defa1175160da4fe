import SelectorNavigation.Disk.Basic

/-!
# Changing the disk

Files, links and directories are created with the directories above them, and
removed with all they contain.  Links on the way to a place are followed; a file
written to a link is written to the link's target, and a removed link leaves its
target alone.
-/

namespace SelectorNavigation

namespace Disk

/-- Set the entry with a name, at its place if there is one. -/
def setEntry (name : Bytes) (node : Node) : List (Bytes × Node) → List (Bytes × Node)
  | [] => [(name, node)]
  | entry :: rest =>
      if entry.1 == name then (name, node) :: rest else entry :: setEntry name node rest

/-- Setting an entry keeps the names, and adds the name at the end if it is new. -/
theorem names_setEntry (name : Bytes) (node : Node) (entries : List (Bytes × Node)) :
    (setEntry name node entries).map (·.1) =
      if name ∈ entries.map (·.1) then entries.map (·.1) else entries.map (·.1) ++ [name] := by
  induction entries with
  | nil => simp [setEntry]
  | cons entry rest ih =>
      by_cases same : entry.1 = name
      · simp [setEntry, same]
      · have different : name ≠ entry.1 := fun equal => same equal.symm
        simp only [setEntry, beq_iff_eq, same, if_false, List.map_cons, ih, List.mem_cons,
          different, false_or]
        split <;> simp

theorem mem_setEntry {name : Bytes} {node : Node} {entries : List (Bytes × Node)}
    {entry : Bytes × Node} (member : entry ∈ setEntry name node entries) :
    entry = (name, node) ∨ entry ∈ entries := by
  induction entries with
  | nil => simpa [setEntry] using member
  | cons first rest ih =>
      simp only [setEntry] at member
      split at member
      · rcases List.mem_cons.mp member with here | later
        · exact .inl here
        · exact .inr (List.mem_cons_of_mem _ later)
      · rcases List.mem_cons.mp member with here | later
        · exact .inr (here ▸ List.mem_cons_self)
        · exact (ih later).imp_right (List.mem_cons_of_mem _)

/-- Setting an entry keeps entries proper. -/
theorem areProper_setEntry {name : Bytes} {node : Node} {entries : List (Bytes × Node)}
    (named : Path.isEntryName name) (nodeProper : node.isProper)
    (proper : Node.areProper entries) : Node.areProper (setEntry name node entries) := by
  obtain ⟨each, distinct⟩ := Node.areProper_iff.mp proper
  refine Node.areProper_iff.mpr ⟨?_, ?_⟩
  · intro entry member
    rcases mem_setEntry member with rfl | old
    · exact ⟨named, nodeProper⟩
    · exact each entry old
  · rw [names_setEntry]
    split
    · exact distinct
    · rename_i absent
      exact List.nodup_append.mpr
        ⟨distinct, by simp, fun other member last isLast => by
          rw [List.mem_singleton.mp isLast]
          exact fun equal => absent (equal ▸ member)⟩

/-- The entries of a node that is a directory. -/
def entriesOf : Option Node → List (Bytes × Node)
  | some (.directory entries) => entries
  | _ => []

theorem areProper_entriesOf {entries : List (Bytes × Node)} (proper : Node.areProper entries)
    (name : Bytes) : Node.areProper (entriesOf (entries.lookup name)) := by
  cases found : entries.lookup name with
  | none => rfl
  | some node =>
      have nodeProper := (Node.isProper_of_lookup proper found).2
      cases node with
      | directory inner => simpa [entriesOf, Node.isProper] using nodeProper
      | file content => rfl
      | link target => rfl
      | lockedDirectory => rfl

/-- The node at the end of a chain of names, without following links. -/
def nodeAt? (entries : List (Bytes × Node)) : List Bytes → Option Node
  | [] => some (.directory entries)
  | [name] => entries.lookup name
  | name :: names => nodeAt? (entriesOf (entries.lookup name)) names

/-- Put a node at the end of a chain of names.  A new directory does not replace
one that is there. -/
def place (node : Node) (entries : List (Bytes × Node)) : List Bytes → List (Bytes × Node)
  | [] => entries
  | [name] =>
      match node, entries.lookup name with
      | .directory _, some (.directory _) => entries
      | _, _ => setEntry name node entries
  | name :: names =>
      setEntry name (.directory (place node (entriesOf (entries.lookup name)) names)) entries

/-- A proper node under names that entries can have keeps entries proper. -/
theorem areProper_place {node : Node} (nodeProper : node.isProper)
    {entries : List (Bytes × Node)} {names : List Bytes}
    (named : ∀ name ∈ names, Path.isEntryName name) (proper : Node.areProper entries) :
    Node.areProper (place node entries names) := by
  fun_induction place node entries names with
  | case1 entries => exact proper
  | case2 entries name => exact proper
  | case3 entries name => exact areProper_setEntry (named name (by simp)) nodeProper proper
  | case4 entries name names _ ih =>
      refine areProper_setEntry (named name (by simp)) ?_ proper
      exact ih (fun name member => named name (List.mem_cons_of_mem _ member))
        (areProper_entriesOf proper name)

/-- Remove the node at the end of a chain of names. -/
def drop (entries : List (Bytes × Node)) : List Bytes → List (Bytes × Node)
  | [] => entries
  | [name] => entries.filter (·.1 != name)
  | name :: names =>
      match entries.lookup name with
      | some (.directory inner) => setEntry name (.directory (drop inner names)) entries
      | _ => entries

/-- Removing a node keeps entries proper. -/
theorem areProper_drop {entries : List (Bytes × Node)} {names : List Bytes}
    (proper : Node.areProper entries) : Node.areProper (drop entries names) := by
  fun_induction drop entries names with
  | case1 entries => exact proper
  | case2 entries name =>
      obtain ⟨each, distinct⟩ := Node.areProper_iff.mp proper
      exact Node.areProper_iff.mpr
        ⟨fun entry member => each entry (List.mem_filter.mp member).1,
          (List.filter_sublist.map _).nodup distinct⟩
  | case3 entries name names _ inner found ih =>
      obtain ⟨named, innerProper⟩ := Node.isProper_of_lookup proper found
      exact areProper_setEntry named (ih innerProper) proper
  | case4 entries name names => exact proper

/-- Extend a chain of names by pieces of a path.  At a link, `jump` goes on from the
chain where its target starts.  Names that do not exist yet are kept. -/
def chaseUntilLink (disk : Disk) (jump : List Bytes → List Bytes → List Bytes) :
    (names : List Bytes) → (pieces : List Bytes) → List Bytes
  | names, [] => names
  | names, piece :: rest =>
      if !Path.isComponent piece then disk.chaseUntilLink jump names rest
      else if piece == Path.up then disk.chaseUntilLink jump names.dropLast rest
      else
        match nodeAt? disk.entries (names ++ [piece]) with
        | some (.link target) =>
            jump (if target.isAbsolute then [] else names) (target.pieces ++ rest)
        | _ => disk.chaseUntilLink jump (names ++ [piece]) rest

/-- The chain of names that a path comes down to once at most the given number of
links is followed. -/
def chase (disk : Disk) : (links : Nat) → (names : List Bytes) → (pieces : List Bytes) →
    List Bytes
  | 0 => disk.chaseUntilLink fun names _ => names
  | links + 1 => disk.chaseUntilLink (disk.chase links)

/-- The chain of names at which a node is created.  A file is written through links,
and any other node takes the place that its path spells last. -/
def placeOf (disk : Disk) (path : Path) : Node → List Bytes
  | .file _ => disk.chase linkLimit [] path.pieces
  | _ =>
      disk.chase linkLimit [] path.components.dropLast ++ path.components.getLast?.toList

/-- Create a node at an absolute path.  Nothing is created under a name that no entry
can have. -/
def write (disk : Disk) (path : Path) (node : Node) : Disk :=
  let names := disk.placeOf path node
  if proper : node.isProper ∧ ∀ name ∈ names, Path.isEntryName name then
    ⟨place node disk.entries names, areProper_place proper.1 proper.2 disk.proper⟩
  else disk

/-- Remove what is at an absolute path. -/
def remove (disk : Disk) (path : Path) : Disk where
  entries :=
    let directory := disk.chase linkLimit [] path.components.dropLast
    drop disk.entries (directory ++ path.components.getLast?.toList)
  proper := areProper_drop disk.proper

end Disk

end SelectorNavigation

import SelectorNavigation.Proofs.NormalPaths
import SelectorNavigation.Proofs.Walk

/-!
# Following paths on the disk

A path can be followed in stages.  Once its first pieces have led somewhere, the remaining ones
are followed from there, with the links that are left.  Names that lead through directories to a
file are followed without any link, so a file found below a directory is the one that its whole
path leads to.

In a directory, a piece that is empty or a dot changes nothing.  So where a path leads somewhere,
its components alone lead there too, and whatever follows is the same behind either.
-/

namespace SelectorNavigation

/-- Names that lead somewhere are names of entries, which hold no zero byte. -/
theorem Node.Leads.isName_of_mem {node goal : Node} {names : List Bytes}
    (leads : node.Leads names goal) (proper : node.isProper) :
    ∀ name ∈ names, Path.IsName name ∧ 0 ∉ name := by
  intro name member
  have named := leads.isEntryName_of_mem proper name member
  simpa [Path.isEntryName, Path.isComponent, Path.IsName, and_assoc] using named

namespace Disk

variable {disk : Disk} {links : Nat} {start goal : Node} {above : List Node}
  {pieces : List Bytes}

/-- What one piece does is the same whatever follows it: it leads nowhere, to another node, or
through a link. -/
theorem followUntilLink_cons_cases (disk : Disk)
    (jump : Node → List Node → List Bytes → Except DiskError Node) (start : Node)
    (above : List Node) (piece : Bytes) :
    (∃ error, ∀ rest, disk.followUntilLink jump start above (piece :: rest) = .error error) ∨
    (∃ next ancestors, ∀ rest, disk.followUntilLink jump start above (piece :: rest) =
      disk.followUntilLink jump next ancestors rest) ∨
    ∃ next ancestors front, ∀ rest, disk.followUntilLink jump start above (piece :: rest) =
      jump next ancestors (front ++ rest) := by
  cases start with
  | file _ | link _ | lockedDirectory => exact .inl ⟨_, fun _ => rfl⟩
  | directory entries =>
      by_cases component : Path.isComponent piece
      · by_cases ascends : piece = Path.up
        · refine .inr (.inl ?_)
          cases above with
          | nil => exact ⟨_, _, fun rest => by simp [followUntilLink, ascends]; rfl⟩
          | cons parent above => exact ⟨_, _, fun rest => by simp [followUntilLink, ascends]; rfl⟩
        · cases found : entries.lookup piece with
          | none =>
              exact .inl ⟨_, fun rest => by simp [followUntilLink, component, ascends, found]; rfl⟩
          | some child =>
              cases child with
              | link target =>
                  refine .inr (.inr ?_)
                  by_cases rooted : target.isAbsolute
                  · exact ⟨_, _, target.pieces, fun rest => by
                      simp [followUntilLink, component, ascends, found, rooted]; rfl⟩
                  · exact ⟨_, _, target.pieces, fun rest => by
                      simp [followUntilLink, component, ascends, found, rooted]; rfl⟩
              | file _ | directory _ | lockedDirectory =>
                  exact .inr (.inl ⟨_, _, fun rest => by
                    simp [followUntilLink, component, ascends, found]; rfl⟩)
      · exact .inr (.inl ⟨_, _, fun rest => by simp [followUntilLink, component]; rfl⟩)

/-- Following pieces can be continued from where they lead, if jumps can. -/
theorem exists_continuation_of_followUntilLink
    {jump : Node → List Node → List Bytes → Except DiskError Node}
    (isFollow : disk.follow links = disk.followUntilLink jump)
    (jumpContinues : ∀ start above pieces goal, jump start above pieces = .ok goal →
      ∃ left ancestors, ∀ rest,
        jump start above (pieces ++ rest) = disk.follow left goal ancestors rest)
    (followed : disk.followUntilLink jump start above pieces = .ok goal) :
    ∃ left ancestors, ∀ rest,
      disk.followUntilLink jump start above (pieces ++ rest) =
        disk.follow left goal ancestors rest := by
  -- Within one stretch without links the links that are left do not change.
  induction pieces generalizing start above with
  | nil =>
      simp only [followUntilLink, Except.ok.injEq] at followed
      exact ⟨links, above, fun rest => by rw [isFollow, followed, List.nil_append]⟩
  | cons piece pieces ih =>
      simp only [List.cons_append]
      obtain ⟨error, failed⟩ | ⟨next, ancestors, moved⟩ | ⟨next, ancestors, front, jumped⟩ :=
        disk.followUntilLink_cons_cases jump start above piece
      · rw [failed] at followed
        contradiction
      · simp only [moved] at followed ⊢
        exact ih followed
      · simp only [jumped, ← List.append_assoc] at followed ⊢
        exact jumpContinues next ancestors _ goal followed

theorem exists_continuation_of_follow (followed : disk.follow links start above pieces = .ok goal) :
    ∃ left ancestors, ∀ rest,
      disk.follow links start above (pieces ++ rest) = disk.follow left goal ancestors rest := by
  induction links generalizing start above pieces goal with
  | zero =>
      have isFollow : disk.follow 0 = disk.followUntilLink fun _ _ _ => .error .tooManyLinks := rfl
      exact exists_continuation_of_followUntilLink isFollow (by simp) followed
  | succ links ih =>
      have isFollow : disk.follow (links + 1) = disk.followUntilLink (disk.follow links) := rfl
      exact exists_continuation_of_followUntilLink isFollow (fun _ _ _ _ => ih) followed

theorem exists_follow_eq (disk : Disk) (links : Nat) :
    ∃ jump, disk.follow links = disk.followUntilLink jump := by
  cases links with
  | zero => exact ⟨_, rfl⟩
  | succ links => exact ⟨_, rfl⟩

/-- Names that lead to a file are followed through the directories on the way. -/
theorem follow_of_leads {names : List Bytes} {content : Bytes}
    (leads : start.Leads names (.file content)) (proper : start.isProper) (links : Nat)
    (above : List Node) : disk.follow links start above names = .ok (.file content) := by
  obtain ⟨jump, isFollow⟩ := disk.exists_follow_eq links
  rw [isFollow]
  generalize isFile : Node.file content = leaf at leads
  induction leads generalizing above with
  | stay => rfl
  | @enter entries name child leaf names member rest ih =>
      subst isFile
      obtain ⟨areProper, distinct⟩ := Node.areProper_iff.mp proper
      obtain ⟨named, childProper⟩ := areProper _ member
      have found := lookup_eq_some_of_mem distinct member
      simp only [Path.isEntryName, Bool.and_eq_true, bne_iff_ne] at named
      obtain ⟨⟨⟨component, descends⟩, -⟩, -⟩ := named
      cases child with
      | link target => cases rest  -- no name leads on from a link
      | file _ | directory _ | lockedDirectory =>
          simp [followUntilLink, component, descends, found, ih childProper _ rfl]

section Skipping

variable {skipped : Bytes} (idle : ¬ Path.isComponent skipped)

include idle

theorem followUntilLink_directory_cons
    (jump : Node → List Node → List Bytes → Except DiskError Node)
    (entries : List (Bytes × Node)) (above : List Node) (rest : List Bytes) :
    disk.followUntilLink jump (.directory entries) above (skipped :: rest) =
      disk.followUntilLink jump (.directory entries) above rest := by
  simp [followUntilLink, idle]

/-- A piece without meaning can be left out of pieces that lead somewhere, if jumps allow it. -/
theorem followUntilLink_skip {front rest more : List Bytes}
    {jump : Node → List Node → List Bytes → Except DiskError Node}
    (jumpSkips : ∀ start above front goal, jump start above (front ++ skipped :: rest) = .ok goal →
      jump start above (front ++ skipped :: (rest ++ more)) =
        jump start above (front ++ (rest ++ more)))
    (followed : disk.followUntilLink jump start above (front ++ skipped :: rest) = .ok goal) :
    disk.followUntilLink jump start above (front ++ skipped :: (rest ++ more)) =
      disk.followUntilLink jump start above (front ++ (rest ++ more)) := by
  induction front generalizing start above with
  | nil =>
      cases start with
      | directory entries => exact followUntilLink_directory_cons idle jump entries above _
      | file _ | link _ | lockedDirectory => contradiction
  | cons piece front ih =>
      simp only [List.cons_append] at followed ⊢
      obtain ⟨error, failed⟩ | ⟨next, ancestors, moved⟩ | ⟨next, ancestors, target, jumped⟩ :=
        disk.followUntilLink_cons_cases jump start above piece
      · rw [failed] at followed
        contradiction
      · simp only [moved] at followed ⊢
        exact ih followed
      · simp only [jumped] at followed ⊢
        rw [← List.append_assoc] at followed
        simpa only [List.append_assoc] using
          jumpSkips next ancestors (target ++ front) goal followed

theorem follow_skip {front rest : List Bytes}
    (followed : disk.follow links start above (front ++ skipped :: rest) = .ok goal)
    (more : List Bytes) :
    disk.follow links start above (front ++ skipped :: (rest ++ more)) =
      disk.follow links start above (front ++ (rest ++ more)) := by
  induction links generalizing start above front goal with
  | zero => exact followUntilLink_skip idle (by simp) followed
  | succ links ih => exact followUntilLink_skip idle (fun _ _ _ _ => ih) followed

end Skipping

/-- Behind pieces that lead somewhere, all else is followed as behind their components. -/
theorem follow_append_eq_follow_filter {front rest : List Bytes}
    (followed : disk.follow links start above (front ++ rest) = .ok goal) (more : List Bytes) :
    disk.follow links start above (front ++ (rest ++ more)) =
      disk.follow links start above (front ++ (rest.filter Path.isComponent ++ more)) := by
  induction rest generalizing front with
  | nil => rfl
  | cons piece rest ih =>
      by_cases component : Path.isComponent piece
      · have longer : disk.follow links start above (front ++ [piece] ++ rest) = .ok goal := by
          simpa using followed
        simpa [component] using ih longer
      · have skips := follow_skip component followed
        have shorter : disk.follow links start above (front ++ rest) = .ok goal := by
          simpa [followed, eq_comm] using skips []
        rw [List.filter_cons_of_neg component, List.cons_append, skips more]
        exact ih shorter

theorem find_eq_follow {path : Path} (absolute : path.isAbsolute) (nonzero : 0 ∉ path.bytes) :
    disk.find path = disk.follow linkLimit disk.root [] path.pieces := by
  simp [find, nonzero, absolute]

/-- A path that is spelled by its components is followed component by component. -/
theorem find_ofComponents {names : List Bytes} (steps : ∀ name ∈ names, Path.IsStep name)
    (nonzero : ∀ name ∈ names, 0 ∉ name) (occupied : names ≠ []) :
    disk.find (.ofComponents true names) = disk.follow linkLimit disk.root [] names := by
  have pieces_eq := Path.pieces_ofComponents (fun name member => (steps name member).2) occupied
  have zero_not_mem : 0 ∉ (Path.ofComponents true names).bytes := by
    rw [Path.mem_bytes_iff (by decide), pieces_eq]
    simpa using nonzero
  obtain ⟨jump, isFollow⟩ := disk.exists_follow_eq linkLimit
  rw [find_eq_follow rfl zero_not_mem, pieces_eq, isFollow]
  exact followUntilLink_directory_cons (by decide) jump disk.entries [] names

theorem isAbsolute_of_find {path : Path} {node : Node} (found : disk.find path = .ok node) :
    path.isAbsolute := by
  unfold find at found
  split at found
  · contradiction
  · split at found
    · assumption
    · contradiction

theorem zero_not_mem_of_find {path : Path} {node : Node} (found : disk.find path = .ok node) :
    0 ∉ path.bytes := by
  intro member
  simp [find, member] at found

section Below

variable {directory : Path} {node : Node} {names : List Bytes}
  (found : disk.find directory = .ok node)
  (named : ∀ name ∈ names, Path.IsName name ∧ 0 ∉ name) (occupied : names ≠ [])

include found named occupied

/-- Names below a directory are followed behind the pieces of the directory. -/
theorem find_join :
    disk.find (directory.join (Node.relative names)) =
      disk.follow linkLimit disk.root [] (directory.pieces ++ names) := by
  have absolute := isAbsolute_of_find found
  have nonzero := zero_not_mem_of_find found
  have steps : ∀ name ∈ names, Path.IsStep name := fun name member =>
    (named name member).1.isStep
  obtain ⟨front, pieces_eq, directoryPieces⟩ :=
    Path.pieces_join_ofComponents directory steps occupied
  have joinedAbsolute : (directory.join (Node.relative names)).isAbsolute := by
    rw [Node.relative, Path.isAbsolute_join (Path.not_isAbsolute_ofComponents steps), absolute]
  have joinedNonzero : 0 ∉ (directory.join (Node.relative names)).bytes := by
    rw [Path.mem_bytes_iff (by decide)] at nonzero ⊢
    rw [Node.relative, pieces_eq]
    rintro ⟨piece, member, zero⟩
    rcases List.mem_append.mp member with inside | below
    · refine nonzero ⟨piece, ?_, zero⟩
      rcases directoryPieces with same | closed
      · rwa [same]
      · simp [closed, inside]
    · exact (named piece below).2 zero
  rw [find_eq_follow joinedAbsolute joinedNonzero, Node.relative, pieces_eq]
  rcases directoryPieces with same | closed
  · rw [same]
  · rw [find_eq_follow absolute nonzero, closed] at found
    have skips := follow_skip (by decide) found names
    rw [closed, List.append_assoc]
    exact skips.symm

/-- However the directory is spelled, its components lead to the same place. -/
theorem find_ofComponents_join :
    disk.find (.ofComponents true (directory.components ++ names)) =
      disk.find (directory.join (Node.relative names)) := by
  have absolute := isAbsolute_of_find found
  have nonzero := zero_not_mem_of_find found
  rw [find_join found named occupied]
  rw [find_eq_follow absolute nonzero] at found
  have sameBehind : disk.follow linkLimit disk.root [] (directory.pieces ++ names) =
      disk.follow linkLimit disk.root [] (directory.components ++ names) :=
    @follow_append_eq_follow_filter disk linkLimit disk.root node [] [] _ found names
  rw [sameBehind]
  refine find_ofComponents ?_ ?_ (by simp [occupied])
  · intro name member
    rcases List.mem_append.mp member with inside | below
    · exact Path.isStep_of_mem_components inside
    · exact (named name below).1.isStep
  · intro name member
    rcases List.mem_append.mp member with inside | below
    · rw [Path.mem_bytes_iff (by decide)] at nonzero
      exact fun zero => nonzero ⟨name, (List.mem_filter.mp inside).1, zero⟩
    · exact (named name below).2

end Below

/-- The file that names lead to from a directory is found at the joined path. -/
theorem find_join_of_leads {directory : Path} {node : Node} {names : List Bytes} {content : Bytes}
    (found : disk.find directory = .ok node) (leads : node.Leads names (.file content))
    (occupied : names ≠ []) :
    disk.find (directory.join (Node.relative names)) = .ok (.file content) := by
  have proper := isProper_of_find found
  rw [find_join found (leads.isName_of_mem proper) occupied]
  rw [find_eq_follow (isAbsolute_of_find found) (zero_not_mem_of_find found)] at found
  obtain ⟨left, ancestors, continues⟩ := exists_continuation_of_follow found
  rw [continues]
  exact follow_of_leads leads proper left ancestors

/-- Behind a file, a slash asks for a directory. -/
theorem find_append_slash_of_file {path : Path} {content : Bytes}
    (found : disk.find path = .ok (.file content)) :
    disk.find ⟨path.bytes ++ [Path.slash]⟩ = .error .notADirectory := by
  have absolute := isAbsolute_of_find found
  have nonzero := zero_not_mem_of_find found
  have pieces_eq : (⟨path.bytes ++ [Path.slash]⟩ : Path).pieces = path.pieces ++ [[]] := by
    simp [Path.pieces, List.splitOn_append_cons_self]
  have stillAbsolute : (⟨path.bytes ++ [Path.slash]⟩ : Path).isAbsolute := by
    simp_all [Path.isAbsolute]
  have stillNonzero : 0 ∉ path.bytes ++ [Path.slash] := by
    have slashNonzero : (0 : UInt8) ≠ Path.slash := by decide
    simp [nonzero, slashNonzero]
  rw [find_eq_follow absolute nonzero] at found
  obtain ⟨left, ancestors, continues⟩ := exists_continuation_of_follow found
  obtain ⟨jump, isFollow⟩ := disk.exists_follow_eq left
  rw [find_eq_follow stillAbsolute stillNonzero, pieces_eq, continues, isFollow]
  rfl

end Disk

end SelectorNavigation

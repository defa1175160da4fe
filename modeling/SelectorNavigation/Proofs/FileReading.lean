import SelectorNavigation.Proofs.FileOrder
import SelectorNavigation.Proofs.Following
import SelectorNavigation.Proofs.ResourceRuns
import SelectorNavigation.Proofs.TemplateEndings
import SelectorNavigation.Workspace.Definition

/-!
# Reading files back from their URIs

The URI that is built for a path in normal form denotes that path again, whatever bytes its names
hold, and no other path has the same URI.  Every other path comes back spelled by its components,
which lead to the same place below a directory.  So a file that a search finds on the disk is read
from where it was found, however the root is spelled.

There is one exception.  A path that ends like a drive, in a letter and a colon or a bar, comes back
with a slash behind it; seen from the root it is still the same place, but as a slash asks for a
directory, a file there cannot be read.  Templates and the files that resource paths lead to have
names that do not end so.
-/

namespace SelectorNavigation

namespace Path

/-- The spelling ends like that of a drive, in a letter of ASCII and a colon or a bar. -/
def EndsInDrive (path : Path) : Prop :=
  ∃ letter sign, [letter, sign] <:+ path.bytes ∧
    (0x41 ≤ letter ∧ letter ≤ 0x5A ∨ 0x61 ≤ letter ∧ letter ≤ 0x7A) ∧
    (sign = 0x3A ∨ sign = 0x7C)

theorem not_endsInDrive_of_getLast? {path : Path} {last : UInt8}
    (isLast : path.bytes.getLast? = some last) (noColon : last ≠ 0x3A) (noBar : last ≠ 0x7C) :
    ¬ path.EndsInDrive := by
  rintro ⟨letter, sign, ⟨front, spelled⟩, -, isSign⟩
  rw [← spelled, List.getLast?_append] at isLast
  obtain rfl : sign = last := by simpa using isLast
  exact isSign.elim noColon noBar

theorem not_endsInDrive_of_isSuffix {path : Path} {word : Bytes} {last : UInt8}
    (ending : word <:+ path.bytes) (isLast : word.getLast? = some last) (noColon : last ≠ 0x3A)
    (noBar : last ≠ 0x7C) : ¬ path.EndsInDrive := by
  obtain ⟨front, spelled⟩ := ending
  refine not_endsInDrive_of_getLast? ?_ noColon noBar
  rw [← spelled, List.getLast?_append, isLast, Option.some_or]

theorem endsInDrive_iff_of_isSuffix {path : Path} {word : Bytes} (long : 2 ≤ word.length)
    (ending : word <:+ path.bytes) : path.EndsInDrive ↔ (⟨word⟩ : Path).EndsInDrive := by
  constructor
  · rintro ⟨letter, sign, ends, kinds⟩
    exact ⟨letter, sign, List.suffix_of_suffix_length_le ends ending long, kinds⟩
  · rintro ⟨letter, sign, ends, kinds⟩
    exact ⟨letter, sign, ends.trans ending, kinds⟩

/-- Whether a path ends like a drive can be told from its last piece. -/
theorem endsInDrive_iff_of_pieces {path other : Path} {front otherFront : List Bytes} {last : Bytes}
    (absolute : path.isAbsolute) (pieces_eq : path.pieces = front ++ [last])
    (otherAbsolute : other.isAbsolute) (otherPieces : other.pieces = otherFront ++ [last])
    (filled : last ≠ []) : path.EndsInDrive ↔ other.EndsInDrive := by
  have long : 2 ≤ (slash :: last).length := by
    have := List.length_pos_iff.mpr filled
    rw [List.length_cons]
    omega
  rw [endsInDrive_iff_of_isSuffix long (isSuffix_of_pieces absolute pieces_eq),
    endsInDrive_iff_of_isSuffix long (isSuffix_of_pieces otherAbsolute otherPieces)]

theorem isSuffix_join {word : Bytes} {continuation : Path} (base : Path)
    (ending : word <:+ continuation.bytes) : word <:+ (base.join continuation).bytes := by
  unfold join
  split
  · exact ending
  · split
    · exact ending.trans (List.suffix_append _ _)
    · exact (ending.trans (List.suffix_cons _ _)).trans (List.suffix_append _ _)

/-- A long ending without a slash belongs to a name at the end of the path. -/
theorem exists_last_component {path : Path} {word : Bytes} (free : slash ∉ word)
    (long : 2 < word.length) (ending : word <:+ path.bytes) :
    ∃ front last, path.components = front ++ [last] ∧ last ≠ up ∧ word <:+ last := by
  obtain empty | ⟨front, last, pieces_eq⟩ := path.pieces.eq_nil_or_concat'
  · exact absurd empty (List.splitOn_ne_nil _ _)
  · rw [isSuffix_bytes_iff free pieces_eq] at ending
    have longer : 2 < last.length := Nat.lt_of_lt_of_le long ending.length_le
    have component : isComponent last := by
      simp only [isComponent, Bool.and_eq_true, bne_iff_ne]
      constructor <;> rintro rfl <;> exact absurd longer (by decide)
    refine ⟨front.filter isComponent, last, by simp [components, pieces_eq, component], ?_, ending⟩
    rintro rfl
    exact absurd longer (by decide)

/-- Such a name is kept when steps up are carried out. -/
theorem isSuffix_normalized {path : Path} {word : Bytes} (free : slash ∉ word)
    (long : 2 < word.length) (ending : word <:+ path.bytes) :
    word <:+ path.normalized.bytes := by
  obtain ⟨front, last, components_eq, descends, ends⟩ := exists_last_component free long ending
  rw [normalized, components_eq, List.foldl_append, List.foldl_cons, List.foldl_nil,
    climb_of_ne_up _ descends, ofComponents]
  exact ((isSuffix_intercalate_iff free _ last).mpr ends).trans (List.suffix_append _ _)

end Path

namespace Uri

variable {path : Path} {uri : Uri}

theorem closeDrive_of_endsInDrive (absolute : path.isAbsolute) (drive : path.EndsInDrive) :
    closeDrive path.bytes = path.bytes ++ [Path.slash] := by
  obtain ⟨letter, sign, ⟨front, spelled⟩, isLetter, isSign⟩ := drive
  cases front using List.reverseRecOn with
  | nil =>
      -- The root stands in front of the letter.
      have first : letter = Path.slash := by
        simpa [Path.isAbsolute, ← spelled] using absolute
      rw [first] at isLetter
      exact absurd isLetter (by decide)
  | append_singleton front before =>
      have backwards : path.bytes.reverse = sign :: letter :: before :: front.reverse := by
        simp [← spelled]
      unfold closeDrive
      simp only [backwards]
      rw [if_pos (by simpa using ⟨isLetter, isSign⟩)]

theorem closeDrive_of_not_endsInDrive (noDrive : ¬ path.EndsInDrive) :
    closeDrive path.bytes = path.bytes := by
  unfold closeDrive
  split
  · rename_i sign letter before front backwards
    refine if_neg fun drive => noDrive ⟨letter, sign, ⟨front.reverse ++ [before], ?_⟩, ?_⟩
    · simpa using (congrArg List.reverse backwards).symm
    · simpa using drive
  · rfl

/-- A path comes back from its URI spelled by its components. -/
theorem toFilePath?_eq_ofComponents (built : ofFilePath? path = some uri) :
    uri.toFilePath? = some ⟨closeDrive (Path.ofComponents true path.components).bytes⟩ := by
  have spelled : (namesFor path).flatMap (Path.slash :: ·) =
      (Path.ofComponents true path.components).bytes := by
    unfold namesFor
    split
    · rename_i atTop
      rw [List.isEmpty_iff.mp atTop]
      rfl
    · rename_i occupied
      exact (Path.bytes_ofComponents (by simpa using occupied)).symm
  rw [toFilePath?_of_ofFilePath? built, spelled]

theorem toFilePath?_of_isNormal (normal : path.IsNormal) (built : ofFilePath? path = some uri) :
    uri.toFilePath? = some ⟨closeDrive path.bytes⟩ := by
  have spelled := Path.eq_ofComponents_of_isNormal normal
  rw [isAbsolute_of_ofFilePath? built] at spelled
  rw [toFilePath?_eq_ofComponents built, ← spelled]

theorem eq_of_ofFilePath?_eq {other : Path} (normal : path.IsNormal) (otherNormal : other.IsNormal)
    (built : ofFilePath? path = some uri) (otherBuilt : ofFilePath? other = some uri) :
    other = path := by
  obtain ⟨back, denoted, -, same⟩ := components_of_ofFilePath? built
  obtain ⟨otherBack, otherDenoted, -, otherSame⟩ := components_of_ofFilePath? otherBuilt
  obtain rfl := Option.some.inj (denoted.symm.trans otherDenoted)
  rw [Path.eq_ofComponents_of_isNormal normal, Path.eq_ofComponents_of_isNormal otherNormal,
    isAbsolute_of_ofFilePath? built, isAbsolute_of_ofFilePath? otherBuilt, ← same, ← otherSame]

end Uri

/-- A resource is resolved to a path that ends like it. -/
theorem Resource.HasEnding.not_endsInDrive_resolve {resource : Text}
    (hasEnding : Resource.HasEnding resource) (document : Path) :
    ¬ (document.resolve (Path.ofText resource)).EndsInDrive := by
  obtain ⟨ending, isEnding, front, rfl⟩ := hasEnding
  have plain : [".html", ".css", ".scss", ".less"].all (fun ending =>
      let bytes := Text.utf8 ending.toList
      !bytes.contains Path.slash && 2 < bytes.length &&
        bytes.getLast?.any fun last => last != 0x3A && last != 0x7C) := by decide
  have facts := List.all_eq_true.mp plain ending isEnding
  simp only [Bool.and_eq_true, Bool.not_eq_true', List.contains_eq_mem, decide_eq_false_iff_not,
    decide_eq_true_eq, Option.any_eq_true, bne_iff_ne] at facts
  obtain ⟨⟨free, long⟩, last, isLast, noColon, noBar⟩ := facts
  have ends : Text.utf8 ending.toList <:+ (Path.ofText (front ++ ending.toList)).bytes :=
    ⟨Text.utf8 front, by simp [Path.ofText, Text.utf8]⟩
  rw [Path.resolve_eq_normalized]
  exact Path.not_endsInDrive_of_isSuffix
    (Path.isSuffix_normalized free long (Path.isSuffix_join _ ends)) isLast noColon noBar

/-- The text that reading the bytes of a document gives. -/
def textRead (uri : Uri) : Except DiskError Bytes → Except DocumentError Text
  | .error error => .error (.unreadable uri error.message)
  | .ok content => content.decode?.elim (.error (.notText uri)) .ok

namespace Disk

variable {disk : Disk} {uri : Uri} {path : Path}

theorem readDocument_eq (denoted : uri.toFilePath? = some path) :
    disk.readDocument uri = textRead uri (disk.read path) := by
  simp only [readDocument, denoted]
  cases disk.read path with
  | error error => rfl
  | ok content => cases decoded : content.decode? <;> simp [textRead, decoded]

theorem read_of_find_error {error : DiskError} (missing : disk.find path = .error error) :
    disk.read path = .error error := by
  simp only [read, missing]

theorem read_congr {other : Path} (same : disk.find path = disk.find other) :
    disk.read path = disk.read other := by
  simp only [read, same]

theorem read_of_find {content : Bytes} (found : disk.find path = .ok (.file content)) :
    disk.read path = .ok content := by
  simp only [read, found]

/-- The URI of a definition leads to the file that the resource is resolved to. -/
theorem toFilePath?_of_definition? {line : Text} {column : Nat} {location : Location}
    (defined : disk.definition? uri line column = some location) :
    ∃ resource ∈ Resource.at? line column, ∃ document ∈ uri.toFilePath?,
      location.uri.toFilePath? = some (document.resolve (Path.ofText resource)) := by
  simp only [definition?, Option.bind_eq_bind, Option.bind_eq_some_iff] at defined
  obtain ⟨resource, found, document, denoted, defined⟩ := defined
  split at defined
  · obtain ⟨target, built, same⟩ := Option.bind_eq_some_iff.mp defined
    obtain rfl := Option.some.inj same
    obtain ⟨-, -, -, hasEnding⟩ := Resource.at?_eq_some_iff.mp found
    have normal : (document.resolve (Path.ofText resource)).IsNormal := by
      rw [Path.resolve_eq_normalized]
      exact Path.isNormal_normalized _
    refine ⟨resource, found, document, denoted, ?_⟩
    rw [Uri.toFilePath?_of_isNormal normal built,
      Uri.closeDrive_of_not_endsInDrive (hasEnding.not_endsInDrive_resolve document)]
  · contradiction

end Disk

namespace Workspace

variable {workspace : Workspace} {filter : PathFilter} {names : List Bytes} {uri : Uri}

/-- The names lead from the root of the workspace to a file with the content. -/
def HasFile (workspace : Workspace) (names : List Bytes) (content : Bytes) : Prop :=
  ∃ node, workspace.disk.find workspace.root = .ok node ∧ node.Leads names (.file content)

theorem fetch_of_closed {path : Path} (closed : workspace.documents.get? uri = none)
    (denoted : uri.toFilePath? = some path) :
    workspace.source.fetch uri = ([uri], textRead uri (workspace.disk.read path)) := by
  rw [← Disk.readDocument_eq denoted]
  simp [source, DocumentSource.ofDisk, DocumentSource.fetch, closed]

theorem ne_nil_of_mem_walk (found : names ∈ workspace.disk.walk filter workspace.root) :
    names ≠ [] :=
  (mem_walk_iff_reaches.mp found).1.1

theorem find_of_hasFile {content : Bytes} (occupied : names ≠ [])
    (hasFile : workspace.HasFile names content) :
    workspace.disk.find (workspace.root.join (Node.relative names)) = .ok (.file content) := by
  obtain ⟨node, found, leads⟩ := hasFile
  exact Disk.find_join_of_leads found leads occupied

section Candidates

variable (found : names ∈ workspace.disk.walk filter workspace.root)

include found

theorem exists_root_of_mem_walk :
    ∃ node, workspace.disk.find workspace.root = .ok node ∧
      ∀ name ∈ names, Path.IsName name ∧ 0 ∉ name := by
  obtain ⟨entries, leaf, isDirectory, leads, -⟩ := Disk.mem_walk_iff.mp found
  exact ⟨_, isDirectory, leads.isName_of_mem (Disk.isProper_of_find isDirectory)⟩

theorem isAbsolute_join_of_mem_walk :
    (workspace.root.join (Node.relative names)).isAbsolute := by
  obtain ⟨node, isRoot, -⟩ := exists_root_of_mem_walk found
  exact isAbsolute_of_mem_walk (Disk.isAbsolute_of_find isRoot) found

theorem isNormal_join_of_mem_walk (normal : workspace.root.IsNormal) :
    (workspace.root.join (Node.relative names)).IsNormal := by
  obtain ⟨node, isRoot, named⟩ := exists_root_of_mem_walk found
  exact Path.isNormal_join (Disk.isAbsolute_of_find isRoot) normal
    (fun name member => (named name member).1) (ne_nil_of_mem_walk found)

theorem components_join_of_mem_walk :
    (workspace.root.join (Node.relative names)).components =
      workspace.root.components ++ names := by
  have isRelative := Path.not_isAbsolute_ofComponents (isStep_of_mem_walk found)
  rw [Node.relative, Path.components_join isRelative]
  exact congrArg _ (components_relative_of_mem_walk found)

/-- The components of what is found lead to the same place. -/
theorem find_ofComponents_of_mem_walk :
    workspace.disk.find
        (.ofComponents true (workspace.root.join (Node.relative names)).components) =
      workspace.disk.find (workspace.root.join (Node.relative names)) := by
  obtain ⟨node, isRoot, named⟩ := exists_root_of_mem_walk found
  rw [components_join_of_mem_walk found]
  exact Disk.find_ofComponents_join isRoot named (ne_nil_of_mem_walk found)

theorem endsInDrive_ofComponents_of_mem_walk :
    (Path.ofComponents true (workspace.root.join (Node.relative names)).components).EndsInDrive ↔
      (workspace.root.join (Node.relative names)).EndsInDrive := by
  obtain ⟨node, isRoot, named⟩ := exists_root_of_mem_walk found
  have occupied := ne_nil_of_mem_walk found
  obtain ⟨front, pieces_eq, -⟩ :=
    Path.pieces_join_ofComponents workspace.root (isStep_of_mem_walk found) occupied
  have free : ∀ name ∈ workspace.root.components ++ names, Path.slash ∉ name := by
    rw [← components_join_of_mem_walk found]
    exact fun name member => (Path.isStep_of_mem_components member).2
  have spelled := Path.pieces_ofComponents free (by simp [occupied])
  obtain rfl | ⟨others, last, rfl⟩ := names.eq_nil_or_concat'
  · contradiction
  have filled : last ≠ [] := (named last (by simp)).1.1
  rw [← List.append_assoc, ← List.cons_append] at spelled
  rw [← List.append_assoc] at pieces_eq
  rw [components_join_of_mem_walk found, ← List.append_assoc]
  exact Path.endsInDrive_iff_of_pieces rfl spelled (isAbsolute_join_of_mem_walk found) pieces_eq
    filled

end Candidates

/-- What a search for templates finds does not end like a drive. -/
theorem not_endsInDrive_of_mem_walk {excluding : List Text}
    (built : PathFilter.build [References.templateGlob] excluding = .ok filter)
    (found : names ∈ workspace.disk.walk filter workspace.root) :
    ¬ (workspace.root.join (Node.relative names)).EndsInDrive := by
  obtain ⟨-, -, -, -, -, admitted, -⟩ := Disk.mem_walk_iff.mp found
  have ending := PathFilter.isSuffix_of_admits_template built admitted
  exact Path.not_endsInDrive_of_isSuffix (Path.isSuffix_join workspace.root ending)
    (by decide : templateEnding.utf8.getLast? = some 0x6C) (by decide) (by decide)

/-- Every path in normal form comes back from its URI, closed by a slash if it ends like a drive,
and different paths have different URIs.  Every file that a walk finds and that is not open is
read from where it was found, however the root is spelled, unless its path ends like a drive; the
path of a template does not.  The URI of a definition leads to the path that the resource is
resolved to. -/
theorem uris_of_files_read_back (workspace : Workspace) :
    (∀ path : Path, path.isAbsolute → path.IsNormal →
      ∃ uri, Uri.ofFilePath? path = some uri ∧
        (¬ path.EndsInDrive → uri.toFilePath? = some path) ∧
        (path.EndsInDrive → uri.toFilePath? = some ⟨path.bytes ++ [Path.slash]⟩) ∧
        (workspace.root.isAbsolute → path.IsBelow workspace.root →
          ∃ relative, path.relativeTo? workspace.root = some relative ∧
            workspace.place? uri = some relative) ∧
        ∀ other : Path, other.IsNormal → Uri.ofFilePath? other = some uri → other = path) ∧
    (∀ filter, ∀ names ∈ workspace.disk.walk filter workspace.root,
      let path := workspace.root.join (Node.relative names)
      path.isAbsolute ∧ (workspace.root.IsNormal → path.IsNormal) ∧
      (∀ content, workspace.HasFile names content → workspace.disk.read path = .ok content) ∧
      (∀ excluding, PathFilter.build [References.templateGlob] excluding = .ok filter →
        ¬ path.EndsInDrive) ∧
      ∃ uri ∈ workspace.filesOnDisk filter, Uri.ofFilePath? path = some uri ∧
        (workspace.documents.get? uri = none → ¬ path.EndsInDrive →
          workspace.source.fetch uri = ([uri], textRead uri (workspace.disk.read path))) ∧
        (workspace.documents.get? uri = none → path.EndsInDrive →
          ∀ content, workspace.HasFile names content →
            workspace.source.fetch uri = ([uri], textRead uri (.error .notADirectory)))) ∧
    ∀ (uri : Uri) (line : Text) (column : Nat) (location : Location),
      workspace.disk.definition? uri line column = some location →
        ∃ resource ∈ Resource.at? line column, ∃ document ∈ uri.toFilePath?,
          location.uri.toFilePath? = some (document.resolve (Path.ofText resource)) := by
  refine ⟨?_, ?_, ?_⟩
  · -- The root plays no part in how a path and its URI are spelled.
    intro path absolute normal
    obtain ⟨uri, built⟩ := Uri.exists_ofFilePath? absolute
    have denoted := Uri.toFilePath?_of_isNormal normal built
    refine ⟨uri, built, ?_, ?_, ?_, ?_⟩
    · intro noDrive
      rw [denoted, Uri.closeDrive_of_not_endsInDrive noDrive]
    · intro drive
      rw [denoted, Uri.closeDrive_of_endsInDrive absolute drive]
    · rintro rootAbsolute ⟨names, occupied, below⟩
      exact ⟨_, Path.relativeTo?_of_isNormal absolute normal rootAbsolute occupied below,
        Uri.relativeTo?_of_ofFilePath? rootAbsolute below built⟩
    · intro other otherNormal otherBuilt
      exact Uri.eq_of_ofFilePath?_eq normal otherNormal built otherBuilt
  · intro filter names found path
    have absolute : path.isAbsolute := isAbsolute_join_of_mem_walk found
    have occupied := ne_nil_of_mem_walk found
    refine ⟨absolute, isNormal_join_of_mem_walk found, ?_, ?_, ?_⟩
    · intro content hasFile
      exact Disk.read_of_find (find_of_hasFile occupied hasFile)
    · intro excluding isTemplateFilter
      exact not_endsInDrive_of_mem_walk isTemplateFilter found
    -- The URI denotes the path that the components spell, and it leads to the same place.
    obtain ⟨uri, built⟩ := Uri.exists_ofFilePath? absolute
    have denoted := Uri.toFilePath?_eq_ofComponents built
    have same_place := find_ofComponents_of_mem_walk found
    have same_ending := endsInDrive_ofComponents_of_mem_walk found
    refine ⟨uri, List.mem_filterMap.mpr ⟨names, found, built⟩, built, ?_, ?_⟩
    · intro closed noDrive
      rw [Uri.closeDrive_of_not_endsInDrive (same_ending.not.mpr noDrive)] at denoted
      rw [fetch_of_closed closed denoted, Disk.read_congr same_place]
    · -- The slash behind the drive asks for a directory where the file stands.
      intro closed drive content hasFile
      rw [Uri.closeDrive_of_endsInDrive rfl (same_ending.mpr drive)] at denoted
      have missing := Disk.find_append_slash_of_file
        (same_place.trans (find_of_hasFile occupied hasFile))
      rw [fetch_of_closed closed denoted, Disk.read_of_find_error missing]
  · intro uri line column location defined
    exact Disk.toFilePath?_of_definition? defined

/-- A name of signs, with something in it that looks like an escape, below a root with a slash at
its end. -/
theorem uris_of_files_read_back_from_signs :
    let name (text : String) : Bytes := Text.utf8 text.toList
    let disk : Disk :=
      ⟨[(name "r", .directory [(name "%41 #?é\\.html", .file (name "text"))])], by decide +kernel⟩
    let workspace : Workspace := ⟨disk, .ofText "/r/".toList, .empty⟩
    let filter : PathFilter := ⟨none, []⟩
    let names := [name "%41 #?é\\.html"]
    let path := workspace.root.join (Node.relative names)
    ¬ workspace.root.IsNormal ∧ path.IsNormal ∧ names ∈ workspace.disk.walk filter workspace.root ∧
      ¬ path.EndsInDrive ∧ workspace.HasFile names (name "text") ∧
      ∃ uri ∈ workspace.filesOnDisk filter, Uri.ofFilePath? path = some uri ∧
        uri.toFilePath? = some path ∧ workspace.source.fetch uri = ([uri], .ok "text".toList) := by
  intro name disk workspace filter names path
  have rootNotNormal : ¬ workspace.root.IsNormal := by
    unfold Path.IsNormal Path.IsName
    decide +kernel
  have normal : path.IsNormal := .inr (by unfold Path.IsName; decide +kernel)
  have found : names ∈ workspace.disk.walk filter workspace.root := by decide +kernel
  have noDrive : ¬ path.EndsInDrive :=
    Path.not_endsInDrive_of_getLast? (by decide +kernel : path.bytes.getLast? = some 0x6C)
      (by decide) (by decide)
  have hasFile : workspace.HasFile names (name "text") :=
    ⟨_, rfl, .enter (.head _) (.stay _)⟩
  obtain ⟨paths, candidates, -⟩ := uris_of_files_read_back workspace
  obtain ⟨absolute, -, holds, -, other, listed, otherBuilt, reads, -⟩ :=
    candidates filter names found
  obtain ⟨uri, built, returns, -⟩ := paths path absolute normal
  obtain rfl := Option.some.inj (built.symm.trans otherBuilt)
  refine ⟨rootNotNormal, normal, found, noDrive, hasFile, uri, listed, built, returns noDrive, ?_⟩
  rw [reads rfl noDrive, holds _ hasFile]
  have decoded : (name "text").decode? = some "text".toList := by decide +kernel
  rw [textRead, decoded]
  rfl

/-- A file whose name ends like a drive is found under a URI that denotes no file. -/
theorem uri_of_drive_denotes_no_file :
    let name (text : String) : Bytes := Text.utf8 text.toList
    let disk : Disk :=
      ⟨[(name "r", .directory [(name "ab:", .file (name "colon"))])], by decide +kernel⟩
    let workspace : Workspace := ⟨disk, .ofText "/r".toList, .empty⟩
    let filter : PathFilter := ⟨none, []⟩
    let path := Path.ofText "/r/ab:".toList
    path.isAbsolute ∧ path.IsNormal ∧ path.IsBelow workspace.root ∧
      workspace.disk.read path = .ok (name "colon") ∧
      ∃ uri, workspace.filesOnDisk filter = [uri] ∧ Uri.ofFilePath? path = some uri ∧
        uri.toFilePath? = some (Path.ofText "/r/ab:/".toList) ∧
        workspace.source.load uri =
          .error (.unreadable uri "Not a directory (os error 20)") := by
  intro name disk workspace filter path
  have normal : path.IsNormal := .inr (by unfold Path.IsName; decide +kernel)
  have below : path.IsBelow workspace.root :=
    ⟨[name "ab:"], by decide +kernel, by decide +kernel⟩
  let uri : Uri :=
    ⟨"file".toList, some .empty, .segments ["r".toList, "ab:".toList], none, none⟩
  exact ⟨by decide +kernel, normal, below, rfl, uri, by decide +kernel, by decide +kernel,
    by decide +kernel, rfl⟩

end Workspace

end SelectorNavigation

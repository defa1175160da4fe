import SelectorNavigation.Proofs.ExcludePatterns
import SelectorNavigation.Proofs.FileUris
import SelectorNavigation.Proofs.NormalPaths
import SelectorNavigation.Workspace.References

/-!
# Templates by URI and by path

A template is recognised in two ways: by the end of its percent-encoded URI, and by a glob that
is matched against its path as seen from the root of the workspace.  Both ask whether the name of
the file ends in `.html`.

On the side of the glob, every table that matching builds is read as a set of suffixes of the
path: each operation on tables puts something in front of what the table behind it accepts.  On
the side of the URI, an ending without hexadecimal digits is not the end of an escape, so it
stands in the encoded name exactly if it stands in the name.
-/

namespace SelectorNavigation

/-- The ending by which templates are recognised. -/
def templateEnding : Text := ".html".toList

namespace Glob

/-- The table tells for every suffix of the path whether it is accepted. -/
inductive Marks (accepts : Bytes → Prop) : Bytes → Table → Prop where
  | nil {here : Bool} (mark : here ↔ accepts []) : Marks accepts [] [here]
  | cons {byte : UInt8} {path : Bytes} {here : Bool} {behind : Table}
      (mark : here ↔ accepts (byte :: path)) (later : Marks accepts path behind) :
      Marks accepts (byte :: path) (here :: behind)

namespace Marks

variable {accepts others : Bytes → Prop} {path : Bytes} {table second : Table}

theorem headD_iff (marks : Marks accepts path table) : table.headD false ↔ accepts path := by
  cases marks with
  | nil mark => exact mark
  | cons mark _ => exact mark

theorem congr (marks : Marks accepts path table) (same : ∀ bytes, accepts bytes ↔ others bytes) :
    Marks others path table := by
  induction marks with
  | nil mark => exact .nil (mark.trans (same _))
  | cons mark _ ih => exact .cons (mark.trans (same _)) ih

theorem atEnd (path : Bytes) : Marks (· = []) path (Table.atEnd path) := by
  induction path with
  | nil => exact .nil (by simp)
  | cons byte path ih => exact .cons (by simp) ih

theorem one (marks : Marks accepts path table) (test : UInt8 → Bool) :
    Marks (fun bytes => ∃ byte rest, bytes = byte :: rest ∧ test byte ∧ accepts rest) path
      (Table.one test path table) := by
  induction marks with
  | nil => exact .nil (by simp)
  | cons _ later ih =>
      refine .cons ?_ ih
      rw [Bool.and_eq_true, later.headD_iff]
      simp

theorem many (marks : Marks accepts path table) (test : UInt8 → Bool) :
    Marks (fun bytes => ∃ front rest, bytes = front ++ rest ∧ front.all test ∧ accepts rest) path
      (Table.many test path table) := by
  induction marks with
  | nil mark => exact .nil (by simp [mark])
  | cons mark _ ih =>
      refine .cons ?_ ih
      simp only [Bool.or_eq_true, Bool.and_eq_true, mark, ih.headD_iff]
      constructor
      · rintro (ended | ⟨passed, front, rest, rfl, all, accepted⟩)
        · exact ⟨[], _, rfl, rfl, ended⟩
        · exact ⟨_ :: front, rest, rfl, by simp [passed, all], accepted⟩
      · rintro ⟨_ | ⟨first, front⟩, rest, spelled, all, accepted⟩
        · exact .inl (spelled ▸ accepted)
        · obtain ⟨rfl, rfl⟩ := List.cons.inj spelled
          rw [List.all_cons, Bool.and_eq_true] at all
          exact .inr ⟨all.1, front, rest, rfl, all.2, accepted⟩

theorem or (marks : Marks accepts path table) (more : Marks others path second) :
    Marks (fun bytes => accepts bytes ∨ others bytes) path (Table.or table second) := by
  induction marks generalizing second with
  | nil mark =>
      cases more with
      | nil more => exact .nil (by simp [mark, more])
  | cons mark _ ih =>
      cases more with
      | cons more later => exact .cons (by simp [mark, more]) (ih later)

theorem bytes (marks : Marks accepts path table) (expected : Bytes) :
    Marks (fun bytes => ∃ rest, bytes = expected ++ rest ∧ accepts rest) path
      (Table.bytes expected path table) := by
  induction expected with
  | nil => exact marks.congr (by simp)
  | cons byte expected ih => exact (ih.one _).congr (by aesop)

theorem literals (marks : Marks accepts path table) (text : Text) :
    Marks (fun bytes => ∃ rest, bytes = text.utf8 ++ rest ∧ accepts rest) path
      (tokensTable path (text.map .literal) table) := by
  induction text with
  | nil => exact marks.congr (by simp [Text.utf8])
  | cons character text ih =>
      exact (ih.bytes (String.utf8EncodeChar character)).congr (by simp [Text.utf8])

end Marks

/-- The tokens of a glob for the files in any directory whose names end in a text. -/
def endingTokens (ending : Text) : Tokens :=
  .leadingDirectories :: .star :: ending.map .literal

/-- What stands in front of an ending is divided behind its last slash, if it has one. -/
theorem exists_directories_iff (bytes ending : Bytes) :
    ((∃ front, bytes = front ++ ending ∧ Path.slash ∉ front) ∨
      ∃ directories front, bytes = directories ++ Path.slash :: (front ++ ending) ∧
        Path.slash ∉ front) ↔ ending <:+ bytes := by
  constructor
  · rintro (⟨front, rfl, -⟩ | ⟨directories, front, rfl, -⟩)
    · exact List.suffix_append _ _
    · exact ⟨directories ++ Path.slash :: front, by simp⟩
  · rintro ⟨front, rfl⟩
    by_cases divided : Path.slash ∈ front
    · obtain ⟨name, directories, backwards, free⟩ :=
        List.eq_append_cons_of_mem (List.mem_reverse.mpr divided)
      have spelled : front = directories.reverse ++ Path.slash :: name.reverse := by
        simpa using congrArg List.reverse backwards
      exact .inr ⟨directories.reverse, name.reverse, by simp [spelled], by simpa using free⟩
    · exact .inl ⟨front, rfl, divided⟩

/-- A name with the ending is matched behind directories or alone. -/
theorem headD_endingTokens_iff (ending : Text) (path : Bytes) :
    (tokensTable path (endingTokens ending) (Table.atEnd path)).headD false ↔
      ending.utf8 <:+ path := by
  -- The star stands for a name, and the directories for anything that a slash ends.
  have named : Marks (fun bytes => ∃ front, bytes = front ++ ending.utf8 ∧ Path.slash ∉ front)
      path (tokensTable path (.star :: ending.map .literal) (Table.atEnd path)) :=
    (((Marks.atEnd path).literals ending).many (· != Path.slash)).congr (by aesop)
  have placed := named.or ((named.one (· == Path.slash)).many fun _ => true)
  refine placed.headD_iff.trans (Iff.trans ?_ (exists_directories_iff path ending.utf8))
  refine or_congr_right ⟨?_, ?_⟩
  · rintro ⟨directories, _, rfl, -, byte, _, rfl, isSlash, front, rfl, free⟩
    exact ⟨directories, front, by rw [beq_iff_eq.mp isSlash], free⟩
  · rintro ⟨directories, front, rfl, free⟩
    exact ⟨directories, _, rfl, by simp, _, _, rfl, beq_self_eq_true _, front, rfl, free⟩

theorem isSuffix_of_endsInParent {path : Path} (ascending : endsInParent path) :
    Path.up <:+ path.bytes := by
  obtain ⟨front, pieces_eq⟩ := List.getLast?_eq_some_iff.mp (beq_iff_eq.mp ascending)
  exact (Path.isSuffix_bytes_iff (by decide) pieces_eq).mpr List.suffix_rfl

theorem read_templateGlob :
    Glob.read References.templateGlob = .ok (endingTokens templateEnding) := by
  rfl

theorem isMatch_templateTokens_iff (path : Path) :
    isMatch (endingTokens templateEnding) path ↔ templateEnding.utf8 <:+ path.bytes := by
  have limited : matchesAll (endingTokens templateEnding) = false := rfl
  rw [isMatch, limited, Bool.false_or, Bool.and_eq_true, headD_endingTokens_iff]
  refine and_iff_right_of_imp fun ending => ?_
  -- The ending is not the one of a parent directory.
  have differs : endsInParent path = false := by
    refine Bool.eq_false_iff.mpr fun ascending => ?_
    rcases List.suffix_or_suffix_of_suffix ending (isSuffix_of_endsInParent ascending) with
      within | within <;> exact absurd within (by decide)
  rw [differs, Bool.and_false]
  rfl

end Glob

namespace PathFilter

theorem readIncluded_templateGlob :
    readIncluded [References.templateGlob] = .ok [Glob.endingTokens templateEnding] := by
  simp only [readIncluded, Glob.read_templateGlob, Except.map]

theorem exists_templateFilter :
    ∃ filter, build [References.templateGlob] [] = .ok filter ∧
      ∀ path, filter.admits path ↔ templateEnding.utf8 <:+ path.bytes := by
  have shallow : ([Glob.endingTokens templateEnding] ++ readExcluded []).any
      Glob.isTooDeep = false := by decide
  refine ⟨_, by rw [build_of_readIncluded readIncluded_templateGlob, shallow]; rfl,
    fun path => ?_⟩
  simp [admits, anyMatch, readExcluded, Glob.isMatch_templateTokens_iff]

theorem isSuffix_of_admits_template {excluding : List Text} {filter : PathFilter} {path : Path}
    (built : build [References.templateGlob] excluding = .ok filter)
    (admitted : filter.admits path) : templateEnding.utf8 <:+ path.bytes := by
  rw [build_of_readIncluded readIncluded_templateGlob] at built
  split at built
  · contradiction
  · obtain rfl := Except.ok.inj built
    have matched := (Bool.and_eq_true_iff.mp admitted).2
    simpa [anyMatch, Glob.isMatch_templateTokens_iff] using matched

end PathFilter

namespace PercentCoding

theorem encode_append_singleton (set : EncodeSet) (bytes : Bytes) (byte : UInt8) :
    encode set (bytes ++ [byte]) = encode set bytes ++ encodeByte set byte := by
  simp [encode]

theorem eq_of_ofNat_eq {first second : UInt8} (firstKept : inFileName first = false)
    (secondKept : inFileName second = false)
    (same : Char.ofNat first.toNat = Char.ofNat second.toNat) : first = second := by
  have bytes_eq := congrArg String.utf8EncodeChar same
  rw [utf8EncodeChar_ofNat (ascii_of_not_inFileName firstKept).1,
    utf8EncodeChar_ofNat (ascii_of_not_inFileName secondKept).1] at bytes_eq
  exact (List.cons.inj bytes_eq).1

/-- A kept byte that is no hexadecimal digit ends an encoded name only if it ends the name. -/
theorem isSuffix_encode_append_singleton {byte : UInt8} (kept : inFileName byte = false)
    (noDigit : hexValue? (Char.ofNat byte.toNat) = none) {word bytes : Bytes}
    (ending : encode inFileName (word ++ [byte]) <:+ encode inFileName bytes) :
    ∃ front, bytes = front ++ [byte] ∧ encode inFileName word <:+ encode inFileName front := by
  rw [encode_append_singleton, encodeByte, if_neg (by simp [kept])] at ending
  cases bytes using List.reverseRecOn with
  | nil => simp [encode] at ending
  | append_singleton front last =>
      rw [encode_append_singleton, encodeByte] at ending
      split at ending
      · -- The encoded name would end in a digit of an escape.
        have digits : ['%', hexDigit (last.toNat / 16), hexDigit (last.toNat % 16)] =
            ['%', hexDigit (last.toNat / 16)] ++ [hexDigit (last.toNat % 16)] := rfl
        rw [digits, ← List.append_assoc] at ending
        obtain ⟨-, same⟩ := (List.suffix_append_inj_of_length_eq (by simp)).mp ending
        rw [(List.cons.inj same).1, hexValue?_hexDigit (by omega)] at noDigit
        contradiction
      · rename_i lastKept
        obtain ⟨earlier, same⟩ := (List.suffix_append_inj_of_length_eq (by simp)).mp ending
        have byte_eq := eq_of_ofNat_eq kept (by simpa using lastKept) (List.cons.inj same).1
        exact ⟨front, by rw [byte_eq], earlier⟩

/-- An ending of kept bytes that are no hexadecimal digits is no part of an escape. -/
theorem isSuffix_encode_iff {word : Bytes} (kept : ∀ byte ∈ word, inFileName byte = false)
    (noDigit : ∀ byte ∈ word, hexValue? (Char.ofNat byte.toNat) = none) (bytes : Bytes) :
    encode inFileName word <:+ encode inFileName bytes ↔ word <:+ bytes := by
  constructor
  · intro ending
    induction word using List.reverseRecOn generalizing bytes with
    | nil => exact List.nil_suffix
    | append_singleton word byte ih =>
        have isLast : byte ∈ word ++ [byte] := by simp
        obtain ⟨front, rfl, earlier⟩ :=
          isSuffix_encode_append_singleton (kept byte isLast) (noDigit byte isLast) ending
        refine (List.suffix_append_inj_of_length_eq rfl).mpr ⟨?_, rfl⟩
        exact ih (fun byte member => kept byte (List.mem_append_left _ member))
          (fun byte member => noDigit byte (List.mem_append_left _ member)) front earlier
  · rintro ⟨front, rfl⟩
    exact ⟨encode inFileName front, by simp [encode]⟩

theorem isSuffix_encode_templateEnding_iff (name : Bytes) :
    templateEnding <:+ encode inFileName name ↔ templateEnding.utf8 <:+ name := by
  have same : encode inFileName templateEnding.utf8 = templateEnding := by decide
  have plain : templateEnding.utf8.all (fun byte =>
      !inFileName byte && (hexValue? (Char.ofNat byte.toNat)).isNone) := by decide
  have each := List.all_eq_true.mp plain
  simp only [Bool.and_eq_true, Bool.not_eq_true', Option.isNone_iff_eq_none] at each
  rw [← isSuffix_encode_iff (fun byte member => (each byte member).1)
    (fun byte member => (each byte member).2), same]

end PercentCoding

namespace Uri

theorem isHtml_iff {path : Path} {names : List Bytes} {name : Bytes} {uri : Uri}
    (components_eq : path.components = names ++ [name]) (built : ofFilePath? path = some uri) :
    uri.isHtml ↔ templateEnding.utf8 <:+ name := by
  have path_eq : uri.path = .segments
      (names.map (PercentCoding.encode PercentCoding.inFileName) ++
        [PercentCoding.encode PercentCoding.inFileName name]) := by
    unfold ofFilePath? at built
    split at built
    · obtain rfl := Option.some.inj built
      simp [components_eq]
    · contradiction
  rw [isHtml, List.isSuffixOf_iff_suffix, path_eq,
    ← PercentCoding.isSuffix_encode_templateEnding_iff]
  exact isSuffix_flatMap_cons_iff (by decide) _ _

/-- The two ways to recognise a template agree for every file below the root, and both look at
the bytes at the end of its path. -/
theorem isHtml_agrees_with_templateGlob {path root : Path} (absolute : path.isAbsolute)
    (normal : path.IsNormal) (rootAbsolute : root.isAbsolute) (below : path.IsBelow root) :
    ∃ uri filter relative,
      Uri.ofFilePath? path = some uri ∧
      PathFilter.build [References.templateGlob] [] = .ok filter ∧
      path.relativeTo? root = some relative ∧
      uri.toFilePath?.bind (·.relativeTo? root) = some relative ∧
      (uri.isHtml ↔ filter.admits relative) ∧
      (filter.admits relative ↔ Text.utf8 ".html".toList <:+ path.bytes) := by
  obtain ⟨names, occupied, below⟩ := below
  obtain rfl | ⟨front, name, rfl⟩ := names.eq_nil_or_concat'
  · contradiction
  obtain ⟨filter, filterBuilt, admits_iff⟩ := PathFilter.exists_templateFilter
  obtain ⟨uri, built⟩ := exists_ofFilePath? absolute
  have relative := Path.relativeTo?_of_isNormal absolute normal rootAbsolute occupied below
  have denoted := relativeTo?_of_ofFilePath? rootAbsolute below built
  rw [← List.append_assoc] at below
  -- All three endings are endings of the name of the file.
  have byUri := isHtml_iff below built
  have byGlob : filter.admits (.ofComponents false (front ++ [name])) ↔
      templateEnding.utf8 <:+ name := by
    rw [admits_iff]
    exact isSuffix_intercalate_iff (by decide) front name
  have byPath : Text.utf8 ".html".toList <:+ path.bytes ↔ templateEnding.utf8 <:+ name := by
    rw [Path.eq_ofComponents_of_isNormal normal, absolute, below]
    exact (isSuffix_append_cons_iff (by decide) [] _).trans
      (isSuffix_intercalate_iff (by decide) _ name)
  exact ⟨uri, filter, _, built, filterBuilt, relative, denoted, byUri.trans byGlob.symm,
    byGlob.trans byPath.symm⟩

theorem isHtml_agrees_for_bare_ending :
    let path := Path.ofText "/r/é%2Ehtml/.html".toList
    let root := Path.ofText "/r/./".toList
    path.isAbsolute ∧ path.IsNormal ∧ root.isAbsolute ∧ path.IsBelow root ∧
      ∃ uri filter relative,
        Uri.ofFilePath? path = some uri ∧
        PathFilter.build [References.templateGlob] [] = .ok filter ∧
        path.relativeTo? root = some relative ∧ uri.isHtml ∧ filter.admits relative := by
  intro path root
  have absolute : path.isAbsolute := by decide
  have normal : path.IsNormal := .inr (by unfold Path.IsName; decide)
  have rootAbsolute : root.isAbsolute := by decide
  have below : path.IsBelow root :=
    ⟨[Text.utf8 "é%2Ehtml".toList, Text.utf8 ".html".toList], by decide, by decide⟩
  obtain ⟨uri, filter, relative, built, filterBuilt, isRelative, -, agree, ending⟩ :=
    isHtml_agrees_with_templateGlob absolute normal rootAbsolute below
  have admitted : filter.admits relative := ending.mpr (by decide)
  exact ⟨absolute, normal, rootAbsolute, below, uri, filter, relative, built, filterBuilt,
    isRelative, agree.mpr admitted, admitted⟩

end Uri

end SelectorNavigation

import SelectorNavigation.Proofs.PathComponents
import SelectorNavigation.Uri.FilePath

/-!
# URIs of files and the paths they denote

Percent coding a file name and decoding it gives the name back.  So the URI built for an
absolute path denotes a path with the same components, which differs from it at most in
slashes and dots that carry no meaning.  Building a URI for that path gives the same URI
again: among all the URIs of a file, the one that is built is canonical.
-/

namespace SelectorNavigation

theorem hexValue?_hexDigit {digit : Nat} (small : digit < 16) :
    hexValue? (hexDigit digit) = some digit := by
  have all_digits : ∀ digit : Fin 16, hexValue? (hexDigit digit) = some digit.val := by
    decide
  exact all_digits ⟨digit, small⟩

namespace PercentCoding

theorem byteOfHex?_hexDigit (byte : UInt8) :
    byteOfHex? (hexDigit (byte.toNat / 16)) (hexDigit (byte.toNat % 16)) = some byte := by
  have bound := byte.toNat_lt
  have high : byte.toNat / 16 < 16 := by omega
  have low : byte.toNat % 16 < 16 := by omega
  have whole : 16 * (byte.toNat / 16) + byte.toNat % 16 = byte.toNat := by omega
  simp only [byteOfHex?, hexValue?_hexDigit high, hexValue?_hexDigit low, Option.bind_eq_bind,
    Option.bind_some, whole, UInt8.ofNat_toNat]
  rfl

/-- What a file name keeps unencoded is ASCII and no percent sign. -/
theorem ascii_of_not_inFileName {byte : UInt8} (kept : inFileName byte = false) :
    byte.toNat < 0x80 ∧ byte.toNat ≠ 0x25 := by
  simp only [inFileName, inPath, inFragment, controls, isOneOf, Bool.or_eq_false_iff] at kept
  obtain ⟨⟨⟨⟨-, ascii⟩, -⟩, -⟩, signs⟩ := kept
  have small : byte < 0x7F := by simpa using ascii
  have bound : byte.toNat < 0x7F := UInt8.lt_iff_toNat_lt.mp small
  refine ⟨by omega, fun percent => ?_⟩
  simp [percent] at signs

theorem decode_cons {character : Char} (plain : character ≠ '%') (rest : Text) :
    decode (character :: rest) = String.utf8EncodeChar character ++ decode rest := by
  rw [decode.eq_def]
  split
  · rename_i same
    exact absurd (List.cons.inj same).1 plain
  · rename_i same
    obtain ⟨rfl, rfl⟩ := List.cons.inj same
    rfl
  · contradiction

theorem utf8EncodeChar_ofNat {byte : UInt8} (ascii : byte.toNat < 0x80) :
    String.utf8EncodeChar (Char.ofNat byte.toNat) = [byte] := by
  have valid : byte.toNat.isValidChar := Or.inl (by omega)
  have value : (Char.ofNat byte.toNat).val.toNat = byte.toNat := by
    rw [Char.ofNat, dif_pos valid]
    rfl
  have short : (Char.ofNat byte.toNat).utf8Size = 1 := by
    rw [Char.utf8Size_eq_one_iff, UInt32.le_iff_toNat_le, value]
    exact Nat.le_of_lt_succ ascii
  rw [String.utf8EncodeChar_eq_singleton short]
  congr 1
  apply UInt8.toNat_inj.mp
  rw [UInt32.toNat_toUInt8, value]
  omega

theorem decode_encodeByte_append (byte : UInt8) (rest : Text) :
    decode (encodeByte inFileName byte ++ rest) = byte :: decode rest := by
  cases kept : inFileName byte with
  | true => simp [encodeByte, kept, decode, byteOfHex?_hexDigit]
  | false =>
      obtain ⟨ascii, notPercent⟩ := ascii_of_not_inFileName kept
      have plain : Char.ofNat byte.toNat ≠ '%' := by
        intro same
        have bytes_eq := congrArg String.utf8EncodeChar same
        rw [utf8EncodeChar_ofNat ascii] at bytes_eq
        exact notPercent (by rw [(List.cons.inj bytes_eq).1]; rfl)
      simp [encodeByte, kept, decode_cons plain, utf8EncodeChar_ofNat ascii]

/-- A file name reads back from its encoding. -/
theorem decode_encode (bytes : Bytes) : decode (encode inFileName bytes) = bytes := by
  induction bytes with
  | nil => rfl
  | cons byte bytes ih =>
      rw [encode, List.flatMap_cons, decode_encodeByte_append, ← encode, ih]

end PercentCoding

namespace Uri

/-- The URI is the one that is built for the file it denotes. -/
def IsCanonical (uri : Uri) : Prop :=
  uri.toFilePath?.bind ofFilePath? = some uri

instance (uri : Uri) : Decidable uri.IsCanonical :=
  inferInstanceAs (Decidable (_ = _))

/-- Canonical URIs of the same file are the same. -/
theorem IsCanonical.eq_of_toFilePath?_eq {first second : Uri} (firstCanonical : first.IsCanonical)
    (secondCanonical : second.IsCanonical) (same : first.toFilePath? = second.toFilePath?) :
    first = second := by
  rw [IsCanonical, same, secondCanonical] at firstCanonical
  exact (Option.some.inj firstCanonical).symm

theorem closeDrive_eq (bytes : Bytes) :
    closeDrive bytes = bytes ∨ closeDrive bytes = bytes ++ [Path.slash] := by
  unfold closeDrive
  split
  · dsimp only
    split
    · exact Or.inr rfl
    · exact Or.inl rfl
  · exact Or.inl rfl

/-- Closing a drive behind names that each stand behind a slash gives these names, followed
by nothing that carries meaning. -/
theorem pieces_closeDrive {names : List Bytes} (slashless : ∀ name ∈ names, Path.slash ∉ name) :
    ∃ trailing, (∀ piece ∈ trailing, ¬ Path.isComponent piece) ∧
      (⟨closeDrive (names.flatMap (Path.slash :: ·))⟩ : Path).pieces =
        [] :: (names ++ trailing) := by
  have spelled : ∀ names : List Bytes, (∀ name ∈ names, Path.slash ∉ name) →
      (⟨names.flatMap (Path.slash :: ·)⟩ : Path).pieces = [] :: names := by
    intro names slashless
    simpa [Path.pieces] using splitOn_flatMap_cons [] (by simp) slashless
  rcases closeDrive_eq (names.flatMap (Path.slash :: ·)) with kept | closed
  · exact ⟨[], by simp, by simpa [kept] using spelled names slashless⟩
  · -- The closing slash stands in front of one more name, which is empty.
    refine ⟨[[]], by simp [Path.isComponent], ?_⟩
    have ending : names.flatMap (Path.slash :: ·) ++ [Path.slash] =
        (names ++ [[]]).flatMap (Path.slash :: ·) := by
      simp
    rw [closed, ending]
    refine spelled (names ++ [[]]) ?_
    simpa [or_imp, forall_and] using slashless

/-- The names that stand behind the slashes when the file of a URI built for a path is
spelled: the components of the path, or nothing for the root of the disk. -/
def namesFor (path : Path) : List Bytes :=
  if path.components.isEmpty then [[]] else path.components

theorem toFilePath?_of_ofFilePath? {path : Path} {uri : Uri}
    (built : ofFilePath? path = some uri) :
    uri.toFilePath? =
      some ⟨closeDrive ((namesFor path).flatMap (Path.slash :: ·))⟩ := by
  unfold ofFilePath? at built
  split at built
  · obtain rfl := Option.some.inj built
    cases components : path.components with
    | nil => simp [toFilePath?, isLocal, Authority.empty, namesFor, components,
        PercentCoding.decode]
    | cons first others =>
        simp [toFilePath?, isLocal, Authority.empty, namesFor, components,
          PercentCoding.decode_encode, List.flatMap_map]
  · contradiction

/-- The URI built for a path denotes a path whose pieces are the components of the former,
followed by nothing that carries meaning. -/
theorem pieces_of_ofFilePath? {path : Path} {uri : Uri} (built : ofFilePath? path = some uri) :
    ∃ back trailing, uri.toFilePath? = some back ∧ back.isAbsolute ∧
      back.pieces = [] :: (path.components ++ trailing) ∧
        ∀ piece ∈ trailing, ¬ Path.isComponent piece := by
  have slashless : ∀ name ∈ namesFor path, Path.slash ∉ name := by
    intro name member
    unfold namesFor at member
    split at member
    · simp_all
    · exact (Path.isStep_of_mem_components member).2
  have denoted := toFilePath?_of_ofFilePath? built
  obtain ⟨trailing, meaningless, pieces_eq⟩ := pieces_closeDrive slashless
  cases components : path.components with
  | nil =>
      simp only [namesFor, components, List.isEmpty_nil, if_true] at denoted pieces_eq
      refine ⟨_, [] :: trailing, denoted, Path.isAbsolute_of_pieces pieces_eq, pieces_eq, ?_⟩
      simpa [Path.isComponent] using meaningless
  | cons first others =>
      simp only [namesFor, components, List.isEmpty_cons, Bool.false_eq_true, if_false]
        at denoted pieces_eq
      exact ⟨_, trailing, denoted, Path.isAbsolute_of_pieces pieces_eq, pieces_eq, meaningless⟩

theorem ofFilePath?_congr {first second : Path} (firstAbsolute : first.isAbsolute)
    (secondAbsolute : second.isAbsolute) (same : first.components = second.components) :
    ofFilePath? first = ofFilePath? second := by
  simp only [ofFilePath?, firstAbsolute, secondAbsolute, same]

theorem exists_ofFilePath? {path : Path} (absolute : path.isAbsolute) :
    ∃ uri, ofFilePath? path = some uri := by
  simp [ofFilePath?, absolute]

theorem isAbsolute_of_ofFilePath? {path : Path} {uri : Uri}
    (built : ofFilePath? path = some uri) : path.isAbsolute := by
  unfold ofFilePath? at built
  split at built
  · assumption
  · contradiction

/-- The URI built for a path denotes a path with the same components. -/
theorem components_of_ofFilePath? {path : Path} {uri : Uri}
    (built : ofFilePath? path = some uri) :
    ∃ back, uri.toFilePath? = some back ∧ back.isAbsolute ∧
      back.components = path.components := by
  obtain ⟨back, trailing, denoted, absolute, pieces_eq, meaningless⟩ :=
    pieces_of_ofFilePath? built
  refine ⟨back, denoted, absolute, ?_⟩
  have steps : ∀ piece ∈ path.components, Path.isComponent piece := fun piece member =>
    (Path.isStep_of_mem_components member).1
  rw [Path.components_of_pieces pieces_eq steps, List.filter_eq_nil_iff.mpr meaningless,
    List.append_nil]

theorem isCanonical_of_ofFilePath? {path : Path} {uri : Uri}
    (built : ofFilePath? path = some uri) : uri.IsCanonical := by
  obtain ⟨back, denoted, absolute, same⟩ := components_of_ofFilePath? built
  rw [IsCanonical, denoted, Option.bind_some,
    ofFilePath?_congr absolute (isAbsolute_of_ofFilePath? built) same, built]

/-- The URI built for a path below a directory denotes a path that leads from there through
the same names. -/
theorem relativeTo?_of_ofFilePath? {path root : Path} {names : List Bytes} {uri : Uri}
    (rootAbsolute : root.isAbsolute) (below : path.components = root.components ++ names)
    (built : ofFilePath? path = some uri) :
    uri.toFilePath?.bind (·.relativeTo? root) = some (Path.ofComponents false names) := by
  obtain ⟨back, trailing, denoted, absolute, pieces_eq, meaningless⟩ :=
    pieces_of_ofFilePath? built
  rw [below, List.append_assoc] at pieces_eq
  rw [denoted, Option.bind_some]
  refine Path.relativeTo?_eq_ofComponents absolute rootAbsolute pieces_eq (fun piece member => ?_)
    meaningless
  have isPiece : piece ∈ path.components := below ▸ List.mem_append_right _ member
  exact (Path.isStep_of_mem_components isPiece).1

theorem relativeTo?_of_ofFilePath?_join {root : Path} {names : List Bytes} {uri : Uri}
    (steps : ∀ name ∈ names, Path.IsStep name)
    (built : ofFilePath? (root.join (Path.ofComponents false names)) = some uri) :
    uri.toFilePath?.bind (·.relativeTo? root) = some (Path.ofComponents false names) := by
  have isRelative := Path.not_isAbsolute_ofComponents steps
  have rootAbsolute : root.isAbsolute := by
    rw [← Path.isAbsolute_join isRelative]
    exact isAbsolute_of_ofFilePath? built
  refine relativeTo?_of_ofFilePath? rootAbsolute ?_ built
  rw [Path.components_join isRelative, Path.components_ofComponents steps]

end Uri

end SelectorNavigation

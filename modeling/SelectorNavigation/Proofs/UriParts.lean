import SelectorNavigation.Proofs.FileUris
import SelectorNavigation.Uri.Reader
import Mathlib.Data.List.Lattice

/-!
# The characters of the parts of a URI

The parts of a URI are told apart by a few signs in its spelling.  Wherever a URI comes from,
none of its parts holds a sign that would end it: what is read is cut at these signs or has
them percent-encoded, and so has what is built for a file.
-/

namespace SelectorNavigation

/-- The bytes of a character outside ASCII lie outside ASCII. -/
theorem toNat_eq_of_mem_utf8EncodeChar {character : Char} {byte : UInt8}
    (ascii : byte.toNat < 0x80) (member : byte ∈ String.utf8EncodeChar character) :
    byte.toNat = character.toNat := by
  have value : character.toNat = character.val.toNat := rfl
  simp only [String.utf8EncodeChar] at member
  split at member
  · rw [List.mem_singleton.mp member, UInt8.toNat_ofNat']
    omega
  · -- Every byte of a longer encoding has its highest bit set.
    exfalso
    split at member
    · simp only [List.mem_cons, List.not_mem_nil, or_false] at member
      rcases member with rfl | rfl <;> rw [UInt8.toNat_ofNat'] at ascii <;> omega
    · split at member
      · simp only [List.mem_cons, List.not_mem_nil, or_false] at member
        rcases member with rfl | rfl | rfl <;> rw [UInt8.toNat_ofNat'] at ascii <;> omega
      · simp only [List.mem_cons, List.not_mem_nil, or_false] at member
        rcases member with rfl | rfl | rfl | rfl <;> rw [UInt8.toNat_ofNat'] at ascii <;> omega

namespace PercentCoding

/-- The signs that stand between the parts of a URI. -/
def signs : Text := ['@', ':', '/', '?', '#']

theorem hexDigit_not_mem_signs {digit : Nat} (small : digit < 16) : hexDigit digit ∉ signs := by
  have all_digits : ∀ digit : Fin 16, hexDigit digit ∉ signs := by decide
  exact all_digits ⟨digit, small⟩

theorem toNat_lt_of_mem_signs {sign : Char} (isSign : sign ∈ signs) : sign.toNat < 0x80 := by
  have all_signs : signs.all (·.toNat < 0x80) := by decide
  exact of_decide_eq_true (List.all_eq_true.mp all_signs sign isSign)

/-- Encoding writes no sign of its own. -/
theorem exists_byte_of_mem_encode {set : EncodeSet} {bytes : Bytes} {sign : Char}
    (isSign : sign ∈ signs) (member : sign ∈ encode set bytes) :
    ∃ byte ∈ bytes, set byte = false ∧ byte.toNat = sign.toNat := by
  obtain ⟨byte, isByte, written⟩ := List.mem_flatMap.mp member
  have bound := byte.toNat_lt
  refine ⟨byte, isByte, ?_⟩
  cases encoded : set byte with
  | true =>
      have high : hexDigit (byte.toNat / 16) ∉ signs := hexDigit_not_mem_signs (by omega)
      have low : hexDigit (byte.toNat % 16) ∉ signs := hexDigit_not_mem_signs (by omega)
      simp only [encodeByte, encoded, if_true, List.mem_cons, List.not_mem_nil, or_false]
        at written
      rcases written with rfl | rfl | rfl
      · exact absurd isSign (by decide)
      · exact absurd isSign high
      · exact absurd isSign low
  | false =>
      have valid : byte.toNat.isValidChar := Or.inl (by omega)
      simp only [encodeByte, encoded, Bool.false_eq_true, if_false, List.mem_singleton] at written
      rw [written, Char.ofNat, dif_pos valid]
      exact ⟨rfl, rfl⟩

/-- Signs that a set holds do not occur in what it encodes. -/
theorem encode_disjoint {set : EncodeSet} {held : Text}
    (inSet : held.all fun sign => signs.contains sign && set (UInt8.ofNat sign.toNat))
    (bytes : Bytes) : (encode set bytes).Disjoint held := by
  intro sign written isHeld
  have both := List.all_eq_true.mp inSet sign isHeld
  rw [Bool.and_eq_true, List.contains_iff_mem] at both
  obtain ⟨isSign, encoded⟩ := both
  obtain ⟨byte, -, kept, same⟩ := exists_byte_of_mem_encode isSign written
  rw [← same, UInt8.ofNat_toNat, kept] at encoded
  contradiction

/-- A sign in an encoded text occurs in the text itself. -/
theorem mem_of_mem_encodeText {set : EncodeSet} {text : Text} {sign : Char}
    (isSign : sign ∈ signs) (member : sign ∈ encodeText set text) : sign ∈ text := by
  obtain ⟨byte, isByte, -, same⟩ := exists_byte_of_mem_encode isSign member
  obtain ⟨character, isCharacter, encodes⟩ := List.mem_flatMap.mp isByte
  have ascii : byte.toNat < 0x80 := by
    rw [same]
    exact toNat_lt_of_mem_signs isSign
  have equal : sign = character := by
    rw [← Char.toNat_inj, ← same]
    exact toNat_eq_of_mem_utf8EncodeChar ascii encodes
  rw [equal]
  exact isCharacter

end PercentCoding

/-- The signs that end a segment in the spelling of a path. -/
def UriPath.segmentEnds : Text := ['/', '?', '#']

/-- No segment of the path holds a sign that ends it. -/
def UriPath.IsProper : UriPath → Prop
  | segments names => ∀ name ∈ names, name.Disjoint segmentEnds
  | plain _ => True

/-- The signs that end a user name with its password, or the authority it stands in. -/
def Authority.userinfoEnds : Text := ['@', '/', '?', '#']

/-- The user of an authority is spelled without the signs that end it, and an authority
without a host names nothing at all. -/
structure Authority.IsProper (authority : Authority) : Prop where
  userinfo : authority.userinfo.Disjoint userinfoEnds
  hostless : authority.host = none → authority = .empty

/-- No part of the URI holds a sign that ends it.  Without an authority, no segment is a dot,
which could be taken for the guard of the path. -/
structure Uri.IsProper (uri : Uri) : Prop where
  scheme : ':' ∉ uri.scheme
  authority : ∀ authority ∈ uri.authority, authority.IsProper
  path : uri.path.IsProper
  undotted : uri.authority = none → ∀ names, uri.path = .segments names → ['.'] ∉ names
  query : ∀ query ∈ uri.query, '#' ∉ query

namespace Uri

open Authority UriPath

/-- What reading one segment can add to a path.  Behind the drive of a file a segment is taken
as it is. -/
inductive Yields (kind : SchemeKind) (segment : Text) : Text → Prop where
  | nothing : Yields kind segment []
  | name (undotted : isDot (encodeSegment segment) = false) :
      Yields kind segment (encodeSegment segment)
  | drive (isFile : kind = .file) {letter : Char} (isLetter : letter.isAlpha) :
      Yields kind segment [letter, ':']
  | behindDrive (isFile : kind = .file) {rest : Text} (inside : rest ⊆ segment) :
      Yields kind segment (encodeSegment rest)

theorem splitDrive?_shape {segment drive rest : Text}
    (split : splitDrive? segment = some (drive, rest)) :
    (∃ letter, letter.isAlpha ∧ drive = [letter, ':']) ∧ rest ⊆ segment := by
  unfold splitDrive? at split
  split at split
  · rename_i letter behind isLetter
    split at split
    · rename_i gap others isDrive
      dsimp only at split
      split at split
      · rename_i proper
        simp only [Option.some.injEq, Prod.mk.injEq] at split
        obtain ⟨rfl, rfl⟩ := split
        simp only [Bool.and_eq_true] at proper
        refine ⟨⟨letter, proper.1.1, rfl⟩, ?_⟩
        have inOthers : significant others ⊆ others := List.filter_subset_self _
        have inBehind : ':' :: gap :: others ⊆ behind := by
          rw [← isDrive]
          exact List.dropWhile_subset _
        have inSegment : letter :: behind ⊆ segment := by
          rw [← isLetter]
          exact List.dropWhile_subset _
        intro character member
        apply inSegment
        apply List.mem_cons_of_mem
        apply inBehind
        exact List.mem_cons_of_mem _ (List.mem_cons_of_mem _ (inOthers member))
      · contradiction
    · contradiction
  · contradiction

theorem isDriveLetter_shape {name : Text} (isDrive : isDriveLetter name) :
    ∃ letter sign, name = [letter, sign] ∧ letter.isAlpha := by
  unfold isDriveLetter at isDrive
  split at isDrive
  · rename_i letter sign
    rw [Bool.and_eq_true] at isDrive
    exact ⟨letter, sign, rfl, isDrive.1⟩
  · contradiction

theorem Segments.mem_push {segments : Segments} {name added : Text} :
    name ∈ (segments.push added).names ↔ name ∈ segments.names ∨ name = added := by
  simp [push]

theorem Segments.mem_of_mem_shorten {segments : Segments} {name : Text}
    (member : name ∈ segments.shorten.names) : name ∈ segments.names := by
  unfold shorten at member
  split at member
  · exact member
  · exact List.dropLast_subset _ member

theorem mem_readSegment {kind : SchemeKind} {isLast : Bool} {segments : Segments}
    {segment name : Text} (member : name ∈ (readSegment kind isLast segments segment).names) :
    name ∈ segments.names ∨ Yields kind segment name := by
  have closing : ∀ before : Segments, (∀ name ∈ before.names, name ∈ segments.names) →
      name ∈ (if isLast then before.push [] else before).names →
        name ∈ segments.names ∨ Yields kind segment name := by
    intro before kept closed
    split at closed
    · rcases Segments.mem_push.mp closed with earlier | rfl
      · exact .inl (kept name earlier)
      · exact .inr .nothing
    · exact .inl (kept name closed)
  simp only [readSegment] at member
  split at member
  · rename_i drive rest found
    have atRoot : (kind == .file && segments.names.isEmpty) = true := by
      by_contra elsewhere
      simp [elsewhere] at found
    have isFile : kind = .file := by
      simp only [Bool.and_eq_true, beq_iff_eq] at atRoot
      exact atRoot.1
    rw [if_pos atRoot] at found
    obtain ⟨⟨letter, isLetter, rfl⟩, inside⟩ := splitDrive?_shape found
    rcases Segments.mem_push.mp member with earlier | rfl
    · rcases Segments.mem_push.mp earlier with earlier | rfl
      · exact .inl earlier
      · exact .inr (.drive isFile isLetter)
    · exact .inr (.behindDrive isFile inside)
  · split at member
    · exact closing _ (fun _ => Segments.mem_of_mem_shorten) member
    · split at member
      · exact closing _ (fun _ kept => kept) member
      · rename_i undotted
        split at member
        · rename_i isDrive
          simp only [Bool.and_eq_true, beq_iff_eq] at isDrive
          obtain ⟨letter, sign, named, isLetter⟩ := isDriveLetter_shape isDrive.2
          rw [named] at member
          obtain rfl := List.mem_singleton.mp member
          exact .inr (.drive isDrive.1.1 isLetter)
        · rcases Segments.mem_push.mp member with earlier | rfl
          · exact .inl earlier
          · exact .inr (.name (by simpa using undotted))

theorem mem_readAllSegments {kind : SchemeKind} {segments : Segments} {texts : List Text}
    {name : Text} (member : name ∈ (readAllSegments kind segments texts).names) :
    name ∈ segments.names ∨ ∃ segment ∈ texts, Yields kind segment name := by
  induction texts generalizing segments with
  | nil => exact .inl member
  | cons segment texts ih =>
      rcases ih member with read | ⟨later, isLater, yields⟩
      · rcases mem_readSegment read with earlier | yields
        · exact .inl earlier
        · exact .inr ⟨segment, List.mem_cons_self, yields⟩
      · exact .inr ⟨later, List.mem_cons_of_mem _ isLater, yields⟩

theorem encodeSegment_disjoint {segment : Text} (slashless : '/' ∉ segment) :
    (encodeSegment segment).Disjoint segmentEnds := by
  have encoded : (encodeSegment segment).Disjoint ['?', '#'] :=
    PercentCoding.encode_disjoint (by decide) _
  intro sign written isEnd
  rcases List.mem_cons.mp isEnd with rfl | isOther
  · have kept := PercentCoding.mem_of_mem_encodeText (by decide) written
    exact slashless (List.mem_of_mem_filter kept)
  · exact encoded written isOther

theorem Yields.disjoint {kind : SchemeKind} {segment name : Text}
    (yields : Yields kind segment name) (slashless : '/' ∉ segment) :
    name.Disjoint segmentEnds := by
  cases yields with
  | nothing => exact List.disjoint_nil_left _
  | name => exact encodeSegment_disjoint slashless
  | @drive _ letter isLetter =>
      intro sign written isEnd
      simp only [List.mem_cons, List.not_mem_nil, or_false] at written
      rcases written with rfl | rfl
      · have none_letter : segmentEnds.all (!·.isAlpha) := by decide
        have notLetter := List.all_eq_true.mp none_letter _ isEnd
        rw [isLetter] at notLetter
        contradiction
      · exact absurd isEnd (by decide)
  | behindDrive _ inside => exact encodeSegment_disjoint fun member => slashless (inside member)

theorem exists_yields_of_mem_readSegments {kind : SchemeKind} {text name : Text}
    (member : name ∈ (readSegments kind text).names) :
    ∃ segment, '/' ∉ segment ∧ Yields kind segment name := by
  rcases mem_readAllSegments member with started | ⟨segment, isSegment, yields⟩
  · exact absurd started List.not_mem_nil
  · refine ⟨segment, fun inside => ?_, yields⟩
    have kept := separates_eq_false_of_mem_splitOnP isSegment '/' inside
    simp [SchemeKind.separates] at kept

theorem mem_readFileSegments {text name : Text}
    (member : name ∈ (readFileSegments text).names) :
    ∃ segment, '/' ∉ segment ∧ Yields .file segment name := by
  simp only [readFileSegments] at member
  split at member
  · obtain rfl := List.mem_singleton.mp member
    exact ⟨[], List.not_mem_nil, .nothing⟩
  · exact exists_yields_of_mem_readSegments (List.dropWhile_subset _ member)

theorem readUserinfo_disjoint (text : Text) : (readUserinfo text).Disjoint userinfoEnds := by
  have encoded : ∀ part : Text,
      (PercentCoding.encodeText PercentCoding.inUserinfo part).Disjoint userinfoEnds :=
    fun part => PercentCoding.encode_disjoint (by decide) _
  simp only [readUserinfo]
  refine List.disjoint_append_left.mpr ⟨encoded _, ?_⟩
  split
  · exact List.disjoint_nil_left _
  · exact List.disjoint_nil_left _
  · exact List.disjoint_cons_left.mpr ⟨by decide, encoded _⟩

theorem isProper_empty : Authority.empty.IsProper :=
  ⟨List.disjoint_nil_left _, fun _ => rfl⟩

theorem isProper_of_readAuthority? {kind : SchemeKind} {text rest : Text} {atEnd : Bool}
    {authority : Authority} (read : readAuthority? kind text atEnd = some (authority, rest)) :
    authority.IsProper := by
  have named : ∀ (user : Text) (host : Host) (port : Option Nat),
      (⟨readUserinfo user, some host, port⟩ : Authority).IsProper :=
    fun user host port => ⟨readUserinfo_disjoint user, nofun⟩
  simp only [readAuthority?] at read
  split at read
  · contradiction
  · split at read
    · split at read
      · contradiction
      · obtain ⟨rfl, rfl⟩ := Prod.mk.inj (Option.some.inj read)
        exact isProper_empty
    · obtain ⟨host, -, read⟩ := Option.bind_eq_some_iff.mp read
      split at read
      · obtain ⟨rfl, rfl⟩ := Prod.mk.inj (Option.some.inj read)
        exact named _ host none
      · obtain ⟨port, -, read⟩ := Option.bind_eq_some_iff.mp read
        obtain ⟨rfl, rfl⟩ := Prod.mk.inj (Option.some.inj read)
        exact named _ host port.1

theorem isProper_readSegments (kind : SchemeKind) (text : Text) :
    (UriPath.segments (readSegments kind text).names).IsProper := by
  intro name member
  obtain ⟨segment, slashless, yields⟩ := exists_yields_of_mem_readSegments member
  exact yields.disjoint slashless

theorem isProper_readFileSegments (text : Text) :
    (UriPath.segments (readFileSegments text).names).IsProper := by
  intro name member
  obtain ⟨segment, slashless, yields⟩ := mem_readFileSegments member
  exact yields.disjoint slashless

/-- Only the path of a file keeps a dot as a segment, behind its drive. -/
theorem dot_not_mem_readSegments {kind : SchemeKind} (notFile : kind ≠ .file) (text : Text) :
    ['.'] ∉ (readSegments kind text).names := by
  intro member
  obtain ⟨segment, -, yields⟩ := exists_yields_of_mem_readSegments member
  generalize isDotted : (['.'] : Text) = name at yields
  cases yields with
  | nothing => contradiction
  | name undotted =>
      rw [← isDotted] at undotted
      exact absurd undotted (by decide)
  | drive isFile | behindDrive isFile => exact notFile isFile

theorem isProper_of_readFileHost? {text : Text} {authority : Authority} {path : UriPath}
    (read : readFileHost? text = some (authority, path)) :
    authority.IsProper ∧ path.IsProper := by
  simp only [readFileHost?] at read
  split at read
  · obtain ⟨rfl, rfl⟩ := Prod.mk.inj (Option.some.inj read)
    exact ⟨isProper_empty, isProper_readFileSegments _⟩
  · -- With or without a host, the same follows.
    split at read
    all_goals
      obtain ⟨host, -, read⟩ := Option.bind_eq_some_iff.mp read
      split at read
      · obtain ⟨rfl, rfl⟩ := Prod.mk.inj (Option.some.inj read)
        exact ⟨isProper_empty, isProper_readFileSegments _⟩
      · obtain ⟨rfl, rfl⟩ := Prod.mk.inj (Option.some.inj read)
        refine ⟨⟨List.disjoint_nil_left _, fun hostless => ?_⟩, isProper_readFileSegments _⟩
        dsimp only at hostless
        rw [hostless]
        rfl

theorem isProper_of_readFile? {text : Text} {authority : Authority} {path : UriPath}
    (read : readFile? text = some (authority, path)) :
    authority.IsProper ∧ path.IsProper := by
  simp only [readFile?] at read
  split at read
  · obtain ⟨rfl, rfl⟩ := Prod.mk.inj (Option.some.inj read)
    exact ⟨isProper_empty, isProper_readFileSegments _⟩
  · split at read
    · obtain ⟨rfl, rfl⟩ := Prod.mk.inj (Option.some.inj read)
      exact ⟨isProper_empty, isProper_readFileSegments _⟩
    · exact isProper_of_readFileHost? read

theorem isProper_of_readWeb? {kind : SchemeKind} {text : Text} {atEnd : Bool}
    {authority : Authority} {path : UriPath}
    (read : readWeb? kind text atEnd = some (authority, path)) :
    authority.IsProper ∧ path.IsProper := by
  obtain ⟨⟨readAuthority, rest⟩, isAuthority, read⟩ := Option.bind_eq_some_iff.mp read
  obtain ⟨rfl, rfl⟩ := Prod.mk.inj (Option.some.inj read)
  exact ⟨isProper_of_readAuthority? isAuthority, isProper_readSegments kind _⟩

theorem isProper_of_readOther? {text : Text} {atEnd : Bool} {authority : Option Authority}
    {path : UriPath} (read : readOther? text atEnd = some (authority, path)) :
    (∀ named ∈ authority, named.IsProper) ∧ path.IsProper ∧
      (authority = none → ∀ names, path = .segments names → ['.'] ∉ names) := by
  have undotted : ∀ text names,
      UriPath.segments (readSegments .other text).names = .segments names → ['.'] ∉ names := by
    rintro text names ⟨⟩
    exact dot_not_mem_readSegments (by decide) text
  simp only [readOther?] at read
  split at read
  · obtain ⟨⟨readAuthority, rest⟩, isAuthority, read⟩ := Option.bind_eq_some_iff.mp read
    have proper := isProper_of_readAuthority? isAuthority
    split at read
    all_goals
      obtain ⟨rfl, rfl⟩ := Prod.mk.inj (Option.some.inj read)
      refine ⟨by simpa using proper, ?_, nofun⟩
    · exact List.forall_mem_nil _
    · exact isProper_readSegments .other _
    · exact isProper_readSegments .other _
  · obtain ⟨rfl, rfl⟩ := Prod.mk.inj (Option.some.inj read)
    exact ⟨nofun, isProper_readSegments .other _, fun _ => undotted _⟩
  · obtain ⟨rfl, rfl⟩ := Prod.mk.inj (Option.some.inj read)
    exact ⟨nofun, trivial, nofun⟩

theorem toLower_ne_colon {character : Char} (isPart : isSchemeChar character) :
    character.toLower ≠ ':' := by
  intro isColon
  unfold Char.toLower at isColon
  split at isColon
  · rename_i isUpper
    have value := congrArg (fun sign : Char => sign.val.toNat) isColon
    have least : 'A'.val.toNat = 65 := by decide
    have greatest : 'Z'.val.toNat = 90 := by decide
    have step : ('a'.val - 'A'.val).toNat = 32 := by decide
    have colon : ':'.val.toNat = 58 := by decide
    simp only [UInt32.le_iff_toNat_le, ge_iff_le, UInt32.toNat_add] at value isUpper
    omega
  · rw [isColon] at isPart
    exact absurd isPart (by decide)

theorem colon_not_mem_of_readScheme? {text scheme rest : Text}
    (read : readScheme? text = some (scheme, rest)) : ':' ∉ scheme := by
  simp only [readScheme?] at read
  split at read
  · rename_i first others behind isScheme isRest
    split at read
    · obtain ⟨rfl, rfl⟩ := Prod.mk.inj (Option.some.inj read)
      intro lowered
      obtain ⟨character, member, isColon⟩ := List.mem_map.mp lowered
      rw [← isScheme] at member
      obtain ⟨taken, kept⟩ := List.mem_filter.mp member
      have isPart := List.mem_takeWhile_imp taken
      have isSchemePart : isSchemeChar character := by
        rw [Bool.not_eq_true'] at kept
        simpa [kept] using isPart
      exact toLower_ne_colon isSchemePart isColon
    · contradiction
  · contradiction

theorem hash_not_mem_query {isSpecial : Bool} {part : Option Text} :
    ∀ query ∈ part.map fun part => PercentCoding.encodeText
      (if isSpecial then PercentCoding.inSpecialQuery else PercentCoding.inQuery)
      (significant part), '#' ∉ query := by
  intro query isQuery
  obtain ⟨text, -, rfl⟩ := Option.map_eq_some_iff.mp isQuery
  have inSet : ['#'].all fun sign => PercentCoding.signs.contains sign &&
      (if isSpecial then PercentCoding.inSpecialQuery else PercentCoding.inQuery)
        (UInt8.ofNat sign.toNat) := by
    cases isSpecial <;> decide
  exact fun member => PercentCoding.encode_disjoint inSet _ member List.mem_cons_self

theorem isProper_of_read? {text : Text} {uri : Uri} (read : read? text = some uri) :
    uri.IsProper := by
  obtain ⟨⟨scheme, rest⟩, isScheme, read⟩ := Option.bind_eq_some_iff.mp read
  have schemeProper := colon_not_mem_of_readScheme? isScheme
  simp only at read
  split at read
  · obtain ⟨⟨authority, path⟩, isRead, read⟩ := Option.bind_eq_some_iff.mp read
    obtain rfl := Option.some.inj read
    obtain ⟨authorityProper, pathProper⟩ := isProper_of_readFile? isRead
    exact ⟨schemeProper, by simpa using authorityProper, pathProper, nofun, hash_not_mem_query⟩
  · obtain ⟨⟨authority, path⟩, isRead, read⟩ := Option.bind_eq_some_iff.mp read
    obtain rfl := Option.some.inj read
    obtain ⟨authorityProper, pathProper⟩ := isProper_of_readWeb? isRead
    exact ⟨schemeProper, by simpa using authorityProper, pathProper, nofun, hash_not_mem_query⟩
  · obtain ⟨⟨authority, path⟩, isRead, read⟩ := Option.bind_eq_some_iff.mp read
    obtain rfl := Option.some.inj read
    obtain ⟨authorityProper, pathProper, undotted⟩ := isProper_of_readOther? isRead
    exact ⟨schemeProper, authorityProper, pathProper, undotted, hash_not_mem_query⟩

theorem isProper_of_ofFilePath? {path : Path} {uri : Uri} (built : ofFilePath? path = some uri) :
    uri.IsProper := by
  unfold ofFilePath? at built
  split at built
  · obtain rfl := Option.some.inj built
    have schemeProper : ':' ∉ "file".toList := by decide
    refine ⟨schemeProper, by simpa using isProper_empty, ?_, nofun, nofun⟩
    intro name member
    split at member
    · obtain rfl := List.mem_singleton.mp member
      exact List.disjoint_nil_left _
    · obtain ⟨component, -, rfl⟩ := List.mem_map.mp member
      exact PercentCoding.encode_disjoint (by decide) _
  · contradiction

/-- The ways in which a URI comes about: the editor names it, or it is built for a file. -/
inductive Arises : Uri → Prop where
  | read {text : Text} {uri : Uri} (isRead : read? text = some uri) : Arises uri
  | built {path : Path} {uri : Uri} (isBuilt : ofFilePath? path = some uri) : Arises uri

theorem Arises.isProper {uri : Uri} (arises : uri.Arises) : uri.IsProper := by
  cases arises with
  | read isRead => exact isProper_of_read? isRead
  | built isBuilt => exact isProper_of_ofFilePath? isBuilt

end Uri

end SelectorNavigation

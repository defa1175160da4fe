import SelectorNavigation.Proofs.UriParts

/-!
# Spellings of URIs that denote files

A URI that denotes a file can be told from its spelling: the signs between its parts lead
back to the parts.  The order of spellings is therefore a strict order of such URIs.
-/

namespace SelectorNavigation

theorem Text.utf8_injective : Function.Injective Text.utf8 := by
  intro first second same
  have encoded : first.utf8Encode = second.utf8Encode := congrArg List.toByteArray same
  rw [← String.toByteArray_ofList, ← String.toByteArray_ofList, String.toByteArray_inj] at encoded
  exact String.ofList_injective encoded

theorem toList_toString (number : Nat) : (toString number).toList = Nat.toDigits 10 number := by
  rw [Nat.toString_eq_ofList_toDigits, String.toList_ofList]

/-- A text without a sign is split from an optional part that the sign introduces. -/
theorem Uri.splitAtSign_append {sign : Char} {text : Text} (free : sign ∉ text)
    (part : Option Text) : splitAtSign sign (text ++ part.elim [] (sign :: ·)) = (text, part) := by
  have kept : ∀ character ∈ text, (character != sign) = true := by
    intro character member
    simpa using fun same : character = sign => free (same ▸ member)
  rw [splitAtSign, List.takeWhile_append_of_pos kept, List.dropWhile_append_of_pos kept]
  cases part <;> simp

/-- Texts without a sign and the optional parts behind it are told apart. -/
theorem Uri.append_elim_inj {sign : Char} {text other : Text} {part otherPart : Option Text}
    (free : sign ∉ text) (otherFree : sign ∉ other)
    (same : text ++ part.elim [] (sign :: ·) = other ++ otherPart.elim [] (sign :: ·)) :
    text = other ∧ part = otherPart := by
  have cut := congrArg (splitAtSign sign) same
  rw [splitAtSign_append free, splitAtSign_append otherFree] at cut
  exact Prod.mk.inj cut

namespace Authority

variable {authority other : Authority}

/-- The authority names no host, or the local one. -/
def IsLocal (authority : Authority) : Prop :=
  authority.host.all Host.isLocal

/-- The port as it is spelled behind a colon. -/
def portText (authority : Authority) : Text :=
  authority.port.elim [] fun port => ':' :: (toString port).toList

theorem portText_disjoint (authority : Authority) : authority.portText.Disjoint userinfoEnds := by
  have none_digit : userinfoEnds.all (!·.isDigit) := by decide
  intro sign written isEnd
  cases port : authority.port with
  | none => simp [portText, port] at written
  | some number =>
      rw [portText, port, Option.elim_some, toList_toString] at written
      rcases List.mem_cons.mp written with rfl | inDigits
      · exact absurd isEnd (by decide)
      · have isDigit := Nat.isDigit_of_mem_toDigits (by decide) (by decide) inDigits
        have notDigit := List.all_eq_true.mp none_digit sign isEnd
        rw [isDigit] at notDigit
        contradiction

theorem port_eq_of_portText_eq (same : authority.portText = other.portText) :
    authority.port = other.port := by
  unfold portText at same
  cases port : authority.port <;> cases otherPort : other.port <;>
    simp only [port, otherPort, Option.elim_none, Option.elim_some, List.cons.injEq, true_and,
      reduceCtorEq, toList_toString] at same ⊢
  rename_i number otherNumber
  calc
    some number = some (Nat.ofDigitChars 10 (Nat.toDigits 10 number) 0) := by
      rw [Nat.ofDigitChars_ten_toDigits]
    _ = some otherNumber := by rw [same, Nat.ofDigitChars_ten_toDigits]

/-- A local authority that names something names the local host. -/
theorem eq_empty_or_localhost (proper : authority.IsProper) (isLocal : authority.IsLocal) :
    authority = .empty ∨ authority.host = some (.name Host.localName) := by
  cases host : authority.host with
  | none => exact .inl (proper.hostless host)
  | some named =>
      rw [IsLocal, host] at isLocal
      have isLocalhost : named = .name Host.localName := by simpa [Host.isLocal] using isLocal
      exact .inr (by rw [isLocalhost])

theorem toText_eq (named : authority.host = some (.name Host.localName)) :
    authority.toText =
      (if authority.userinfo.isEmpty then [] else authority.userinfo ++ ['@']) ++
        (Host.localName ++ authority.portText) := by
  rw [toText, named, List.append_assoc]
  rfl

theorem localName_append_portText_disjoint (authority : Authority) :
    (Host.localName ++ authority.portText).Disjoint userinfoEnds := by
  have free : Host.localName.all (!userinfoEnds.contains ·) := by decide
  refine List.disjoint_append_left.mpr ⟨fun sign inName isEnd => ?_, authority.portText_disjoint⟩
  have notEnd := List.all_eq_true.mp free sign inName
  rw [List.contains_iff_mem.mpr isEnd] at notEnd
  contradiction

/-- The spelling of an authority with the local host, cut behind its user. -/
theorem splitAtSign_toText (proper : authority.IsProper)
    (named : authority.host = some (.name Host.localName)) :
    Uri.splitAtSign '@' authority.toText =
      if authority.userinfo.isEmpty then (Host.localName ++ authority.portText, none)
      else (authority.userinfo, some (Host.localName ++ authority.portText)) := by
  have userFree : '@' ∉ authority.userinfo := fun member => proper.userinfo member (by decide)
  have hostFree : '@' ∉ Host.localName ++ authority.portText := fun member =>
    authority.localName_append_portText_disjoint member (by decide)
  rw [toText_eq named]
  split
  · simpa using Uri.splitAtSign_append hostFree none
  · simpa using Uri.splitAtSign_append userFree (some (Host.localName ++ authority.portText))

theorem toText_disjoint (proper : authority.IsProper) (isLocal : authority.IsLocal) :
    authority.toText.Disjoint UriPath.segmentEnds := by
  have inEnds : UriPath.segmentEnds ⊆ userinfoEnds := by decide
  rcases eq_empty_or_localhost proper isLocal with rfl | named
  · exact List.disjoint_nil_left _
  · rw [toText_eq named, List.disjoint_append_left]
    constructor
    · split
      · exact List.disjoint_nil_left _
      · refine List.disjoint_append_left.mpr ⟨?_, by simp [UriPath.segmentEnds]⟩
        exact List.disjoint_of_subset_right inEnds proper.userinfo
    · exact List.disjoint_of_subset_right inEnds authority.localName_append_portText_disjoint

theorem toText_empty : Authority.empty.toText = [] :=
  rfl

theorem toText_ne_nil (named : authority.host = some (.name Host.localName)) :
    authority.toText ≠ [] := by
  have nonempty : Host.localName ≠ [] := by decide
  rw [toText_eq named]
  simp [nonempty]

/-- Local authorities with the same spelling are the same. -/
theorem eq_of_toText_eq (proper : authority.IsProper) (isLocal : authority.IsLocal)
    (otherProper : other.IsProper) (otherLocal : other.IsLocal)
    (same : authority.toText = other.toText) : authority = other := by
  rcases eq_empty_or_localhost proper isLocal with rfl | named <;>
    rcases eq_empty_or_localhost otherProper otherLocal with rfl | otherNamed
  · rfl
  · exact absurd (same.symm.trans toText_empty) (toText_ne_nil otherNamed)
  · exact absurd (same.trans toText_empty) (toText_ne_nil named)
  · have cut := congrArg (Uri.splitAtSign '@') same
    rw [splitAtSign_toText proper named, splitAtSign_toText otherProper otherNamed] at cut
    have users : authority.userinfo = other.userinfo ∧ authority.portText = other.portText := by
      split at cut <;> split at cut <;> simp_all
    have ports := port_eq_of_portText_eq users.2
    calc
      authority = ⟨authority.userinfo, authority.host, authority.port⟩ := rfl
      _ = ⟨other.userinfo, other.host, other.port⟩ := by rw [users.1, named, otherNamed, ports]

end Authority

namespace Uri

variable {uri other : Uri}

theorem isLocal_of_authority (isLocal : uri.isLocal) {authority : Authority}
    (named : uri.authority = some authority) : authority.IsLocal := by
  rw [Uri.isLocal, named] at isLocal
  exact isLocal

/-- What stands behind the slashes when an authority and segments are spelled, with the guard
in front of the segments if there is one. -/
def behindSlashes : Option Authority → List Text → List Text
  | some authority, names => [] :: authority.toText :: names
  | none, [] :: name :: names => ['.'] :: [] :: name :: names
  | none, names => names

theorem toText_eq {names : List Text} (segmented : uri.path = .segments names) :
    uri.toText = uri.scheme ++ ':' ::
      ((behindSlashes uri.authority names).flatMap ('/' :: ·) ++ uri.query.elim [] ('?' :: ·) ++
        uri.fragment.elim [] ('#' :: ·)) := by
  cases authority : uri.authority with
  | some named => simp [toText, authority, segmented, pathGuard, UriPath.toText, behindSlashes]
  | none =>
      -- Whether there is a guard depends on the first two segments.
      rcases names with _ | ⟨_ | ⟨sign, first⟩, _ | ⟨name, names⟩⟩ <;>
        simp [toText, authority, segmented, pathGuard, UriPath.toText, behindSlashes]

theorem behindSlashes_none (names : List Text) :
    behindSlashes none names = names ∨ behindSlashes none names = ['.'] :: names := by
  unfold behindSlashes
  split
  · contradiction
  · exact .inr rfl
  · exact .inl rfl

/-- The guard keeps segments from being taken for an authority. -/
theorem behindSlashes_none_ne (names : List Text) (authority : Authority) (others : List Text) :
    behindSlashes none names ≠ behindSlashes (some authority) others := by
  intro same
  unfold behindSlashes at same
  split at same
  · contradiction
  · simp at same
  · rename_i unguarded
    exact unguarded _ _ same

theorem behindSlashes_none_injective {names others : List Text} (undotted : ['.'] ∉ names)
    (othersUndotted : ['.'] ∉ others)
    (same : behindSlashes none names = behindSlashes none others) : names = others := by
  rcases behindSlashes_none names with spelled | spelled <;>
    rcases behindSlashes_none others with othersSpelled | othersSpelled <;>
    rw [spelled, othersSpelled] at same
  · exact same
  · exact absurd (same ▸ List.mem_cons_self) undotted
  · exact absurd (same ▸ List.mem_cons_self) othersUndotted
  · exact (List.cons.inj same).2

theorem behindSlashes_disjoint (proper : uri.IsProper) (isLocal : uri.isLocal)
    {names : List Text} (segmented : uri.path = .segments names) :
    ∀ piece ∈ behindSlashes uri.authority names, piece.Disjoint UriPath.segmentEnds := by
  have namesProper : ∀ name ∈ names, name.Disjoint UriPath.segmentEnds := by
    have pathProper := proper.path
    rwa [segmented] at pathProper
  cases authority : uri.authority with
  | some named =>
      have namedProper := proper.authority named authority
      have namedLocal := isLocal_of_authority isLocal authority
      refine List.forall_mem_cons.mpr ⟨List.disjoint_nil_left _, ?_⟩
      exact List.forall_mem_cons.mpr ⟨Authority.toText_disjoint namedProper namedLocal, namesProper⟩
  | none =>
      rcases behindSlashes_none names with unguarded | guarded
      · rwa [unguarded]
      · rw [guarded]
        exact List.forall_mem_cons.mpr ⟨by simp [UriPath.segmentEnds], namesProper⟩

theorem eq_of_behindSlashes_eq (proper : uri.IsProper) (isLocal : uri.isLocal)
    (otherProper : other.IsProper) (otherLocal : other.isLocal) {names others : List Text}
    (segmented : uri.path = .segments names) (otherSegmented : other.path = .segments others)
    (same : behindSlashes uri.authority names = behindSlashes other.authority others) :
    uri.authority = other.authority ∧ names = others := by
  cases authority : uri.authority with
  | some named =>
      cases otherAuthority : other.authority with
      | some otherNamed =>
          rw [authority, otherAuthority] at same
          obtain ⟨sameText, sameNames⟩ := List.cons.inj (List.cons.inj same).2
          have sameNamed := Authority.eq_of_toText_eq (proper.authority named authority)
            (isLocal_of_authority isLocal authority)
            (otherProper.authority otherNamed otherAuthority)
            (isLocal_of_authority otherLocal otherAuthority) sameText
          rw [sameNamed]
          exact ⟨rfl, sameNames⟩
      | none =>
          rw [authority, otherAuthority] at same
          exact absurd same.symm (behindSlashes_none_ne others named names)
  | none =>
      cases otherAuthority : other.authority with
      | some otherNamed =>
          rw [authority, otherAuthority] at same
          exact absurd same (behindSlashes_none_ne names otherNamed others)
      | none =>
          rw [authority, otherAuthority] at same
          exact ⟨rfl, behindSlashes_none_injective (proper.undotted authority names segmented)
            (otherProper.undotted otherAuthority others otherSegmented) same⟩

theorem isLocal_of_isSome_toFilePath? (isFile : uri.toFilePath?.isSome) :
    uri.isLocal ∧ ∃ names, uri.path = .segments names := by
  unfold toFilePath? at isFile
  split at isFile
  · rename_i name names segmented
    split at isFile
    · rename_i isLocal
      exact ⟨isLocal, name :: names, segmented⟩
    · contradiction
  · contradiction

theorem not_mem_flatMap_slash {pieces : List Text} {sign : Char}
    (free : ∀ piece ∈ pieces, piece.Disjoint UriPath.segmentEnds)
    (isEnd : sign ∈ UriPath.segmentEnds) (notSlash : sign ≠ '/') :
    sign ∉ pieces.flatMap ('/' :: ·) := by
  intro member
  obtain ⟨piece, isPiece, written⟩ := List.mem_flatMap.mp member
  rcases List.mem_cons.mp written with isSlash | inside
  · exact notSlash isSlash
  · exact free piece isPiece inside isEnd

theorem hash_not_mem_body (proper : uri.IsProper) {pieces : List Text}
    (free : ∀ piece ∈ pieces, piece.Disjoint UriPath.segmentEnds) :
    '#' ∉ pieces.flatMap ('/' :: ·) ++ uri.query.elim [] ('?' :: ·) := by
  rw [List.mem_append, not_or]
  refine ⟨not_mem_flatMap_slash free (by decide) (by decide), ?_⟩
  cases isQuery : uri.query with
  | none => exact List.not_mem_nil
  | some query => simpa using proper.query query isQuery

theorem eq_of_flatMap_slash_eq {pieces others : List Text}
    (free : ∀ piece ∈ pieces, piece.Disjoint UriPath.segmentEnds)
    (othersFree : ∀ piece ∈ others, piece.Disjoint UriPath.segmentEnds)
    (same : pieces.flatMap ('/' :: ·) = others.flatMap ('/' :: ·)) : pieces = others := by
  have slashless : ∀ {pieces : List Text},
      (∀ piece ∈ pieces, piece.Disjoint UriPath.segmentEnds) →
        ∀ piece ∈ pieces, '/' ∉ piece :=
    fun free piece isPiece inside => free piece isPiece inside (by decide)
  have cut := splitOn_flatMap_cons [] List.not_mem_nil (slashless free)
  rw [same, splitOn_flatMap_cons [] List.not_mem_nil (slashless othersFree)] at cut
  exact (List.cons.inj cut).2.symm

/-- URIs that denote files are told apart by their spellings. -/
theorem eq_of_toText_eq (proper : uri.IsProper) (otherProper : other.IsProper)
    (isFile : uri.toFilePath?.isSome) (otherIsFile : other.toFilePath?.isSome)
    (same : uri.toText = other.toText) : uri = other := by
  obtain ⟨isLocal, names, segmented⟩ := isLocal_of_isSome_toFilePath? isFile
  obtain ⟨otherLocal, others, otherSegmented⟩ := isLocal_of_isSome_toFilePath? otherIsFile
  have free := behindSlashes_disjoint proper isLocal segmented
  have otherFree := behindSlashes_disjoint otherProper otherLocal otherSegmented
  rw [toText_eq segmented, toText_eq otherSegmented] at same
  -- The spelling is cut at its first colon, then from its end.
  obtain ⟨sameScheme, sameRest⟩ := @append_elim_inj ':' _ _ (some _) (some _)
    proper.scheme otherProper.scheme same
  obtain ⟨sameBody, sameFragment⟩ := append_elim_inj
    (hash_not_mem_body proper free) (hash_not_mem_body otherProper otherFree)
    (Option.some.inj sameRest)
  obtain ⟨samePieces, sameQuery⟩ := append_elim_inj
    (not_mem_flatMap_slash free (by decide) (by decide))
    (not_mem_flatMap_slash otherFree (by decide) (by decide)) sameBody
  obtain ⟨sameAuthority, sameNames⟩ := eq_of_behindSlashes_eq proper isLocal otherProper
    otherLocal segmented otherSegmented (eq_of_flatMap_slash_eq free otherFree samePieces)
  have samePath : uri.path = other.path := by rw [segmented, otherSegmented, sameNames]
  calc
    uri = ⟨uri.scheme, uri.authority, uri.path, uri.query, uri.fragment⟩ := rfl
    _ = ⟨other.scheme, other.authority, other.path, other.query, other.fragment⟩ := by
      rw [sameScheme, sameAuthority, samePath, sameQuery, sameFragment]

end Uri

end SelectorNavigation

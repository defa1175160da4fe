import SelectorNavigation.Text.Hexadecimal

/-!
# IPv6 addresses

An IPv6 address consists of eight pieces of sixteen bits, written in hexadecimal with
colons between them.  Two colons in a row stand for a gap of zero pieces, and the last
two pieces may be written as the four bytes of an IPv4 address.  When an address is
written, the longest run of zero pieces becomes the gap.
-/

namespace SelectorNavigation

/-- An IPv6 address. -/
structure Ipv6 where
  pieces : Vector UInt16 8
deriving DecidableEq, Repr

namespace Ipv6

/-- The address with the given pieces, if there are eight. -/
def ofPieces? (pieces : List Nat) : Option Ipv6 :=
  let pieces := (pieces.map UInt16.ofNat).toArray
  if isWhole : pieces.size = 8 then some ⟨⟨pieces, isWhole⟩⟩ else none

/-- One piece, of at most four hexadecimal digits. -/
def readPiece? (digits : Text) : Option Nat :=
  if digits.isEmpty || 4 < digits.length then none
  else digits.foldlM (fun number digit => do return 16 * number + (← hexValue? digit)) 0

/-- A byte in decimal without a superfluous zero in front. -/
def readByte? (digits : Text) : Option Nat :=
  let value := digits.foldl (fun number digit => 10 * number + (digit.toNat - 0x30)) 0
  let isPlain := digits.all Char.isDigit && !digits.isEmpty &&
    (digits.length == 1 || digits.head? != some '0')
  if isPlain && value < 256 then some value else none

/-- The two pieces that are written as four bytes. -/
def readBytes? (text : Text) : Option (List Nat) :=
  match (text.splitOn '.').mapM readByte? with
  | some [first, second, third, fourth] => some [256 * first + second, 256 * third + fourth]
  | _ => none

/-- Pieces with colons between them, of which the last may be written as bytes if
`isLast` says that nothing follows. -/
def readPieces? (isLast : Bool) (text : Text) : Option (List Nat) :=
  if text.isEmpty then some []
  else do
    let parts := text.splitOn ':'
    let leading ← parts.dropLast.mapM readPiece?
    let last := parts.getLast?.getD []
    let final ←
      match readPiece? last with
      | some piece => some [piece]
      | none => if isLast then readBytes? last else none
    return leading ++ final

/-- Split a text at its first two colons in a row. -/
def splitAtGap : Text → Text × Option Text
  | ':' :: ':' :: rest => ([], some rest)
  | character :: rest =>
      let split := splitAtGap rest
      (character :: split.1, split.2)
  | [] => ([], none)

/-- Read an address without its brackets. -/
def read? (text : Text) : Option Ipv6 :=
  match splitAtGap text with
  | (whole, none) => (readPieces? true whole).bind ofPieces?
  | (before, some after) => do
      let before ← readPieces? false before
      let after ← readPieces? true after
      let gap := 8 - (before.length + after.length)
      if gap == 0 then none else ofPieces? (before ++ List.replicate gap 0 ++ after)

/-- How many zero pieces the list begins with. -/
def zeros (pieces : List UInt16) : Nat :=
  (pieces.takeWhile (· == 0)).length

/-- Where the first of the longest runs of zero pieces begins. -/
def gapStart (pieces : List UInt16) : Nat :=
  (List.range pieces.length).foldl
    (fun best start =>
      if zeros (pieces.drop best) < zeros (pieces.drop start) then start else best) 0

/-- Pieces in hexadecimal with colons between them. -/
def piecesToText (pieces : List UInt16) : Text :=
  [':'].intercalate (pieces.map fun piece => Nat.toDigits 16 piece.toNat)

/-- The address without brackets.  A single zero piece is not a gap. -/
def toText (address : Ipv6) : Text :=
  let pieces := address.pieces.toList
  let start := gapStart pieces
  let length := zeros (pieces.drop start)
  if length < 2 then piecesToText pieces
  else
    piecesToText (pieces.take start) ++ [':', ':'] ++
      piecesToText (pieces.drop (start + length))

end Ipv6

end SelectorNavigation

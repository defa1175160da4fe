import SelectorNavigation.Text.Position

/-!
# Line indices

The positions of a document are looked up.  The index of a text is the table of the
byte offsets at which its lines start, in ascending order.  The line of an offset is
found by binary search in this table, and its column is the length in UTF-16 code
units of the stretch of text from the start of the line up to the offset.
-/

namespace SelectorNavigation

/-- The outcome of looking for a number in a table of the given size. -/
inductive Place (size : Nat) where
  /-- The table holds the number at this index. -/
  | found (index : Fin size)
  /-- The number is missing and would keep the order at this index. -/
  | missing (index : Fin (size + 1))

namespace Table

/-- The entry at an index. -/
def entry (table : Array Nat) (index : Fin table.size) : Nat := table[index]

/-- Narrow the search for a number to one entry, starting from the `size` entries at
`base`.  The middle entry takes the place of `base` unless it is too large. -/
def narrow (table : Array Nat) (target base size : Nat) (occupied : 0 < size)
    (within : base + size ≤ table.size) : Fin table.size :=
  if size ≤ 1 then ⟨base, by omega⟩
  else
    let half := size / 2
    have inside : base + half < table.size := by omega
    if target < table[base + half] then
      narrow table target base (size - half) (by omega) (by omega)
    else narrow table target (base + half) (size - half) (by omega) (by omega)
termination_by size

/-- The place of a number, given the one entry that the search for it ended at. -/
def placeAt (table : Array Nat) (target : Nat) (index : Fin table.size) : Place table.size :=
  if entry table index = target then .found index
  else if entry table index < target then .missing index.succ
  else .missing index.castSucc

/-- Look for a number in a table by binary search. -/
def search (table : Array Nat) (target : Nat) : Place table.size :=
  if occupied : 0 < table.size then
    placeAt table target (narrow table target 0 table.size occupied (by omega))
  else .missing 0

end Table

namespace Text

/-- The byte offsets at which a character stands in a text that begins at the given
offset. -/
def offsetsOf (sought : Char) (offset : Nat) : Text → List Nat
  | [] => []
  | character :: rest =>
      let others := offsetsOf sought (offset + character.utf8Size) rest
      if character == sought then offset :: others else others

/-- Split a text at a byte offset, unless it lies inside a character or behind the
text. -/
def splitAtOffset? : Nat → Text → Option (Text × Text)
  | offset, [] => if offset = 0 then some ([], []) else none
  | offset, character :: rest =>
      if offset = 0 then some ([], character :: rest)
      else if offset < character.utf8Size then none
      else
        (splitAtOffset? (offset - character.utf8Size) rest).map fun split =>
          (character :: split.1, split.2)

/-- The stretch of a text between two byte offsets, if they are in order and neither
lies inside a character or behind the text. -/
def slice? (text : Text) (start stop : Nat) : Option Text :=
  if start ≤ stop then
    (text.splitAtOffset? start).bind fun split =>
      (split.2.splitAtOffset? (stop - start)).map (·.1)
  else none

end Text

/-- A text with the byte offsets at which its lines start. -/
structure LineIndex where
  text : Text
  starts : Array Nat
  /-- Every text has a first line. -/
  occupied : 0 < starts.size

namespace LineIndex

/-- The index of a text.  A line starts at its beginning and behind every line feed. -/
def ofText (text : Text) : LineIndex where
  text := text
  starts := (0 :: (text.offsetsOf '\n' 0).map (· + 1)).toArray
  occupied := by simp

/-- The line of an offset, from its place among the starts of lines.  One between two
starts belongs to the line in front. -/
def lineAt (index : LineIndex) : Place index.starts.size → Fin index.starts.size
  | .found line => line
  | .missing next => ⟨next.val - 1, by have := index.occupied; omega⟩

/-- The position of an offset in a line: the column is measured from the start of the
line, and an offset inside a character has column zero. -/
def positionIn (index : LineIndex) (line : Fin index.starts.size) (offset : Nat) : Position :=
  ⟨line, ((index.text.slice? index.starts[line] offset).map Text.utf16Length).getD 0⟩

/-- The position of a byte offset.  An offset past the end counts as the end. -/
def position (index : LineIndex) (offset : Nat) : Position :=
  let offset := min offset index.text.byteLength
  index.positionIn (index.lineAt (Table.search index.starts offset)) offset

/-- The span that a range of byte offsets covers. -/
def span (index : LineIndex) (range : ByteRange) : Span :=
  ⟨index.position range.start, index.position range.stop⟩

end LineIndex

namespace Text

/-- The position of a byte offset in a text. -/
def positionAt (text : Text) (offset : Nat) : Position :=
  (LineIndex.ofText text).position offset

/-- The span that a range of byte offsets covers in a text. -/
def spanOf (text : Text) (range : ByteRange) : Span :=
  ⟨text.positionAt range.start, text.positionAt range.stop⟩

end Text

end SelectorNavigation

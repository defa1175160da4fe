import SelectorNavigation.Text.Basic

/-!
# Punycode

Punycode spells a text with letters, digits and hyphens.  The characters of ASCII come
first, as they are; a hyphen and the instructions for inserting the other characters
follow.  The insertions are ordered by code point and then by place, so that each is
given by its distance from the one before.  A distance is a number whose digits have a
base of their own at each place, which adapts to the size of the earlier distances.
-/

namespace SelectorNavigation

namespace Punycode

/-- The number of different digits. -/
def base : Nat := 36

/-- The bias before anything is inserted. -/
def initialBias : Nat := 72

/-- The first code point that is inserted. -/
def initialCode : Nat := 0x80

/-- A bound on the numbers that occur while a text is decoded. -/
def numberBound : Nat := 0x100000000

/-- The character for a digit: the letters, then the decimal digits. -/
def digitChar (digit : Nat) : Char :=
  if digit < 26 then Char.ofNat (0x61 + digit) else Char.ofNat (0x30 + (digit - 26))

/-- The value of a digit in either case. -/
def digitValue? (character : Char) : Option Nat :=
  if character.isLower then some (character.toNat - 0x61)
  else if character.isUpper then some (character.toNat - 0x41)
  else if character.isDigit then some (character.toNat - 0x30 + 26)
  else none

/-- A digit that is written reads back. -/
theorem digitValue?_digitChar {digit : Nat} (isDigit : digit < base) :
    digitValue? (digitChar digit) = some digit := by
  have all : ∀ other ∈ List.range base, digitValue? (digitChar other) = some other := by decide
  exact all digit (List.mem_range.mpr isDigit)

/-- The least digit at a place that does not end a number. -/
def threshold (bias place : Nat) : Nat :=
  max 1 (min 26 (place - bias))

theorem one_le_threshold (bias place : Nat) : 1 ≤ threshold bias place :=
  Nat.le_max_left _ _

theorem threshold_le (bias place : Nat) : threshold bias place ≤ 26 := by
  simp only [threshold]
  omega

/-- Scale a distance down, counting the places that it takes. -/
def scale (distance places : Nat) : Nat × Nat :=
  if 455 < distance then scale (distance / 35) (places + base) else (distance, places)
termination_by distance
decreasing_by exact Nat.div_lt_self (by omega) (by omega)

/-- The bias after a distance, in a text that has grown to `length` characters. -/
def adapt (distance length : Nat) (isFirst : Bool) : Nat :=
  let damped := if isFirst then distance / 700 else distance / 2
  let (scaled, places) := scale (damped + damped / length) 0
  places + 36 * scaled / (scaled + 38)

/-- The digits of a number, from a place on. -/
def encodeNumber (bias place number : Nat) : Text :=
  let least := threshold bias place
  if number < least then [digitChar number]
  else
    digitChar (least + (number - least) % (base - least)) ::
      encodeNumber bias (place + base) ((number - least) / (base - least))
termination_by number
decreasing_by
  have positive := one_le_threshold bias place
  have smaller : (number - threshold bias place) / (base - threshold bias place) ≤
      number - threshold bias place := Nat.div_le_self _ _
  omega

/-- Where encoding a text stands. -/
structure Encoding where
  /-- The digits written so far. -/
  digits : Text
  /-- The distance from the last insertion. -/
  distance : Nat
  bias : Nat
  /-- How many characters are inserted or need no insertion. -/
  handled : Nat

/-- Look at one character of the text while the character `code` is inserted
everywhere.  `basic` is the number of characters that need no insertion. -/
def Encoding.visit (basic code : Nat) (encoding : Encoding) (character : Char) : Encoding :=
  if character.toNat < code then { encoding with distance := encoding.distance + 1 }
  else if character.toNat == code then
    { digits := encoding.digits ++ encodeNumber encoding.bias base encoding.distance
      distance := 0
      bias := adapt encoding.distance (encoding.handled + 1) (encoding.handled == basic)
      handled := encoding.handled + 1 }
  else encoding

/-- Insert the given characters in increasing order.  All below `next` are inserted. -/
def encodeFrom (text : Text) (basic : Nat) (next : Nat) (encoding : Encoding) :
    List Nat → Encoding
  | [] => encoding
  | code :: codes =>
      let distance := encoding.distance + (code - next) * (encoding.handled + 1)
      let visited :=
        text.foldl (Encoding.visit basic code) { encoding with distance := distance }
      encodeFrom text basic (code + 1) { visited with distance := visited.distance + 1 } codes

/-- Spell a text with letters, digits and hyphens. -/
def encode (text : Text) : Text :=
  let basic := text.filter fun character => character.toNat < initialCode
  let others := (text.map Char.toNat).filter fun code => initialCode ≤ code
  let codes := (others.mergeSort).eraseDups
  let start : Encoding := ⟨[], 0, initialBias, basic.length⟩
  basic ++ (if basic.isEmpty then [] else ['-']) ++
    (encodeFrom text basic.length initialCode start codes).digits

/-- Where decoding a text stands. -/
structure Decoding where
  /-- The text with the insertions made so far. -/
  text : Text
  /-- The character that was inserted last. -/
  code : Nat
  /-- The place of the next insertion, counted from the last one. -/
  position : Nat
  bias : Nat

/-- The character of a code point, if there is one. -/
def charOfCode? (code : Nat) : Option Char :=
  if code.isValidChar then some (Char.ofNat code) else none

/-- Make the insertion at a distance. -/
def Decoding.insert? (decoding : Decoding) (target : Nat) : Option Decoding := do
  let length := decoding.text.length + 1
  let code := decoding.code + target / length
  let position := target % length
  let character ← charOfCode? code
  return {
    text := decoding.text.take position ++ character :: decoding.text.drop position
    code := code
    position := position + 1
    bias := adapt (target - decoding.position) length (decoding.position == 0) }

/-- Read the insertions.  Between two digits of a number, `target` is its value so far
on top of the place of the last insertion, `weight` is the weight of the next digit,
and `place` is its place. -/
def decodeFrom (decoding : Decoding) (target weight place : Nat) : Text → Option Text
  | [] => if place == base then some decoding.text else none
  | character :: rest => do
      let digit ← digitValue? character
      let target := target + digit * weight
      let least := threshold decoding.bias place
      let nextWeight := weight * (base - least)
      if numberBound ≤ target then none
      else if digit < least then
        let next ← decoding.insert? target
        decodeFrom next next.position 1 base rest
      else if numberBound ≤ nextWeight then none
      else decodeFrom decoding target nextWeight (place + base) rest

/-- The text that is spelled by the given one. -/
def decode? (text : Text) : Option Text :=
  let reversed := text.reverse
  let insertions := (reversed.takeWhile (· != '-')).reverse
  let basic := (reversed.dropWhile (· != '-')).drop 1
  if text.head? == some '-' && basic.isEmpty then none
  else decodeFrom ⟨basic.reverse, initialCode, 0, initialBias⟩ 0 1 base insertions

end Punycode

end SelectorNavigation

import SelectorNavigation.Selector.Alternative
import SelectorNavigation.Selector.Declaration
import SelectorNavigation.Text.LineIndex

/-!
# Usages of a selector

A usage of an alternative in a template is its name between a leading and a
closing delimiter.  An element name follows `<`.  An attribute name follows white
space, `[`, `*` or the pair `[(`, so an event binding in plain parentheses is not
a usage.  Usages are searched from left to right by their leading delimiter.  At
one place the alternatives are tried in order, each with a lead of one character
before the lead of two.  Alternatives that are all attributes share their leads:
then all of them are tried behind one character before any behind the pair.

The scan of a document resumes at the end of the name it found, because the
closing delimiter of one usage may be the leading delimiter of the next.
-/

namespace SelectorNavigation

namespace Alternative

/-- The numbers of characters that can be the leading delimiter at the start of a
text, the preferred one first. -/
def leads : Alternative → Text → List Nat
  | _, [] => []
  | .element _, character :: _ => if character == '<' then [1] else []
  | .attr _, character :: rest =>
      (if isWhitespace character || character == '[' || character == '*' then [1] else []) ++
        (if character == '[' && rest.head? == some '(' then [2] else [])

/-- A character that may follow the name in a usage. -/
def closes : Alternative → Char → Bool
  | .element _, character =>
      character == '>' || character == '/' || isWhitespace character
  | .attr _, character =>
      character == '=' || character == '>' || character == ')' || character == ']' ||
        character == '/' || isWhitespace character

/-- The text starts with the name and a closing delimiter. -/
def startsText (alternative : Alternative) (text : Text) : Bool :=
  alternative.name.isPrefixOf text &&
    ((text.drop alternative.name.length).head?.any alternative.closes)

/-- An alternative that selects attributes. -/
def isAttr : Alternative → Bool
  | .element _ => false
  | .attr _ => true

end Alternative

/-- A non-empty list of alternatives to look for. -/
structure Matcher where
  alternatives : List Alternative
  nonempty : alternatives ≠ []
deriving DecidableEq

/-- A usage at the start of a text, split at its delimiters. -/
structure Hit where
  /-- The leading delimiter. -/
  lead : Text
  /-- The name that was found. -/
  name : Text

/-- Why a search cannot be carried out. -/
inductive SearchError where
  /-- The search would start more than one byte behind the end of the text. -/
  | startBehindText
deriving DecidableEq, Repr

namespace Hit

/-- How many characters the delimiter and the name take together. -/
def length (hit : Hit) : Nat :=
  hit.lead.length + hit.name.length

/-- The bytes of the name, when the hit starts at the given offset. -/
def range (hit : Hit) (offset : Nat) : ByteRange :=
  let start := offset + hit.lead.byteLength
  ⟨start, start + hit.name.byteLength⟩

end Hit

namespace Matcher

/-- The matcher for a list of alternatives, if there are any.  A limit on the size of the
pattern that is compiled from them, beyond which there is no matcher, is left out. -/
def ofAlternatives? (alternatives : List Alternative) : Option Matcher :=
  if nonempty : alternatives ≠ [] then some ⟨alternatives, nonempty⟩ else none

/-- The matcher for the selector that a text declares. -/
def ofDeclaration? (text : Text) : Option Matcher :=
  (Declaration.find? text).bind fun selector => ofAlternatives? (Alternative.readAll selector)

/-- The names of the alternatives as shown to a user. -/
def names (matcher : Matcher) : Text :=
  [',', ' '].intercalate (matcher.alternatives.map Alternative.name)

/-- The alternatives with the leads they can have at the start of a text, in the order
of the list. -/
def attemptsInOrder (matcher : Matcher) (text : Text) : List (Alternative × Nat) :=
  matcher.alternatives.flatMap fun alternative =>
    (alternative.leads text).map fun lead => (alternative, lead)

/-- The alternatives with their leads in the order in which they are tried.  Attributes
among themselves share their leads: each of them is tried behind a lead of one character
before any is tried behind a longer one.  Next to an element, an alternative is tried
with all its leads before the next. -/
def attempts (matcher : Matcher) (text : Text) : List (Alternative × Nat) :=
  let inOrder := matcher.attemptsInOrder text
  if matcher.alternatives.all Alternative.isAttr then
    inOrder.filter (·.2 == 1) ++ inOrder.filter (·.2 != 1)
  else inOrder

/-- The usage whose leading delimiter stands at the start of the text. -/
def hitAt? (matcher : Matcher) (text : Text) : Option Hit :=
  ((matcher.attempts text).find? fun attempt =>
    attempt.1.startsText (text.drop attempt.2)).map fun attempt =>
      ⟨text.take attempt.2, attempt.1.name⟩

/-- The first usage in a text that begins at byte `offset`: the bytes of its name
and the text behind the name. -/
def firstUsage? (matcher : Matcher) (offset : Nat) : Text → Option (ByteRange × Text)
  | [] => none
  | character :: rest =>
      match matcher.hitAt? (character :: rest) with
      | some hit => some (hit.range offset, (character :: rest).drop hit.length)
      | none => firstUsage? matcher (offset + character.utf8Size) rest

/-- The bytes of the name in the first usage whose leading delimiter begins at or
behind a byte offset. -/
def findAt? (matcher : Matcher) (text : Text) (start : Nat) : Option ByteRange :=
  let (offset, rest) := text.fromOffset start 0
  (matcher.firstUsage? offset rest).map (·.1)

/-- Search from a byte offset, which may stand at most one byte behind the end. -/
def search (matcher : Matcher) (text : Text) (start : Nat) :
    Except SearchError (Option ByteRange) :=
  if start ≤ text.byteLength + 1 then .ok (matcher.findAt? text start)
  else .error .startBehindText

/-- A usage starts with a character of its leading delimiter. -/
theorem lead_pos_of_mem_leads {alternative : Alternative} {text : Text} {lead : Nat}
    (member : lead ∈ alternative.leads text) : 0 < lead ∧ text ≠ [] := by
  cases text with
  | nil => cases alternative <;> simp [Alternative.leads] at member
  | cons character rest =>
      cases alternative with
      | element name =>
          simp only [Alternative.leads] at member
          split at member <;> simp_all
      | attr name =>
          simp only [Alternative.leads, List.mem_append] at member
          rcases member with member | member <;> split at member <;> simp_all

/-- Every attempt is one of the leads of its alternative. -/
theorem mem_leads_of_mem_attempts {matcher : Matcher} {text : Text}
    {attempt : Alternative × Nat} (member : attempt ∈ matcher.attempts text) :
    attempt.2 ∈ attempt.1.leads text := by
  have inOrder : attempt ∈ matcher.attemptsInOrder text := by
    simp only [attempts] at member
    split at member
    · rcases List.mem_append.mp member with member | member
      · exact (List.mem_filter.mp member).1
      · exact (List.mem_filter.mp member).1
    · exact member
  obtain ⟨alternative, _, member⟩ := List.mem_flatMap.mp inOrder
  obtain ⟨lead, isLead, rfl⟩ := List.mem_map.mp member
  exact isLead

/-- A hit takes at least one character. -/
theorem hit_length_pos {matcher : Matcher} {text : Text} {hit : Hit}
    (found : matcher.hitAt? text = some hit) : 0 < hit.length := by
  obtain ⟨attempt, isAttempt, rfl⟩ := Option.map_eq_some_iff.mp found
  obtain ⟨positive, occupied⟩ := lead_pos_of_mem_leads
    (mem_leads_of_mem_attempts (List.mem_of_find?_eq_some isAttempt))
  have textPositive : 0 < text.length := List.length_pos_iff.mpr occupied
  simp only [Hit.length, List.length_take]
  omega

/-- The text behind a usage is shorter than the text that was searched. -/
theorem firstUsage?_length {matcher : Matcher} {offset : Nat} {text rest : Text}
    {range : ByteRange} (found : matcher.firstUsage? offset text = some (range, rest)) :
    rest.length < text.length := by
  induction text generalizing offset with
  | nil => simp [firstUsage?] at found
  | cons character tail ih =>
      simp only [firstUsage?] at found
      split at found
      · rename_i hit isHit
        have positive := hit_length_pos isHit
        simp only [Option.some.injEq, Prod.mk.injEq] at found
        rw [← found.2, List.length_drop, List.length_cons]
        omega
      · exact Nat.lt_trans (ih found) (Nat.lt_succ_self _)

/-- The bytes of all names found in a text that begins at byte `offset`, each
search starting at the end of the name found before. -/
def rangesFrom (matcher : Matcher) (offset : Nat) (text : Text) : List ByteRange :=
  match found : matcher.firstUsage? offset text with
  | none => []
  | some (range, rest) =>
      have : rest.length < text.length := firstUsage?_length found
      range :: rangesFrom matcher range.stop rest
termination_by text.length

/-- The bytes of the names of all usages in a text. -/
def ranges (matcher : Matcher) (text : Text) : List ByteRange :=
  matcher.rangesFrom 0 text

/-- The spans of the names of all usages in a document. -/
def scan (matcher : Matcher) (text : Text) : List Span :=
  let index := LineIndex.ofText text
  (matcher.ranges text).map index.span

theorem scan_eq_map (matcher : Matcher) (text : Text) :
    matcher.scan text = (matcher.ranges text).map text.spanOf :=
  rfl

end Matcher

end SelectorNavigation

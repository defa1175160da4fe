import SelectorNavigation.Glob.Token

/-!
# Reading globs

A glob is read from left to right, and the first fault is reported; braces that
stay open are noticed at the end.  Branches without tokens, and groups that hold
nothing but such branches, contribute nothing and are dropped when their group is
closed.
-/

namespace SelectorNavigation

namespace Glob

/-- Why a text is not a glob. -/
inductive ReadError where
  /-- A bracket class has no closing bracket. -/
  | unclosedClass
  /-- A range in a class ends before it starts. -/
  | invalidRange (first last : Char)
  /-- A closing brace has no opening brace. -/
  | unopenedAlternates
  /-- An opening brace has no closing brace. -/
  | unclosedAlternates
  /-- A backslash is the last character. -/
  | danglingEscape
deriving DecidableEq, Repr

/-- The reason in words. -/
def ReadError.message : ReadError → String
  | unclosedClass => "unclosed character class; missing ']'"
  | invalidRange first last =>
      "invalid range; '" ++ first.toString ++ "' > '" ++ last.toString ++ "'"
  | unopenedAlternates =>
      "unopened alternate group; missing '\x7b' (maybe escape '\x7d' with '[\x7d]'?)"
  | unclosedAlternates =>
      "unclosed alternate group; missing '\x7d' (maybe escape '\x7b' with '[\x7b]'?)"
  | danglingEscape => "dangling '\\'"

/-- A group of branches while it is read: the finished branches and the tokens of
the current one, the latest first in both. -/
structure Level where
  finished : List Tokens := []
  current : Tokens := []

/-- What has been read so far: the innermost group and the groups around it.  The
outermost level stands for the whole glob. -/
structure Reading where
  level : Level := {}
  outer : List Level := []

namespace Reading

/-- The reader stands between braces. -/
def inBraces (reading : Reading) : Bool :=
  !reading.outer.isEmpty

/-- Append a token to the current branch. -/
def push (reading : Reading) (token : Token) : Reading :=
  { reading with level.current := token :: reading.level.current }

/-- Start a group. -/
def openGroup (reading : Reading) : Reading :=
  { level := {}, outer := reading.level :: reading.outer }

/-- Start the next branch of the current group. -/
def nextBranch (reading : Reading) : Reading :=
  { reading with
    level := { finished := reading.level.current.reverse :: reading.level.finished } }

/-- End the current group and append it to the branch around it. -/
def closeGroup (reading : Reading) : Except ReadError Reading :=
  match reading.outer with
  | [] => .error .unopenedAlternates
  | level :: outer =>
      let branches := (reading.level.current.reverse :: reading.level.finished).reverse
      let kept := branches.filter fun branch => !branch.all Token.isBlank
      .ok (Reading.push { level, outer } (.alternates kept))

/-- The tokens of the whole glob. -/
def finish (reading : Reading) : Except ReadError Tokens :=
  if reading.inBraces then .error .unclosedAlternates
  else .ok reading.level.current.reverse

/-- Read two stars, given the characters on both sides of them.  The result says
whether a slash behind the stars belongs to the token. -/
def doubleStar (reading : Reading) (previous next : Option Char) : Reading × Bool :=
  let stars := (reading.push .star).push .star
  let replaceLast (token : Token) : Reading :=
    match reading.level.current with
    | .leadingDirectories :: _ | .everythingBelow :: _ => reading
    | current => { reading with level.current := token :: current.tail }
  if reading.level.current.isEmpty then
    if next == none || next == some '/' then (reading.push .leadingDirectories, true)
    else (stars, false)
  else if previous != some '/' &&
      !(reading.inBraces && (previous == some ',' || previous == some '\x7b')) then
    (stars, false)
  else if next == some '/' then (replaceLast .directoriesBetween, true)
  else if next == none || (reading.inBraces && (next == some ',' || next == some '\x7d')) then
    (replaceLast .everythingBelow, false)
  else (stars, false)

end Reading

/-- A bracket class while it is read, the latest range first. -/
structure ClassReading where
  negated : Bool
  ranges : List (Char × Char) := []
  /-- A hyphen waits for the end of its range. -/
  awaitsEnd : Bool := false

namespace ClassReading

/-- Add a member, or the end of the range that waits for one. -/
def add (reading : ClassReading) (character : Char) : Except ReadError ClassReading :=
  match reading.awaitsEnd, reading.ranges with
  | true, (first, _) :: ranges =>
      if character < first then .error (.invalidRange first character)
      else .ok { reading with ranges := (first, character) :: ranges, awaitsEnd := false }
  | _, ranges =>
      .ok { reading with ranges := (character, character) :: ranges, awaitsEnd := false }

/-- The class as a token; a hyphen that still waits is a member. -/
def token (reading : ClassReading) : Token :=
  let ranges := if reading.awaitsEnd then ('-', '-') :: reading.ranges else reading.ranges
  .oneOf reading.negated ranges.reverse

end ClassReading

mutual

/-- Read the rest of a glob behind the character `previous`. -/
def readTokens (previous : Option Char) (reading : Reading) :
    Text → Except ReadError Tokens
  | [] => reading.finish
  | '*' :: '*' :: rest =>
      match reading.doubleStar previous rest.head? with
      | (reading, false) => readTokens (some '*') reading rest
      | (reading, true) =>
          match rest with
          | [] => reading.finish
          | slash :: rest => readTokens (some slash) reading rest
  | '\\' :: rest =>
      match rest with
      | [] => .error .danglingEscape
      | escaped :: rest => readTokens (some escaped) (reading.push (.literal escaped)) rest
  | '[' :: rest =>
      match rest with
      | [] => .error .unclosedClass
      | first :: rest =>
          if first == '!' || first == '^' then
            readClass reading { negated := true } rest
          else
            match ClassReading.add { negated := false } first with
            | .error fault => .error fault
            | .ok classReading => readClass reading classReading rest
  | character :: rest =>
      if character == '?' then readTokens (some character) (reading.push .any) rest
      else if character == '*' then readTokens (some character) (reading.push .star) rest
      else if character == '\x7b' then readTokens (some character) reading.openGroup rest
      else if character == '\x7d' then
        match reading.closeGroup with
        | .error fault => .error fault
        | .ok reading => readTokens (some character) reading rest
      else if character == ',' && reading.inBraces then
        readTokens (some character) reading.nextBranch rest
      else readTokens (some character) (reading.push (.literal character)) rest

/-- Read the rest of a bracket class and of the glob behind it.  A closing bracket
or a hyphen that comes first is a member. -/
def readClass (reading : Reading) (classReading : ClassReading) :
    Text → Except ReadError Tokens
  | [] => .error .unclosedClass
  | character :: rest =>
      if character == ']' && !classReading.ranges.isEmpty then
        readTokens (some character) (reading.push classReading.token) rest
      else if character == '-' && !classReading.ranges.isEmpty && !classReading.awaitsEnd then
        readClass reading { classReading with awaitsEnd := true } rest
      else
        match classReading.add character with
        | .error fault => .error fault
        | .ok classReading => readClass reading classReading rest

end

/-- Read a glob. -/
def read (text : Text) : Except ReadError Tokens :=
  readTokens none {} text

end Glob

end SelectorNavigation

import SelectorNavigation.Proofs.JsonReading
import SelectorNavigation.Workspace.Basic

/-!
# Reading a settings file

A settings file is an object in which the two sections stand among any other members.
Reading it follows the rules of the grammar: the sections are read in full and all else is only
skimmed.  A section that is missing has its default.  A section that is given twice, or not as an
object, costs the file both sections, and so does anything that breaks the rules, wherever it
stands.

An array of at most two objects is taken for the sections in their order, and every other array
costs the file both of them.
-/

namespace SelectorNavigation

namespace Bytes

theorem decode?_utf8 (text : Text) : decode? text.utf8 = some text := by
  have valid : (String.ofList text).toByteArray.IsValidUTF8 := (String.ofList text).isValidUTF8
  have same : List.toByteArray text.utf8 = (String.ofList text).toByteArray := rfl
  rw [decode?, same, String.fromUTF8?, dif_pos valid, Option.map_some]
  exact congrArg some String.toList_ofList

end Bytes

namespace Json

theorem members?_eq_some_iff {value : Json} {members : Members} :
    value.members? = some members ↔ value = .object members := by
  cases value <;> simp [members?]

theorem atEnd?_eq_some_iff {α : Type} {result : Option (α × Text)} {value : α} :
    atEnd? result = some value ↔ ∃ after, result = some (value, after) ∧ AreBlanks after := by
  constructor
  · intro read
    obtain ⟨⟨found, after⟩, rfl, finished⟩ := Option.bind_eq_some_iff.mp read
    simp only [Option.ite_none_right_eq_some, List.isEmpty_iff, Option.some.injEq] at finished
    obtain ⟨blank, rfl⟩ := finished
    exact ⟨after, rfl, skipBlanks_eq_nil_iff.mp blank⟩
  · rintro ⟨after, rfl, areBlanks⟩
    simp [atEnd?, skipBlanks_eq_nil_iff.mpr areBlanks]

end Json

namespace ExcludeSettings

open Json

/-- A body between two signs, with blanks around them. -/
def Encloses (opening closing : Char) (isBody : Text → Prop) (text : Text) : Prop :=
  ∃ before body after, AreBlanks before ∧ AreBlanks after ∧
    text = before ++ opening :: (body ++ closing :: after) ∧ isBody body

/-- The text is an object with these members, in which the sections are written within the limits
on numbers, nesting and escapes. -/
def SpellsObject (members : Members) : Text → Prop :=
  Encloses '\x7b' '\x7d' fun body =>
    members = [] ∧ AreBlanks body ∨ Spells (.members false memberCare members) body

/-- The text is an array with these items. -/
def SpellsList (items : List Json) : Text → Prop :=
  Encloses '[' ']' fun body =>
    items = [] ∧ AreBlanks body ∨ Spells (.items (.full (depthLimit - 1)) items) body

/-- The section occurs twice, or is not an object. -/
inductive IsFaulty (members : Members) (name : Text) : Prop where
  | repeated (twice : 1 < (members.map (·.1)).count name)
  | notObject {value : Json} (member : (name, value) ∈ members)
      (other : ∀ entries, value ≠ .object entries)

/-- The section under a name among the members, or the fallback if there is none. -/
inductive Gives (members : Members) (name : Text) (fallback : Members) : Members → Prop where
  | present {entries : Members} (member : (name, .object entries) ∈ members) :
      Gives members name fallback entries
  | absent (missing : ∀ value, (name, value) ∉ members) : Gives members name fallback fallback

section Text

theorem encloses_of_skipBlanks {opening closing : Char} {isBody : Text → Prop}
    {text body after : Text} (opened : skipBlanks text = opening :: (body ++ closing :: after))
    (blanksAfter : AreBlanks after) (holds : isBody body) :
    Encloses opening closing isBody text := by
  obtain ⟨before, divided, blanksBefore⟩ := exists_blanks text
  exact ⟨before, body, after, blanksBefore, blanksAfter, by rw [← opened, ← divided], holds⟩

theorem encloses_of_blanks {opening closing : Char} {isBody : Text → Prop}
    {text inside after : Text} (opened : skipBlanks text = opening :: inside)
    (closed : skipBlanks inside = closing :: after) (blanksAfter : AreBlanks after)
    (holds : ∀ blanks, AreBlanks blanks → isBody blanks) :
    Encloses opening closing isBody text := by
  obtain ⟨body, divided, blanks⟩ := exists_blanks inside
  rw [divided, closed] at opened
  exact encloses_of_skipBlanks opened blanksAfter (holds body blanks)

theorem Encloses.ends {opening closing : Char} {isBody : Text → Prop} {text : Text}
    (encloses : Encloses opening closing isBody text) :
    ∃ last ∈ text.getLast?, last = closing ∨ isBlank last := by
  obtain ⟨before, body, after, -, blanksAfter, rfl, -⟩ := encloses
  cases after using List.reverseRecOn with
  | nil =>
      refine ⟨closing, List.getLast?_eq_some_iff.mpr ⟨before ++ opening :: body, ?_⟩, .inl rfl⟩
      simp
  | append_singleton after last =>
      refine ⟨last, List.getLast?_eq_some_iff.mpr
        ⟨before ++ opening :: (body ++ closing :: after), ?_⟩, .inr (blanksAfter last (by simp))⟩
      simp

/-- Only objects and arrays are settings. -/
theorem exists_of_ofText? {text : Text} {settings : ExcludeSettings}
    (read : ofText? text = some settings) :
    (∃ members, SpellsObject members text) ∨ ∃ items, SpellsList items text := by
  rw [ofText?] at read
  split at read
  · rename_i inside opened
    left
    split at read
    · rename_i rest closed
      obtain ⟨members, finished, -⟩ := Option.bind_eq_some_iff.mp read
      obtain ⟨after, ⟨⟩, blanksAfter⟩ := atEnd?_eq_some_iff.mp finished
      exact ⟨[], encloses_of_blanks opened closed blanksAfter fun _ blanks => .inl ⟨rfl, blanks⟩⟩
    · obtain ⟨members, finished, -⟩ := Option.bind_eq_some_iff.mp read
      obtain ⟨after, readMembers, blanksAfter⟩ := atEnd?_eq_some_iff.mp finished
      obtain ⟨body, rfl, spells⟩ := (reading_sound _).2.2 readMembers
      exact ⟨members, encloses_of_skipBlanks opened blanksAfter (.inr spells)⟩
  · rename_i inside opened
    right
    split at read
    · rename_i rest closed
      obtain ⟨items, finished, -⟩ := Option.bind_eq_some_iff.mp read
      obtain ⟨after, ⟨⟩, blanksAfter⟩ := atEnd?_eq_some_iff.mp finished
      exact ⟨[], encloses_of_blanks opened closed blanksAfter fun _ blanks => .inl ⟨rfl, blanks⟩⟩
    · obtain ⟨items, finished, -⟩ := Option.bind_eq_some_iff.mp read
      obtain ⟨after, readItems, blanksAfter⟩ := atEnd?_eq_some_iff.mp finished
      obtain ⟨body, rfl, spells⟩ := (reading_sound _).2.1 readItems
      exact ⟨items, encloses_of_skipBlanks opened blanksAfter (.inr spells)⟩
  · simp at read

theorem length_body_le (opening closing : Char) (before body after : Text) :
    2 * body.length ≤ 2 * (before ++ opening :: (body ++ closing :: after)).length := by
  simp only [List.length_append, List.length_cons]
  omega

/-- The text of an object gives what its members give. -/
theorem SpellsObject.ofText?_eq {members : Members} {text : Text}
    (spells : SpellsObject members text) : ofText? text = ofMembers? members := by
  obtain ⟨before, body, after, blanksBefore, blanksAfter, rfl, inside⟩ := spells
  have opening : skipBlanks (before ++ '\x7b' :: (body ++ '\x7d' :: after)) =
      '\x7b' :: (body ++ '\x7d' :: after) := skipBlanks_append_cons blanksBefore rfl _
  have finished : atEnd? (some (members, after)) = some members :=
    atEnd?_eq_some_iff.mpr ⟨after, rfl, blanksAfter⟩
  rcases inside with ⟨rfl, blanks⟩ | spells
  · have closing : skipBlanks (body ++ '\x7d' :: after) = '\x7d' :: after :=
      skipBlanks_append_cons blanks rfl _
    simp only [ofText?, opening, closing, finished, Option.bind_some]
  · obtain ⟨others, quote⟩ := spells.skipBlanks_members ('\x7d' :: after)
    have read : readMembers? false memberCare
        (fuelFor (before ++ '\x7b' :: (body ++ '\x7d' :: after)))
        (body ++ '\x7d' :: after) = some (members, after) :=
      spells.readsAs after _ (length_body_le _ _ before body after)
    simp [ofText?, opening, quote, read, finished]

/-- The text of an array gives what its items give. -/
theorem SpellsList.ofText?_eq {items : List Json} {text : Text}
    (spells : SpellsList items text) : ofText? text = ofItems? items := by
  obtain ⟨before, body, after, blanksBefore, blanksAfter, rfl, inside⟩ := spells
  have opening : skipBlanks (before ++ '[' :: (body ++ ']' :: after)) =
      '[' :: (body ++ ']' :: after) := skipBlanks_append_cons blanksBefore rfl _
  have finished : atEnd? (some (items, after)) = some items :=
    atEnd?_eq_some_iff.mpr ⟨after, rfl, blanksAfter⟩
  rcases inside with ⟨rfl, blanks⟩ | spells
  · have closing : skipBlanks (body ++ ']' :: after) = ']' :: after :=
      skipBlanks_append_cons blanks rfl _
    simp only [ofText?, opening, closing, finished, Option.bind_some]
  · obtain ⟨first, others, starts, unclosed⟩ := spells.skipBlanks_items (']' :: after)
    have read : readItems? (.full (depthLimit - 1))
        (fuelFor (before ++ '[' :: (body ++ ']' :: after)))
        (body ++ ']' :: after) = some (items, after) :=
      spells.readsAs after _ (length_body_le _ _ before body after)
    simp [ofText?, opening, starts, unclosed, read, finished]

end Text

section Sections

theorem exists_gives {members : Members} {name : Text} (sound : ¬ IsFaulty members name)
    (fallback : Members) : ∃ found, Gives members name fallback found := by
  by_cases held : ∃ value, (name, value) ∈ members
  · obtain ⟨value, member⟩ := held
    by_cases isObject : ∃ entries, value = .object entries
    · obtain ⟨entries, rfl⟩ := isObject
      exact ⟨entries, .present member⟩
    · exact absurd (.notObject member (not_exists.mp isObject)) sound
  · exact ⟨fallback, .absent (not_exists.mp held)⟩

/-- A section is read unless it is faulty. -/
theorem section?_eq_some_iff {name : Text} {fallback members found : Members} :
    (section? name fallback members = some found) ↔
      ¬ IsFaulty members name ∧ Gives members name fallback found := by
  -- All that matters is which members have the name: none, one or several.
  have mem_iff : ∀ value, (name, value) ∈ members ↔
      (name, value) ∈ members.filter (·.1 == name) := by
    simp
  have count_eq : (members.map (·.1)).count name = (members.filter (·.1 == name)).length := by
    rw [List.count, List.countP_map, List.countP_eq_length_filter]
    rfl
  have keys_eq : ∀ member ∈ members.filter (·.1 == name), member.1 = name := by
    simp
  rw [section?]
  split
  · rename_i empty
    simp only [empty, List.not_mem_nil, List.length_nil] at mem_iff count_eq
    have sound : ¬ IsFaulty members name := by
      rintro (twice | ⟨member, -⟩)
      · omega
      · exact (mem_iff _).mp member
    constructor
    · rintro ⟨⟩
      exact ⟨sound, .absent fun value => (mem_iff value).mp⟩
    · rintro ⟨-, member | missing⟩
      · exact ((mem_iff _).mp member).elim
      · rfl
  · rename_i key value single
    obtain rfl : key = name := keys_eq (key, value) (by simp [single])
    simp only [single, List.mem_singleton, Prod.mk.injEq, true_and] at mem_iff
    rw [single, List.length_singleton] at count_eq
    rw [members?_eq_some_iff]
    constructor
    · rintro rfl
      refine ⟨?_, .present ((mem_iff _).mpr rfl)⟩
      rintro (twice | ⟨member, other⟩)
      · omega
      · exact other found ((mem_iff _).mp member)
    · rintro ⟨-, member | missing⟩
      · exact ((mem_iff _).mp member).symm
      · exact absurd ((mem_iff value).mpr rfl) (missing value)
  · rename_i occupied several
    have twice : 1 < (members.filter (·.1 == name)).length := by
      match held : members.filter (·.1 == name) with
      | [] => exact absurd held occupied
      | [(key, value)] => exact absurd held (several key value)
      | _ :: _ :: _ => simp [held]
    simp only [reduceCtorEq, false_iff]
    rintro ⟨sound, -⟩
    exact sound (.repeated (count_eq ▸ twice))

/-- A settings file gives both sections unless one of them is faulty. -/
theorem ofMembers?_eq_some_iff {members : Members} {settings : ExcludeSettings} :
    ofMembers? members = some settings ↔
      (∀ name ∈ sections, ¬ IsFaulty members name) ∧
        Gives members filesSection defaultFiles settings.files ∧
        Gives members searchSection defaultSearch settings.search := by
  have both : ofMembers? members = some settings ↔
      (section? filesSection defaultFiles members = some settings.files) ∧
        (section? searchSection defaultSearch members = some settings.search) := by
    obtain ⟨files, search⟩ := settings
    simp [ofMembers?, Option.bind_eq_some_iff]
  simp only [both, section?_eq_some_iff, sections, List.forall_mem_cons, List.not_mem_nil,
    false_imp_iff, implies_true, and_true]
  exact and_and_and_comm

/-- A list of sections is read if it holds at most two and all of them are objects. -/
theorem ofItems?_eq_some_iff {items : List Json} {settings : ExcludeSettings} :
    ofItems? items = some settings ↔
      ∃ given : List Members, items = given.map .object ∧ given.length ≤ 2 ∧
        settings = ⟨given[0]?.getD defaultFiles, given[1]?.getD defaultSearch⟩ := by
  constructor
  · intro read
    fun_cases ofItems? items with
    | case1 =>
        obtain rfl := Option.some.inj read
        exact ⟨[], rfl, by simp, rfl⟩
    | case2 value =>
        obtain ⟨files, isFiles, finished⟩ := Option.bind_eq_some_iff.mp read
        obtain rfl := Option.some.inj finished
        obtain rfl := members?_eq_some_iff.mp isFiles
        exact ⟨[files], rfl, by simp, rfl⟩
    | case3 value another =>
        obtain ⟨files, isFiles, readRest⟩ := Option.bind_eq_some_iff.mp read
        obtain ⟨search, isSearch, finished⟩ := Option.bind_eq_some_iff.mp readRest
        obtain rfl := Option.some.inj finished
        obtain rfl := members?_eq_some_iff.mp isFiles
        obtain rfl := members?_eq_some_iff.mp isSearch
        exact ⟨[files, search], rfl, by simp, rfl⟩
    | case4 => simp [ofItems?] at read
  · rintro ⟨given, rfl, few, rfl⟩
    match given, few with
    | [], _ => rfl
    | [files], _ => rfl
    | [files, search], _ => rfl

/-- Members under other names do not matter. -/
theorem ofMembers?_congr {members others : Members}
    (same : members.filter (·.1 ∈ sections) = others.filter (·.1 ∈ sections)) :
    ofMembers? members = ofMembers? others := by
  have held : ∀ name ∈ sections, members.filter (·.1 == name) = others.filter (·.1 == name) := by
    intro name isSection
    have narrowed : ∀ list : Members, list.filter (·.1 == name) =
        (list.filter (·.1 ∈ sections)).filter (·.1 == name) := by
      intro list
      rw [List.filter_filter]
      refine List.filter_congr fun member _ => ?_
      by_cases named : member.1 = name <;> simp [named, isSection]
    rw [narrowed members, same, ← narrowed others]
  simp only [ofMembers?, section?, held filesSection (by simp [sections]),
    held searchSection (by simp [sections])]

end Sections

end ExcludeSettings

namespace Workspace

open Json ExcludeSettings

theorem settings_of_readText? {disk : Disk} {directory : Path} {text : Text}
    (held : disk.readText? (settingsFile directory) = some text) :
    settings disk (some directory) none = (ofText? text).getD .default := by
  simp [settings, resolve, withAnswers, held]

/-- If the settings file is an object in which neither section is faulty, each section is what the
file gives under its name, or else its default.  If one is faulty, both are the defaults.  Other
members of the object do not matter.  If the file is an array, its objects are the sections in
order, and with a third item or one that is not an object both sections are the defaults.  They are
the defaults as well if the text breaks the rules at any place, or is neither an object nor an
array. -/
theorem settings_follow_file {disk : Disk} {directory : Path} {text : Text}
    (held : disk.readText? (settingsFile directory) = some text) :
    let loaded := settings disk (some directory) none
    (∀ members, SpellsObject members text →
      ((∃ name ∈ sections, IsFaulty members name) → loaded = .default) ∧
      ((∀ name ∈ sections, ¬ IsFaulty members name) →
        Gives members filesSection defaultFiles loaded.files ∧
        Gives members searchSection defaultSearch loaded.search) ∧
      (∀ otherDisk otherDirectory otherText others,
        otherDisk.readText? (settingsFile otherDirectory) = some otherText →
        SpellsObject others otherText →
        others.filter (·.1 ∈ sections) = members.filter (·.1 ∈ sections) →
        settings otherDisk (some otherDirectory) none = loaded)) ∧
    (∀ items, SpellsList items text →
      ((2 < items.length ∨ ∃ item ∈ items, ∀ entries, item ≠ .object entries) →
        loaded = .default) ∧
      (∀ given : List Members, items = given.map .object → given.length ≤ 2 →
        loaded.files = given[0]?.getD defaultFiles ∧
        loaded.search = given[1]?.getD defaultSearch)) ∧
    ((∀ members, ¬ SpellsObject members text) → (∀ items, ¬ SpellsList items text) →
      loaded = .default) := by
  intro loaded
  have loaded_eq : loaded = (ofText? text).getD .default := settings_of_readText? held
  refine ⟨fun members spells => ⟨?_, ?_, ?_⟩, fun items spells => ⟨?_, ?_⟩, ?_⟩
  · rintro ⟨name, isSection, faulty⟩
    have rejected : ofMembers? members = none := by
      rw [Option.eq_none_iff_forall_ne_some]
      intro settings read
      exact (ofMembers?_eq_some_iff.mp read).1 name isSection faulty
    rw [loaded_eq, spells.ofText?_eq, rejected, Option.getD_none]
  · intro sound
    have soundFiles := sound filesSection (by simp [sections])
    have soundSearch := sound searchSection (by simp [sections])
    obtain ⟨files, givesFiles⟩ := exists_gives soundFiles defaultFiles
    obtain ⟨search, givesSearch⟩ := exists_gives soundSearch defaultSearch
    have read : ofMembers? members = some ⟨files, search⟩ :=
      ofMembers?_eq_some_iff.mpr ⟨sound, givesFiles, givesSearch⟩
    rw [loaded_eq, spells.ofText?_eq, read, Option.getD_some]
    exact ⟨givesFiles, givesSearch⟩
  · intro otherDisk otherDirectory otherText others otherHeld otherSpells same
    rw [loaded_eq, settings_of_readText? otherHeld, spells.ofText?_eq, otherSpells.ofText?_eq,
      ofMembers?_congr same]
  · intro faulty
    have rejected : ofItems? items = none := by
      rw [Option.eq_none_iff_forall_ne_some]
      intro settings read
      obtain ⟨given, rfl, few, -⟩ := ofItems?_eq_some_iff.mp read
      rcases faulty with many | ⟨item, isItem, other⟩
      · rw [List.length_map] at many
        omega
      · obtain ⟨entries, -, rfl⟩ := List.mem_map.mp isItem
        exact other entries rfl
    rw [loaded_eq, spells.ofText?_eq, rejected, Option.getD_none]
  · intro given areObjects few
    have read := ofItems?_eq_some_iff.mpr ⟨given, areObjects, few, rfl⟩
    rw [loaded_eq, spells.ofText?_eq, read, Option.getD_some]
    exact ⟨rfl, rfl⟩
  · intro noObject noList
    have rejected : ofText? text = none := by
      rw [Option.eq_none_iff_forall_ne_some]
      intro settings read
      rcases exists_of_ofText? read with ⟨members, spells⟩ | ⟨items, spells⟩
      · exact noObject members spells
      · exact noList items spells
    rw [loaded_eq, rejected, Option.getD_none]

/-- A file with another member in front, a glob that is given twice and no section for searches, the
same text with a sign behind it, and an array in which the second section is not an object. -/
theorem settings_follow_file_with_repeated_glob :
    let disk (text : Text) : Disk :=
      ⟨[(Text.utf8 ".vscode".toList,
        .directory [(Text.utf8 "settings.json".toList, .file text.utf8)])], rfl⟩
    let root := Path.ofText "/".toList
    let text :=
      "\x7b\"a\":[],\"files.exclude\":\x7b\"x\":true,\"y\":true,\"x\":null\x7d\x7d".toList
    let broken := text ++ ['!']
    let list := "[\x7b\x7d,null]".toList
    let globs : Members := [("x".toList, .null), ("y".toList, .bool true)]
    let members : Members := [("a".toList, .array []), (filesSection, .object globs)]
    let loaded (text : Text) := settings (disk text) (some root) none
    (disk text).readText? (settingsFile root) = some text ∧ SpellsObject members text ∧
      (loaded text).files = globs ∧ (loaded text).search = defaultSearch ∧
      (disk broken).readText? (settingsFile root) = some broken ∧ loaded broken = .default ∧
      (disk list).readText? (settingsFile root) = some list ∧
      SpellsList [.object [], .null] list ∧ loaded list = .default := by
  intro disk root text broken list globs members loaded
  have held : ∀ text, (disk text).readText? (settingsFile root) = some text :=
    Bytes.decode?_utf8
  have inner : Spells (.members (Care.full 125).isSkim (fun _ => .full 125)
      [("x".toList, .bool true), ("y".toList, .bool true), ("x".toList, .null)])
      "\"x\":true,\"y\":true,\"x\":null".toList :=
    .member (spellsKey_self (by decide)) (.bare (.trueWord _))
      (.member (spellsKey_self (by decide)) (.bare (.trueWord _))
        (.lastMember (spellsKey_self (by decide)) (.bare (.nullWord _))))
  have enters : (memberCare filesSection).inner? = some (.full 125) := rfl
  have body : Spells (.members false memberCare members)
      "\"a\":[],\"files.exclude\":\x7b\"x\":true,\"y\":true,\"x\":null\x7d".toList :=
    .member (spellsKey_self (by decide)) (.bare (.emptyArray rfl areBlanks_nil))
      (.lastMember (spellsKey_self (by decide)) (.bare (.object enters inner)))
  have object : SpellsObject members text :=
    ⟨[], _, [], areBlanks_nil, areBlanks_nil, rfl, .inr body⟩
  have mem_iff : ∀ {name value}, (name, value) ∈ members ↔
      (name = "a".toList ∧ value = .array []) ∨ (name = filesSection ∧ value = .object globs) := by
    intro name value
    rw [List.mem_pair, Prod.mk.injEq, Prod.mk.injEq]
  have sound : ∀ name ∈ sections, ¬ IsFaulty members name := by
    have once : ∀ name ∈ sections, (members.map (·.1)).count name ≤ 1 := by decide
    rintro name isSection (twice | ⟨member, other⟩)
    · exact absurd twice (once name isSection).not_gt
    · rcases mem_iff.mp member with ⟨rfl, -⟩ | ⟨-, rfl⟩
      · exact absurd isSection (by decide)
      · exact other globs rfl
  have onlyFiles : ∀ {found}, Gives members filesSection defaultFiles found → found = globs := by
    rintro found (member | missing)
    · rcases mem_iff.mp member with ⟨same, -⟩ | ⟨-, same⟩
      · exact absurd same (by decide)
      · exact Json.object.inj same
    · exact absurd (mem_iff.mpr (.inr ⟨rfl, rfl⟩)) (missing _)
  have onlySearch : ∀ {found}, Gives members searchSection defaultSearch found →
      found = defaultSearch := by
    rintro found (member | missing)
    · rcases mem_iff.mp member with ⟨same, -⟩ | ⟨same, -⟩
      · exact absurd same (by decide)
      · exact absurd same (by decide)
    · rfl
  have gives := ((settings_follow_file (held text)).1 members object).2.1 sound
  have unclosed : ∀ {opening closing : Char} {isBody : Text → Prop}, closing ≠ '!' →
      ¬ Encloses opening closing isBody broken := by
    intro opening closing isBody other encloses
    obtain ⟨last, ends, closes⟩ := encloses.ends
    obtain rfl : '!' = last := Option.some.inj ends
    rcases closes with rfl | blank
    · exact other rfl
    · exact absurd blank (by decide)
  have array : SpellsList [.object [], .null] list :=
    ⟨[], "\x7b\x7d,null".toList, [], areBlanks_nil, areBlanks_nil, rfl,
      .inr (.item (.bare (.emptyObject rfl areBlanks_nil)) (.lastItem (.bare (.nullWord _))))⟩
  exact ⟨held text, object, onlyFiles gives.1, onlySearch gives.2, held broken,
    (settings_follow_file (held broken)).2.2 (fun _ => unclosed (by decide))
      (fun _ => unclosed (by decide)),
    held list, array,
    ((settings_follow_file (held list)).2.1 _ array).1 (.inr ⟨.null, by simp, by simp⟩)⟩

end Workspace

end SelectorNavigation

import SelectorNavigation.Proofs.OrderedMembers
import SelectorNavigation.Workspace.Basic

/-!
# The globs in force

Each of the two sections comes from the editor if it answers with an object, and else from
what was loaded for the workspace.  The two are then merged key by key: a glob has the place
where it first occurs, and the search section decides about every glob that it mentions.
-/

namespace SelectorNavigation

namespace ExcludeSettings

/-- A glob with this value is excluded: it is switched on, or has a condition. -/
def PutsInForce (value : Json) : Prop :=
  value = .bool true ∨ ∃ members, value = .object members

theorem isEnabled_iff {value : Json} : isEnabled value ↔ PutsInForce value := by
  cases value with
  | bool enabled => cases enabled <;> simp [isEnabled, PutsInForce]
  | _ => simp [isEnabled, PutsInForce]

instance : DecidablePred PutsInForce := fun _ => decidable_of_iff _ isEnabled_iff

/-- The keys of the first section and then those that are new in the second one, as far as their
value puts them in force.  The second section decides about every key that it holds. -/
def mergedGlobs (files search : Json.Members) : List Text :=
  let globs := files.keys ++ search.keys.filter fun glob => glob ∉ files.keys
  let value? := fun glob => (search.value? glob).or (files.value? glob)
  globs.filter fun glob => (value? glob).any fun value => PutsInForce value

/-- The section that the editor answers with at a place, or else another one. -/
def answered (answers : Option (List Json)) (place : Nat) (fallback : Json.Members) :
    Json.Members :=
  match answers.bind (·[place]?) with
  | some (.object members) => members
  | _ => fallback

theorem getD_members?_eq_answered (answers : Option (List Json)) (place : Nat)
    (fallback : Json.Members) :
    ((answers.getD [])[place]?.bind Json.members?).getD fallback =
      answered answers place fallback := by
  have sameAnswer : (answers.getD [])[place]? = answers.bind (·[place]?) := by
    cases answers <;> simp
  rw [answered, sameAnswer]
  cases answers.bind (·[place]?) with
  | none => rfl
  | some answer => cases answer <;> rfl

theorem patterns_eq (settings : ExcludeSettings) :
    settings.patterns = mergedGlobs settings.files settings.search := by
  have sameTest : isEnabled = fun value => decide (PutsInForce value) := by
    funext value
    rw [Bool.eq_iff_iff, isEnabled_iff, decide_eq_true_iff]
  rw [patterns, Json.Members.putAll_nil, Json.Members.keys_filter_collapsed,
    Json.Members.keys_append]
  simp only [Json.Members.value?_append, sameTest, mergedGlobs]

example :
    mergedGlobs [("dist".toList, .bool false), (".git".toList, .bool true)]
        [(".git".toList, .bool false), ("tmp".toList, .object []), ("dist".toList, .bool true)] =
      ["dist".toList, "tmp".toList] := by
  decide

theorem nodup_patterns (settings : ExcludeSettings) : settings.patterns.Nodup := by
  rw [patterns, Json.Members.putAll_nil, Json.Members.keys_filter_collapsed]
  exact (Json.Members.nodup_keys _).filter _

end ExcludeSettings

namespace Workspace

open ExcludeSettings

/-- The settings that the file of a workspace gives, or the defaults without a workspace. -/
def loadedSettings (disk : Disk) (directory : Option Path) : ExcludeSettings :=
  match directory with
  | none => .default
  | some directory => ((disk.readText? (settingsFile directory)).bind ofText?).getD .default

theorem settings_eq (disk : Disk) (directory : Option Path) (answers : Option (List Json)) :
    settings disk directory answers =
      ⟨answered answers 0 (loadedSettings disk directory).files,
        answered answers 1 (loadedSettings disk directory).search⟩ := by
  simp only [settings, resolve, withAnswers, getD_members?_eq_answered]
  cases directory <;> rfl

/-- The globs in force are the keys of the section for files, followed by the keys that only the
section for searches has, without those whose value does not put them in force.  The value of a
glob is the one in the section for searches, if it occurs there.  No glob is listed twice. -/
theorem settings_patterns_merge_sections (disk : Disk) (directory : Option Path)
    (answers : Option (List Json)) :
    let loaded := loadedSettings disk directory
    let files := answered answers 0 loaded.files
    let search := answered answers 1 loaded.search
    let patterns := (settings disk directory answers).patterns
    patterns = mergedGlobs files search ∧ patterns.Nodup := by
  intro loaded files search patterns
  have merged : patterns = (⟨files, search⟩ : ExcludeSettings).patterns :=
    congrArg ExcludeSettings.patterns (settings_eq disk directory answers)
  rw [merged]
  exact ⟨patterns_eq ⟨files, search⟩, nodup_patterns ⟨files, search⟩⟩

end Workspace

end SelectorNavigation

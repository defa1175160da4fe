import SelectorNavigation.Json.Basic
import SelectorNavigation.Proofs.Lists

/-!
# Repeated keys of an object

An object is written as a sequence of members in which a key may occur again.  Setting the
members one after the other gives each key its first place and its last value.  The
sequence with these places and values is the collapsed one, and it is determined by the
order of its keys and the value under each of them.
-/

namespace SelectorNavigation

namespace Json

namespace Members

/-- The keys of a sequence of members, each at its first place. -/
def keys (members : Members) : List Text :=
  (members.map (·.1)).eraseDups

/-- The value that a key is given last. -/
def value? (members : Members) (key : Text) : Option Json :=
  members.reverse.lookup key

/-- The sequence in which each key stands once, at its first place and with its last value. -/
def collapsed (members : Members) : Members :=
  members.keys.filterMap fun key => (members.value? key).map fun value => (key, value)

theorem nodup_keys (members : Members) : members.keys.Nodup :=
  nodup_eraseDups _

theorem keys_append_singleton (members : Members) (key : Text) (value : Json) :
    keys (members ++ [(key, value)]) =
      if key ∈ members.keys then members.keys else members.keys ++ [key] := by
  simp only [keys, List.map_append, List.map_cons, List.map_nil, eraseDups_append_singleton,
    List.mem_eraseDups]

theorem value?_append_singleton (members : Members) (key other : Text) (value : Json) :
    value? (members ++ [(key, value)]) other =
      if other = key then some value else members.value? other := by
  rw [value?, List.reverse_append, List.reverse_singleton, List.singleton_append]
  by_cases same : other = key
  · rw [same, List.lookup_cons_self, if_pos rfl]
  · rw [lookup_cons_of_ne value _ same, if_neg same, value?]

/-- Of two sequences one after the other, the second adds the keys that are new. -/
theorem keys_append (first second : Members) :
    keys (first ++ second) = first.keys ++ second.keys.filter fun key => key ∉ first.keys := by
  induction second using List.reverseRecOn with
  | nil => simp [keys]
  | append_singleton second member ih =>
      obtain ⟨key, value⟩ := member
      rw [← List.append_assoc, keys_append_singleton, keys_append_singleton, ih]
      by_cases early : key ∈ first.keys
      · by_cases again : key ∈ keys second <;> simp [early, again]
      · by_cases again : key ∈ keys second <;> simp [early, again]

/-- Of two sequences one after the other, the second decides about its keys. -/
theorem value?_append (first second : Members) (key : Text) :
    value? (first ++ second) key = (second.value? key).or (first.value? key) := by
  rw [value?, List.reverse_append, List.lookup_append]
  rfl

theorem lookup_put (members : Members) (key other : Text) (value : Json) :
    (members.put key value).lookup other =
      if other = key then some value else members.lookup other := by
  induction members with
  | nil =>
      by_cases same : other = key
      · simp [put, same]
      · simp [put, same, lookup_cons_of_ne value _ same]
  | cons member rest ih =>
      obtain ⟨first, held⟩ := member
      by_cases found : first = key
      · by_cases same : other = key
        · simp [put, found, same]
        · simp [put, found, same, lookup_cons_of_ne _ rest same]
      · by_cases same : other = first
        · simp [put, found, same]
        · simp [put, found, lookup_cons_of_ne _ _ same, ih]

theorem putAll_append_singleton (members added : Members) (key : Text) (value : Json) :
    members.putAll (added ++ [(key, value)]) = (members.putAll added).put key value := by
  simp [putAll]

theorem keys_putAll_nil (members : Members) : (putAll [] members).map (·.1) = members.keys := by
  induction members using List.reverseRecOn with
  | nil => rfl
  | append_singleton members member ih =>
      obtain ⟨key, value⟩ := member
      rw [putAll_append_singleton, keys_put, ih, keys_append_singleton]

theorem lookup_putAll_nil (members : Members) (key : Text) :
    (putAll [] members).lookup key = members.value? key := by
  induction members using List.reverseRecOn with
  | nil => rfl
  | append_singleton members member ih =>
      obtain ⟨other, value⟩ := member
      rw [putAll_append_singleton, lookup_put, ih, value?_append_singleton]

/-- Members with distinct keys are given by the keys in order and the value under each. -/
theorem eq_filterMap_lookup {members : Members} (distinct : (members.map (·.1)).Nodup) :
    members =
      (members.map (·.1)).filterMap fun key =>
        (members.lookup key).map fun value => (key, value) := by
  induction members with
  | nil => rfl
  | cons member rest ih =>
      obtain ⟨first, held⟩ := member
      obtain ⟨absent, others⟩ := List.nodup_cons.mp distinct
      have later : ∀ key ∈ rest.map (·.1), List.lookup key ((first, held) :: rest) =
          List.lookup key rest := by
        intro key member
        exact lookup_cons_of_ne held rest fun same => absent (same ▸ member)
      rw [List.map_cons, List.filterMap_cons_some (by rw [List.lookup_cons_self, Option.map_some]),
        List.filterMap_congr fun key member => by rw [later key member], ← ih others]

/-- Setting members one after the other collapses them. -/
theorem putAll_nil (members : Members) : putAll [] members = members.collapsed := by
  have distinct : ((putAll [] members).map (·.1)).Nodup := by
    rw [keys_putAll_nil]
    exact members.nodup_keys
  rw [eq_filterMap_lookup distinct, keys_putAll_nil]
  simp only [lookup_putAll_nil, collapsed]

/-- The keys whose last value satisfies a condition, each at its first place. -/
theorem keys_filter_collapsed (members : Members) (holds : Json → Bool) :
    (members.collapsed.filter fun member => holds member.2).map (·.1) =
      members.keys.filter fun key => (members.value? key).any holds := by
  rw [collapsed, List.filter_filterMap, List.map_filterMap, ← List.filterMap_eq_filter]
  have kept : ∀ (key : Text) (found : Option Json),
      ((found.map fun value => (key, value)).filter fun member => holds member.2).map (·.1) =
        if found.any holds then some key else none := by
    intro key found
    cases found with
    | none => rfl
    | some value => by_cases held : holds value <;> simp [held, Option.filter]
  exact List.filterMap_congr fun key _ => kept key (members.value? key)

end Members

end Json

end SelectorNavigation

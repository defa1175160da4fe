import SelectorNavigation.Text.Basic

/-!
# JSON values

The members of an object keep the order in which their keys first occur.  Setting
a key again replaces its value at the place it already has.  Numbers are kept as
they are spelled.
-/

namespace SelectorNavigation

/-- A JSON value. -/
inductive Json where
  | null
  | bool (value : Bool)
  | number (spelling : Text)
  | string (text : Text)
  | array (items : List Json)
  | object (members : List (Text × Json))

namespace Json

/-- The members of an object in order. -/
abbrev Members := List (Text × Json)

/-- Set a key: at its place if it occurs, at the end otherwise. -/
def Members.put (members : Members) (key : Text) (value : Json) : Members :=
  match members with
  | [] => [(key, value)]
  | member :: rest =>
      if member.1 == key then (key, value) :: rest
      else member :: Members.put rest key value

/-- Setting a key keeps the keys, and adds the key at the end if it is new. -/
theorem Members.keys_put (members : Members) (key : Text) (value : Json) :
    (members.put key value).map (·.1) =
      if key ∈ members.map (·.1) then members.map (·.1) else members.map (·.1) ++ [key] := by
  induction members with
  | nil => simp [Members.put]
  | cons member rest ih =>
      by_cases same : member.1 = key
      · simp [Members.put, same]
      · have different : key ≠ member.1 := fun equal => same equal.symm
        simp only [Members.put, beq_iff_eq, same, if_false, List.map_cons, ih,
          List.mem_cons, different, false_or]
        split <;> simp

/-- Set all members of a list one after the other. -/
def Members.putAll (members added : Members) : Members :=
  added.foldl (fun members member => members.put member.1 member.2) members

/-- The members of a value that is an object. -/
def members? : Json → Option Members
  | .object members => some members
  | _ => none

/-- The items of a value that is an array. -/
def items? : Json → Option (List Json)
  | .array items => some items
  | _ => none

end Json

end SelectorNavigation

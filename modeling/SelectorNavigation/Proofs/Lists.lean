import SelectorNavigation.Text.Basic
import Mathlib.Data.List.Induction
import Mathlib.Data.List.Sort
import Mathlib.Data.List.TakeWhile

/-!
# Lists that are split, sorted or cleared of repetitions

Pieces without the separator come back when their spelling is split, and an ending without the
separator belongs to the last piece.  Sorting by distinct keys gives a strict order, and lists in
a strict order are the same if their members are.
-/

namespace SelectorNavigation

/-- The pieces between separators hold no separator. -/
theorem separates_eq_false_of_mem_splitOnP {α : Type} {separates : α → Bool} {list piece : List α}
    (member : piece ∈ list.splitOnP separates) : ∀ item ∈ piece, separates item = false := by
  induction list generalizing piece with
  | nil =>
      rw [List.splitOnP_nil, List.mem_singleton] at member
      simp [member]
  | cons first list ih =>
      rw [List.splitOnP_cons_eq_if_modifyHead] at member
      split at member
      · rcases List.mem_cons.mp member with rfl | later
        · simp
        · exact ih later
      · rename_i other
        cases pieces : list.splitOnP separates with
        | nil => simp [pieces] at member
        | cons head rest =>
            rw [pieces] at ih member
            rcases List.mem_cons.mp member with rfl | later
            · intro item isItem
              rcases List.mem_cons.mp isItem with rfl | inHead
              · simpa using other
              · exact ih List.mem_cons_self item inHead
            · exact ih (List.mem_cons_of_mem _ later)

/-- Pieces that each stand behind a separator come back when their spelling is split. -/
theorem splitOn_flatMap_cons {α : Type} [DecidableEq α] {separator : α} (first : List α)
    {pieces : List (List α)} (firstFree : separator ∉ first)
    (free : ∀ piece ∈ pieces, separator ∉ piece) :
    (first ++ pieces.flatMap (separator :: ·)).splitOn separator = first :: pieces := by
  induction pieces generalizing first with
  | nil => simpa using List.splitOn_eq_singleton firstFree
  | cons next pieces ih =>
      obtain ⟨nextFree, restFree⟩ := List.forall_mem_cons.mp free
      rw [List.flatMap_cons, List.cons_append, List.splitOn_append_cons_self,
        ih next nextFree restFree, List.splitOn_eq_singleton firstFree, List.singleton_append]

section Separators

variable {α : Type} {separator : α} {word : List α}

/-- An ending without a separator lies behind every separator. -/
theorem isSuffix_append_cons_iff (free : separator ∉ word) (front rest : List α) :
    word <:+ front ++ separator :: rest ↔ word <:+ rest := by
  constructor
  · intro ending
    rcases List.suffix_or_suffix_of_suffix ending (List.suffix_append _ _) with within | around
    · rcases List.suffix_cons_iff.mp within with rfl | behind
      · exact absurd List.mem_cons_self free
      · exact behind
    · exact absurd (around.subset List.mem_cons_self) free
  · intro ending
    exact ending.trans ⟨front ++ [separator], by simp⟩

theorem isSuffix_flatMap_cons_iff (free : separator ∉ word) (pieces : List (List α))
    (last : List α) :
    word <:+ (pieces ++ [last]).flatMap (separator :: ·) ↔ word <:+ last := by
  simpa using isSuffix_append_cons_iff free (pieces.flatMap (separator :: ·)) last

theorem cons_intercalate {pieces : List (List α)} (occupied : pieces ≠ []) :
    separator :: [separator].intercalate pieces = pieces.flatMap (separator :: ·) := by
  induction pieces with
  | nil => contradiction
  | cons piece pieces ih =>
      cases pieces with
      | nil => simp
      | cons next pieces => simpa [List.intercalate_cons_cons] using ih (by simp)

theorem isSuffix_intercalate_iff (free : separator ∉ word) (pieces : List (List α))
    (last : List α) :
    word <:+ [separator].intercalate (pieces ++ [last]) ↔ word <:+ last := by
  rw [← isSuffix_append_cons_iff free [], List.nil_append, cons_intercalate (by simp),
    isSuffix_flatMap_cons_iff free]

end Separators

/-- Items that satisfy a condition are taken up to the first one that does not. -/
theorem takeWhile_append_of_head {α : Type} {holds : α → Bool} {front rest : List α}
    (held : ∀ item ∈ front, holds item) (stopped : ∀ item ∈ rest.head?, holds item = false) :
    (front ++ rest).takeWhile holds = front := by
  rw [List.takeWhile_append_of_pos held]
  cases rest with
  | nil => simp
  | cons item rest => simp [stopped item rfl]

theorem dropWhile_append_of_head {α : Type} {holds : α → Bool} {front rest : List α}
    (held : ∀ item ∈ front, holds item) (stopped : ∀ item ∈ rest.head?, holds item = false) :
    (front ++ rest).dropWhile holds = rest := by
  rw [List.dropWhile_append_of_pos held]
  cases rest with
  | nil => rfl
  | cons item rest => simp [stopped item rfl]

/-- Sorting by distinct keys puts the keys in strictly increasing order. -/
theorem pairwise_mergeSort_keys {α : Type} (key : α → Bytes) {items : List α}
    (distinct : (items.map key).Nodup) :
    (items.mergeSort fun first second => decide (key first ≤ key second)).Pairwise
      fun first second => key first < key second := by
  have permuted := items.mergeSort_perm fun first second => decide (key first ≤ key second)
  have transitive : ∀ first second third : α,
      decide (key first ≤ key second) → decide (key second ≤ key third) →
        decide (key first ≤ key third) :=
    fun first second third firstLe secondLe =>
      decide_eq_true (List.le_trans (of_decide_eq_true firstLe) (of_decide_eq_true secondLe))
  have total : ∀ first second : α,
      decide (key first ≤ key second) || decide (key second ≤ key first) := by
    intro first second
    simpa using List.le_total (key first) (key second)
  have sorted := List.pairwise_mergeSort transitive total items
  have different := List.pairwise_map.mp ((permuted.map key).nodup_iff.mpr distinct)
  refine sorted.imp₂ (fun first second le ne => ?_) different
  exact List.not_le.mp fun ge => ne (List.le_antisymm (of_decide_eq_true le) ge)

/-- Two lists in the same strict order with the same members are the same. -/
theorem eq_of_pairwise_of_mem_iff {α : Type} {precedes : α → α → Prop}
    (asymmetric : ∀ first second, precedes first second → ¬ precedes second first)
    {items others : List α} (ordered : items.Pairwise precedes)
    (othersOrdered : others.Pairwise precedes) (same : ∀ item, item ∈ items ↔ item ∈ others) :
    items = others := by
  have irreflexive : Std.Irrefl precedes := ⟨fun item self => asymmetric item item self self⟩
  have antisymmetric : Std.Antisymm precedes :=
    ⟨fun first second less greater => absurd greater (asymmetric first second less)⟩
  exact ordered.eq_of_mem_iff othersOrdered same

theorem eraseDups_eq_self {α : Type} [DecidableEq α] {items : List α} (distinct : items.Nodup) :
    items.eraseDups = items := by
  induction items with
  | nil => rfl
  | cons item items ih =>
      obtain ⟨absent, others⟩ := List.nodup_cons.mp distinct
      have kept : ∀ other ∈ items, (!other == item) = true := by
        intro other member
        simpa using fun same : other = item => absent (same ▸ member)
      rw [List.eraseDups_cons, List.filter_eq_self.mpr kept, ih others]

theorem lookup_cons_of_ne {α β : Type} [BEq α] [LawfulBEq α] {key other : α} (value : β)
    (rest : List (α × β)) (different : other ≠ key) :
    ((key, value) :: rest).lookup other = rest.lookup other := by
  have unequal : (other == key) = false := beq_eq_false_iff_ne.mpr different
  rw [List.lookup_cons, unequal]

/-- Among entries with distinct keys, each is found under its own key. -/
theorem lookup_eq_some_of_mem {α β : Type} [BEq α] [LawfulBEq α] {entries : List (α × β)} {key : α}
    {value : β} (distinct : (entries.map (·.1)).Nodup) (member : (key, value) ∈ entries) :
    entries.lookup key = some value := by
  obtain ⟨before, after, rfl⟩ := List.append_of_mem member
  refine List.lookup_eq_some_iff.mpr ⟨before, after, rfl, fun entry earlier => ?_⟩
  rw [List.map_append, List.nodup_append] at distinct
  have apart : entry.1 ≠ key := distinct.2.2 _ (List.mem_map_of_mem earlier) _ (by simp)
  simpa using apart.symm

theorem eraseDups_append_singleton {α : Type} [BEq α] [LawfulBEq α] (items : List α) (item : α) :
    (items ++ [item]).eraseDups =
      if item ∈ items then items.eraseDups else items.eraseDups ++ [item] := by
  rw [List.eraseDups_append]
  split <;> rename_i present <;> simp [List.removeAll, List.eraseDups_cons, present]

theorem nodup_eraseDups {α : Type} [BEq α] [LawfulBEq α] (items : List α) :
    items.eraseDups.Nodup := by
  induction items using List.reverseRecOn with
  | nil => exact List.nodup_nil
  | append_singleton items item ih =>
      rw [eraseDups_append_singleton]
      split
      · exact ih
      · rename_i absent
        have fresh : item ∉ items.eraseDups := by simpa using absent
        simpa using List.Nodup.concat fresh ih

end SelectorNavigation

import SelectorNavigation.Proofs.Usages
import Mathlib.Order.Bounds.Basic

/-!
# Which usage a search finds

A search looks for the first place at which an alternative matches.  Names may be anything
here, so several alternatives can match at one place, and one alternative behind the bracket
alone as well as behind the bracket and a parenthesis.  The alternative that stands first in
the list is meant to win there, with the shorter lead if both fit.  It does if one of the
alternatives is an element.  A list of attributes is tried behind leads of one character as a
whole before it is tried behind the pair, so that a later alternative, whose name begins with
the parenthesis, can come before an earlier one.
-/

namespace SelectorNavigation

/-- The part of a text from the first boundary that is not in front of `start`. -/
theorem Text.exists_fromOffset (start offset : Nat) (text : Text) :
    ∃ front rest, text.fromOffset start offset = (offset + front.byteLength, rest) ∧
      text = front ++ rest ∧
      (start ≤ offset + text.byteLength → start ≤ offset + front.byteLength) ∧
      ∀ earlier later, text = earlier ++ later → start ≤ offset + earlier.byteLength →
        front <+: earlier := by
  induction text generalizing offset with
  | nil => exact ⟨[], [], rfl, rfl, id, fun _ _ _ _ => List.nil_prefix⟩
  | cons character text ih =>
      rw [fromOffset]
      by_cases reached : start ≤ offset
      · rw [if_pos reached]
        exact ⟨[], _, rfl, rfl, fun _ => by simpa using reached, fun _ _ _ _ => List.nil_prefix⟩
      · rw [if_neg reached]
        obtain ⟨front, rest, stopped, rfl, beyond, least⟩ := ih (offset + character.utf8Size)
        refine ⟨character :: front, rest, ?_, rfl, ?_, ?_⟩
        · rw [stopped, byteLength_cons, Nat.add_assoc]
        · simpa [Nat.add_assoc] using beyond
        · intro earlier later split behind
          cases earlier with
          | nil => simp [reached] at behind
          | cons first earlier =>
              obtain ⟨rfl, sameTail⟩ := List.cons.inj split
              rw [byteLength_cons, ← Nat.add_assoc] at behind
              exact List.cons_prefix_cons.mpr ⟨rfl, least earlier later sameTail behind⟩

namespace Alternative

/-- The text begins with a usage of the alternative that has the given leading delimiter. -/
def Begins (alternative : Alternative) (text lead : Text) : Prop :=
  ∃ after, alternative.IsLead lead ∧ alternative.Closed after ∧
    text = lead ++ (alternative.name ++ after)

variable {alternative other : Alternative} {text lead otherLead : Text}

theorem Begins.isPrefix (begins : alternative.Begins text lead) : lead <+: text := by
  obtain ⟨after, -, -, rfl⟩ := begins
  exact List.prefix_append _ _

theorem Begins.isPrefix_of_length_le (begins : alternative.Begins text lead)
    (otherBegins : other.Begins text otherLead) (shorter : lead.length ≤ otherLead.length) :
    lead <+: otherLead :=
  List.prefix_of_prefix_length_le begins.isPrefix otherBegins.isPrefix shorter

theorem Begins.lead_eq (begins : alternative.Begins text lead)
    (otherBegins : other.Begins text otherLead) (sameLength : lead.length = otherLead.length) :
    lead = otherLead :=
  (begins.isPrefix_of_length_le otherBegins (Nat.le_of_eq sameLength)).eq_of_length sameLength

/-- A leading delimiter is a single character or the pair. -/
theorem Begins.length_eq_one_or (begins : alternative.Begins text lead) :
    lead.length = 1 ∨ lead = ['[', '('] := by
  obtain ⟨after, isLead, -, -⟩ := begins
  cases isLead with
  | tag | sign => exact .inl rfl
  | pair => exact .inr rfl

theorem Begins.length_pos (begins : alternative.Begins text lead) : 1 ≤ lead.length := by
  rcases begins.length_eq_one_or with one | rfl
  · exact Nat.le_of_eq one.symm
  · decide

/-- Where the pair is a lead, the bracket is the only lead of one character. -/
theorem Begins.eq_bracket (begins : alternative.Begins text lead)
    (pairBegins : other.Begins text ['[', '(']) (one : lead.length = 1) : lead = ['['] := by
  obtain ⟨character, rfl⟩ := List.length_eq_one_iff.mp one
  have isPrefix := begins.isPrefix_of_length_le pairBegins (by simp)
  obtain ⟨rfl, -⟩ := List.cons_prefix_cons.mp isPrefix
  rfl

theorem begins_take {size : Nat} (isSize : size ∈ alternative.leads text)
    (starts : alternative.startsText (text.drop size)) :
    (text.take size).length = size ∧ alternative.Begins text (text.take size) := by
  obtain ⟨lead, rest, isLead, rfl, rfl⟩ := mem_leads_iff.mp isSize
  rw [List.drop_left] at starts
  obtain ⟨after, rfl, closed⟩ := startsText_iff.mp starts
  rw [List.take_left]
  exact ⟨rfl, after, isLead, closed, rfl⟩

theorem Begins.mem_leads (begins : alternative.Begins text lead) :
    lead.length ∈ alternative.leads text ∧ alternative.startsText (text.drop lead.length) := by
  obtain ⟨after, isLead, closed, rfl⟩ := begins
  refine ⟨mem_leads_iff.mpr ⟨lead, _, isLead, rfl, rfl⟩, ?_⟩
  rw [List.drop_left]
  exact startsText_iff.mpr ⟨after, rfl, closed⟩

theorem pairwise_leads (alternative : Alternative) (text : Text) :
    (alternative.leads text).Pairwise (· < ·) := by
  cases text with
  | nil => cases alternative <;> exact List.Pairwise.nil
  | cons character rest =>
      cases alternative with
      | element name =>
          simp only [leads]
          split <;> simp
      | attr name =>
          simp only [leads]
          split <;> split <;> simp

end Alternative

namespace Matcher

variable {matcher : Matcher} {text : Text} {alternative other : Alternative}
  {lead otherLead : Text} {start : Nat} {range : ByteRange}

/-- The first alternative of the list that has a property. -/
def IsFirst (matcher : Matcher) (holds : Alternative → Prop) (alternative : Alternative) : Prop :=
  ∃ before after, matcher.alternatives = before ++ alternative :: after ∧ holds alternative ∧
    ∀ earlier ∈ before, ¬ holds earlier

/-- The first alternative of the list that begins the text, with the shortest of its leads. -/
def FirstInList (matcher : Matcher) (text : Text) (alternative : Alternative) (lead : Text) :
    Prop :=
  matcher.IsFirst (fun any => ∃ otherLead, any.Begins text otherLead) alternative ∧
    alternative.Begins text lead ∧
    ∀ otherLead, alternative.Begins text otherLead → lead.length ≤ otherLead.length

/-- The shortest lead behind which any alternative begins the text, with the first alternative
of the list that has a lead of this length. -/
def FirstByLead (matcher : Matcher) (text : Text) (alternative : Alternative) (lead : Text) :
    Prop :=
  matcher.IsFirst
      (fun any => ∃ otherLead, any.Begins text otherLead ∧ otherLead.length = lead.length)
      alternative ∧
    alternative.Begins text lead ∧
    ∀ any ∈ matcher.alternatives, ∀ otherLead, any.Begins text otherLead →
      lead.length ≤ otherLead.length

/-- The choice of a search among the alternatives that begin the text. -/
def Chooses (matcher : Matcher) (text : Text) (alternative : Alternative) (lead : Text) : Prop :=
  if matcher.alternatives.all Alternative.isAttr then matcher.FirstByLead text alternative lead
  else matcher.FirstInList text alternative lead

/-- Among attributes, the first that begins the text does so behind the pair only, while
another one takes the parenthesis for the beginning of its name. -/
def Preempted (matcher : Matcher) (text : Text) : Prop :=
  matcher.alternatives.all Alternative.isAttr ∧
    ∃ first, matcher.FirstInList text first ['[', '('] ∧
      ∃ later ∈ matcher.alternatives, later.Begins text ['[']

/-- The bytes from `start` on at which an alternative begins with its leading delimiter. -/
def offsets (matcher : Matcher) (text : Text) (start : Nat) : Set Nat :=
  {offset | start ≤ offset ∧ ∃ front rest, text = front ++ rest ∧ offset = front.byteLength ∧
    ∃ alternative ∈ matcher.alternatives, ∃ lead, alternative.Begins rest lead}

/-- The division of a text at the first of the offsets. -/
def FirstPlace (matcher : Matcher) (text : Text) (start : Nat) (front rest : Text) : Prop :=
  text = front ++ rest ∧ IsLeast (matcher.offsets text start) front.byteLength

/-- The range holds the name of the alternative that is chosen at the first place. -/
def Finds (matcher : Matcher) (chooses : Matcher → Text → Alternative → Text → Prop)
    (text : Text) (start : Nat) (range : ByteRange) : Prop :=
  ∃ front rest alternative lead, matcher.FirstPlace text start front rest ∧
    chooses matcher rest alternative lead ∧
    range = Hit.range ⟨lead, alternative.name⟩ front.byteLength

section Order

variable {holds : Alternative → Prop}

theorem isFirst_iff_find? [DecidablePred holds] :
    matcher.IsFirst holds alternative ↔
      matcher.alternatives.find? (fun any => holds any) = some alternative := by
  rw [List.find?_eq_some_iff_append]
  constructor
  · rintro ⟨before, after, split, isHeld, unheld⟩
    exact ⟨by simpa using isHeld, before, after, split, by simpa using unheld⟩
  · rintro ⟨isHeld, before, after, split, unheld⟩
    exact ⟨before, after, split, by simpa using isHeld, by simpa using unheld⟩

theorem IsFirst.unique (first : matcher.IsFirst holds alternative)
    (second : matcher.IsFirst holds other) : alternative = other := by
  classical
  exact Option.some.inj ((isFirst_iff_find?.mp first).symm.trans (isFirst_iff_find?.mp second))

theorem IsFirst.mem (first : matcher.IsFirst holds alternative) :
    alternative ∈ matcher.alternatives := by
  obtain ⟨before, after, split, -, -⟩ := first
  simp [split]

theorem IsFirst.isHeld (first : matcher.IsFirst holds alternative) : holds alternative := by
  obtain ⟨-, -, -, isHeld, -⟩ := first
  exact isHeld

theorem IsFirst.mono {stronger : Alternative → Prop} (first : matcher.IsFirst holds alternative)
    (implies : ∀ any, stronger any → holds any) (isHeld : stronger alternative) :
    matcher.IsFirst stronger alternative := by
  obtain ⟨before, after, split, -, unheld⟩ := first
  refine ⟨before, after, split, isHeld, fun earlier isEarlier isStronger => ?_⟩
  exact unheld earlier isEarlier (implies earlier isStronger)

theorem exists_isFirst (member : alternative ∈ matcher.alternatives) (isHeld : holds alternative) :
    ∃ first, matcher.IsFirst holds first := by
  classical
  have found : (matcher.alternatives.find? fun any => holds any).isSome := by
    rw [List.find?_isSome]
    exact ⟨alternative, member, by simpa using isHeld⟩
  obtain ⟨first, isFirst⟩ := Option.isSome_iff_exists.mp found
  exact ⟨first, isFirst_iff_find?.mpr isFirst⟩

theorem FirstInList.unique (first : matcher.FirstInList text alternative lead)
    (second : matcher.FirstInList text other otherLead) :
    alternative = other ∧ lead = otherLead := by
  obtain ⟨isFirst, begins, shortest⟩ := first
  obtain ⟨otherIsFirst, otherBegins, otherShortest⟩ := second
  obtain rfl := isFirst.unique otherIsFirst
  have sameLength := Nat.le_antisymm (shortest _ otherBegins) (otherShortest _ begins)
  exact ⟨rfl, begins.lead_eq otherBegins sameLength⟩

theorem FirstByLead.unique (first : matcher.FirstByLead text alternative lead)
    (second : matcher.FirstByLead text other otherLead) :
    alternative = other ∧ lead = otherLead := by
  obtain ⟨isFirst, begins, shortest⟩ := first
  obtain ⟨otherIsFirst, otherBegins, otherShortest⟩ := second
  have sameLength := Nat.le_antisymm (shortest _ otherIsFirst.mem _ otherBegins)
    (otherShortest _ isFirst.mem _ begins)
  rw [← sameLength] at otherIsFirst
  exact ⟨isFirst.unique otherIsFirst, begins.lead_eq otherBegins sameLength⟩

theorem Chooses.unique (first : matcher.Chooses text alternative lead)
    (second : matcher.Chooses text other otherLead) :
    alternative = other ∧ lead = otherLead := by
  unfold Chooses at first second
  split at first
  · rename_i attributes
    rw [if_pos attributes] at second
    exact first.unique second
  · rename_i mixed
    rw [if_neg mixed] at second
    exact first.unique second

theorem Chooses.begins (chosen : matcher.Chooses text alternative lead) :
    alternative ∈ matcher.alternatives ∧ alternative.Begins text lead := by
  unfold Chooses at chosen
  split at chosen
  · exact ⟨chosen.1.mem, chosen.2.1⟩
  · exact ⟨chosen.1.mem, chosen.2.1⟩

theorem exists_firstInList (member : alternative ∈ matcher.alternatives)
    (begins : alternative.Begins text lead) :
    ∃ first shortest, matcher.FirstInList text first shortest := by
  have matching : ∃ first, matcher.IsFirst (fun any => ∃ otherLead, any.Begins text otherLead)
      first := exists_isFirst member ⟨lead, begins⟩
  obtain ⟨first, isFirst⟩ := matching
  obtain ⟨some, someBegins⟩ := isFirst.isHeld
  by_cases single : ∃ short, first.Begins text short ∧ short.length = 1
  · obtain ⟨short, shortBegins, one⟩ := single
    refine ⟨first, short, isFirst, shortBegins, fun otherLead otherBegins => ?_⟩
    rw [one]
    exact otherBegins.length_pos
  · refine ⟨first, some, isFirst, someBegins, fun otherLead otherBegins => ?_⟩
    rcases otherBegins.length_eq_one_or with one | rfl
    · exact absurd ⟨otherLead, otherBegins, one⟩ single
    · rcases someBegins.length_eq_one_or with one | rfl
      · rw [one]
        exact otherBegins.length_pos
      · exact Nat.le_refl _

/-- The first attribute of the list is chosen unless another one is found behind a shorter
lead. -/
theorem FirstInList.firstByLead_or (first : matcher.FirstInList text alternative lead) :
    matcher.FirstByLead text alternative lead ∨
      lead = ['[', '('] ∧ ∃ later ∈ matcher.alternatives, later.Begins text ['['] := by
  obtain ⟨isFirst, begins, -⟩ := first
  have isFirstOfLength : matcher.IsFirst (fun any => ∃ otherLead, any.Begins text otherLead ∧
      otherLead.length = lead.length) alternative :=
    isFirst.mono (fun _ ⟨otherLead, otherBegins, _⟩ => ⟨otherLead, otherBegins⟩)
      ⟨lead, begins, rfl⟩
  rcases begins.length_eq_one_or with one | rfl
  · refine .inl ⟨isFirstOfLength, begins, fun any _ otherLead otherBegins => ?_⟩
    rw [one]
    exact otherBegins.length_pos
  · by_cases bracketed : ∃ later ∈ matcher.alternatives, later.Begins text ['[']
    · exact .inr ⟨rfl, bracketed⟩
    · refine .inl ⟨isFirstOfLength, begins, fun any isAny otherLead otherBegins => ?_⟩
      rcases otherBegins.length_eq_one_or with one | rfl
      · obtain rfl := otherBegins.eq_bracket begins one
        exact absurd ⟨any, isAny, otherBegins⟩ bracketed
      · exact Nat.le_refl _

theorem chooses_iff_firstInList (unpreempted : ¬ matcher.Preempted text) :
    matcher.Chooses text alternative lead ↔ matcher.FirstInList text alternative lead := by
  unfold Chooses
  split
  · rename_i attributes
    have byLead : ∀ {first shortest}, matcher.FirstInList text first shortest →
        matcher.FirstByLead text first shortest := by
      intro first shortest inList
      rcases inList.firstByLead_or with chosen | ⟨rfl, later⟩
      · exact chosen
      · exact absurd ⟨attributes, first, inList, later⟩ unpreempted
    constructor
    · intro chosen
      obtain ⟨first, shortest, inList⟩ := exists_firstInList chosen.1.mem chosen.2.1
      obtain ⟨rfl, rfl⟩ := chosen.unique (byLead inList)
      exact inList
    · exact byLead
  · exact Iff.rfl

end Order

theorem find?_attemptsInOrder {accepts : Alternative × Nat → Bool} {size : Nat}
    (found : (matcher.attemptsInOrder text).find? accepts = some (alternative, size)) :
    ∃ before after, matcher.alternatives = before ++ alternative :: after ∧
      size ∈ alternative.leads text ∧ accepts (alternative, size) ∧
      (∀ earlier ∈ before, ∀ otherSize ∈ earlier.leads text, ¬ accepts (earlier, otherSize)) ∧
      ∀ otherSize ∈ alternative.leads text, accepts (alternative, otherSize) →
        size ≤ otherSize := by
  rw [attemptsInOrder, List.find?_flatMap, List.findSome?_eq_some_iff] at found
  obtain ⟨before, chosen, after, split, isChosen, refused⟩ := found
  rw [List.find?_map] at isChosen
  obtain ⟨least, isLeast, same⟩ := Option.map_eq_some_iff.mp isChosen
  obtain ⟨rfl, rfl⟩ := Prod.mk.inj same
  have accepted : accepts (chosen, least) := by simpa using List.find?_some isLeast
  refine ⟨before, after, split, List.mem_of_find?_eq_some isLeast, accepted, ?_, ?_⟩
  · intro earlier isEarlier otherSize isSize
    exact List.find?_eq_none.mp (refused earlier isEarlier) _
      (List.mem_map.mpr ⟨otherSize, isSize, rfl⟩)
  · obtain ⟨-, smaller, larger, sorted, unaccepted⟩ := List.find?_eq_some_iff_append.mp isLeast
    have ascending := chosen.pairwise_leads text
    intro otherSize isSize otherAccepted
    rw [sorted] at isSize ascending
    rcases List.mem_append.mp isSize with isSmaller | isLater
    · have unfit := unaccepted otherSize isSmaller
      simp [otherAccepted] at unfit
    · rcases List.mem_cons.mp isLater with rfl | isLarger
      · exact Nat.le_refl _
      · have less := (List.pairwise_cons.mp (List.pairwise_append.mp ascending).2.1).1
        exact Nat.le_of_lt (less otherSize isLarger)

theorem firstInList_of_find? {size : Nat}
    (found : (matcher.attemptsInOrder text).find?
      (fun attempt => attempt.1.startsText (text.drop attempt.2)) = some (alternative, size)) :
    matcher.FirstInList text alternative (text.take size) := by
  obtain ⟨before, after, split, isSize, starts, refused, least⟩ := find?_attemptsInOrder found
  obtain ⟨length, begins⟩ := Alternative.begins_take isSize starts
  refine ⟨⟨before, after, split, ⟨_, begins⟩, ?_⟩, begins, ?_⟩
  · rintro earlier isEarlier ⟨otherLead, otherBegins⟩
    obtain ⟨isOther, otherStarts⟩ := otherBegins.mem_leads
    exact refused earlier isEarlier _ isOther otherStarts
  · intro otherLead otherBegins
    obtain ⟨isOther, otherStarts⟩ := otherBegins.mem_leads
    rw [length]
    exact least _ isOther otherStarts

theorem firstByLead_of_find? {size : Nat}
    (found : ((matcher.attemptsInOrder text).filter (·.2 == 1) ++
        (matcher.attemptsInOrder text).filter (·.2 != 1)).find?
      (fun attempt => attempt.1.startsText (text.drop attempt.2)) = some (alternative, size)) :
    matcher.FirstByLead text alternative (text.take size) := by
  rw [List.find?_append, Option.or_eq_some_iff, List.find?_filter, List.find?_filter] at found
  rcases found with single | ⟨noSingle, double⟩
  · obtain ⟨before, after, split, isSize, accepted, refused, -⟩ := find?_attemptsInOrder single
    simp only [beq_iff_eq, decide_eq_true_eq] at accepted refused
    obtain ⟨rfl, starts⟩ := accepted
    obtain ⟨length, begins⟩ := Alternative.begins_take isSize starts
    refine ⟨⟨before, after, split, ⟨_, begins, rfl⟩, ?_⟩, begins, ?_⟩
    · rintro earlier isEarlier ⟨otherLead, otherBegins, sameLength⟩
      obtain ⟨isOther, otherStarts⟩ := otherBegins.mem_leads
      rw [sameLength, length] at isOther otherStarts
      exact refused earlier isEarlier 1 isOther ⟨rfl, otherStarts⟩
    · intro any _ otherLead otherBegins
      rw [length]
      exact otherBegins.length_pos
  · obtain ⟨before, after, split, isSize, accepted, refused, -⟩ := find?_attemptsInOrder double
    simp only [bne_iff_ne, ne_eq, decide_eq_true_eq] at accepted refused
    obtain ⟨length, begins⟩ := Alternative.begins_take isSize accepted.2
    -- Nothing was found behind one character, so every lead is the pair.
    have isPair : ∀ any ∈ matcher.alternatives, ∀ otherLead, any.Begins text otherLead →
        otherLead = ['[', '('] := by
      intro any isAny otherLead otherBegins
      refine otherBegins.length_eq_one_or.resolve_left fun one => ?_
      obtain ⟨isOther, otherStarts⟩ := otherBegins.mem_leads
      rw [one] at isOther otherStarts
      have attempted : (any, 1) ∈ matcher.attemptsInOrder text :=
        mem_attemptsInOrder_iff.mpr ⟨isAny, isOther⟩
      exact List.find?_eq_none.mp noSingle _ attempted (decide_eq_true ⟨rfl, otherStarts⟩)
    have member : alternative ∈ matcher.alternatives := by simp [split]
    refine ⟨⟨before, after, split, ⟨_, begins, rfl⟩, ?_⟩, begins, ?_⟩
    · rintro earlier isEarlier ⟨otherLead, otherBegins, sameLength⟩
      obtain ⟨isOther, otherStarts⟩ := otherBegins.mem_leads
      rw [sameLength, length] at isOther otherStarts
      exact refused earlier isEarlier size isOther ⟨accepted.1, otherStarts⟩
    · intro any isAny otherLead otherBegins
      rw [isPair any isAny otherLead otherBegins, isPair alternative member _ begins]

theorem chooses_of_hitAt? {hit : Hit} (found : matcher.hitAt? text = some hit) :
    ∃ alternative, hit.name = alternative.name ∧ matcher.Chooses text alternative hit.lead := by
  obtain ⟨⟨alternative, size⟩, chosen, rfl⟩ := Option.map_eq_some_iff.mp found
  refine ⟨alternative, rfl, ?_⟩
  simp only [attempts] at chosen
  unfold Chooses
  split at chosen
  · rename_i attributes
    rw [if_pos attributes]
    exact firstByLead_of_find? chosen
  · rename_i mixed
    rw [if_neg mixed]
    exact firstInList_of_find? chosen

theorem not_begins_of_hitAt? (missing : matcher.hitAt? text = none)
    (member : alternative ∈ matcher.alternatives) : ¬ alternative.Begins text lead := by
  rintro ⟨after, isLead, closed, split⟩
  exact not_usage_of_hitAt? missing member isLead closed split

/-- A search goes on from character to character until an alternative begins. -/
theorem chooses_of_firstUsage? {offset : Nat} {behind : Text}
    (found : matcher.firstUsage? offset text = some (range, behind)) :
    ∃ skipped rest alternative lead, text = skipped ++ rest ∧
      matcher.Chooses rest alternative lead ∧
      range = Hit.range ⟨lead, alternative.name⟩ (offset + skipped.byteLength) ∧
      ∀ earlier later, text = earlier ++ later → earlier.byteLength < skipped.byteLength →
        ∀ any ∈ matcher.alternatives, ∀ otherLead, ¬ any.Begins later otherLead := by
  induction text generalizing offset with
  | nil => simp [firstUsage?] at found
  | cons character text ih =>
      simp only [firstUsage?] at found
      split at found
      · rename_i hit isHit
        simp only [Option.some.injEq, Prod.mk.injEq] at found
        obtain ⟨rfl, -⟩ := found
        obtain ⟨alternative, named, chosen⟩ := chooses_of_hitAt? isHit
        refine ⟨[], _, alternative, hit.lead, rfl, chosen, ?_, ?_⟩
        · rw [← named, Text.byteLength_nil, Nat.add_zero]
        · intro earlier later _ shorter
          simp at shorter
      · rename_i missing
        obtain ⟨skipped, rest, alternative, lead, rfl, chosen, rfl, unmatched⟩ := ih found
        refine ⟨character :: skipped, rest, alternative, lead, rfl, chosen, ?_, ?_⟩
        · rw [Text.byteLength_cons, Nat.add_assoc]
        · intro earlier later split shorter any isAny otherLead
          cases earlier with
          | nil =>
              obtain rfl : _ = later := split
              exact not_begins_of_hitAt? missing isAny
          | cons first earlier =>
              obtain ⟨rfl, sameTail⟩ := List.cons.inj split
              simp only [Text.byteLength_cons, Nat.add_lt_add_iff_left] at shorter
              exact unmatched earlier later sameTail shorter any isAny otherLead

theorem not_begins_of_firstUsage? {offset : Nat}
    (missing : matcher.firstUsage? offset text = none) {earlier later : Text}
    (split : text = earlier ++ later) (member : alternative ∈ matcher.alternatives) :
    ¬ alternative.Begins later lead := by
  rintro ⟨after, isLead, closed, rfl⟩
  exact not_usageIn_of_firstUsage? missing
    ⟨alternative, member, earlier, lead, after, split, isLead, closed, rfl⟩

theorem FirstPlace.unique {front rest otherFront otherRest : Text}
    (first : matcher.FirstPlace text start front rest)
    (second : matcher.FirstPlace text start otherFront otherRest) :
    front = otherFront ∧ rest = otherRest := by
  obtain ⟨split, least⟩ := first
  obtain ⟨otherSplit, otherLeast⟩ := second
  have same : front ++ rest = otherFront ++ otherRest := split.symm.trans otherSplit
  obtain rfl := Text.append_inj_of_byteLength same (least.unique otherLeast)
  exact ⟨rfl, List.append_cancel_left same⟩

theorem Finds.unique {other : ByteRange} (first : matcher.Finds Chooses text start range)
    (second : matcher.Finds Chooses text start other) : range = other := by
  obtain ⟨front, rest, alternative, lead, place, chosen, rfl⟩ := first
  obtain ⟨otherFront, otherRest, otherAlternative, otherLead, otherPlace, otherChosen, rfl⟩ := second
  obtain ⟨rfl, rfl⟩ := place.unique otherPlace
  obtain ⟨rfl, rfl⟩ := chosen.unique otherChosen
  rfl

/-- An offset from `start` on lies behind the boundary that the search moves to. -/
theorem exists_skipped_of_mem_offsets {front rest : Text} {offset : Nat}
    (first : ∀ earlier later, front ++ rest = earlier ++ later → start ≤ earlier.byteLength →
      front <+: earlier)
    (member : offset ∈ matcher.offsets (front ++ rest) start) :
    ∃ skipped later, rest = skipped ++ later ∧ offset = (front ++ skipped).byteLength ∧
      ∃ alternative ∈ matcher.alternatives, ∃ lead, alternative.Begins later lead := by
  obtain ⟨behind, earlier, later, split, rfl, matching⟩ := member
  obtain ⟨skipped, rfl⟩ := first earlier later split behind
  rw [List.append_assoc] at split
  exact ⟨skipped, later, List.append_cancel_left split, rfl, matching⟩

theorem search_cases (matcher : Matcher) (inside : start ≤ text.byteLength) :
    matcher.search text start = .ok none ∧ matcher.offsets text start = ∅ ∨
      ∃ range, matcher.search text start = .ok (some range) ∧
        matcher.Finds Chooses text start range := by
  obtain ⟨front, rest, moved, rfl, reached, first⟩ := Text.exists_fromOffset start 0 text
  simp only [Nat.zero_add] at moved reached first
  have searched : matcher.search (front ++ rest) start =
      .ok ((matcher.firstUsage? front.byteLength rest).map (·.1)) := by
    rw [search, if_pos (Nat.le_succ_of_le inside), findAt?, moved]
  rw [searched]
  cases found : matcher.firstUsage? front.byteLength rest with
  | none =>
      refine .inl ⟨rfl, Set.eq_empty_of_forall_notMem fun offset member => ?_⟩
      obtain ⟨skipped, later, split, -, alternative, isAlternative, lead, begins⟩ :=
        exists_skipped_of_mem_offsets first member
      exact not_begins_of_firstUsage? found split isAlternative begins
  | some usage =>
      obtain ⟨range, behind⟩ := usage
      obtain ⟨skipped, rest, alternative, lead, rfl, chosen, rfl, unmatched⟩ :=
        chooses_of_firstUsage? found
      refine .inr ⟨_, rfl, front ++ skipped, rest, alternative, lead, ⟨by simp, ?_, ?_⟩, chosen,
        by simp⟩
      · refine ⟨?_, front ++ skipped, rest, by simp, rfl, alternative, chosen.begins.1, lead,
          chosen.begins.2⟩
        have enough := reached inside
        rw [Text.byteLength_append]
        omega
      · intro offset member
        obtain ⟨earlier, later, split, rfl, any, isAny, otherLead, begins⟩ :=
          exists_skipped_of_mem_offsets first member
        simp only [Text.byteLength_append, Nat.add_le_add_iff_left]
        by_contra shorter
        exact unmatched earlier later split (Nat.lt_of_not_le shorter) any isAny otherLead begins

theorem search_eq_none_iff (inside : start ≤ text.byteLength) :
    matcher.search text start = .ok none ↔ matcher.offsets text start = ∅ := by
  rcases matcher.search_cases inside with ⟨missing, empty⟩ | ⟨range, found, finds⟩
  · exact iff_of_true missing empty
  · obtain ⟨front, rest, alternative, lead, ⟨-, member, -⟩, -, -⟩ := finds
    refine iff_of_false ?_ (Set.nonempty_of_mem member).ne_empty
    simp [found]

theorem search_eq_some_iff (inside : start ≤ text.byteLength) :
    matcher.search text start = .ok (some range) ↔ matcher.Finds Chooses text start range := by
  rcases matcher.search_cases inside with ⟨missing, empty⟩ | ⟨other, found, finds⟩
  · refine iff_of_false (by simp [missing]) ?_
    rintro ⟨front, rest, alternative, lead, ⟨-, member, -⟩, -, -⟩
    simp [empty] at member
  · rw [found, Except.ok.injEq, Option.some.injEq]
    constructor
    · rintro rfl
      exact finds
    · exact finds.unique

/-- The bracket is followed by a parenthesis, which closes no name. -/
theorem Preempted.exists_parenthesis (preempted : matcher.Preempted text) :
    ∃ alternative ∈ matcher.alternatives, alternative.name.head? = some '(' := by
  obtain ⟨-, first, ⟨-, ⟨after, -, -, rfl⟩, -⟩, later, member, otherAfter, isLead, closed, split⟩ :=
    preempted
  refine ⟨later, member, ?_⟩
  have sameTail : '(' :: (first.name ++ after) = later.name ++ otherAfter := by
    simpa using split
  cases named : later.name with
  | nil =>
      obtain ⟨character, rest, rfl, closing⟩ := Alternative.closed_iff.mp closed
      rw [named] at sameTail
      obtain ⟨rfl, -⟩ := List.cons.inj sameTail
      have unclosing : later.closes '(' = false := by cases later <;> rfl
      rw [unclosing] at closing
      contradiction
  | cons character name =>
      rw [named] at sameTail
      obtain ⟨rfl, -⟩ := List.cons.inj sameTail
      rfl

/-- Where an attribute is preempted, the search finds a name that begins one byte earlier. -/
theorem Preempted.chooses_bracket (preempted : matcher.Preempted text)
    (chosen : matcher.Chooses text alternative lead) : lead = ['['] := by
  obtain ⟨attributes, first, ⟨-, pairBegins, -⟩, later, member, laterBegins⟩ := preempted
  rw [Chooses, if_pos attributes] at chosen
  obtain ⟨-, begins, shortest⟩ := chosen
  have short := shortest later member _ laterBegins
  exact begins.eq_bracket pairBegins (Nat.le_antisymm short begins.length_pos)

/-- A search from an offset inside the text, which need not be a boundary, finds nothing
exactly if no alternative begins from there on.  Otherwise it finds the name that is chosen at
the first place where one does.  This is the first alternative in the list order, with the
shortest of its leads, exactly if that one is not preempted there by another attribute, whose
name then begins with a parenthesis. -/
theorem search_follows_list_order_iff (matcher : Matcher) {text : Text} {start : Nat}
    (inside : start ≤ text.byteLength) :
    (matcher.search text start = .ok none ↔ matcher.offsets text start = ∅) ∧
      (∀ range, matcher.search text start = .ok (some range) ↔
        matcher.Finds Chooses text start range) ∧
      ((∀ range, matcher.search text start = .ok (some range) ↔
          matcher.Finds FirstInList text start range) ↔
        ∀ front rest, matcher.FirstPlace text start front rest → ¬ matcher.Preempted rest) ∧
      ∀ rest, matcher.Preempted rest →
        ∃ alternative ∈ matcher.alternatives, alternative.name.head? = some '(' := by
  refine ⟨search_eq_none_iff inside, fun range => search_eq_some_iff inside, ⟨?_, ?_⟩,
    fun rest => Preempted.exists_parenthesis⟩
  · rintro listed front rest place preempted
    obtain ⟨-, first, inList, -⟩ := id preempted
    have found := (listed _).mpr ⟨front, rest, first, _, place, inList, rfl⟩
    obtain ⟨otherFront, otherRest, alternative, lead, otherPlace, chosen, same⟩ :=
      (search_eq_some_iff inside).mp found
    obtain ⟨rfl, rfl⟩ := place.unique otherPlace
    obtain rfl := preempted.chooses_bracket chosen
    have sameLead : Text.byteLength ['[', '('] = Text.byteLength ['['] :=
      Nat.add_left_cancel (congrArg ByteRange.start same)
    exact absurd sameLead (by decide)
  · intro unpreempted range
    rw [search_eq_some_iff inside]
    constructor
    · rintro ⟨front, rest, alternative, lead, place, chosen, rfl⟩
      exact ⟨front, rest, alternative, lead, place,
        (chooses_iff_firstInList (unpreempted front rest place)).mp chosen, rfl⟩
    · rintro ⟨front, rest, alternative, lead, place, inList, rfl⟩
      exact ⟨front, rest, alternative, lead, place,
        (chooses_iff_firstInList (unpreempted front rest place)).mpr inList, rfl⟩

/-- With an element in the list, the first attribute is found although the second one begins
behind the bracket alone.  The search starts inside a character. -/
theorem search_follows_list_order_with_element :
    let matcher : Matcher := ⟨[.attr ['a'], .attr ['(', 'a'], .element []], by simp⟩
    let text : Text := "é[(a)".toList
    1 ≤ text.byteLength ∧ matcher.search text 1 = .ok (some ⟨4, 5⟩) ∧
      matcher.Finds FirstInList text 1 ⟨4, 5⟩ := by
  intro matcher text
  have inside : 1 ≤ text.byteLength := by decide
  have found : matcher.search text 1 = .ok (some ⟨4, 5⟩) := by decide +kernel
  have unpreempted : ∀ rest, ¬ matcher.Preempted rest := by
    rintro rest ⟨attributes, -⟩
    exact absurd attributes (by decide)
  obtain ⟨-, -, listed, -⟩ := matcher.search_follows_list_order_iff inside
  exact ⟨inside, found, (listed.mpr (fun _ rest _ => unpreempted rest) _).mp found⟩

/-- Of two attributes the second is found, although the first one begins at the same place. -/
theorem search_finds_second_attribute :
    let matcher : Matcher := ⟨[.attr ['a'], .attr ['(', 'a']], by simp⟩
    let text : Text := "[(a)".toList
    matcher.search text 0 = .ok (some ⟨1, 3⟩) ∧ matcher.Finds FirstInList text 0 ⟨2, 3⟩ := by
  intro matcher text
  have begins : Alternative.Begins (.attr ['a']) text ['[', '('] :=
    ⟨[')'], .pair _, ⟨')', by decide, by decide⟩, rfl⟩
  have member : Alternative.attr ['a'] ∈ matcher.alternatives := List.mem_cons_self
  refine ⟨by decide +kernel, [], text, .attr ['a'], ['[', '('], ⟨rfl, ?_, ?_⟩, ⟨?_, begins, ?_⟩,
    by decide⟩
  · exact ⟨Nat.le_refl _, [], text, rfl, rfl, _, member, _, begins⟩
  · exact fun offset _ => Nat.zero_le offset
  · exact ⟨[], _, rfl, ⟨_, begins⟩, by simp⟩
  · intro otherLead otherBegins
    rcases otherBegins.length_eq_one_or with one | rfl
    · obtain rfl := otherBegins.eq_bracket begins one
      obtain ⟨after, -, -, split⟩ := otherBegins
      simp [text, Alternative.name] at split
    · exact Nat.le_refl _

end Matcher

end SelectorNavigation

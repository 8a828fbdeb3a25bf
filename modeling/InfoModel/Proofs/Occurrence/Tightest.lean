/-
**The cardinality of a notation is the smallest one that admits its counts.**

An occurrence forgets the upper bound of its notation, and of an occurrence that may be several the
cardinality forgets the minimum. What is kept is just what tells the three cardinalities apart.

* `Spans` reads off a text between which counts its bounds lie, and `Allows` which counts a notation
  allows. Neither looks at what is read;
* `exists_allows_iff`: what is read is the least of these counts, and whether one above one is among
  them;
* `Cardinality.ofOccurrence?_tightest`: so the cardinality admits every count that is allowed, and
  any other one that does so admits all that it admits.
-/

import InfoModel.Proofs.Occurrence.Grammar
import InfoModel.Schema.Cardinality

namespace InfoModel

namespace Occurrence

open Text (Trims trim_eq_iff)
open Text.Numeral (Denotes)

/-! ### Allowed counts -/

/-- **An upper bound** is no limit, or the largest count. -/
inductive Ceiling : List Char → Option Nat → Prop where
  | unlimited {text : List Char} (unlimited : Unlimited text) : Ceiling text none
  | number {text : List Char} {largest : Nat} (denotes : Denotes text largest) :
      Ceiling text (some largest)

/-- **The bounds of a text**, surrounding blanks apart: a least count, and a largest one unless
there is no limit. -/
inductive Spans : List Char → Nat → Option Nat → Prop where
  /-- No limit alone starts at zero. -/
  | unlimited {text : List Char} (unlimited : Unlimited text) : Spans text 0 none
  /-- One bound counts for both ends. -/
  | single {text : List Char} {count : Nat} (plain : ¬ ['.', '.'] <:+: text)
      (denotes : Denotes text count) : Spans text count (some count)
  /-- Two bounds with `..` between them. -/
  | range {text before after lower upper : List Char} {least : Nat} {largest : Option Nat}
      (range : FirstRange text before after) (left : Trims before lower) (right : Trims after upper)
      (lowest : Denotes lower least) (ceiling : Ceiling upper largest) : Spans text least largest

/-- **A notation allows a count** between its bounds. -/
def Allows (written : String) (count : Nat) : Prop :=
  ∃ core least largest, Trims written.toList core ∧ Spans core least largest ∧
    least ≤ count ∧ ∀ limit ∈ largest, count ≤ limit

theorem Ceiling.unique {text : List Char} {largest other : Option Nat}
    (first : Ceiling text largest) (second : Ceiling text other) : largest = other := by
  cases first with
  | unlimited unlimited =>
      cases second with
      | unlimited => rfl
      | number denotes => exact absurd denotes (unlimited.not_denotes _)
  | number denotes =>
      cases second with
      | unlimited unlimited => exact absurd denotes (unlimited.not_denotes _)
      | number again => rw [denotes.unique again]

/-- A range holds `..`. -/
theorem FirstRange.infix {text before after : List Char} (range : FirstRange text before after) :
    ['.', '.'] <:+: text :=
  ⟨before, after, by simp [range.parts]⟩

/-- **A text has no other bounds.** -/
theorem Spans.unique {text : List Char} {least otherLeast : Nat} {largest otherLargest : Option Nat}
    (first : Spans text least largest) (second : Spans text otherLeast otherLargest) :
    least = otherLeast ∧ largest = otherLargest := by
  cases first with
  | unlimited unlimited =>
      cases second with
      | unlimited => exact ⟨rfl, rfl⟩
      | single _ denotes => exact absurd denotes (unlimited.not_denotes _)
      | range range => exact absurd range.infix unlimited.not_infix
  | single plain denotes =>
      cases second with
      | unlimited unlimited => exact absurd denotes (unlimited.not_denotes _)
      | single _ again =>
          obtain rfl := denotes.unique again
          exact ⟨rfl, rfl⟩
      | range range => exact absurd range.infix plain
  | range range left right lowest ceiling =>
      cases second with
      | unlimited unlimited => exact absurd range.infix unlimited.not_infix
      | single plain => exact absurd range.infix plain
      | range again againLeft againRight againLowest againCeiling =>
          obtain ⟨rfl, rfl⟩ := range.unique again
          rw [← trim_eq_iff] at left right againLeft againRight
          rw [left] at againLeft
          rw [right] at againRight
          subst againLeft againRight
          exact ⟨lowest.unique againLowest, ceiling.unique againCeiling⟩

/-- **What a text stands for, by its bounds**: the least count, and whether all of its limits are
above one. There is a count between the bounds, and one above zero. -/
theorem Spells.exists_spans {text : List Char} {occurrence : Occurrence}
    (spells : Spells text occurrence) : ∃ largest, Spans text occurrence.min.toNat largest ∧
      (occurrence.multi = true ↔ ∀ limit ∈ largest, 1 < limit) ∧
      ∀ limit ∈ largest, 1 ≤ limit ∧ occurrence.min.toNat ≤ limit := by
  have several : ∀ max : UInt32,
      (decide (1 < max) = true ↔ ∀ limit ∈ some max.toNat, 1 < limit) := by
    intro max
    rw [decide_eq_true_iff, UInt32.lt_iff_toNat_lt]
    simp
  cases spells with
  | unlimited unlimited => exact ⟨none, .unlimited unlimited, by simp, nofun⟩
  | single plain denotes positive =>
      refine ⟨_, .single plain denotes, several _, ?_⟩
      rintro _ ⟨⟩
      exact ⟨UInt32.le_iff_toNat_le.mp positive, Nat.le_refl _⟩
  | upward range left right lowest unlimited =>
      exact ⟨none, .range range left right lowest (.unlimited unlimited), by simp, nofun⟩
  | within range left right lowest highest positive ordered =>
      refine ⟨_, .range range left right lowest (.number highest), several _, ?_⟩
      rintro _ ⟨⟩
      exact ⟨UInt32.le_iff_toNat_le.mp positive, UInt32.le_iff_toNat_le.mp ordered⟩

/-- **The counts that a notation allows**, by what is read from it. -/
theorem exists_allows_iff {written : String} {occurrence : Occurrence}
    (read : read? written = .ok occurrence) : ∃ largest : Option Nat,
      (∀ count, Allows written count ↔
        occurrence.min.toNat ≤ count ∧ ∀ limit ∈ largest, count ≤ limit) ∧
      (occurrence.multi = true ↔ ∀ limit ∈ largest, 1 < limit) ∧
      ∀ limit ∈ largest, 1 ≤ limit ∧ occurrence.min.toNat ≤ limit := by
  obtain ⟨core, trims, spells⟩ := read?_eq_ok_iff.mp read
  obtain ⟨largest, spans, several, above⟩ := spells.exists_spans
  refine ⟨largest, fun count => ⟨?_, ?_⟩, several, above⟩
  · intro ⟨other, least, limits, otherTrims, otherSpans, between⟩
    rw [← trim_eq_iff] at trims otherTrims
    rw [trims] at otherTrims
    subst otherTrims
    obtain ⟨rfl, rfl⟩ := spans.unique otherSpans
    exact between
  · intro between
    exact ⟨core, _, _, trims, spans, between⟩

end Occurrence

/-! ### Cardinalities -/

namespace Cardinality

open Occurrence (Allows read? exists_allows_iff)

/-- **The counts that a cardinality admits.** -/
def Admits : Cardinality → Nat → Prop
  | .required, count => count = 1
  | .optional, count => count ≤ 1
  | .multi, _ => True

variable {written : String} {occurrence : Occurrence}

/-- The cardinality of a notation admits the counts that the notation allows. -/
theorem admits_of_allows (read : read? written = .ok occurrence) {count : Nat}
    (allows : Allows written count) : (ofOccurrence occurrence).Admits count := by
  obtain ⟨largest, allowed, several, above⟩ := exists_allows_iff read
  obtain ⟨least, limited⟩ := (allowed count).mp allows
  unfold ofOccurrence
  by_cases multi : occurrence.multi = true
  · rw [if_pos multi]
    exact trivial
  · -- a limit that is not above one is one
    rw [if_neg multi]
    rw [several] at multi
    push Not at multi
    obtain ⟨limit, isLimit, notAbove⟩ := multi
    have below := limited limit isLimit
    by_cases zero : occurrence.min = 0
    · rw [if_pos zero]
      exact Nat.le_trans below notAbove
    · rw [if_neg zero]
      have positive : occurrence.min.toNat ≠ 0 := fun none => zero (UInt32.toNat_inj.mp none)
      show count = 1
      omega

/-- **A cardinality that admits the counts of a notation admits all that the notation's own one
does.** -/
theorem admits_of_forall_allows (read : read? written = .ok occurrence) {other : Cardinality}
    (admits : ∀ count, Allows written count → other.Admits count) {count : Nat}
    (own : (ofOccurrence occurrence).Admits count) : other.Admits count := by
  obtain ⟨largest, allowed, several, above⟩ := exists_allows_iff read
  unfold ofOccurrence at own
  by_cases multi : occurrence.multi = true
  · -- the largest allowed count is above one, or any count above the minimum is allowed
    have beyond : ∃ large, 1 < large ∧ Allows written large := by
      cases largest with
      | none =>
          exact ⟨occurrence.min.toNat + 2, by omega, (allowed _).mpr ⟨by omega, nofun⟩⟩
      | some limit =>
          refine ⟨limit, several.mp multi limit rfl, (allowed _).mpr ⟨(above limit rfl).2, ?_⟩⟩
          rintro _ ⟨⟩
          exact Nat.le_refl _
    obtain ⟨large, aboveOne, isAllowed⟩ := beyond
    have admitted := admits large isAllowed
    cases other with
    | required => exact absurd admitted (Nat.ne_of_gt aboveOne)
    | optional => exact absurd admitted (Nat.not_le_of_gt aboveOne)
    | multi => exact trivial
  · rw [if_neg multi] at own
    by_cases zero : occurrence.min = 0
    · rw [if_pos zero] at own
      have none : Allows written 0 := by
        rw [allowed, zero]
        exact ⟨Nat.le_refl 0, fun limit _ => Nat.zero_le limit⟩
      cases other with
      | required => cases admits 0 none
      | optional => exact own
      | multi => exact trivial
    · rw [if_neg zero] at own
      obtain rfl : count = 1 := own
      cases other with
      | required => rfl
      | optional => exact Nat.le_refl 1
      | multi => exact trivial

/-- **The cardinality of a notation is the smallest that fits.** It does not depend on what is usual.
It admits every count that the notation allows, and any other cardinality that does so admits all
that it admits. Some count is allowed. -/
theorem ofOccurrence?_tightest (read : read? written = .ok occurrence) (usual : Cardinality) :
    (∀ other, ofOccurrence? (some occurrence) usual = ofOccurrence? (some occurrence) other) ∧
    (∃ count, Allows written count) ∧
    (∀ count, Allows written count → (ofOccurrence? (some occurrence) usual).Admits count) ∧
    ∀ other : Cardinality, (∀ count, Allows written count → other.Admits count) →
      ∀ count, (ofOccurrence? (some occurrence) usual).Admits count → other.Admits count := by
  refine ⟨fun other => rfl, ?_, fun count => admits_of_allows read,
    fun other admits count => admits_of_forall_allows read admits⟩
  obtain ⟨largest, allowed, -, above⟩ := exists_allows_iff read
  exact ⟨_, (allowed _).mpr ⟨Nat.le_refl _, fun limit isLimit => (above limit isLimit).2⟩⟩

/-- Leading zeros, a sign and blanks do not count: exactly one. -/
theorem ofOccurrence?_tightest_padded :
    read? " 01 .. +1 " = .ok ⟨1, false⟩ ∧ Allows " 01 .. +1 " 1 ∧
      ofOccurrence? (some ⟨1, false⟩) .multi = .required := by
  have read : read? " 01 .. +1 " = .ok ⟨1, false⟩ := by rfl
  obtain ⟨-, ⟨count, allowed⟩, admits, -⟩ := ofOccurrence?_tightest read .multi
  obtain rfl : count = 1 := admits count allowed
  exact ⟨read, allowed, rfl⟩

end Cardinality

end InfoModel

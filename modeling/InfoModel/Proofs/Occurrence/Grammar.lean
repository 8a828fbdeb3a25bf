/-
**The grammar of occurrences.**

* `FirstRange` cuts a text at its first `..` (`splitRange_eq_some_iff`);
* `Spells` lists the texts without surrounding blanks that stand for an occurrence: no limit, one
  bound for both ends, or a minimum and an upper bound;
* `read?_eq_ok_iff`, `exists_read?_eq_error_iff`: these are the texts that are read, and every other
  text is reported as it was written.
-/

import InfoModel.Occurrence
import InfoModel.Proofs.Text.Blank
import InfoModel.Proofs.Text.Numeral

namespace InfoModel.Occurrence

open Text (Trims trim trim_eq_iff)
open Text.Numeral (Denotes word? word?_eq_some_iff)

/-! ### Ranges -/

/-- **The first `..` of a text** stands between two parts. -/
structure FirstRange (text before after : List Char) : Prop where
  parts : text = before ++ '.' :: '.' :: after
  first : ∀ other behind, text = other ++ '.' :: '.' :: behind → before.length ≤ other.length

/-- A text that does not start with `..` has its first one in the rest. -/
theorem firstRange_cons_iff {char : Char} {rest before after : List Char}
    (notHere : ∀ behind, char :: rest ≠ '.' :: '.' :: behind) :
    FirstRange (char :: rest) before after ↔
      ∃ lower, before = char :: lower ∧ FirstRange rest lower after := by
  apply Iff.intro
  · intro ⟨parts, first⟩
    cases before with
    | nil => exact absurd parts (notHere after)
    | cons head lower =>
        obtain ⟨rfl, inRest⟩ := List.cons.inj parts
        refine ⟨lower, rfl, inRest, fun other behind same => ?_⟩
        exact Nat.le_of_succ_le_succ (first (char :: other) behind (congrArg _ same))
  · intro ⟨lower, named, parts, first⟩
    subst named
    refine ⟨congrArg _ parts, fun other behind same => ?_⟩
    cases other with
    | nil => exact absurd same (notHere behind)
    | cons head other =>
        exact Nat.succ_le_succ (first other behind (List.cons.inj same).2)

/-- **A text is split at its first `..`.** -/
theorem splitRange_eq_some_iff {text before after : List Char} :
    splitRange text = some (before, after) ↔ FirstRange text before after := by
  induction text using splitRange.induct generalizing before with
  | case1 rest =>
      rw [splitRange]
      apply Iff.intro
      · intro same
        cases same
        exact ⟨rfl, fun _ _ _ => Nat.zero_le _⟩
      · intro ⟨parts, first⟩
        obtain rfl := List.eq_nil_of_length_eq_zero (Nat.le_zero.mp (first [] rest rfl))
        cases parts
        rfl
  | case2 char rest notHere ih =>
      have differs : ∀ behind, char :: rest ≠ '.' :: '.' :: behind := by
        intro behind same
        obtain ⟨isDot, others⟩ := List.cons.inj same
        exact notHere behind isDot others
      rw [splitRange.eq_2 char rest notHere, firstRange_cons_iff differs, Option.map_eq_some_iff]
      apply Iff.intro
      · intro ⟨(lower, upper), found, same⟩
        cases same
        exact ⟨lower, rfl, ih.mp found⟩
      · intro ⟨lower, named, inRest⟩
        exact ⟨(lower, after), ih.mpr inRest, congrArg (·, after) named.symm⟩
  | case3 =>
      apply Iff.intro
      · nofun
      · intro ⟨parts, _⟩
        simp at parts

/-- A text that is not split holds no `..`. -/
theorem splitRange_eq_none_iff {text : List Char} :
    splitRange text = none ↔ ¬ ['.', '.'] <:+: text := by
  induction text using splitRange.induct with
  | case1 rest =>
      rw [splitRange]
      apply Iff.intro
      · nofun
      · intro absent
        exact absurd ⟨[], rest, rfl⟩ absent
  | case2 char rest notHere ih =>
      rw [splitRange.eq_2 char rest notHere, Option.map_eq_none_iff, ih, List.infix_cons_iff,
        not_or]
      refine (and_iff_right ?_).symm
      intro ⟨behind, same⟩
      obtain ⟨isDot, others⟩ := List.cons.inj same
      exact notHere behind isDot.symm others.symm
  | case3 => simp [splitRange]

/-- The parts before and behind the first `..` are unique. -/
theorem FirstRange.unique {text before after otherBefore otherAfter : List Char}
    (first : FirstRange text before after) (second : FirstRange text otherBefore otherAfter) :
    before = otherBefore ∧ after = otherAfter := by
  have found := splitRange_eq_some_iff.mpr first
  rw [splitRange_eq_some_iff.mpr second] at found
  cases found
  exact ⟨rfl, rfl⟩

/-! ### Bounds -/

/-- The bound "no limit". -/
inductive Unlimited : List Char → Prop where
  | asterisk : Unlimited ['*']
  | small : Unlimited ['n']
  | capital : Unlimited ['N']

theorem isUnbounded_iff {text : List Char} : isUnbounded text = true ↔ Unlimited text := by
  unfold isUnbounded
  apply Iff.intro
  · intro found
    simp only [Bool.or_eq_true, beq_iff_eq] at found
    rcases found with (rfl | rfl) | rfl
    · exact .asterisk
    · exact .small
    · exact .capital
  · intro unlimited
    cases unlimited <;> rfl

/-- "No limit" is written with a character that stands in no number. -/
theorem Unlimited.exists_mem {text : List Char} (unlimited : Unlimited text) :
    ∃ char ∈ text, Text.Numeral.isDigit char = false ∧ char ≠ '+' ∧ char ≠ '-' := by
  cases unlimited with
  | _ => exact ⟨_, List.mem_cons_self, by decide⟩

/-- No limit is no number. -/
theorem Unlimited.not_denotes {text : List Char} (unlimited : Unlimited text) (number : Nat) :
    ¬ Denotes text number := by
  intro denotes
  obtain ⟨char, member, noDigit, noPlus, -⟩ := unlimited.exists_mem
  rcases denotes.mem member with digit | plus
  · rw [noDigit] at digit
    cases digit
  · exact noPlus plus

/-- **What two bounds stand for.** -/
theorem between_eq_ok_iff {lower upper : List Char} {occurrence : Occurrence} :
    between lower upper = .ok occurrence ↔ ∃ min : UInt32, Denotes lower min.toNat ∧
      (Unlimited upper ∧ occurrence = ⟨min, true⟩ ∨ ∃ max : UInt32, Denotes upper max.toNat ∧
        1 ≤ max ∧ min ≤ max ∧ occurrence = ⟨min, decide (1 < max)⟩) := by
  simp only [← word?_eq_some_iff]
  unfold between
  cases lowest : word? lower with
  | none => simp
  | some min =>
      simp only [Option.some.injEq, exists_eq_left']
      by_cases unlimited : isUnbounded upper = true
      · have noNumber : word? upper = none := by
          refine Option.eq_none_iff_forall_ne_some.mpr fun max found => ?_
          exact (isUnbounded_iff.mp unlimited).not_denotes _ (word?_eq_some_iff.mp found)
        simp [unlimited, noNumber, isUnbounded_iff.mp unlimited, eq_comm]
      · have limited : ¬ Unlimited upper := fun found => unlimited (isUnbounded_iff.mpr found)
        simp only [if_neg unlimited, limited, false_and, false_or]
        cases highest : word? upper with
        | none => simp
        | some max =>
            simp only [Option.some.injEq, exists_eq_left']
            by_cases below : max < min
            · simp [below, UInt32.not_le.mpr below]
            rw [if_neg below]
            by_cases zero : max = 0
            · simp [zero]
            · have positive : 1 ≤ max := by
                rw [← UInt32.toNat_inj] at zero
                rw [UInt32.le_iff_toNat_le]
                exact Nat.one_le_iff_ne_zero.mpr zero
              simp [zero, positive, UInt32.not_lt.mp below, eq_comm]

/-! ### Occurrences -/

/-- **A text stands for an occurrence**, surrounding blanks apart. -/
inductive Spells : List Char → Occurrence → Prop where
  /-- No limit: any number. -/
  | unlimited {text : List Char} (unlimited : Unlimited text) : Spells text ⟨0, true⟩
  /-- One bound, above zero, counts for both ends. -/
  | single {text : List Char} {count : UInt32} (plain : ¬ ['.', '.'] <:+: text)
      (denotes : Denotes text count.toNat) (positive : 1 ≤ count) :
      Spells text ⟨count, decide (1 < count)⟩
  /-- A minimum, and no limit. -/
  | upward {text before after lower upper : List Char} {min : UInt32}
      (range : FirstRange text before after) (left : Trims before lower) (right : Trims after upper)
      (lowest : Denotes lower min.toNat) (unlimited : Unlimited upper) : Spells text ⟨min, true⟩
  /-- A minimum and an upper bound that is above zero and not below it. -/
  | within {text before after lower upper : List Char} {min max : UInt32}
      (range : FirstRange text before after) (left : Trims before lower) (right : Trims after upper)
      (lowest : Denotes lower min.toNat) (highest : Denotes upper max.toNat) (positive : 1 ≤ max)
      (ordered : min ≤ max) : Spells text ⟨min, decide (1 < max)⟩

section Range

variable {text before after : List Char} {occurrence : Occurrence}

/-- No limit is no range. -/
theorem Unlimited.not_infix (unlimited : Unlimited text) : ¬ ['.', '.'] <:+: text := by
  intro found
  have longer := found.length_le
  cases unlimited with
  | _ => exact absurd longer (by decide)

/-- **A range stands for what its bounds stand for.** -/
theorem spells_of_range (range : FirstRange text before after) :
    Spells text occurrence ↔ between (trim before) (trim after) = .ok occurrence := by
  have holds : ['.', '.'] <:+: text := ⟨before, after, by simp [range.parts]⟩
  rw [between_eq_ok_iff]
  apply Iff.intro
  · intro spells
    cases spells with
    | unlimited unlimited => exact absurd holds unlimited.not_infix
    | single plain => exact absurd holds plain
    | upward same left right lowest unlimited =>
        obtain ⟨rfl, rfl⟩ := range.unique same
        rw [trim_eq_iff.mpr left, trim_eq_iff.mpr right]
        exact ⟨_, lowest, Or.inl ⟨unlimited, rfl⟩⟩
    | within same left right lowest highest positive ordered =>
        obtain ⟨rfl, rfl⟩ := range.unique same
        rw [trim_eq_iff.mpr left, trim_eq_iff.mpr right]
        exact ⟨_, lowest, Or.inr ⟨_, highest, positive, ordered, rfl⟩⟩
  · intro ⟨min, lowest, upper⟩
    rcases upper with ⟨unlimited, rfl⟩ | ⟨max, highest, positive, ordered, rfl⟩
    · exact .upward range (trim_eq_iff.mp rfl) (trim_eq_iff.mp rfl) lowest unlimited
    · exact .within range (trim_eq_iff.mp rfl) (trim_eq_iff.mp rfl) lowest highest positive ordered

/-- **A text without `..`** is a single bound or no limit. -/
theorem spells_of_plain (plain : ¬ ['.', '.'] <:+: text) : Spells text occurrence ↔
    between (if isUnbounded text then ['0'] else text) text = .ok occurrence := by
  have noRange : ∀ before after, ¬ FirstRange text before after := by
    intro before after range
    exact plain ⟨before, after, by simp [range.parts]⟩
  rw [between_eq_ok_iff]
  apply Iff.intro
  · intro spells
    cases spells with
    | unlimited unlimited =>
        rw [if_pos (isUnbounded_iff.mpr unlimited)]
        exact ⟨0, Text.Numeral.denotes_toDigits 0, Or.inl ⟨unlimited, rfl⟩⟩
    | single _ denotes positive =>
        rw [if_neg fun found => (isUnbounded_iff.mp found).not_denotes _ denotes]
        exact ⟨_, denotes, Or.inr ⟨_, denotes, positive, UInt32.le_refl _, rfl⟩⟩
    | upward range => exact absurd range (noRange _ _)
    | within range => exact absurd range (noRange _ _)
  · intro ⟨min, lowest, upper⟩
    by_cases unlimited : Unlimited text
    · rw [if_pos (isUnbounded_iff.mpr unlimited)] at lowest
      have zero := lowest.unique (Text.Numeral.denotes_toDigits 0)
      rcases upper with ⟨-, rfl⟩ | ⟨max, highest, -⟩
      · obtain rfl : min = 0 := UInt32.toNat_inj.mp zero
        exact .unlimited unlimited
      · exact absurd highest (unlimited.not_denotes _)
    · rw [if_neg fun found => unlimited (isUnbounded_iff.mp found)] at lowest
      rcases upper with ⟨found, -⟩ | ⟨max, highest, positive, -, rfl⟩
      · exact absurd found unlimited
      · obtain rfl : min = max := UInt32.toNat_inj.mp (lowest.unique highest)
        exact .single plain lowest positive

end Range

/-- The empty text stands for nothing. -/
theorem not_spells_nil (occurrence : Occurrence) : ¬ Spells [] occurrence := by
  rw [spells_of_plain (by simp)]
  intro found
  cases found

/-- What is read from a range. -/
theorem ofChars_of_range {text before after : List Char}
    (range : FirstRange (trim text) before after) :
    ofChars text = between (trim before) (trim after) := by
  have nonempty : (trim text).isEmpty = false := by
    rw [range.parts]
    simp
  unfold ofChars bounds
  simp only [nonempty, splitRange_eq_some_iff.mpr range, if_neg Bool.false_ne_true]

/-- What is read from a text without `..`. -/
theorem ofChars_of_plain {text : List Char} (nonempty : trim text ≠ [])
    (plain : ¬ ['.', '.'] <:+: trim text) :
    ofChars text = between (if isUnbounded (trim text) then ['0'] else trim text) (trim text) := by
  unfold ofChars bounds
  simp only [List.isEmpty_eq_false_iff.mpr nonempty, splitRange_eq_none_iff.mpr plain,
    if_neg Bool.false_ne_true]
  by_cases unlimited : isUnbounded (trim text) = true
  · simp only [if_pos unlimited]
  · simp only [if_neg unlimited]

/-- **The characters that stand for an occurrence**, blanks around them apart. -/
theorem ofChars_eq_ok_iff {text : List Char} {occurrence : Occurrence} :
    ofChars text = .ok occurrence ↔ Spells (trim text) occurrence := by
  cases split : splitRange (trim text) with
  | some parts =>
      have range := splitRange_eq_some_iff.mp split
      rw [ofChars_of_range range, spells_of_range range]
  | none =>
      have plain := splitRange_eq_none_iff.mp split
      by_cases empty : trim text = []
      · rw [empty]
        refine iff_of_false ?_ (not_spells_nil occurrence)
        unfold ofChars
        rw [empty]
        nofun
      · rw [ofChars_of_plain empty plain, spells_of_plain plain]

/-- **The texts that are read** are those of the grammar. -/
theorem read?_eq_ok_iff {written : String} {occurrence : Occurrence} :
    read? written = .ok occurrence ↔
      ∃ core, Trims written.toList core ∧ Spells core occurrence := by
  have read : read? written = .ok occurrence ↔ ofChars written.toList = .ok occurrence := by
    unfold read?
    cases ofChars written.toList with
    | ok found => simp
    | error flaw => exact iff_of_false nofun nofun
  rw [read, ofChars_eq_ok_iff]
  apply Iff.intro
  · intro spells
    exact ⟨_, trim_eq_iff.mp rfl, spells⟩
  · intro ⟨core, trims, spells⟩
    rw [trim_eq_iff.mpr trims]
    exact spells

/-- A digit is no blank. -/
theorem isBlank_of_isDigit {char : Char} (isDigit : Text.Numeral.isDigit char = true) :
    Text.isBlank char = false := by
  simp only [Text.Numeral.isDigit, Bool.and_eq_true, decide_eq_true_eq] at isDigit
  have low : 48 ≤ char.toNat := isDigit.1
  have high : char.toNat ≤ 57 := isDigit.2
  simp only [Text.isBlank, Bool.or_eq_false_iff, Bool.and_eq_false_iff, decide_eq_false_iff_not,
    beq_eq_false_iff_ne]
  omega

/-- A text without blanks is read if it is one of the grammar. -/
theorem read?_eq_ok_iff_of_solid {written : String} {occurrence : Occurrence}
    (solid : ∀ char ∈ written.toList, Text.isBlank char = false) :
    read? written = .ok occurrence ↔ Spells written.toList occurrence := by
  rw [read?_eq_ok_iff]
  apply Iff.intro
  · intro ⟨core, trims, spells⟩
    rw [← trim_eq_iff, Text.trim_eq_self solid] at trims
    exact trims ▸ spells
  · intro spells
    exact ⟨_, trim_eq_iff.mp (Text.trim_eq_self solid), spells⟩

/-- **Every other text is reported as it was written.** -/
theorem exists_read?_eq_error_iff {written : String} :
    (∃ flaw, read? written = .error ⟨written, flaw⟩) ↔
      ¬ ∃ core occurrence, Trims written.toList core ∧ Spells core occurrence := by
  apply Iff.intro
  · intro ⟨flaw, failed⟩ ⟨core, occurrence, trims, spells⟩
    rw [read?_eq_ok_iff.mpr ⟨core, trims, spells⟩] at failed
    cases failed
  · intro nothing
    cases read : ofChars written.toList with
    | ok occurrence =>
        have spells := ofChars_eq_ok_iff.mp read
        exact absurd ⟨_, occurrence, trim_eq_iff.mp rfl, spells⟩ nothing
    | error flaw =>
        refine ⟨flaw, ?_⟩
        unfold read?
        rw [read]

/-- Of three full stops the last one belongs to the upper bound, which is no number then. -/
example : read? "1...3" = .error ⟨"1...3", .upperNotNumber⟩ := by rfl

end InfoModel.Occurrence

/-
**Which occurrences are read back from what they are written as.**

An occurrence keeps of its upper bound only whether it is above one. So a minimum above one without
further occurrences is written as a range that ends before it starts.

* `read?_text`: the written text is read back, or reported as such a range;
* `exists_read?_iff`: the occurrences that are read back are the ones that any text stands for;
* `written_exact` puts both together with the other ways to give an occurrence: the bounds give every
  occurrence, counts and texts only the ones that are read back.
-/

import InfoModel.Proofs.Document.Declarations
import InfoModel.Proofs.Occurrence.Reading

namespace InfoModel.Occurrence

open Text.Numeral (word? word?_eq_some_iff denotes_toDigits isDigit_of_mem_toDigits)

/-! ### Written texts -/

/-- A `..` behind a text without full stops is the first one. -/
theorem firstRange_of_notMem {before : List Char} (noDot : '.' ∉ before) (after : List Char) :
    FirstRange (before ++ '.' :: '.' :: after) before after := by
  induction before with
  | nil => exact ⟨rfl, fun _ _ _ => Nat.zero_le _⟩
  | cons char before ih =>
      have notHere : ∀ behind, char :: (before ++ '.' :: '.' :: after) ≠ '.' :: '.' :: behind := by
        intro behind same
        exact noDot ((List.cons.inj same).1 ▸ List.mem_cons_self)
      have behind := ih fun later => noDot (List.mem_cons_of_mem char later)
      exact (firstRange_cons_iff notHere).mpr ⟨before, rfl, behind⟩

/-- **A minimum and an upper bound** are read as such. -/
theorem ofChars_range {lower upper : List Char} (noDot : '.' ∉ lower)
    (solid : ∀ char ∈ lower ++ upper, Text.isBlank char = false) :
    ofChars (lower ++ '.' :: '.' :: upper) = between lower upper := by
  have solidLower : ∀ char ∈ lower, Text.isBlank char = false :=
    fun char member => solid char (List.mem_append_left upper member)
  have solidUpper : ∀ char ∈ upper, Text.isBlank char = false :=
    fun char member => solid char (List.mem_append_right lower member)
  have whole : ∀ char ∈ lower ++ '.' :: '.' :: upper, Text.isBlank char = false := by
    intro char member
    simp only [List.mem_append, List.mem_cons] at member
    rcases member with inLower | rfl | rfl | inUpper
    · exact solidLower char inLower
    · rfl
    · rfl
    · exact solidUpper char inUpper
  have range := firstRange_of_notMem noDot upper
  rw [← Text.trim_eq_self whole] at range
  rw [ofChars_of_range range, Text.trim_eq_self solidLower, Text.trim_eq_self solidUpper]

/-- A number and an upper bound. -/
theorem ofChars_toDigits (min : UInt32) {bound : Char} (solid : Text.isBlank bound = false) :
    ofChars (Nat.toDigits 10 min.toNat ++ ['.', '.', bound])
      = between (Nat.toDigits 10 min.toNat) [bound] := by
  apply ofChars_range
  · intro dot
    cases isDigit_of_mem_toDigits dot
  · intro char member
    rcases List.mem_append.mp member with inDigits | isBound
    · exact isBlank_of_isDigit (isDigit_of_mem_toDigits inDigits)
    · rw [List.mem_singleton.mp isBound]
      exact solid

/-- **What is read from a written occurrence**: the occurrence, or a range that ends too early. -/
theorem read?_text (occurrence : Occurrence) : read? occurrence.text
    = if occurrence.multi = true ∨ occurrence.min ≤ 1 then .ok occurrence
      else .error ⟨occurrence.text, .upperBelowLower⟩ := by
  obtain ⟨min, multi⟩ := occurrence
  have digits : word? (Nat.toDigits 10 min.toNat) = some min :=
    word?_eq_some_iff.mpr (denotes_toDigits _)
  unfold read?
  cases multi with
  | true =>
      have chars : (text ⟨min, true⟩).toList = Nat.toDigits 10 min.toNat ++ ['.', '.', '*'] := by
        simp [text]
      have read : ofChars (text ⟨min, true⟩).toList = .ok ⟨min, true⟩ := by
        rw [chars, ofChars_toDigits min rfl, between, digits]
        rfl
      rw [read, if_pos (Or.inl rfl)]
  | false =>
      by_cases one : min = 1
      · subst one
        rfl
      have chars : (text ⟨min, false⟩).toList = Nat.toDigits 10 min.toNat ++ ['.', '.', '1'] := by
        simp [text, one]
      have single : word? ['1'] = some 1 := rfl
      have read : ofChars (text ⟨min, false⟩).toList
          = if 1 < min then .error .upperBelowLower else .ok ⟨min, false⟩ := by
        rw [chars, ofChars_toDigits min rfl, between, digits]
        dsimp only
        rw [if_neg (by decide), single]
        rfl
      rw [read]
      by_cases above : 1 < min
      · rw [if_pos above, if_neg (by simpa using above)]
      · rw [if_neg above, if_pos (Or.inr (UInt32.not_lt.mp above))]

theorem read?_text_eq_ok_iff {occurrence : Occurrence} :
    read? occurrence.text = .ok occurrence ↔
      occurrence.multi = true ∨ occurrence.min ≤ 1 := by
  rw [read?_text]
  by_cases kept : occurrence.multi = true ∨ occurrence.min ≤ 1
  · rw [if_pos kept]
    exact iff_of_true rfl kept
  · rw [if_neg kept]
    exact iff_of_false nofun kept

/-- **A minimum above one without further occurrences** is reported. -/
theorem read?_text_eq_error_iff {occurrence : Occurrence} :
    read? occurrence.text = .error ⟨occurrence.text, .upperBelowLower⟩ ↔
      2 ≤ occurrence.min ∧ occurrence.multi = false := by
  have other : 2 ≤ occurrence.min ∧ occurrence.multi = false ↔
      ¬ (occurrence.multi = true ∨ occurrence.min ≤ 1) := by
    rw [not_or, UInt32.not_le, Bool.not_eq_true, and_comm, UInt32.le_iff_toNat_le,
      UInt32.lt_iff_toNat_lt]
    rfl
  rw [other, read?_text]
  by_cases kept : occurrence.multi = true ∨ occurrence.min ≤ 1
  · rw [if_pos kept]
    exact iff_of_false nofun (not_not_intro kept)
  · rw [if_neg kept]
    exact iff_of_true rfl kept

/-! ### Texts that are read -/

/-- **What a text stands for** may occur several times or has a minimum of one at most. -/
theorem Spells.multi_or_min_le {text : List Char} {occurrence : Occurrence}
    (spells : Spells text occurrence) : occurrence.multi = true ∨ occurrence.min ≤ 1 := by
  cases spells with
  | unlimited => exact Or.inl rfl
  | upward => exact Or.inl rfl
  | @single count =>
      by_cases several : 1 < count
      · exact Or.inl (decide_eq_true several)
      · exact Or.inr (UInt32.not_lt.mp several)
  | @within _ _ _ _ min max _ _ _ _ _ _ ordered =>
      by_cases several : 1 < max
      · exact Or.inl (decide_eq_true several)
      · exact Or.inr (UInt32.le_trans ordered (UInt32.not_lt.mp several))

/-- **The occurrences that texts stand for** are those that are read back. -/
theorem exists_read?_iff {occurrence : Occurrence} :
    (∃ written, read? written = .ok occurrence) ↔ read? occurrence.text = .ok occurrence := by
  apply Iff.intro
  · intro ⟨written, read⟩
    obtain ⟨core, -, spells⟩ := read?_eq_ok_iff.mp read
    exact read?_text_eq_ok_iff.mpr spells.multi_or_min_le
  · intro read
    exact ⟨_, read⟩

/-- **Counts and texts of a document** give the same occurrences. -/
theorem exists_ofContent_iff {occurrence : Occurrence} :
    (∃ value, (∀ members, value ≠ .object members) ∧ ofContent value = .ok occurrence) ↔
      read? occurrence.text = .ok occurrence := by
  apply Iff.intro
  · intro ⟨value, noObject, read⟩
    rw [← exists_read?_iff]
    unfold ofContent at read
    split at read
    · split at read
      · exact ⟨_, ofText_eq_ok_iff.mp read⟩
      · cases read
    · exact ⟨_, ofText_eq_ok_iff.mp read⟩
    · exact absurd rfl (noObject _)
    · cases read
  · intro read
    exact ⟨.string occurrence.text, nofun, ofText_eq_ok_iff.mpr read⟩

/-- **Written occurrences, exactly.** An occurrence is read back from what it is written as just if it
may occur several times or has a minimum of one at most. These are the occurrences that texts stand
for, and those that counts and texts in a document give. Any other occurrence is written as a range
that is reported to end before it starts. The bounds give every occurrence. -/
theorem written_exact (occurrence : Occurrence) :
    (read? occurrence.text = .ok occurrence ↔
      occurrence.multi = true ∨ occurrence.min ≤ 1) ∧
    ((∃ written, read? written = .ok occurrence) ↔ read? occurrence.text = .ok occurrence) ∧
    (read? occurrence.text = .error ⟨occurrence.text, .upperBelowLower⟩ ↔
      2 ≤ occurrence.min ∧ occurrence.multi = false) ∧
    ((∃ value, (∀ members, value ≠ .object members) ∧ ofContent value = .ok occurrence) ↔
      read? occurrence.text = .ok occurrence) ∧
    ofContent occurrence.toJson = .ok occurrence :=
  ⟨read?_text_eq_ok_iff, exists_read?_iff, read?_text_eq_error_iff, exists_ofContent_iff,
    roundTrips occurrence⟩

/-- At least two and no more than once is written as `2..1`. -/
example : text ⟨2, false⟩ = "2..1" := by rfl

end InfoModel.Occurrence

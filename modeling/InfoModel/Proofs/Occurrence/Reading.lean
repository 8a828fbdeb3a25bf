/-
**Which texts are read as occurrences.**

* `decodeText_toString`: of the integers of JSON texts, those that fit 32 bits are counts and read
  as their decimal text is. Any other integer is refused, and so is its text
  (`decodeText_toString_eq_ok_iff`);
* `grammar_exact`: the texts of the grammar are read and no others, and integers with them.
-/

import InfoModel.Document.Declarations
import InfoModel.Proofs.Json.Integer
import InfoModel.Proofs.Occurrence.Grammar

namespace InfoModel.Occurrence

open Text (Trims)

/-! ### Counts -/

/-- **An integer of a JSON text** that fits 32 bits is read as its decimal text is, and any other is
malformed. -/
theorem decodeText_toString (number : Int) : Json.decodeText decode decode (toString number)
    = if 0 ≤ number ∧ number < UInt32.size then ofText (toString number)
      else .error .malformed := by
  have size : UInt32.size = 4294967296 := rfl
  unfold Json.decodeText
  rw [Json.read_toString]
  show decode (Json.Numeral.integer _ _) = _
  by_cases counts : 0 ≤ number ∧ number < UInt32.size
  · rw [if_pos counts]
    obtain ⟨count, rfl⟩ := Int.eq_ofNat_of_zero_le counts.1
    have fits : count < UInt32.size := Int.ofNat_lt.mp counts.2
    have word : (UInt64.ofNat count).toNat = count := by
      rw [UInt64.toNat_ofNat_of_lt']
      have larger : UInt64.size = 18446744073709551616 := rfl
      omega
    have taken := Json.Numeral.integer_natural (UInt64.ofNat count)
    rw [word] at taken
    rw [decide_eq_false (Int.not_lt.mpr counts.1), Int.natAbs_natCast, taken]
    show (if (UInt64.ofNat count).toNat < UInt32.size then
      ofText (toString (UInt64.ofNat count).toNat) else .error .malformed) = _
    rw [word, if_pos fits]
    rfl
  rw [if_neg counts]
  rcases Json.Numeral.integer_cases (decide (number < 0)) (Nat.toDigits 10 number.natAbs) with
    ⟨word, taken, notNegative, value⟩ | ⟨magnitude, taken⟩ | ⟨bits, taken⟩ | taken
  · rw [taken]
    rw [Text.Numeral.ofDigits_toDigits] at value
    have large : ¬ word.toNat < UInt32.size := by
      have := of_decide_eq_false notNegative
      omega
    exact if_neg large
  · rw [taken]
    rfl
  · rw [taken]
    rfl
  · rw [taken]
    rfl

/-- An integer of a JSON text that is no count stands for no occurrence. -/
theorem not_spells_toString {number : Int} (noCount : ¬ (0 ≤ number ∧ number < UInt32.size))
    (occurrence : Occurrence) : ¬ Spells (toString number).toList occurrence := by
  intro spells
  have numeric := @Json.numeric_of_mem_toString number
  have plain : ∀ before after, ¬ FirstRange (toString number).toList before after := by
    intro before after range
    have dot : '.' ∈ (toString number).toList := by
      rw [range.parts]
      exact List.mem_append_right before List.mem_cons_self
    rcases numeric dot with minus | digit
    · cases minus
    · cases digit
  cases spells with
  | unlimited unlimited =>
      obtain ⟨char, member, noDigit, -, noMinus⟩ := unlimited.exists_mem
      rcases numeric member with minus | digit
      · exact noMinus minus
      · rw [noDigit] at digit
        cases digit
  | @single count _ denotes =>
      rw [Json.toList_toString] at denotes
      by_cases negative : number < 0
      · rw [if_pos negative] at denotes
        rcases denotes.mem List.mem_cons_self with digit | plus
        · cases digit
        · cases plus
      · rw [if_neg negative] at denotes
        have same := denotes.unique (Text.Numeral.denotes_toDigits _)
        have fits := count.toNat_lt_size
        omega
  | upward range => exact plain _ _ range
  | within range => exact plain _ _ range

theorem ofText_eq_ok_iff {text : String} {occurrence : Occurrence} :
    ofText text = .ok occurrence ↔ read? text = .ok occurrence := by
  unfold ofText
  cases read? text with
  | ok found => simp
  | error fault => exact iff_of_false nofun nofun

/-- **An integer of a JSON text stands for an occurrence just if its decimal text does.** -/
theorem decodeText_toString_eq_ok_iff (number : Int) (occurrence : Occurrence) :
    Json.decodeText decode decode (toString number) = .ok occurrence ↔
      read? (toString number) = .ok occurrence := by
  rw [decodeText_toString]
  by_cases counts : 0 ≤ number ∧ number < UInt32.size
  · rw [if_pos counts]
    exact ofText_eq_ok_iff
  rw [if_neg counts]
  have solid : ∀ char ∈ (toString number).toList, Text.isBlank char = false := by
    intro char member
    rcases Json.numeric_of_mem_toString member with rfl | digit
    · rfl
    · exact isBlank_of_isDigit digit
  rw [read?_eq_ok_iff_of_solid solid]
  exact iff_of_false nofun (not_spells_toString counts occurrence)

/-! ### The grammar -/

/-- **The grammar of occurrences, exactly.** A text is read just if what is left of it without the
blanks around it stands for an occurrence, and any other text is reported as it was written. An
integer of a JSON text that fits 32 bits has the outcome of its decimal text. Any other integer is
malformed, where its decimal text is not read either. -/
theorem grammar_exact :
    (∀ written occurrence, read? written = .ok occurrence ↔
      ∃ core, Trims written.toList core ∧ Spells core occurrence) ∧
    (∀ written, (∃ flaw, read? written = .error ⟨written, flaw⟩) ↔
      ¬ ∃ core occurrence, Trims written.toList core ∧ Spells core occurrence) ∧
    (∀ number : Int, Json.decodeText decode decode (toString number)
      = if 0 ≤ number ∧ number < UInt32.size then ofText (toString number)
        else .error .malformed) ∧
    (∀ (number : Int) occurrence, Json.decodeText decode decode (toString number) = .ok occurrence ↔
      read? (toString number) = .ok occurrence) :=
  ⟨fun _ _ => read?_eq_ok_iff, fun _ => exists_read?_eq_error_iff, decodeText_toString,
    decodeText_toString_eq_ok_iff⟩

/-- An integer of 33 bits is malformed, and its text is reported as an occurrence. -/
theorem large_integer_is_no_count :
    Json.decodeText decode decode (toString (4294967296 : Int)) = .error .malformed ∧
      ofText (toString (4294967296 : Int))
        = .error (.occurrence ⟨"4294967296", .lowerNotNumber⟩) ∧
      ¬ ∀ number : Int,
        Json.decodeText decode decode (toString number) = ofText (toString number) := by
  have malformed : Json.decodeText decode decode (toString (4294967296 : Int))
      = .error .malformed := by
    rw [decodeText_toString]
    rfl
  have reported : ofText (toString (4294967296 : Int))
      = .error (.occurrence ⟨"4294967296", .lowerNotNumber⟩) := by rfl
  refine ⟨malformed, reported, fun same => ?_⟩
  rw [same, reported] at malformed
  cases malformed

end InfoModel.Occurrence

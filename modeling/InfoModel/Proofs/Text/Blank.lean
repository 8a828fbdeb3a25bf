/-
**A text without the blanks around it.**

* `Trims`: what stands between the blanks at the two ends of a text;
* `trim_eq_iff`: this is what `trim` leaves over, so there is just one such core;
* `trim_eq_self`: a text without blanks is left as it is.
-/

import InfoModel.Text.Blank
import Mathlib.Data.List.Basic
import Mathlib.Data.List.TakeWhile

namespace InfoModel.Text

/-- **The core of a text** stands between blanks. It neither starts nor ends with one. -/
structure Trims (text core : List Char) : Prop where
  surrounded : ∃ front back, text = front ++ (core ++ back) ∧
    (∀ char ∈ front, isBlank char = true) ∧ ∀ char ∈ back, isBlank char = true
  starts : ∀ char ∈ core.head?, isBlank char = false
  ends : ∀ char ∈ core.getLast?, isBlank char = false

/-- A text that starts with no blank is left as it is. -/
theorem trimStart_eq_self {text : List Char} (starts : ∀ char ∈ text.head?, isBlank char = false) :
    trimStart text = text := by
  cases text with
  | nil => rfl
  | cons char rest =>
      apply List.dropWhile_cons_of_neg
      rw [starts char rfl]
      exact Bool.false_ne_true

/-- **What is left behind the blanks in front.** -/
theorem trimStart_eq_iff {text rest : List Char} : trimStart text = rest ↔
    (∃ front, text = front ++ rest ∧ ∀ char ∈ front, isBlank char = true) ∧
      ∀ char ∈ rest.head?, isBlank char = false := by
  apply Iff.intro
  · intro same
    subst same
    refine ⟨⟨text.takeWhile isBlank, List.takeWhile_append_dropWhile.symm, ?_⟩, ?_⟩
    · intro char member
      exact List.mem_takeWhile_imp member
    · intro char first
      have found := List.head?_dropWhile_not isBlank text
      rw [show (text.dropWhile isBlank).head? = some char from first] at found
      exact found
  · intro ⟨⟨front, parts, blank⟩, starts⟩
    subst parts
    show (front ++ rest).dropWhile isBlank = rest
    rw [List.dropWhile_append_of_pos blank]
    exact trimStart_eq_self starts

/-- The end of a text is trimmed like the start of the reversed text. -/
theorem trimEnd_eq_iff {text rest : List Char} : trimEnd text = rest ↔
    (∃ back, text = rest ++ back ∧ ∀ char ∈ back, isBlank char = true) ∧
      ∀ char ∈ rest.getLast?, isBlank char = false := by
  have reversed : trimEnd text = rest ↔ trimStart text.reverse = rest.reverse :=
    List.reverse_eq_iff
  rw [reversed, trimStart_eq_iff, List.head?_reverse]
  apply and_congr_left'
  apply Iff.intro
  · intro ⟨front, parts, blank⟩
    refine ⟨front.reverse, ?_, fun char member => blank char (List.mem_reverse.mp member)⟩
    rw [← List.reverse_reverse text, parts, List.reverse_append, List.reverse_reverse]
  · intro ⟨back, parts, blank⟩
    refine ⟨back.reverse, ?_, fun char member => blank char (List.mem_reverse.mp member)⟩
    rw [parts, List.reverse_append]

/-- **Trimming leaves the core of a text.** -/
theorem trim_eq_iff {text core : List Char} : trim text = core ↔ Trims text core := by
  apply Iff.intro
  · intro same
    obtain ⟨⟨front, parts, blank⟩, starts⟩ := trimStart_eq_iff.mp (rfl : trimStart text = _)
    obtain ⟨⟨back, behind, blankBehind⟩, ends⟩ := trimEnd_eq_iff.mp same
    rw [behind] at parts starts
    refine ⟨⟨front, back, parts, blank, blankBehind⟩, ?_, ends⟩
    intro char first
    exact starts char (List.mem_head?_append_of_mem_head? first)
  · intro ⟨⟨front, back, parts, blank, blankBehind⟩, starts, ends⟩
    have behind : trimEnd (core ++ back) = core :=
      trimEnd_eq_iff.mpr ⟨⟨back, rfl, blankBehind⟩, ends⟩
    cases core with
    | nil =>
        -- nothing but blanks: all of them stand in front
        have nothing : trimStart text = [] := by
          refine trimStart_eq_iff.mpr ⟨⟨text, (List.append_nil text).symm, ?_⟩, nofun⟩
          intro char member
          rw [parts] at member
          rcases List.mem_append.mp member with inFront | inBack
          · exact blank char inFront
          · exact blankBehind char inBack
        unfold trim
        rw [nothing]
        rfl
    | cons first others =>
        have rest : trimStart text = first :: others ++ back :=
          trimStart_eq_iff.mpr ⟨⟨front, parts, blank⟩, starts⟩
        unfold trim
        rw [rest]
        exact behind

/-- A text without blanks is its own core. -/
theorem trim_eq_self {text : List Char} (solid : ∀ char ∈ text, isBlank char = false) :
    trim text = text := by
  refine trim_eq_iff.mpr ⟨⟨[], [], (List.append_nil text).symm, nofun, nofun⟩, ?_, ?_⟩
  · intro char first
    exact solid char (List.mem_of_mem_head? first)
  · intro char last
    exact solid char (List.mem_of_mem_getLast? last)

end InfoModel.Text

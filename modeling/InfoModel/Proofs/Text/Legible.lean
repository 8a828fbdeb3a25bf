/-
**Texts that are read off the start of longer ones.**

A written item is legible if it can be told where it ends: in front of two longer texts that are the
same, items show the same, and so do the texts behind them. An item may need that the text behind it
does not go on as the item does.

* `legible_run`: characters of a kind are legible in front of any other character, and so are
  strings of them (`legible_toList`);
* `Legible.flatMap`: legible items that start alike are legible one behind the other.
-/

namespace InfoModel.Text

/-- A text does not start with a character of a kind. -/
def Ends (inside : Char → Bool) (rest : List Char) : Prop :=
  ∀ char ∈ rest.head?, inside char = false

theorem ends_nil (inside : Char → Bool) : Ends inside [] := nofun

theorem ends_cons {inside : Char → Bool} {char : Char} {rest : List Char} :
    Ends inside (char :: rest) ↔ inside char = false := by
  simp [Ends]

/-- **Items are legible**, in front of texts that do not start with a character of a kind: what they
show and the text behind them are determined by the text. -/
def Legible {α β : Type} (inside : Char → Bool) (good : α → Prop) (write : α → List Char)
    (shown : α → β) : Prop :=
  ∀ first second, good first → good second → ∀ rest other, Ends inside rest → Ends inside other →
    write first ++ rest = write second ++ other → shown first = shown second ∧ rest = other

/-- **Characters of a kind are legible** in front of any other one. -/
theorem legible_run (inside : Char → Bool) :
    Legible inside (fun text => ∀ char ∈ text, inside char = true) id id := by
  have taken : ∀ text rest : List Char, (∀ char ∈ text, inside char = true) → Ends inside rest →
      (text ++ rest).takeWhile inside = text := by
    intro text rest all ends
    have stops : rest.takeWhile inside = [] := by
      cases rest with
      | nil => rfl
      | cons char rest =>
          rw [List.takeWhile_cons_of_neg]
          simp [ends_cons.mp ends]
    rw [List.takeWhile_append_of_pos all, stops, List.append_nil]
  intro first second allFirst allSecond rest other ends endsOther same
  have texts : first = second := by
    rw [← taken first rest allFirst ends, ← taken second other allSecond endsOther]
    exact congrArg _ same
  subst texts
  exact ⟨rfl, List.append_cancel_left same⟩

/-- Items that are legible among others are legible. -/
theorem Legible.mono {α β : Type} {inside : Char → Bool} {good better : α → Prop}
    {write : α → List Char} {shown : α → β} (legible : Legible inside good write shown)
    (stronger : ∀ item, better item → good item) : Legible inside better write shown :=
  fun first second goodFirst goodSecond =>
    legible first second (stronger first goodFirst) (stronger second goodSecond)

/-- Strings of characters of a kind are legible. -/
theorem legible_toList {α : Type} (inside : Char → Bool) (write : α → String) :
    Legible inside (fun item => ∀ char ∈ (write item).toList, inside char = true)
      (fun item => (write item).toList) write := by
  intro first second allFirst allSecond rest other ends endsOther same
  obtain ⟨texts, behind⟩ :=
    legible_run inside _ _ allFirst allSecond rest other ends endsOther same
  exact ⟨String.toList_inj.mp texts, behind⟩

/-- Strings are legible in front of a character that they do not hold. -/
theorem legible_toList_ne {α : Type} (char : Char) (write : α → String) :
    Legible (· != char) (fun item => char ∉ (write item).toList) (fun item => (write item).toList)
      write :=
  (legible_toList _ write).mono fun _ absent _ member =>
    bne_iff_ne.mpr (ne_of_mem_of_not_mem member absent)

/-- **Items that start alike are legible one behind the other**, in front of texts that do not start
like an item. -/
theorem Legible.flatMap {α β : Type} {inside : Char → Bool} {good : α → Prop}
    {write : α → List Char} {shown : α → β} (legible : Legible inside good write shown)
    (start : Char) (starts : ∀ item, ∃ rest, write item = start :: rest)
    (outside : inside start = false) :
    Legible (fun char => inside char || char == start)
      (fun items : List α => ∀ item ∈ items, good item) (List.flatMap write) (List.map shown) := by
  have behind : ∀ (items : List α) (rest : List Char),
      Ends (fun char => inside char || char == start) rest →
        Ends inside (items.flatMap write ++ rest) := by
    intro items rest ends
    cases items with
    | nil => exact fun char isHead => (Bool.or_eq_false_iff.mp (ends char isHead)).1
    | cons item items =>
        obtain ⟨text, written⟩ := starts item
        rw [List.flatMap_cons, written]
        exact ends_cons.mpr outside
  have notStart : ∀ (item : α) (items : List α) (rest other : List Char),
      Ends (fun char => inside char || char == start) other →
        other ≠ (item :: items).flatMap write ++ rest := by
    intro item items rest other ends same
    obtain ⟨text, written⟩ := starts item
    rw [List.flatMap_cons, written] at same
    subst same
    have impossible := ends_cons.mp ends
    simp at impossible
  intro first
  induction first with
  | nil =>
      intro second _ _ rest other ends _ same
      cases second with
      | nil => exact ⟨rfl, same⟩
      | cons item items => exact absurd same (notStart item items other rest ends)
  | cons item items ih =>
      intro second allFirst allSecond rest other ends endsOther same
      cases second with
      | nil => exact absurd same.symm (notStart item items rest other endsOther)
      | cons another others =>
          obtain ⟨goodItem, goodItems⟩ := List.forall_mem_cons.mp allFirst
          obtain ⟨goodAnother, goodOthers⟩ := List.forall_mem_cons.mp allSecond
          simp only [List.flatMap_cons, List.append_assoc] at same
          obtain ⟨head, same⟩ := legible item another goodItem goodAnother _ _
            (behind items rest ends) (behind others other endsOther) same
          obtain ⟨tail, same⟩ := ih others goodItems goodOthers rest other ends endsOther same
          exact ⟨by rw [List.map_cons, List.map_cons, head, tail], same⟩

end InfoModel.Text

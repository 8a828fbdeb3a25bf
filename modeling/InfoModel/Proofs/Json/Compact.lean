/-
**What is printed on one line is read again.**

* `codes?_flatMap_escaped`, `ofCodes?_map_toNat`: a text in quotes is read from what is written for
  each of its characters;
* `Json.isExact` leaves out doubles and unreadable leaves, which are not told by their text;
* `ReadsAt` is what holds at some fuel: values, items and members that are no longer than the fuel
  are read. One round of the reader is one step of fuel (`ReadsAt.value_succ`, `ReadsAt.items_succ`,
  `ReadsAt.members_succ`);
* `parse_compact`: so an exact value is the value of its text.
-/

import InfoModel.Proofs.Json.Numeral

namespace InfoModel.Json

/-! ### Texts in quotes -/

theorem hexValue?_hexDigit {value : Nat} (small : value < 16) :
    hexValue? (hexDigit value) = some value := by
  have all : ∀ value < 16, hexValue? (hexDigit value) = some value := by decide
  exact all value small

/-- A short escape stands for its code. -/
theorem codes?_escape {char : Char} {code : Nat} (stands : escapeCode? char = some code)
    (rest : List Char) :
    codes? ('\\' :: char :: rest) = (codes? rest).map fun read => (code :: read.1, read.2) := by
  have notCode : char ≠ 'u' := by
    rintro rfl
    cases stands
  rw [codes?, stands]
  · cases codes? rest <;> rfl
  · exact fun _ _ _ _ _ isCode _ => notCode isCode

/-- A character that needs no escape stands for itself. -/
theorem codes?_plain {char : Char} (quote : char ≠ '"') (backslash : char ≠ '\\')
    (printed : 32 ≤ char.toNat) (rest : List Char) :
    codes? (char :: rest) = (codes? rest).map fun read => (char.toNat :: read.1, read.2) := by
  rw [codes?]
  · rw [if_neg (by simp [backslash, printed])]
    cases codes? rest <;> rfl
  · exact quote
  · exact fun _ _ _ _ _ escapes _ => backslash escapes
  · exact fun _ _ escapes _ => backslash escapes

/-- **A character is read from what is written for it.** -/
theorem codes?_escaped_append (char : Char) (rest : List Char) :
    codes? (escaped char ++ rest)
      = (codes? rest).map fun read => (char.toNat :: read.1, read.2) := by
  unfold escaped
  split_ifs with quote backslash lineFeed carriageReturn tab backspace formFeed control
  · subst quote
    exact codes?_escape rfl rest
  · subst backslash
    exact codes?_escape rfl rest
  · subst lineFeed
    exact codes?_escape rfl rest
  · subst carriageReturn
    exact codes?_escape rfl rest
  · subst tab
    exact codes?_escape rfl rest
  · rw [backspace]
    exact codes?_escape rfl rest
  · rw [formFeed]
    exact codes?_escape rfl rest
  · have high := hexValue?_hexDigit (show char.toNat / 16 < 16 by omega)
    have low := hexValue?_hexDigit (show char.toNat % 16 < 16 by omega)
    have code : hexCode? '0' '0' (hexDigit (char.toNat / 16)) (hexDigit (char.toNat % 16))
        = some char.toNat := by
      unfold hexCode?
      rw [high, low]
      show some ((0 * 16 + 0) * 256 + char.toNat / 16 * 16 + char.toNat % 16) = some char.toNat
      congr 1
      omega
    show codes? ('\\' :: 'u' :: '0' :: '0' :: hexDigit (char.toNat / 16)
      :: hexDigit (char.toNat % 16) :: rest) = _
    rw [codes?, code]
    cases codes? rest <;> rfl
  · exact codes?_plain quote backslash (by omega) rest

/-- **The codes of a text are read from what is written for it**, up to the closing quote. -/
theorem codes?_flatMap_escaped (chars rest : List Char) :
    codes? (chars.flatMap escaped ++ '"' :: rest) = some (chars.map Char.toNat, rest) := by
  induction chars with
  | nil => rfl
  | cons char chars ih =>
      rw [List.flatMap_cons, List.append_assoc, codes?_escaped_append, ih]
      rfl

/-- A character is no half of a surrogate pair. -/
theorem not_isSurrogate (char : Char) :
    isHighSurrogate char.toNat = false ∧ isLowSurrogate char.toNat = false := by
  have valid : char.toNat < 0xD800 ∨ 0xDFFF < char.toNat ∧ char.toNat < 0x110000 := char.valid
  unfold isHighSurrogate isLowSurrogate
  simp only [Bool.and_eq_false_iff, decide_eq_false_iff_not]
  omega

/-- The code of a character is read as the character. -/
theorem ofCodes?_toNat_cons (char : Char) (codes : List Nat) :
    ofCodes? (char.toNat :: codes) = (ofCodes? codes).map (char :: ·) := by
  obtain ⟨notHigh, notLow⟩ := not_isSurrogate char
  cases codes with
  | nil =>
      show (if isHighSurrogate char.toNat || isLowSurrogate char.toNat then none
        else some [Char.ofNat char.toNat]) = some [char]
      rw [notHigh, notLow, Char.ofNat_toNat]
      rfl
  | cons next codes =>
      rw [ofCodes?, notHigh, notLow, Char.ofNat_toNat]
      rfl

/-- **The codes of characters are read as the characters.** -/
theorem ofCodes?_map_toNat (chars : List Char) : ofCodes? (chars.map Char.toNat) = some chars := by
  induction chars with
  | nil => rfl
  | cons char chars ih =>
      rw [List.map_cons, ofCodes?_toNat_cons, ih]
      rfl

/-! ### Exact values -/

mutual

/-- **The text of the value tells it exactly**: all leaves are readable, and no number is a
double. -/
def isExact : Json → Bool
  | .number value => value.isExact
  | .array items => allExact items
  | .object members => allMembersExact members
  | .unreadable => false
  | _ => true

/-- All items are exact. -/
def allExact : List Json → Bool
  | [] => true
  | item :: rest => item.isExact && allExact rest

/-- All members hold exact values. -/
def allMembersExact : List (String × Json) → Bool
  | [] => true
  | (_, value) :: rest => value.isExact && allMembersExact rest

end

mutual

/-- What is written exactly is readable. -/
theorem isReadable_of_isExact : ∀ json : Json, json.isExact = true → json.isReadable = true
  | .null, _ => rfl
  | .bool _, _ => rfl
  | .number _, _ => rfl
  | .string _, _ => rfl
  | .array items, exact => allReadable_of_allExact items exact
  | .object members, exact => allMembersReadable_of_allMembersExact members exact
  | .unreadable, exact => exact

theorem allReadable_of_allExact :
    ∀ items : List Json, allExact items = true → allReadable items = true
  | [], _ => rfl
  | item :: rest, exact => by
      obtain ⟨itemExact, restExact⟩ := Bool.and_eq_true_iff.mp exact
      rw [allReadable, isReadable_of_isExact item itemExact, allReadable_of_allExact rest restExact]
      rfl

theorem allMembersReadable_of_allMembersExact :
    ∀ members : List (String × Json), allMembersExact members = true →
      allMembersReadable members = true
  | [], _ => rfl
  | (_, value) :: rest, exact => by
      obtain ⟨valueExact, restExact⟩ := Bool.and_eq_true_iff.mp exact
      rw [allMembersReadable, isReadable_of_isExact value valueExact,
        allMembersReadable_of_allMembersExact rest restExact]
      rfl

end

theorem allExact_eq_all (items : List Json) : allExact items = items.all isExact := by
  induction items with
  | nil => rfl
  | cons item rest ih => rw [allExact, List.all_cons, ih]

theorem allMembersExact_eq_all (members : List (String × Json)) :
    allMembersExact members = members.all fun member => member.2.isExact := by
  induction members with
  | nil => rfl
  | cons member rest ih =>
      obtain ⟨name, value⟩ := member
      rw [allMembersExact, List.all_cons, ih]

@[simp] theorem isExact_string (text : String) : (string text).isExact = true := rfl

@[simp] theorem isExact_bool (flag : Bool) : (bool flag).isExact = true := rfl

@[simp] theorem isExact_ofWord (value : UInt32) : (ofWord value).isExact = true := rfl

@[simp] theorem isExact_array_map {α : Type} (encode : α → Json) (items : List α) :
    (array (items.map encode)).isExact = items.all fun item => (encode item).isExact := by
  rw [isExact, allExact_eq_all, List.all_map]
  rfl

@[simp] theorem isExact_ofTexts (texts : List String) : (ofTexts texts).isExact = true := by
  simp [ofTexts]

@[simp] theorem isExact_object (members : List (String × Json)) :
    (object members).isExact = allMembersExact members := rfl

@[simp] theorem allMembersExact_nil : allMembersExact [] = true := rfl

@[simp] theorem allMembersExact_cons (name : String) (value : Json)
    (rest : List (String × Json)) :
    allMembersExact ((name, value) :: rest) = (value.isExact && allMembersExact rest) := rfl

@[simp] theorem allMembersExact_append (members others : List (String × Json)) :
    allMembersExact (members ++ others) = (allMembersExact members && allMembersExact others) := by
  simp only [allMembersExact_eq_all, List.all_append]

/-! ### Values -/

section Values

open Numeral (Ends ends_cons)

theorem toList_quoted (text : String) :
    (quoted text).toList = '"' :: (text.toList.flatMap escaped ++ ['"']) := by
  unfold quoted
  rw [String.toList_ofList]
  rfl

theorem toList_compactItems_cons (item : Json) (others : List Json) :
    (compactItems "" (item :: others)).toList
      = item.compact.toList ++ (compactItems "," others).toList := by
  simp [compactItems]

theorem toList_compactMembers_cons (member : String × Json) (others : List (String × Json)) :
    (compactMembers "" (member :: others)).toList = (quoted member.1).toList ++
      ':' :: (member.2.compact.toList ++ (compactMembers "," others).toList) := by
  simp [compactMembers]

/-- A separator stands in front of the items behind the first one. -/
theorem toList_compactItems_comma (item : Json) (others : List Json) :
    (compactItems "," (item :: others)).toList
      = ',' :: (compactItems "" (item :: others)).toList := by
  simp [compactItems]

theorem toList_compactMembers_comma (member : String × Json) (others : List (String × Json)) :
    (compactMembers "," (member :: others)).toList
      = ',' :: (compactMembers "" (member :: others)).toList := by
  simp [compactMembers]

/-- What starts with a digit or a minus sign is read as a number. -/
theorem leaf?_of_numeric {first : Char} (numeric : first = '-' ∨ Text.Numeral.isDigit first = true)
    (others : List Char) : leaf? (first :: others) = Numeral.read? (first :: others) := by
  unfold leaf?
  split
  case h_5 => rfl
  all_goals
    rename_i same
    exact absurd (List.cons.inj same).1 (ne_of_numeric numeric (by decide))

theorem skipBlanks_of_numeric {first : Char}
    (numeric : first = '-' ∨ Text.Numeral.isDigit first = true) (others : List Char) :
    skipBlanks (first :: others) = first :: others := by
  unfold skipBlanks
  refine List.dropWhile_cons_of_neg fun blank => ?_
  simp only [Bool.or_eq_true, beq_iff_eq] at blank
  rcases blank with ((same | same) | same) | same
  all_goals exact ne_of_numeric numeric (by decide) same

/-- The first character of the text of a value is neither blank nor a closing bracket. -/
theorem compact_starts {json : Json} (exact : json.isExact = true) : ∃ first others,
    json.compact.toList = first :: others ∧
      (∀ rest, skipBlanks (first :: rest) = first :: rest) ∧ first ≠ ']' := by
  cases json with
  | null => exact ⟨_, _, rfl, fun _ => rfl, by decide⟩
  | bool flag => cases flag <;> exact ⟨_, _, rfl, fun _ => rfl, by decide⟩
  | number number =>
      obtain ⟨first, others, text, numeric⟩ := Number.text_starts exact
      exact ⟨first, others, text, skipBlanks_of_numeric numeric,
        ne_of_numeric numeric (by decide)⟩
  | string text => exact ⟨_, _, toList_quoted text, fun _ => rfl, by decide⟩
  | array items => exact ⟨'[', _, by simp [compact]; rfl, fun _ => rfl, by decide⟩
  | object members => exact ⟨'\x7b', _, by simp [compact]; rfl, fun _ => rfl, by decide⟩
  | unreadable => cases exact

/-- **At some fuel, the reader reads what is printed** of values, of items and of members that are
no longer than the fuel. -/
structure ReadsAt (fuel : Nat) : Prop where
  value : ∀ (json : Json) (rest : List Char), json.isExact = true → Ends rest →
    json.compact.toList.length ≤ fuel → value fuel (json.compact.toList ++ rest) = .ok (json, rest)
  items : ∀ (item : Json) (others done : List Json) (rest : List Char),
    allExact (item :: others) = true → (compactItems "" (item :: others)).toList.length < fuel →
      items fuel done ((compactItems "" (item :: others)).toList ++ ']' :: rest)
        = .ok (.array (done.reverse ++ item :: others), rest)
  members : ∀ (member : String × Json) (others done : List (String × Json)) (rest : List Char),
    allMembersExact (member :: others) = true →
      (compactMembers "" (member :: others)).toList.length < fuel →
        members fuel done ((compactMembers "" (member :: others)).toList ++ '\x7d' :: rest)
          = .ok (.object (done.reverse ++ member :: others), rest)

/-- A leaf is read where neither an array nor an object starts. -/
theorem value_of_leaf {first : Char} {others rest : List Char} {json : Json} (fuel : Nat)
    (solid : skipBlanks (first :: others) = first :: others) (notArray : first ≠ '[')
    (notObject : first ≠ '\x7b') (leaf : leaf? (first :: others) = some (json, rest)) :
    value (fuel + 1) (first :: others) = .ok (json, rest) := by
  rw [value, solid]
  split
  · rename_i same
    exact absurd (List.cons.inj same).1 notArray
  · rename_i same
    exact absurd (List.cons.inj same).1 notObject
  · rw [leaf]

/-- An array is read by its items unless it is closed at once. -/
theorem value_of_array {first : Char} {others : List Char} (fuel : Nat)
    (solid : skipBlanks (first :: others) = first :: others) (notClosed : first ≠ ']') :
    value (fuel + 1) ('[' :: first :: others) = items fuel [] (first :: others) := by
  have opened : skipBlanks ('[' :: first :: others) = '[' :: first :: others := rfl
  simp only [value, opened, solid]
  split
  · rename_i same
    exact absurd (List.cons.inj same).1 notClosed
  · rfl

/-- An object is read by its members unless it is closed at once. -/
theorem value_of_object {first : Char} {others : List Char} (fuel : Nat)
    (solid : skipBlanks (first :: others) = first :: others) (notClosed : first ≠ '\x7d') :
    value (fuel + 1) ('\x7b' :: first :: others) = members fuel [] (first :: others) := by
  have opened : skipBlanks ('\x7b' :: first :: others) = '\x7b' :: first :: others := rfl
  simp only [value, opened, solid]
  split
  · rename_i same
    exact absurd (List.cons.inj same).1 notClosed
  · rfl

/-! ### One round of the reader -/

section Rounds

variable {fuel : Nat} {text rest : List Char} {item : Json}

theorem items_of_closed (done : List Json) (read : value fuel text = .ok (item, ']' :: rest)) :
    items (fuel + 1) done text = .ok (.array (done.reverse ++ [item]), rest) := by
  have bracket : skipBlanks (']' :: rest) = ']' :: rest := rfl
  rw [items, read]
  dsimp only
  rw [bracket, List.reverse_cons]
  rfl

theorem items_of_comma (done : List Json) (read : value fuel text = .ok (item, ',' :: rest)) :
    items (fuel + 1) done text = items fuel (item :: done) rest := by
  have comma : skipBlanks (',' :: rest) = ',' :: rest := rfl
  rw [items, read]
  dsimp only
  rw [comma]
  rfl

theorem name?_quoted (name : String) (rest : List Char) :
    name? ((quoted name).toList ++ ':' :: rest) = some (name, some rest) := by
  have start : skipBlanks ((quoted name).toList ++ ':' :: rest)
      = '"' :: (name.toList.flatMap escaped ++ '"' :: ':' :: rest) := by
    rw [toList_quoted, List.cons_append, List.append_assoc]
    rfl
  have colon : skipBlanks (':' :: rest) = ':' :: rest := rfl
  unfold name?
  simp only [start, codes?_flatMap_escaped, ofCodes?_map_toNat, colon, String.ofList_toList]

theorem members_of_closed (name : String) (done : List (String × Json))
    (read : value fuel text = .ok (item, '\x7d' :: rest)) :
    members (fuel + 1) done ((quoted name).toList ++ ':' :: text)
      = .ok (.object (done.reverse ++ [(name, item)]), rest) := by
  have brace : skipBlanks ('\x7d' :: rest) = '\x7d' :: rest := rfl
  rw [members, name?_quoted]
  dsimp only
  rw [read]
  dsimp only
  rw [brace, List.reverse_cons]
  rfl

theorem members_of_comma (name : String) (done : List (String × Json))
    (read : value fuel text = .ok (item, ',' :: rest)) :
    members (fuel + 1) done ((quoted name).toList ++ ':' :: text)
      = members fuel ((name, item) :: done) rest := by
  have comma : skipBlanks (',' :: rest) = ',' :: rest := rfl
  rw [members, name?_quoted]
  dsimp only
  rw [read]
  dsimp only
  rw [comma]
  rfl

end Rounds

namespace ReadsAt

variable {fuel : Nat} (readsAt : ReadsAt fuel)

include readsAt

theorem value_succ (json : Json) (rest : List Char)
    (exact : json.isExact = true) (ends : Ends rest)
    (enough : json.compact.toList.length ≤ fuel + 1) :
    Json.value (fuel + 1) (json.compact.toList ++ rest) = .ok (json, rest) := by
  cases json with
  | null => rfl
  | bool flag => cases flag <;> rfl
  | number number =>
      obtain ⟨first, others, text, numeric⟩ := Number.text_starts exact
      have read := Number.read?_text exact ends
      rw [text, List.cons_append] at read
      show Json.value (fuel + 1) (number.text.toList ++ rest) = _
      rw [text, List.cons_append]
      exact value_of_leaf fuel (skipBlanks_of_numeric numeric _)
        (ne_of_numeric numeric (by decide)) (ne_of_numeric numeric (by decide))
        ((leaf?_of_numeric numeric _).trans read)
  | string text =>
      have codes : codes? (text.toList.flatMap escaped ++ ['"'] ++ rest)
          = some (text.toList.map Char.toNat, rest) := by
        rw [List.append_assoc]
        exact codes?_flatMap_escaped text.toList rest
      show Json.value (fuel + 1) ((quoted text).toList ++ rest) = _
      rw [toList_quoted, List.cons_append]
      refine value_of_leaf fuel rfl (by decide) (by decide) ?_
      show (codes? (text.toList.flatMap escaped ++ ['"'] ++ rest)).map _ = _
      rw [codes]
      simp only [Option.map_some, ofCodes?_map_toNat, String.ofList_toList]
  | array items =>
      cases items with
      | nil => rfl
      | cons item others =>
          have text : (array (item :: others)).compact.toList
              = '[' :: ((compactItems "" (item :: others)).toList ++ [']']) := by
            simp [compact]
          rw [text, List.length_cons, List.length_append] at enough
          have read := readsAt.items item others [] rest exact (by simp at enough; omega)
          obtain ⟨first, more, starts, solid, notClosed⟩ :=
            compact_starts (Bool.and_eq_true_iff.mp exact).1
          rw [toList_compactItems_cons, starts] at text read
          rw [text, List.cons_append, List.append_assoc]
          exact (value_of_array fuel (solid _) notClosed).trans read
  | object members =>
      cases members with
      | nil => rfl
      | cons member others =>
          have text : (object (member :: others)).compact.toList
              = '\x7b' :: ((compactMembers "" (member :: others)).toList ++ ['\x7d']) := by
            simp [compact]
          rw [text, List.length_cons, List.length_append] at enough
          have read := readsAt.members member others [] rest exact (by simp at enough; omega)
          rw [toList_compactMembers_cons, toList_quoted] at text read
          rw [text, List.cons_append, List.append_assoc]
          exact (value_of_object fuel rfl (by decide)).trans read
  | unreadable => cases exact

theorem items_succ (item : Json) (others done : List Json) (rest : List Char)
    (exact : allExact (item :: others) = true)
    (enough : (compactItems "" (item :: others)).toList.length < fuel + 1) :
    Json.items (fuel + 1) done ((compactItems "" (item :: others)).toList ++ ']' :: rest)
      = .ok (.array (done.reverse ++ item :: others), rest) := by
  obtain ⟨itemExact, othersExact⟩ := Bool.and_eq_true_iff.mp exact
  rw [toList_compactItems_cons, List.length_append] at enough
  rw [toList_compactItems_cons, List.append_assoc]
  cases others with
  | nil =>
      exact items_of_closed done
        (readsAt.value item _ itemExact (ends_cons (by decide) rest) (by omega))
  | cons second others =>
      rw [toList_compactItems_comma, List.length_cons] at enough
      rw [toList_compactItems_comma, List.cons_append,
        items_of_comma done
          (readsAt.value item _ itemExact (ends_cons (by decide) _) (by omega)),
        readsAt.items second others (item :: done) rest othersExact (by omega),
        List.reverse_cons, List.append_assoc]
      rfl

theorem members_succ (member : String × Json) (others done : List (String × Json))
    (rest : List Char) (exact : allMembersExact (member :: others) = true)
    (enough : (compactMembers "" (member :: others)).toList.length < fuel + 1) :
    Json.members (fuel + 1) done
        ((compactMembers "" (member :: others)).toList ++ '\x7d' :: rest)
      = .ok (.object (done.reverse ++ member :: others), rest) := by
  obtain ⟨name, value⟩ := member
  obtain ⟨valueExact, othersExact⟩ := Bool.and_eq_true_iff.mp exact
  rw [toList_compactMembers_cons, List.length_append, List.length_cons,
    List.length_append] at enough
  dsimp only at enough
  rw [toList_compactMembers_cons, List.append_assoc, List.cons_append, List.append_assoc]
  cases others with
  | nil =>
      exact members_of_closed name done
        (readsAt.value value _ valueExact (ends_cons (by decide) rest) (by omega))
  | cons second others =>
      rw [toList_compactMembers_comma, List.length_cons] at enough
      rw [toList_compactMembers_comma, List.cons_append,
        members_of_comma name done
          (readsAt.value value _ valueExact (ends_cons (by decide) _) (by omega)),
        readsAt.members second others ((name, value) :: done) rest othersExact (by omega),
        List.reverse_cons, List.append_assoc]
      rfl

end ReadsAt

/-- **The reader reads what is printed**, at any fuel. -/
theorem readsAt (fuel : Nat) : ReadsAt fuel := by
  induction fuel with
  | zero =>
      refine ⟨fun json rest exact _ enough => ?_, nofun, nofun⟩
      obtain ⟨first, others, starts, -⟩ := compact_starts exact
      rw [starts] at enough
      cases enough
  | succ fuel ih => exact ⟨ih.value_succ, ih.items_succ, ih.members_succ⟩

/-- **What is printed on one line is read again.** -/
theorem parse_compact {json : Json} (exact : json.isExact = true) :
    parse json.compact = .ok json := by
  have whole := (readsAt (json.compact.toList.length + 1)).value json [] exact nofun (by omega)
  rw [List.append_nil] at whole
  unfold parse
  dsimp only
  rw [whole]
  rfl

end Values

end InfoModel.Json

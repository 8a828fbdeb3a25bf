/-
**A written text is read back, and every other file stays as it was.**

A path is gone along from directory to directory, and a file is written where the way ends. What
stands on the way was a directory before, and is one afterwards, so the way is the same; it ends at
the file that was written.

* `entry?_put_self`, `entry?_put_of_ne`: what stands at a place after a file was put at one;
* `Reached.walk`: every directory above the end of a path is there;
* `walk_of_agrees`: the way does not depend on what stands at its end;
* `FileSet.Overwritten` says what becomes of the files, and `overwritten_of_writeText` that it does.
-/

import InfoModel.Files.FileSet
import Mathlib.Data.List.Infix

namespace InfoModel.FileSet

variable {files after : FileSet} {place other : Place}

/-! ### A file at a place -/

theorem find?_put (files : FileSet) (place other : Place) (content : ByteArray) :
    (files.put place content).files.find? (fun file => file.1 == other) =
      if other = place then some (place, content)
      else files.files.find? fun file => file.1 == other := by
  unfold put
  rw [List.find?_append, List.find?_filter]
  by_cases same : other = place
  · subst same
    rw [if_pos rfl, List.find?_eq_none.mpr (by simp)]
    simp
  · rw [if_neg same]
    have kept : (fun file : Place × ByteArray =>
        decide ((file.1 != place) = true ∧ (file.1 == other) = true)) =
          fun file => file.1 == other := by
      funext file
      by_cases isOther : file.1 = other
      · subst isOther
        simp [same]
      · simp [isOther]
    rw [kept]
    simp [Ne.symm same]

/-- **A file is where it was put.** -/
theorem entry?_put_self (files : FileSet) (place : Place) (content : ByteArray) :
    entry? (files.put place content) place = some (.file content) := by
  unfold entry?
  rw [find?_put, if_pos rfl]

/-- There are files below a place if there were some before, or if one was put there. -/
theorem any_put (files : FileSet) (place other : Place) (content : ByteArray) :
    ((files.put place content).files.any fun file => other.isPrefixOf file.1) = true ↔
      (files.files.any fun file => other.isPrefixOf file.1) = true ∨ other <+: place := by
  simp only [put, List.any_append, List.any_filter, List.any_cons, List.any_nil, Bool.or_false,
    Bool.or_eq_true, List.any_eq_true, List.isPrefixOf_iff_prefix, Bool.and_eq_true, bne_iff_ne]
  constructor
  · rintro (⟨file, member, -, below⟩ | above)
    · exact .inl ⟨file, member, below⟩
    · exact .inr above
  · rintro (⟨file, member, below⟩ | above)
    · by_cases same : file.1 = place
      · exact .inr (same ▸ below)
      · exact .inl ⟨file, member, same, below⟩
    · exact .inr above

/-- **Every other place is as it was**, if the directories above the new file were there. -/
theorem entry?_put_of_ne {content : ByteArray} (different : other ≠ place)
    (there : other <+: place → files.entry? other ≠ none) :
    entry? (files.put place content) other = files.entry? other := by
  unfold entry? at there ⊢
  rw [find?_put, if_neg different]
  cases found : files.files.find? fun file => file.1 == other with
  | some file => rfl
  | none =>
      rw [found] at there
      refine if_congr ?_ rfl rfl
      rw [Bool.or_eq_true, Bool.or_eq_true, any_put, ← or_assoc]
      refine or_iff_left_of_imp fun above => ?_
      -- a place above the new one without a file was a directory
      by_contra absent
      refine there above (if_neg ?_)
      rwa [Bool.or_eq_true]

/-! ### Ways through directories -/

/-- **A place is within reach**: whatever is above it is there. -/
def Reached (files : FileSet) (place : Place) : Prop :=
  ∀ other, other <+: place → other ≠ place → files.entry? other ≠ none

theorem entry?_nil_ne_none (files : FileSet) : files.entry? [] ≠ none := by
  unfold entry?
  cases files.files.find? fun file => file.1 == [] with
  | some file => exact nofun
  | none => exact nofun

theorem reached_nil (files : FileSet) : files.Reached [] :=
  fun _ above different => absurd (List.prefix_nil.mp above) different

/-- What is in a place that is there is within reach. -/
theorem Reached.concat (reached : files.Reached place) (there : files.entry? place ≠ none)
    (name : String) : files.Reached (place ++ [name]) := by
  intro other above different
  rcases List.prefix_concat_iff.mp above with rfl | above
  · exact absurd rfl different
  · by_cases same : other = place
    · exact same ▸ there
    · exact reached other above same

theorem Reached.dropLast (reached : files.Reached place) : files.Reached place.dropLast := by
  intro other above different
  refine reached other (above.trans (List.dropLast_prefix place)) fun same => different ?_
  subst same
  exact (List.dropLast_prefix other).eq_of_length_le above.length_le |>.symm

/-- The directory above a place is within reach. -/
theorem Reached.above (reached : files.Reached place) (there : files.entry? place ≠ none) :
    files.Reached place.above := by
  unfold Place.above
  split
  · exact (reached_nil files).concat files.entry?_nil_ne_none ".."
  · exact reached.concat there ".."
  · exact reached
  · exact reached.dropLast

/-- **The end of a way is within reach** if its start is. -/
theorem Reached.walk {parts : List String} {last : Place} (reached : files.Reached place)
    (found : files.walk place parts = .ok last) : files.Reached last := by
  fun_induction FileSet.walk files place parts with
  | case1 place directory =>
      cases found
      exact reached
  | case2 | case3 | case4 | case5 | case8 => cases found
  | case6 place name rest directory stays ih => exact ih reached found
  | case7 place rest directory _ ih =>
      exact ih (reached.above (by rw [directory]; exact nofun)) found
  | case9 place name directory =>
      cases found
      exact reached.concat (by rw [directory]; exact nofun) name
  | case10 place name directory _ _ _ next rest ih =>
      exact ih (reached.concat (by rw [directory]; exact nofun) name) found

/-- A step on the way from a directory. -/
theorem walk_cons (directory : files.entry? place = some .directory) {name : String}
    {rest : List String} :
    files.walk place (name :: rest) =
      if name = "" ∨ name = "." then files.walk place rest
      else if name = ".." then files.walk place.above rest
      else if nameLimit < name.utf8ByteSize then .error .nameTooLong
      else
        match rest with
        | [] => .ok (place ++ [name])
        | next :: rest => files.walk (place ++ [name]) (next :: rest) := by
  have steps := walk.eq_def files place (name :: rest)
  simp only [directory] at steps
  exact steps

/-- **The way to a place is the same** whatever stands there, unless it is a directory. -/
theorem walk_of_agrees {start : Place} {parts : List String}
    (agrees : ∀ other, other ≠ place → after.entry? other = files.entry? other)
    (noDirectory : files.entry? place ≠ some .directory)
    (found : files.walk start parts = .ok place) : after.walk start parts = .ok place := by
  have passed : ∀ {other}, files.entry? other = some .directory →
      after.entry? other = some .directory := by
    intro other directory
    rw [agrees other (by rintro rfl; exact noDirectory directory), directory]
  fun_induction FileSet.walk files start parts with
  | case1 start directory =>
      cases found
      exact absurd directory noDirectory
  | case2 | case3 | case4 | case5 | case8 => cases found
  | case6 start name rest directory stays ih =>
      rw [walk_cons (passed directory), if_pos stays]
      exact ih found
  | case7 start rest directory stays ih =>
      rw [walk_cons (passed directory), if_neg stays, if_pos rfl]
      exact ih found
  | case9 start name directory stays climbs long =>
      rw [walk_cons (passed directory), if_neg stays, if_neg climbs, if_neg long]
      exact found
  | case10 start name directory stays climbs long next rest ih =>
      rw [walk_cons (passed directory), if_neg stays, if_neg climbs, if_neg long]
      exact ih found

/-! ### Writing -/

/-- **What it takes to write a text**: the path ends, not in a slash, where no directory is. -/
theorem writeText_eq_ok_iff {path text : String} :
    files.writeText path text = .ok after ↔ ∃ place, files.target path = .ok place ∧
      files.entry? place ≠ some .directory ∧ after = files.put place text.toUTF8 := by
  unfold writeText
  cases files.target path with
  | error fault => exact ⟨nofun, nofun⟩
  | ok place =>
      simp only [bind, Except.bind]
      split
      · rename_i directory
        refine ⟨nofun, ?_⟩
        rintro ⟨_, ⟨⟩, noDirectory, -⟩
        exact absurd directory noDirectory
      · rename_i noDirectory
        constructor
        · rintro ⟨⟩
          exact ⟨place, rfl, noDirectory, rfl⟩
        · rintro ⟨_, ⟨⟩, -, rfl⟩
          rfl

/-- A way starts in the working directory or in the root. -/
theorem reached_start {path : String} {parts : List String}
    (started : start path = .ok (place, parts)) : files.Reached place := by
  unfold start at started
  split at started
  · cases started
  · split at started
    · cases started
    · split at started
      · cases started
      · cases started
        split
        · exact (reached_nil files).concat files.entry?_nil_ne_none "/"
        · exact reached_nil files

/-- A path is gone along to the end of its way. -/
theorem find_of_walk {path : String} {first : Place} {parts : List String}
    (started : start path = .ok (first, parts)) (found : files.walk first parts = .ok place) :
    files.find path = .ok place := by
  unfold find
  rw [started]
  exact found

/-- A file can be written where a way ends, unless its path ends in a slash. -/
theorem target_of_walk {path : String} {first : Place} {parts : List String}
    (started : start path = .ok (first, parts)) (found : files.walk first parts = .ok place)
    (named : endsInSlash path = false) : files.target path = .ok place := by
  unfold target
  rw [started]
  show (if endsInSlash path = true then _ else files.walk first parts) = _
  rw [named, if_neg Bool.false_ne_true]
  exact found

/-- A file is written where a way ends that starts in the working directory or in the root. -/
theorem exists_walk_of_target {path : String} (writable : files.target path = .ok place) :
    ∃ first parts, start path = .ok (first, parts) ∧ files.walk first parts = .ok place := by
  unfold target at writable
  cases started : start path with
  | error fault =>
      rw [started] at writable
      cases writable
  | ok begun =>
      obtain ⟨first, parts⟩ := begun
      rw [started] at writable
      refine ⟨first, parts, rfl, ?_⟩
      change (if endsInSlash path then _ else files.walk first parts) = _ at writable
      split at writable
      · split at writable <;> cases writable
      · exact writable

/-- **A text takes the place of what was in a file.** The file is read back, its bytes are those of
the text, and all other places are as they were. -/
structure Overwritten (files : FileSet) (path text : String) (after : FileSet) : Prop where
  read : after.readText path = .ok text
  placed : ∃ place, files.find path = .ok place ∧
    after.entry? place = some (.file text.toUTF8) ∧
      ∀ other, other ≠ place → after.entry? other = files.entry? other

/-- The text of a file is read from where its path ends. -/
theorem readText_of_file {path text : String} (found : files.find path = .ok place)
    (file : files.entry? place = some (.file text.toUTF8)) : files.readText path = .ok text := by
  have valid : String.fromUTF8? text.toUTF8 = some text := dif_pos text.isValidUTF8
  unfold readText
  simp only [found, bind, Except.bind, file, valid]
  rfl

/-- **Writing a text does just that.** -/
theorem overwritten_of_writeText {path text : String}
    (written : files.writeText path text = .ok after) : files.Overwritten path text after := by
  obtain ⟨place, writable, noDirectory, rfl⟩ := writeText_eq_ok_iff.mp written
  obtain ⟨first, parts, started, found⟩ := exists_walk_of_target writable
  have reached : files.Reached place := (reached_start started).walk found
  have others : ∀ other, other ≠ place →
      entry? (files.put place text.toUTF8) other = files.entry? other :=
    fun other different => entry?_put_of_ne different fun above => reached other above different
  have stillFound : (files.put place text.toUTF8).walk first parts = .ok place :=
    walk_of_agrees others noDirectory found
  exact ⟨readText_of_file (find_of_walk started stillFound) (entry?_put_self files place _),
    place, find_of_walk started found, entry?_put_self files place _, others⟩

end InfoModel.FileSet

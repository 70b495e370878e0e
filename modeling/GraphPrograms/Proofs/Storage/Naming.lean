import GraphPrograms.Proofs.Files.Naming
import GraphPrograms.Storage.Layout

/-!
The names of program files.

Each number has a name of its own (`fileName_injective`), and the name under which a folder in the
way of one program would be kept is not that of another one (`eq_of_backupName_fileName`).
-/

namespace GraphPrograms

theorem Text.ofNat_injective : Function.Injective Text.ofNat := by
  intro left right same
  have digits := congrArg (fun digits => Nat.ofDigitChars 10 digits 0) same
  simpa only [Text.ofNat, Nat.ofDigitChars_ten_toDigits] using digits

theorem Text.ofNat_ne_nil (number : Nat) : Text.ofNat number ≠ [] := Nat.toDigits_ne_nil

theorem Text.isDigit_of_mem_ofNat {number : Nat} {mark : Char} (inside : mark ∈ Text.ofNat number) :
    mark.isDigit = true :=
  Nat.isDigit_of_mem_toDigits (by decide) (by decide) inside

theorem Path.stem_of_dropWhile {name kept : Text} {dot : Char}
    (cut : name.reverse.dropWhile (· != '.') = dot :: kept) (visible : kept ≠ []) :
    stem name = kept.reverse := by
  obtain ⟨first, before, rfl⟩ := List.exists_cons_of_ne_nil visible
  rw [stem, cut]

theorem Path.exists_stem {front : Text} (visible : front ≠ []) (rest : Text) :
    ∃ later, stem (front ++ '.' :: rest) ++ ['.'] = front ++ '.' :: later := by
  have whole : (front ++ '.' :: rest).reverse.dropWhile (· != '.') =
      rest.reverse.dropWhile (· != '.') ++ '.' :: front.reverse ∨
        (front ++ '.' :: rest).reverse.dropWhile (· != '.') = '.' :: front.reverse := by
    rw [List.reverse_append, List.reverse_cons, List.append_assoc, List.dropWhile_append]
    split
    · exact .inr (List.dropWhile_cons_of_neg (by decide))
    · exact .inl rfl
  have backwards : front.reverse ≠ [] := mt List.reverse_eq_nil_iff.mp visible
  rcases whole with longer | shortest
  · cases cut : rest.reverse.dropWhile (· != '.') with
    | nil =>
        rw [cut] at longer
        exact ⟨[], by rw [stem_of_dropWhile longer backwards, List.reverse_reverse]⟩
    | cons dot inner =>
        rw [cut] at longer
        refine ⟨inner.reverse ++ ['.'], ?_⟩
        rw [stem_of_dropWhile longer (by simp)]
        simp
  · exact ⟨[], by rw [stem_of_dropWhile shortest backwards, List.reverse_reverse]⟩

namespace OutputLayout

/-- A layout of which no name leads into another folder. -/
structure Flat (layout : OutputLayout) : Prop where
  stem : '/' ∉ layout.stem
  extension : '/' ∉ layout.extension

variable {layout : OutputLayout} {number other : Nat}

theorem fileName_eq (layout : OutputLayout) (number : Nat) : ∃ ending,
    layout.fileName number = layout.stem ++ Text.ofNat number ++ ending ∧
      (layout.extension = [] ∧ ending = [] ∨
        layout.extension ≠ [] ∧ ending = '.' :: layout.extension) := by
  unfold fileName
  cases layout.extension with
  | nil => exact ⟨[], rfl, .inl ⟨rfl, rfl⟩⟩
  | cons first later => exact ⟨_, rfl, .inr ⟨List.cons_ne_nil first later, rfl⟩⟩

theorem isName_fileName (flat : layout.Flat) (number : Nat) : (layout.fileName number).IsName where
  visible := by simp [fileName, Text.ofNat_ne_nil]
  free := by
    intro inside
    obtain ⟨ending, name, shape⟩ := layout.fileName_eq number
    rw [name, List.mem_append, List.mem_append] at inside
    rcases inside with (stem | digit) | ending
    · exact flat.stem stem
    · exact absurd (Text.isDigit_of_mem_ofNat digit) (by decide)
    · rcases shape with ⟨_, rfl⟩ | ⟨_, rfl⟩
      · contradiction
      · rcases List.mem_cons.mp ending with dot | extension
        · exact absurd dot (by decide)
        · exact flat.extension extension

theorem exists_digit_mem_fileName (layout : OutputLayout) (number : Nat) :
    ∃ digit ∈ layout.fileName number, digit.isDigit = true := by
  obtain ⟨digit, inside⟩ := List.exists_mem_of_ne_nil _ (Text.ofNat_ne_nil number)
  refine ⟨digit, ?_, Text.isDigit_of_mem_ofNat inside⟩
  exact List.mem_append_left _ (List.mem_append_right _ inside)

theorem fileName_ne_dots (layout : OutputLayout) (number : Nat) :
    layout.fileName number ≠ ['.'] ∧ layout.fileName number ≠ ['.', '.'] := by
  obtain ⟨digit, inside, isDigit⟩ := layout.exists_digit_mem_fileName number
  constructor <;>
  · intro dots
    have dot : digit = '.' := by simpa [dots] using inside
    rw [dot] at isDigit
    exact absurd isDigit (by decide)

theorem fileName_injective (layout : OutputLayout) : Function.Injective layout.fileName := by
  intro left right same
  unfold fileName at same
  exact Text.ofNat_injective (List.append_cancel_left (List.append_cancel_right same))

/-- The digits of a number end where a dot stands. -/
theorem eq_of_ofNat_append {left right : Nat} {after later : Text}
    (same : Text.ofNat left ++ '.' :: after = Text.ofNat right ++ '.' :: later) : left = right := by
  have digits (number : Nat) (rest : Text) :
      (Text.ofNat number ++ '.' :: rest).takeWhile Char.isDigit = Text.ofNat number := by
    rw [List.takeWhile_append_of_pos fun mark inside => Text.isDigit_of_mem_ofNat inside]
    exact List.append_nil _
  refine Text.ofNat_injective ?_
  rw [← digits left after, same, digits]

/-- What is kept aside for a program has the name of no other one. -/
theorem eq_of_backupName_fileName {left right : Nat}
    (same : Path.backupName (layout.fileName left) = layout.fileName right) : right = left := by
  obtain ⟨ending, name, shape⟩ := layout.fileName_eq left
  obtain ⟨again, other, sameShape⟩ := layout.fileName_eq right
  rcases shape with ⟨none, _⟩ | ⟨some, rfl⟩
  · -- Without an extension a program's name ends in a digit.
    obtain ⟨digit, ends⟩ := Option.ne_none_iff_exists'.mp
      (mt List.getLast?_eq_none_iff.mp (Text.ofNat_ne_nil right))
    rcases sameShape with ⟨_, rfl⟩ | ⟨some, _⟩
    · have last := congrArg List.getLast? same
      rw [other, List.append_nil, List.getLast?_append, ends, Option.some_or,
        Path.backupName, List.getLast?_append] at last
      have isK : 'k' = digit := by simpa using last
      have isDigit := Text.isDigit_of_mem_ofNat (List.mem_of_getLast? ends)
      rw [← isK] at isDigit
      exact absurd isDigit (by decide)
    · contradiction
  · rcases sameShape with ⟨none, _⟩ | ⟨_, rfl⟩
    · contradiction
    · have visible : layout.stem ++ Text.ofNat left ≠ [] := by
        simp [Text.ofNat_ne_nil]
      obtain ⟨later, stem⟩ := Path.exists_stem visible layout.extension
      rw [Path.backupName, name, stem, other, List.append_assoc, List.append_assoc,
        List.append_assoc] at same
      exact (eq_of_ofNat_append (List.append_cancel_left same)).symm

theorem named_pathFor (flat : layout.Flat) (number : Nat) :
    (layout.pathFor number).Named (layout.fileName number) :=
  Path.named_join (isName_fileName flat number) (layout.fileName_ne_dots number).1
    (layout.fileName_ne_dots number).2

/-- All programs are in one folder. -/
theorem stagingFolder_pathFor (flat : layout.Flat) (disk : Disk) (number : Nat) :
    disk.stagingFolder (layout.pathFor number) =
      disk.walk (disk.start layout.folder) layout.folder.names :=
  Disk.stagingFolder_join (isName_fileName flat number) (layout.fileName_ne_dots number).1
    (layout.fileName_ne_dots number).2 disk

theorem pathFor_injective (flat : layout.Flat) : Function.Injective layout.pathFor := by
  intro left right same
  have names := (named_pathFor flat left).last
  rw [same, (named_pathFor flat right).last, Option.some.injEq] at names
  exact (layout.fileName_injective names).symm

end OutputLayout

end GraphPrograms

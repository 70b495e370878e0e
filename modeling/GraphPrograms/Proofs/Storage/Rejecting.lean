import GraphPrograms.Proofs.Command.Conservation
import GraphPrograms.Proofs.Equation.Spacing
import GraphPrograms.Proofs.Text.Lines

/-!
Rejects that are appended to a file, and what is read from it then.

The file takes the texts as they are, but lines are more than their texts: a last line that is not
ended takes the first reject in (`rejects_follow_lines_iff`), and a carriage return at the end of a
text goes for a part of the line's end.  It never makes a reject an equation or a blank line, so a
file of rejects alone is rejected line by line (`rejects_stay_rejects`).
-/

namespace GraphPrograms

namespace Text

theorem encode_append (left right : Text) :
    encode (left ++ right) = encode left ++ encode right := by
  simp [encode]

theorem eq_encode_of_decode? {bytes : ByteArray} {text : Text}
    (decoded : decode? bytes = some text) : bytes = encode text := by
  unfold decode? String.fromUTF8? at decoded
  split at decoded
  · cases decoded
    rw [encode, String.ofList_toList]
    rfl
  · contradiction

end Text

/-- A blank at the end of a line makes no equation of it and takes none away. -/
theorem Equation.parse_append_blank {blanks : Text} (line : Text)
    (blank : ∀ character ∈ blanks, Text.isBlank character = true) :
    (∃ equation, parse (line ++ blanks) = .ok equation) ↔
      ∃ equation, parse line = .ok equation := by
  have same : (parse (line ++ blanks)).map respaced = (parse line).map respaced := by
    rw [← parse_compact, ← parse_compact, Text.compact_append_right line blank]
  cases whole : parse (line ++ blanks) <;> cases short : parse line <;>
    simp [whole, short, Except.map] at same ⊢

namespace Sheet

/-- A line that is rejected wherever it stands. -/
structure Refused (line : Text) : Prop where
  unbroken : '\n' ∉ line
  visible : Text.isAllBlank line = false
  unread : Equation.parse line = .error .noMatch

theorem Refused.dropReturn {line : Text} (refused : Refused line) :
    Refused (Text.dropReturn line) where
  unbroken := fun inside => refused.unbroken (Text.dropReturn_subset line inside)
  visible := by
    have visible := refused.visible
    rcases Text.dropReturn_or line with same | ends
    · rwa [← same]
    · have blank : Text.isAllBlank ['\r'] = true := by decide
      rw [ends, Text.isAllBlank, List.all_append, ← Text.isAllBlank, ← Text.isAllBlank, blank,
        Bool.and_true] at visible
      exact visible
  unread := by
    rcases Text.dropReturn_or line with same | ends
    · exact same ▸ refused.unread
    · cases read : Equation.parse (Text.dropReturn line) with
      | error reason => rfl
      | ok equation =>
          have blank : Text.isBlank '\r' = true := by decide
          obtain ⟨other, found⟩ := (Equation.parse_append_blank _
            (List.forall_mem_singleton.mpr blank)).mpr ⟨equation, read⟩
          rw [← ends, refused.unread] at found
          contradiction

theorem ofLinesFrom_of_refused {lines : List Text} (refused : ∀ line ∈ lines, Refused line)
    (number : Nat) : ofLinesFrom number lines =
      ⟨[], lines.mapIdx fun index line => ⟨number + index, line, .noMatch⟩⟩ := by
  induction lines generalizing number with
  | nil => rfl
  | cons line rest ih =>
      obtain ⟨first, later⟩ := List.forall_mem_cons.mp refused
      rw [ofLinesFrom, addLine, ih later, first.visible, first.unread, List.mapIdx_cons]
      simp [Nat.add_comm, Nat.add_left_comm]

theorem refused_of_mem_rejected {lines : List Text} (unbroken : ∀ line ∈ lines, '\n' ∉ line)
    {line : Text} (member : line ∈ rejected (kept lines)) : Refused line := by
  obtain ⟨isKept, unread⟩ := List.mem_filter.mp member
  obtain ⟨listed, visible⟩ := List.mem_filter.mp isKept
  refine ⟨unbroken line listed, by simpa using visible, ?_⟩
  cases read : Equation.parse line with
  | error reason => rfl
  | ok equation => simp [read, Except.toOption] at unread

end Sheet

theorem Disk.isThere_of_filePlace? {disk : Disk} {path : Path} {place : Place}
    (found : disk.filePlace? path = some place) (there : disk.kind? place ≠ none) :
    disk.isThere path = true := by
  obtain ⟨outer, name, located, rfl⟩ := filePlace?_eq_some_iff.mp found
  rw [ne_eq, kind?_eq_none_iff, ← ne_eq, Option.ne_none_iff_isSome] at there
  simpa [isThere, entryAt?, located] using there

namespace Storage

open Disk

variable {disk after : Disk} {input path : Path} {plain : Bool} {sheet : Sheet} {old : Text}
  {rejects : List Reject}

theorem refused_of_load (loaded : load disk input plain = .ok sheet) :
    ∀ reject ∈ sheet.rejects, Sheet.Refused reject.text := by
  intro reject member
  cases read : readLines disk input plain with
  | error cause => simp [load, read, Except.map] at loaded
  | ok lines =>
      simp only [load, read, Except.map, Except.ok.injEq] at loaded
      have listed := List.mem_map_of_mem (f := Reject.text) member
      rw [← loaded, Sheet.ofLines, Sheet.map_text_ofLinesFrom] at listed
      exact Sheet.refused_of_mem_rejected
        (fun line => Equation.lineFeed_not_mem_of_readLines read) listed

/-- The text that a file has, if it is there. -/
def Held (disk : Disk) (path : Path) (old : Text) : Prop :=
  disk.readText path = .ok old ∨ disk.isThere path = false ∧ old = []

theorem readText_of_appendRejects (grounded : disk.Grounded) (held : Held disk path old)
    (present : rejects ≠ []) (saved : appendRejects disk path rejects = (after, .ok ())) :
    after.readText path = .ok (old ++ Text.ofEndedLines (rejects.map Reject.text)) := by
  have keeps := keeps_of_appendRejects grounded saved
  obtain ⟨place, bytes, found, before, sets⟩ := sets_of_appendRejects grounded saved present
  have encoded : bytes = Text.encode old := by
    rcases held with read | ⟨absent, rfl⟩
    · unfold readText at read
      cases bytesRead : disk.read path with
      | error cause => simp [bytesRead] at read
      | ok content =>
          obtain ⟨same, there, file⟩ := read_eq_ok_iff.mp bytesRead
          obtain rfl : same = place := Option.some.inj (there.symm.trans found)
          rcases before with has | ⟨none, _⟩
          · obtain rfl : content = bytes := by simpa [file] using has
            cases decoded : Text.decode? content with
            | none => simp [bytesRead, decoded] at read
            | some text =>
                simp only [bytesRead, decoded, Except.ok.injEq] at read
                exact read ▸ Text.eq_encode_of_decode? decoded
          · simp [file] at none
    · rcases before with has | ⟨_, rfl⟩
      · rw [isThere_of_filePlace? found (by simp [has])] at absent
        contradiction
      · rfl
  refine readText_of_read (read_eq_ok_iff.mpr ⟨place, keeps.filePlace? found, ?_⟩)
  rw [sets.kind?_self, encoded, Text.encode_append]

/-- Appended rejects are read as lines of their own, behind the lines there were, exactly if the
file ended with a line feed or had nothing in it and no reject ends with a carriage return. -/
theorem rejects_follow_lines_iff (grounded : disk.Grounded)
    (loaded : load disk input plain = .ok sheet) (present : sheet.rejects ≠ [])
    (held : Held disk path old)
    (saved : appendRejects disk path sheet.rejects = (after, .ok ())) :
    ∃ lines, readLines after path false = .ok lines ∧
      (lines = Text.lines old ++ sheet.rejects.map Reject.text ↔
        (old = [] ∨ old.getLast? = some '\n') ∧
          ∀ reject ∈ sheet.rejects, reject.text.getLast? ≠ some '\r') := by
  have read := readText_of_appendRejects grounded held present saved
  refine ⟨_, readLines_of_readText read false, ?_⟩
  have free : ∀ line ∈ sheet.rejects.map Reject.text, '\n' ∉ line :=
    List.forall_mem_map.mpr fun reject member => (refused_of_load loaded reject member).unbroken
  have ends := Text.lines_append_iff old free (by simpa using present)
  rw [List.forall_mem_map] at ends
  exact ends

theorem rejects_follow_lines_iff_ended :
    let disk : Disk := { root := .folder [
      ("in".toList, .file (Text.encode "y = x\nno\n".toList)),
      ("bad".toList, .file (Text.encode "old\n".toList))] }
    let sheet : Sheet := ⟨[⟨['x'], []⟩], [⟨2, "no".toList, .noMatch⟩]⟩
    disk.Grounded ∧ load disk (.ofString "in") false = .ok sheet ∧
      Held disk (.ofString "bad") "old\n".toList ∧
      ∃ after, appendRejects disk (.ofString "bad") sheet.rejects = (after, .ok ()) ∧
        readLines after (.ofString "bad") false = .ok ["old".toList, "no".toList] := by
  intro disk sheet
  have grounded : disk.Grounded := rfl
  have loaded : load disk (.ofString "in") false = .ok sheet := by decide +kernel
  have held : Held disk (.ofString "bad") "old\n".toList := .inl (readText_of_read rfl)
  obtain ⟨after, saved⟩ : ∃ after,
      appendRejects disk (.ofString "bad") sheet.rejects = (after, .ok ()) := ⟨_, rfl⟩
  obtain ⟨lines, read, follow⟩ := rejects_follow_lines_iff grounded loaded (by decide) held saved
  have same := follow.mpr (by decide)
  exact ⟨grounded, loaded, held, after, saved, by rw [read, same]; decide⟩

/-- A last line without a line feed takes in the first reject, and a carriage return at the end of a
reject is not read back. -/
theorem rejects_change_lines :
    let unended : Disk := { root := .folder [
      ("in".toList, .file (Text.encode "no\n".toList)),
      ("bad".toList, .file (Text.encode "old".toList))] }
    let returning : Disk := { root := .folder [
      ("in".toList, .file (Text.encode "no\r\r\n".toList))] }
    let joined := appendRejects unended (.ofString "bad") [⟨1, "no".toList, .noMatch⟩]
    let shortened := appendRejects returning (.ofString "bad") [⟨1, "no\r".toList, .noMatch⟩]
    load unended (.ofString "in") false = .ok ⟨[], [⟨1, "no".toList, .noMatch⟩]⟩ ∧
      readLines unended (.ofString "bad") false = .ok ["old".toList] ∧ joined.2 = .ok () ∧
      readLines joined.1 (.ofString "bad") false = .ok ["oldno".toList] ∧
      load returning (.ofString "in") false = .ok ⟨[], [⟨1, "no\r".toList, .noMatch⟩]⟩ ∧
      returning.isThere (.ofString "bad") = false ∧ shortened.2 = .ok () ∧
      readLines shortened.1 (.ofString "bad") false = .ok ["no".toList] := by
  decide +kernel

/-- Rejects alone in a file are rejected again, line by line: each keeps its text but for one
carriage return at its end. -/
theorem rejects_stay_rejects (grounded : disk.Grounded)
    (loaded : load disk input plain = .ok sheet) (present : sheet.rejects ≠ [])
    (absent : disk.isThere path = false)
    (saved : appendRejects disk path sheet.rejects = (after, .ok ())) :
    load after path false = .ok ⟨[], sheet.rejects.mapIdx fun index reject =>
      ⟨index + 1, Text.dropReturn reject.text, .noMatch⟩⟩ ∧
      ∀ reject ∈ sheet.rejects, reject.text = Text.dropReturn reject.text ∨
        reject.text = Text.dropReturn reject.text ++ ['\r'] := by
  refine ⟨?_, fun reject _ => Text.dropReturn_or reject.text⟩
  have refused := refused_of_load loaded
  have read := readText_of_appendRejects grounded (.inr ⟨absent, rfl⟩) present saved
  have lines : linesOf false (Text.ofEndedLines (sheet.rejects.map Reject.text)) =
      sheet.rejects.map fun reject => Text.dropReturn reject.text := by
    rw [linesOf, if_neg Bool.false_ne_true, Text.lines_ofEndedLines, List.map_map]
    · rfl
    · exact List.forall_mem_map.mpr fun reject member => (refused reject member).unbroken
  rw [List.nil_append] at read
  rw [load_of_readText read, lines, Sheet.ofLines, Sheet.ofLinesFrom_of_refused]
  · simp [List.mapIdx_eq_zipIdx_map, List.zipIdx_map, Nat.add_comm, Function.comp_def]
  · exact List.forall_mem_map.mpr fun reject member => (refused reject member).dropReturn

/-- A carriage return is lost on the way, and blank lines and equations are not counted. -/
theorem rejects_stay_rejects_renumbered :
    let disk : Disk := { root := .folder [
      ("in".toList, .file (Text.encode "\ny = x\nno\r\r\n y".toList))] }
    let sheet : Sheet := ⟨[⟨['x'], []⟩], [⟨3, "no\r".toList, .noMatch⟩, ⟨4, " y".toList, .noMatch⟩]⟩
    disk.Grounded ∧ load disk (.ofString "in") false = .ok sheet ∧
      disk.isThere (.ofString "bad") = false ∧
      ∃ after, appendRejects disk (.ofString "bad") sheet.rejects = (after, .ok ()) ∧
        load after (.ofString "bad") false =
          .ok ⟨[], [⟨1, "no".toList, .noMatch⟩, ⟨2, " y".toList, .noMatch⟩]⟩ := by
  intro disk sheet
  have grounded : disk.Grounded := rfl
  have loaded : load disk (.ofString "in") false = .ok sheet := by decide +kernel
  have absent : disk.isThere (.ofString "bad") = false := rfl
  obtain ⟨after, saved⟩ : ∃ after,
      appendRejects disk (.ofString "bad") sheet.rejects = (after, .ok ()) := ⟨_, rfl⟩
  obtain ⟨reloaded, _⟩ := rejects_stay_rejects grounded loaded (by decide) absent saved
  exact ⟨grounded, loaded, absent, after, saved, reloaded⟩

end Storage

end GraphPrograms

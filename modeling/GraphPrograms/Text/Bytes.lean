import GraphPrograms.Text.Basic

/-!
Positions in the bytes of a text.

A position counts the bytes before it.  It is usable only between two characters or at an end of the
text; any other position gives `none`, as does a range that ends before it starts.
-/

namespace GraphPrograms.Text

def byteSize (text : Text) : Nat :=
  text.foldr (fun character size => character.utf8Size + size) 0

/-- The parts of a text before and behind a position. -/
def splitAtByte? : Text → Nat → Option (Text × Text)
  | text, 0 => some ([], text)
  | [], _ + 1 => none
  | first :: rest, position + 1 =>
      if first.utf8Size ≤ position + 1 then
        (splitAtByte? rest (position + 1 - first.utf8Size)).map fun parts =>
          (first :: parts.1, parts.2)
      else none

def insertAtByte? (text : Text) (position : Nat) (line : Text) : Option Text :=
  (text.splitAtByte? position).map fun parts => parts.1 ++ line ++ parts.2

def removeBytes? (text : Text) (start stop : Nat) : Option Text :=
  if start ≤ stop then
    (text.splitAtByte? start).bind fun outer =>
      (text.splitAtByte? stop).map fun inner => outer.1 ++ inner.2
  else none

@[simp] theorem byteSize_nil : byteSize [] = 0 := rfl

@[simp] theorem byteSize_cons (first : Char) (rest : Text) :
    byteSize (first :: rest) = first.utf8Size + byteSize rest := rfl

@[simp] theorem byteSize_append (left right : Text) :
    byteSize (left ++ right) = byteSize left + byteSize right := by
  induction left with
  | nil => simp
  | cons first rest ih =>
      rw [List.cons_append, byteSize_cons, byteSize_cons, ih]
      omega

theorem splitAtByte?_append (left right : Text) :
    splitAtByte? (left ++ right) (byteSize left) = some (left, right) := by
  induction left with
  | nil => rw [List.nil_append, byteSize_nil, splitAtByte?]
  | cons first rest ih =>
      -- A character has at least one byte, so the position is not the start.
      obtain ⟨more, size⟩ := Nat.exists_eq_add_one.mpr first.utf8Size_pos
      have position : byteSize (first :: rest) = more + byteSize rest + 1 := by
        rw [byteSize_cons, size]
        omega
      have left_over : more + byteSize rest + 1 - first.utf8Size = byteSize rest := by omega
      rw [position, List.cons_append, splitAtByte?, if_pos (by omega), left_over, ih,
        Option.map_some]

theorem insertAtByte?_append (left right line : Text) :
    insertAtByte? (left ++ right) (byteSize left) line = some (left ++ line ++ right) := by
  rw [insertAtByte?, splitAtByte?_append, Option.map_some]

theorem removeBytes?_append (left middle right : Text) :
    removeBytes? (left ++ middle ++ right) (byteSize left) (byteSize (left ++ middle)) =
      some (left ++ right) := by
  have outer : splitAtByte? (left ++ middle ++ right) (byteSize left) =
      some (left, middle ++ right) := by
    rw [List.append_assoc, splitAtByte?_append]
  have inner := splitAtByte?_append (left ++ middle) right
  rw [removeBytes?, if_pos (by simp), outer, Option.bind_some, inner, Option.map_some]

end GraphPrograms.Text

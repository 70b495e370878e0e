import GraphPrograms.Proofs.Equation.Clear

/-!
Which lines leave nothing behind when they are made plain.

Two commands are spelled out as nothing, one as a space, and a backslash that belongs to no command
is taken away.  A line of these and of blanks is empty in the end, and no other line is.
-/

namespace GraphPrograms.Plain

variable {first : Char} {text rest line left right : Text} {entry : Text × Text}

/-- The commands that are spelled out as nothing or as a space, and the backslash. -/
def traceless : List Text := ["\\".toList, "\\left".toList, "\\right".toList, "\\,".toList]

/-- A text of blanks and of what leaves no trace. -/
inductive Vanishing : Text → Prop where
  | empty : Vanishing []
  | blank {character : Char} {rest : Text} (isBlank : Text.isBlank character = true)
      (behind : Vanishing rest) : Vanishing (character :: rest)
  | command {command rest : Text} (listed : command ∈ traceless) (behind : Vanishing rest) :
      Vanishing (command ++ rest)

theorem Vanishing.backslash (behind : Vanishing rest) : Vanishing ('\\' :: rest) :=
  @Vanishing.command ['\\'] rest (by decide) behind

/-- A text of blanks and backslashes. -/
def Faint (text : Text) : Prop :=
  ∀ character ∈ text, Text.isBlank character = true ∨ character = '\\'

instance (text : Text) : Decidable (Faint text) := List.decidableBAll _ text

theorem faint_append : Faint (left ++ right) ↔ Faint left ∧ Faint right :=
  List.forall_mem_append

theorem faint_cons :
    Faint (first :: rest) ↔ (Text.isBlank first = true ∨ first = '\\') ∧ Faint rest :=
  List.forall_mem_cons

theorem faint_map_asBrace : Faint (text.map asBrace) ↔ Faint text := by
  rw [Faint, List.forall_mem_map]
  refine forall₂_congr fun character _ => ?_
  rw [isBlank_asBrace, asBrace_eq_iff (by decide)]

theorem ofLine_eq_nil_iff_faint : ofLine line = [] ↔ Faint (spellOut line) := by
  rw [← faint_map_asBrace, ← map_asBrace_parenthesizeAfter [] [], faint_map_asBrace, ofLine,
    Text.compact_eq_nil_iff, parenthesize]
  simp only [List.mem_filter, bne_iff_ne, Faint, and_imp]
  exact forall₂_congr fun character inside => by rw [or_iff_not_imp_right]

theorem eq_append_of_spelling? (found : spelling? (first :: rest) = some entry) :
    first :: rest = entry.1 ++ rest.drop (entry.1.length - 1) := by
  obtain ⟨mark, _, starts⟩ := head_spellings (List.mem_of_find?_eq_some found)
  obtain ⟨inner, command⟩ := List.head?_eq_some_iff.mp starts
  have fits : entry.1.isPrefixOf (first :: rest) = true := by
    simpa using List.find?_some found
  obtain ⟨later, whole⟩ := List.isPrefixOf_iff_prefix.mp fits
  rw [command, List.cons_append] at whole
  obtain ⟨rfl, rfl⟩ := List.cons.inj whole
  simp [command]

theorem Vanishing.isBlank_head? (vanishing : Vanishing text) (starts : text.head? = some first) :
    Text.isBlank first = true ∨ first = '\\' := by
  have backslash : ∀ command ∈ traceless, command.head? = some '\\' := by decide
  cases vanishing with
  | empty => contradiction
  | blank isBlank behind =>
      obtain rfl := Option.some.inj starts
      exact .inl isBlank
  | command listed behind =>
      rw [List.head?_append, backslash _ listed] at starts
      exact .inr (Option.some.inj starts).symm

theorem spellOut_blank (isBlank : Text.isBlank first = true) (rest : Text) :
    spellOut (first :: rest) = first :: spellOut rest :=
  @spellOut_append [first] (unmarked_of_blank (by simpa using isBlank)) rest

/-- A backslash before a blank or another backslash is no command, unless it stands for a space. -/
theorem eq_space_of_spelling? (found : spelling? ('\\' :: rest) = some entry)
    (faint : ∀ next ∈ rest.head?, Text.isBlank next = true ∨ next = '\\') :
    ∃ later, rest = ' ' :: later := by
  have visible : ∀ entry ∈ spellings, entry.1.head? = some '\\' → entry.1 ≠ ['\\', ' '] →
      entry.1[1]?.any (fun next => !Text.isBlank next && next != '\\') = true := by decide
  have whole := eq_append_of_spelling? found
  by_cases space : entry.1 = ['\\', ' ']
  · rw [space] at whole
    exact ⟨_, (List.cons.inj whole).2⟩
  · have tabled := List.mem_of_find?_eq_some found
    obtain ⟨mark, _, starts⟩ := head_spellings tabled
    obtain rfl : '\\' = mark := by
      have heads := congrArg List.head? whole
      rw [List.head?_append, starts] at heads
      exact Option.some.inj heads
    obtain ⟨next, second, seen⟩ := (Option.any_eq_true _ _).mp (visible entry tabled starts space)
    obtain ⟨inside, _⟩ := List.getElem?_eq_some_iff.mp second
    have behind := congrArg (·[1]?) whole
    rw [List.getElem?_append_left inside, second, List.getElem?_cons_succ,
      ← List.head?_eq_getElem?] at behind
    have hidden := faint next behind
    rcases hidden with blank | backslash
    · simp [blank] at seen
    · simp [backslash] at seen

theorem faint_spellOut_backslash (vanishing : Vanishing rest) (faint : Faint (spellOut rest)) :
    Faint (spellOut ('\\' :: rest)) := by
  cases found : spelling? ('\\' :: rest) with
  | none =>
      rw [spellOut, found]
      exact faint_cons.mpr ⟨.inr rfl, faint⟩
  | some entry =>
      obtain ⟨later, rfl⟩ := eq_space_of_spelling? found fun _ => vanishing.isBlank_head?
      have space := @spellOut_of_spelling? ['\\', ' '] [' '] later rfl
      rw [spellOut_blank rfl] at faint
      exact space ▸ faint

theorem faint_of_vanishing (vanishing : Vanishing line) : Faint (spellOut line) := by
  induction vanishing with
  | empty => simp [spellOut, Faint]
  | blank isBlank _ ih =>
      rw [spellOut_blank isBlank]
      exact faint_cons.mpr ⟨.inl isBlank, ih⟩
  | @command command rest listed behind ih =>
      simp only [traceless, List.mem_cons, List.not_mem_nil, or_false] at listed
      obtain rfl | rfl | rfl | rfl := listed
      · exact faint_spellOut_backslash behind ih
      · have nothing := @spellOut_of_spelling? ['\\', 'l', 'e', 'f', 't'] [] rest rfl
        exact nothing ▸ ih
      · have nothing := @spellOut_of_spelling? ['\\', 'r', 'i', 'g', 'h', 't'] [] rest rfl
        exact nothing ▸ ih
      · have space := @spellOut_of_spelling? ['\\', ','] [' '] rest rfl
        exact space ▸ faint_append.mpr ⟨by decide, ih⟩

theorem vanishing_of_faint (faint : Faint (spellOut line)) : Vanishing line := by
  have spells : ∀ entry ∈ spellings, Faint entry.2 →
      entry.1 ∈ traceless ∨ entry.1 = ['\\', ' '] := by decide
  induction line using spellOut.induct with
  | case1 => exact .empty
  | case2 first rest entry found ih =>
      rw [spellOut, found, faint_append] at faint
      obtain ⟨traced, behind⟩ := faint
      have later := ih behind
      rw [eq_append_of_spelling? found]
      rcases spells entry (List.mem_of_find?_eq_some found) traced with listed | space
      · exact .command listed later
      · rw [space] at later ⊢
        exact .backslash (.blank (by decide) later)
  | case3 first rest found ih =>
      rw [spellOut, found, faint_cons] at faint
      obtain ⟨isBlank | backslash, behind⟩ := faint
      · exact .blank isBlank (ih behind)
      · subst backslash
        exact .backslash (ih behind)

theorem ofLine_eq_nil_iff : ofLine line = [] ↔ Vanishing line :=
  ofLine_eq_nil_iff_faint.trans ⟨vanishing_of_faint, faint_of_vanishing⟩

instance (line : Text) : Decidable (Vanishing line) := decidable_of_iff _ ofLine_eq_nil_iff

theorem Vanishing.of_isAllBlank (blank : Text.isAllBlank line = true) : Vanishing line := by
  rw [Text.isAllBlank, List.all_eq_true] at blank
  induction line with
  | nil => exact .empty
  | cons first rest ih =>
      obtain ⟨isBlank, behind⟩ := List.forall_mem_cons.mp blank
      exact .blank isBlank (ih behind)

end GraphPrograms.Plain

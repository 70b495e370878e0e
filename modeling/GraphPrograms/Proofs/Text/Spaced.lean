import GraphPrograms.Proofs.Text.Compact

/-!
Compact texts by where their blanks stand.

A text is compact if each of its blanks is a space between two visible characters
(`compact_eq_self_iff`).  Compacting never brings visible characters together that were apart, so it
does not change which visible texts occur (`infix_compact_iff`).
-/

namespace GraphPrograms.Text

variable {mark : Char} {text part : Text}

/-- Every blank is a space between two visible characters. -/
def SinglySpaced (text : Text) : Prop :=
  ∀ before blank after, text = before ++ blank :: after → isBlank blank = true →
    blank = ' ' ∧ (∃ last, before.getLast? = some last ∧ isBlank last = false) ∧
      ∃ next, after.head? = some next ∧ isBlank next = false

theorem singlySpaced_compact (text : Text) : SinglySpaced (compact text) := by
  induction text with
  | nil =>
      intro before mark after whole
      simp [compact, words] at whole
  | cons first rest ih =>
      cases visible : isBlank first with
      | true =>
          rw [compact_cons_blank visible]
          exact ih
      | false =>
          intro before mark after whole blank
          rw [compact_cons visible] at whole
          rcases List.cons_eq_append_iff.mp whole with ⟨rfl, same⟩ | ⟨inner, rfl, behind⟩
          · obtain ⟨rfl, -⟩ := List.cons.inj same
            rw [blank] at visible
            contradiction
          · unfold spaceBefore at behind
            split at behind
            · rename_i spaced
              rcases List.cons_eq_append_iff.mp behind with ⟨rfl, same⟩ | ⟨deeper, rfl, later⟩
              · obtain ⟨rfl, rfl⟩ := List.cons.inj same
                obtain ⟨next, later, starts⟩ := List.exists_cons_of_ne_nil spaced.2
                have head : (compact rest).head? = some next := by rw [starts, List.head?_cons]
                exact ⟨rfl, ⟨first, rfl, visible⟩, next, head, isBlank_head?_compact head⟩
              · obtain ⟨space, ⟨last, ends, seen⟩, follows⟩ := ih _ _ _ later blank
                exact ⟨space, ⟨last, by simp [List.getLast?_cons, ends], seen⟩, follows⟩
            · obtain ⟨space, ⟨last, ends, seen⟩, follows⟩ := ih _ _ _ behind blank
              exact ⟨space, ⟨last, by simp [List.getLast?_cons, ends], seen⟩, follows⟩

/-- Blanks that are spaces before visible characters stay. -/
theorem spaceBefore_append_compact
    (single : ∀ before blank after, text = before ++ blank :: after → isBlank blank = true →
      blank = ' ' ∧ ∃ next, after.head? = some next ∧ isBlank next = false) :
    spaceBefore text ++ compact text = text := by
  induction text with
  | nil => rfl
  | cons first rest ih =>
      have later := ih fun before blank after whole =>
        single (first :: before) blank after (by rw [whole, List.cons_append])
      cases blank : isBlank first with
      | false => rw [spaceBefore_cons blank, compact_cons blank, later, List.nil_append]
      | true =>
          obtain ⟨rfl, next, starts, visible⟩ := single [] first rest rfl blank
          obtain ⟨behind, rfl⟩ := List.head?_eq_some_iff.mp starts
          have something : compact (' ' :: next :: behind) ≠ [] := by
            rw [compact_cons_blank blank, compact_cons visible]
            exact List.cons_ne_nil _ _
          rw [spaceBefore_cons visible, List.nil_append] at later
          rw [spaceBefore, if_pos ⟨by simp [blank], something⟩, compact_cons_blank blank, later]
          rfl

theorem compact_eq_self_iff : compact text = text ↔ SinglySpaced text := by
  constructor
  · intro same
    rw [← same]
    exact singlySpaced_compact text
  · intro spaced
    have whole := spaceBefore_append_compact fun before blank after split isBlank =>
      ⟨(spaced before blank after split isBlank).1, (spaced before blank after split isBlank).2.2⟩
    have attached : spaceBefore text = [] := by
      cases text with
      | nil => rfl
      | cons first rest =>
          refine spaceBefore_cons (Bool.eq_false_iff.mpr fun blank => ?_) rest
          obtain ⟨-, ⟨last, ends, -⟩, -⟩ := spaced [] first rest rfl blank
          contradiction
    rwa [attached, List.nil_append] at whole

/-- Whether a text is compact depends on its blanks only. -/
theorem singlySpaced_map_iff {f : Char → Char} (blank : ∀ mark, isBlank (f mark) = isBlank mark)
    (space : ∀ mark, f mark = ' ' ↔ mark = ' ') :
    SinglySpaced (text.map f) ↔ SinglySpaced text := by
  constructor
  · rintro spaced before mark after rfl isBlank
    obtain ⟨single, ⟨last, ends, seen⟩, next, starts, follows⟩ :=
      spaced (before.map f) (f mark) (after.map f) List.map_append ((blank mark).trans isBlank)
    rw [List.getLast?_map, Option.map_eq_some_iff] at ends
    rw [List.head?_map, Option.map_eq_some_iff] at starts
    obtain ⟨last, ends, rfl⟩ := ends
    obtain ⟨next, starts, rfl⟩ := starts
    exact ⟨(space mark).mp single, ⟨last, ends, (blank last).symm.trans seen⟩, next, starts,
      (blank next).symm.trans follows⟩
  · intro spaced before mark after whole isBlank
    obtain ⟨front, back, rfl, rfl, ends⟩ := List.map_eq_append_iff.mp whole
    obtain ⟨source, behind, rfl, rfl, rfl⟩ := List.map_eq_cons_iff.mp ends
    obtain ⟨single, ⟨last, ends, seen⟩, next, starts, follows⟩ :=
      spaced front source behind rfl ((blank source).symm.trans isBlank)
    refine ⟨(space source).mpr single, ⟨f last, ?_, (blank last).trans seen⟩, f next, ?_,
      (blank next).trans follows⟩
    · rw [List.getLast?_map, ends, Option.map_some]
    · rw [List.head?_map, starts, Option.map_some]

theorem eq_nil_of_prefix_cons (visible : ∀ character ∈ part, isBlank character = false)
    (blank : isBlank mark = true) (starts : part <+: mark :: text) : part = [] := by
  rcases List.prefix_cons_iff.mp starts with empty | ⟨rest, rfl, -⟩
  · exact empty
  · rw [visible mark List.mem_cons_self] at blank
    contradiction

/-- A visible text starts what is left of a text if it starts the text. -/
theorem prefix_compact_iff (visible : ∀ character ∈ part, isBlank character = false) :
    part <+: spaceBefore text ++ compact text ↔ part <+: text := by
  induction text generalizing part with
  | nil => rfl
  | cons first rest ih =>
      cases blank : isBlank first with
      | true =>
          have empty : part <+: first :: rest ↔ part = [] :=
            ⟨eq_nil_of_prefix_cons visible blank, fun nothing => nothing ▸ List.nil_prefix⟩
          rw [empty]
          refine ⟨fun starts => ?_, fun nothing => nothing ▸ List.nil_prefix⟩
          unfold spaceBefore at starts
          split at starts
          · exact eq_nil_of_prefix_cons visible rfl starts
          · rename_i attached
            have nothing : compact (first :: rest) = [] := by
              simpa [blank] using attached
            rwa [nothing, List.append_nil, List.prefix_nil] at starts
      | false =>
          rw [spaceBefore_cons blank, List.nil_append, compact_cons blank, List.prefix_cons_iff,
            List.prefix_cons_iff]
          refine or_congr_right (exists_congr fun tail => and_congr_right ?_)
          rintro rfl
          exact ih fun character inside => visible character (List.mem_cons_of_mem first inside)

/-- A visible text occurs in a compact one if it occurs in the text that was compacted. -/
theorem infix_compact_iff (visible : ∀ character ∈ part, isBlank character = false)
    (something : part ≠ []) : part <:+: compact text ↔ part <:+: text := by
  induction text with
  | nil => rfl
  | cons first rest ih =>
      have behind : ∀ {mark text}, isBlank mark = true →
          (part <:+: mark :: text ↔ part <:+: text) := by
        intro mark text blank
        rw [List.infix_cons_iff, or_iff_right]
        exact fun starts => something (eq_nil_of_prefix_cons visible blank starts)
      cases blank : isBlank first with
      | true => rw [compact_cons_blank blank, behind blank, ih]
      | false =>
          have start := @prefix_compact_iff (first :: rest) part visible
          rw [spaceBefore_cons blank, List.nil_append, compact_cons blank] at start
          rw [compact_cons blank, List.infix_cons_iff, List.infix_cons_iff, start, ← ih]
          refine or_congr_right ?_
          unfold spaceBefore
          split
          · exact behind rfl
          · rfl

end GraphPrograms.Text

import GraphPrograms.Proofs.Color.Range
import GraphPrograms.Proofs.Text.Characters

/-!
Colors read as themselves.

Whatever text a color is read from, its token is visible, trimmed and in upper case
(`canonical_ofText`), and a token like that is read as the color it belongs to
(`Canonical.ofText_token`), so these are the colors there are (`exists_ofText_eq_iff`).  A color may
go back into a draft and come out of it again, and a policy that let it in does not stop it later.
-/

namespace GraphPrograms

namespace Text

variable {mark character : Char} {text : Text}

theorem capitalCodes_not_blank : ∀ code ∈ capitalCodes, inRanges blankRanges code = false := by
  decide +kernel

theorem upperExpansions_ne_nil : ∀ entry ∈ upperExpansions, entry.2 ≠ [] := by
  decide +kernel

theorem not_isBlank_of_mem_upperChar (visible : isBlank character = false)
    (member : mark ∈ upperChar character) : isBlank mark = false := by
  rcases of_mem_upperChar member with ⟨code, capital, rfl⟩ | ⟨rfl, _⟩
  · obtain ⟨valid, _⟩ := capitalCodes_visible code capital
    rw [isBlank, toNat_ofNat valid]
    exact capitalCodes_not_blank code capital
  · exact visible

theorem upperChar_ne_nil (character : Char) : upperChar character ≠ [] := by
  rcases recased_cases upperExpansions upperRuns character with
    ⟨expansion, entry, expanded⟩ | ⟨_, _, _, moved⟩ | itself
  · rw [upperChar, expanded]
    simpa using upperExpansions_ne_nil _ entry
  · rw [upperChar, moved]
    exact List.cons_ne_nil _ _
  · rw [upperChar, itself]
    exact List.cons_ne_nil _ _

theorem upper_ne_nil (visible : text ≠ []) : upper text ≠ [] := by
  cases text with
  | nil => contradiction
  | cons first rest =>
      rw [upper_cons]
      exact List.append_ne_nil_of_left_ne_nil (upperChar_ne_nil first) _

theorem upper_upper (text : Text) : upper (upper text) = upper text :=
  upper_of_upperChar fun _ inside => upperChar_of_mem_upper inside

/-- A text that starts and ends with visible characters does so in upper case. -/
theorem trim_upper (trimmed : trim text = text) : trim (upper text) = upper text := by
  obtain ⟨visibleStart, visibleEnd⟩ := trim_eq_self_iff.mp trimmed
  refine trim_eq_self_iff.mpr ⟨?start, ?ending⟩
  case start =>
    intro first starts
    cases text with
    | nil => simp at starts
    | cons head rest =>
        rw [upper_cons, List.head?_append_of_ne_nil _ (upperChar_ne_nil head)] at starts
        exact not_isBlank_of_mem_upperChar (visibleStart head rfl) (List.mem_of_head? starts)
  case ending =>
    intro last ends
    cases text using List.reverseRecOn with
    | nil => simp at ends
    | append_singleton rest tail =>
        rw [upper_append, upper_cons, upper_nil, List.append_nil,
          List.getLast?_append_of_ne_nil _ (upperChar_ne_nil tail)] at ends
        exact not_isBlank_of_mem_upperChar (visibleEnd tail (by simp)) (List.mem_of_getLast? ends)

end Text

namespace Color

variable {color : Color} {text : Text}

/-- A color whose token is as reading leaves it. -/
structure Canonical (color : Color) : Prop where
  visible : color.token ≠ []
  trimmed : Text.trim color.token = color.token
  upper : Text.upper color.token = color.token

theorem canonical_fallback : fallback.Canonical where
  visible := by decide
  trimmed := by decide
  upper := by decide

theorem canonical_ofText (text : Text) : (ofText text).Canonical := by
  cases blank : (Text.trim text).isEmpty with
  | true =>
      simp only [ofText, blank]
      exact canonical_fallback
  | false =>
      have visible : Text.trim text ≠ [] := by simpa using blank
      simp only [ofText, blank]
      exact ⟨Text.upper_ne_nil visible, Text.trim_upper (Text.trim_trim text),
        Text.upper_upper (Text.trim text)⟩

theorem Canonical.ofText_token (canonical : color.Canonical) : ofText color.token = color := by
  obtain ⟨visible, trimmed, upper⟩ := canonical
  simp [ofText, trimmed, upper, visible]

theorem exists_ofText_eq_iff : (∃ text, ofText text = color) ↔ color.Canonical := by
  constructor
  · rintro ⟨text, rfl⟩
    exact canonical_ofText text
  · exact fun canonical => ⟨color.token, canonical.ofText_token⟩

/-- A control character in a color was in the text that it was read from. -/
theorem mem_of_mem_ofText {mark : Char} (low : mark.toNat < 0x20)
    (member : mark ∈ (ofText text).token) : mark ∈ text := by
  simp only [ofText] at member
  split at member
  · have high : fallback.token.all (decide <| 0x20 ≤ ·.toNat) = true := by decide
    have late := of_decide_eq_true (List.all_eq_true.mp high mark member)
    omega
  · exact Text.trim_subset text (Text.mem_of_mem_upper low member)

/-- Every text is read as a color that is visible, has no blank at its ends and no line break that
the text has not, and is read as itself; and the tokens in trimmed upper case are all read. -/
theorem ofText_settles :
    (∀ text : Text,
      (ofText text).token ≠ [] ∧
      (∀ first ∈ (ofText text).token.head?, Text.isBlank first = false) ∧
      (∀ last ∈ (ofText text).token.getLast?, Text.isBlank last = false) ∧
      ('\n' ∈ (ofText text).token → '\n' ∈ text) ∧
      ('\r' ∈ (ofText text).token → '\r' ∈ text) ∧
      ofText (ofText text).token = ofText text) ∧
    ∀ color : Color, (∃ text, ofText text = color) ↔
      color.token ≠ [] ∧ Text.trim color.token = color.token ∧
        Text.upper color.token = color.token := by
  constructor
  · intro text
    have canonical := canonical_ofText text
    obtain ⟨starts, ends⟩ := Text.trim_eq_self_iff.mp canonical.trimmed
    exact ⟨canonical.visible, starts, ends, mem_of_mem_ofText (by decide),
      mem_of_mem_ofText (by decide), canonical.ofText_token⟩
  · intro color
    rw [exists_ofText_eq_iff]
    exact ⟨fun canonical => ⟨canonical.visible, canonical.trimmed, canonical.upper⟩,
      fun ⟨visible, trimmed, upper⟩ => ⟨visible, trimmed, upper⟩⟩

/-- A digraph, a letter with an iota below and one with an apostrophe, in two lines. -/
theorem ofText_settles_digraph :
    let text := "\t ǆ\nᾳŉ ".toList
    (ofText text).token = "Ǆ\nΑΙʼN".toList ∧
    Text.isBlank 'Ǆ' = false ∧ Text.isBlank 'N' = false ∧ '\n' ∈ text ∧
    ofText "Ǆ\nΑΙʼN".toList = ofText text := by
  intro text
  have token : (ofText text).token = "Ǆ\nΑΙʼN".toList := by decide +kernel
  obtain ⟨_, starts, ends, feed, _, again⟩ := ofText_settles.1 text
  rw [token] at starts ends feed again
  exact ⟨token, starts _ rfl, ends _ rfl, feed (by decide), again⟩

end Color

/-- What a policy lets in it lets in again. -/
theorem ColorPolicy.check_token_ofText {policy : ColorPolicy} {text : Text}
    (passes : policy.check text = .ok ()) : policy.check (Color.ofText text).token = .ok () := by
  cases policy with
  | any => rfl
  | numeric low high => exact (Color.within_ofText passes).passes

end GraphPrograms

import GraphPrograms.Text.Cluster

/-!
How the clusters of a text change when it goes on.

A cluster is decided from the left, so what follows a text leaves its clusters as they are, but for
the last one, which may grow.  What stands before a text can take clusters from it and never adds
one: only regional indicators are divided otherwise, and then the first pair is already spoken for.
-/

namespace GraphPrograms.Text

variable {text left right : Text} {seam : Seam}

namespace Seam

/-- A seam that has read what another one has read, and maybe something before. -/
structure Continues (longer shorter : Seam) : Prop where
  last : longer.last = shorter.last
  pictograph : shorter.pictograph = .absent ∨ shorter.pictograph = longer.pictograph
  conjunct : shorter.conjunct = .absent ∨ shorter.conjunct = longer.conjunct

/-- Only indicators are counted, and only while they last. -/
def Counted (seam : Seam) : Prop := seam.oddIndicators = true → seam.last = .indicator

variable {longer shorter : Seam} {next : Joining}

theorem counted_start (first : Joining) : (start first).Counted := by
  simp [Counted, start]

theorem counted_push (seam : Seam) (next : Joining) : (seam.push next).Counted := by
  intro odd
  simp only [push, Bool.and_eq_true, beq_iff_eq] at odd
  exact odd.1

theorem nextPictograph_continues {tail other : PictographTail}
    (continues : other = .absent ∨ other = tail) (next : Joining) :
    nextPictograph other next = .absent ∨ nextPictograph other next = nextPictograph tail next := by
  rcases continues with rfl | rfl
  · cases next <;> simp [nextPictograph]
  · exact .inr rfl

theorem nextConjunct_continues {tail other : ConjunctTail}
    (continues : other = .absent ∨ other = tail) (next : Joining) :
    nextConjunct other next = .absent ∨ nextConjunct other next = nextConjunct tail next := by
  rcases continues with rfl | rfl
  · cases next <;> simp [nextConjunct]
  · exact .inr rfl

theorem Continues.push (continues : longer.Continues shorter) (next : Joining) :
    (longer.push next).Continues (shorter.push next) where
  last := rfl
  pictograph := nextPictograph_continues continues.pictograph next
  conjunct := nextConjunct_continues continues.conjunct next

theorem push_continues_start (seam : Seam) (next : Joining) :
    (seam.push next).Continues (start next) where
  last := rfl
  pictograph := nextPictograph_continues (.inl rfl) next
  conjunct := nextConjunct_continues (.inl rfl) next

/-- A new cluster among indicators has nothing open that an old one could lack. -/
theorem start_continues_push_indicator (seam : Seam) :
    (start .indicator).Continues (seam.push .indicator) where
  last := rfl
  pictograph := .inl rfl
  conjunct := .inl rfl

/-- Having read more, a seam parts where it joined before only between indicators. -/
theorem Continues.parts (continues : longer.Continues shorter) (joined : shorter.joins next = true)
    (parted : longer.joins next = false) :
    next = .indicator ∧ longer.oddIndicators = false ∧ shorter.oddIndicators = true := by
  obtain ⟨last, pictograph, conjunct⟩ := continues
  unfold joins at joined parted
  rw [last] at parted
  split at parted <;> simp_all

/-- How many clusters more a text may have behind one seam than behind another. -/
def slack (longer shorter : Seam) : Nat :=
  if longer.oddIndicators = false ∧ shorter.oddIndicators = true then 1 else 0

theorem slack_le_one (longer shorter : Seam) : longer.slack shorter ≤ 1 := by
  unfold slack
  split <;> decide

theorem Continues.slack_push (continues : longer.Continues shorter) (counted : longer.Counted)
    (joined : shorter.joins next = true) : (longer.push next).slack (shorter.push next) = 0 := by
  refine if_neg ?_
  rintro ⟨closed, opened⟩
  simp only [Seam.push, Bool.and_eq_true, beq_iff_eq, Bool.not_eq_true'] at opened
  obtain ⟨rfl, even⟩ := opened
  have odd : longer.oddIndicators = true := by simpa [Seam.push] using closed
  have last : shorter.last = .indicator := continues.last ▸ counted odd
  simp [joins, last, even] at joined

end Seam

/-- The number of clusters that begin in a text read behind a seam. -/
def begun : Seam → Text → Nat
  | _, [] => 0
  | seam, next :: rest =>
      if seam.joins (joining next) then begun (seam.push (joining next)) rest
      else begun (.start (joining next)) rest + 1

/-- The seam behind a text that is read behind another one. -/
def Seam.behind (seam : Seam) : Text → Seam
  | [] => seam
  | next :: rest =>
      if seam.joins (joining next) then (seam.push (joining next)).behind rest
      else (start (joining next)).behind rest

theorem begun_append (seam : Seam) (left right : Text) :
    begun seam (left ++ right) = begun seam left + begun (seam.behind left) right := by
  induction left generalizing seam with
  | nil => simp [begun, Seam.behind]
  | cons next rest ih =>
      simp only [List.cons_append, begun, Seam.behind]
      split
      · exact ih _
      · rw [ih]
        omega

theorem length_clusters_clusterTail (seam : Seam) (text : Text) :
    (clusters (clusterTail seam text).2).length = begun seam text := by
  induction text generalizing seam with
  | nil => simp [clusterTail, begun]
  | cons next rest ih =>
      rw [clusterTail, begun]
      split
      · exact ih _
      · rw [clusters_cons, List.length_cons, ih]

theorem length_clusters_cons (first : Char) (rest : Text) :
    (clusters (first :: rest)).length = begun (.start (joining first)) rest + 1 := by
  rw [clusters_cons, List.length_cons, length_clusters_clusterTail]

/-- Reading on behind more text begins at most one cluster more, and only where the shorter text had
an indicator open that the longer one has closed. -/
theorem begun_le {longer shorter : Seam} (continues : longer.Continues shorter)
    (longerCounted : longer.Counted) (shorterCounted : shorter.Counted) (text : Text) :
    begun longer text ≤ begun shorter text + longer.slack shorter := by
  induction text generalizing longer shorter with
  | nil => simp [begun]
  | cons next rest ih =>
      simp only [begun]
      cases longJoins : longer.joins (joining next) with
      | true =>
          cases shortJoins : shorter.joins (joining next) with
          | true =>
              have later := ih (continues.push (joining next)) (Seam.counted_push _ _)
                (Seam.counted_push _ _)
              rw [continues.slack_push longerCounted shortJoins] at later
              exact Nat.le_trans later (Nat.le_add_right _ _)
          | false =>
              have later := ih (longer.push_continues_start (joining next))
                (Seam.counted_push _ _) (Seam.counted_start _)
              have one := (longer.push (joining next)).slack_le_one (.start (joining next))
              simp only [if_true, Bool.false_eq_true, if_false]
              omega
      | false =>
          cases shortJoins : shorter.joins (joining next) with
          | true =>
              obtain ⟨indicator, closed, opened⟩ := continues.parts shortJoins longJoins
              have later := ih (Seam.start_continues_push_indicator shorter)
                (Seam.counted_start _) (Seam.counted_push _ _)
              simpa [indicator, closed, opened, Seam.start, Seam.slack] using later
          | false => simp

theorem begun_le_length_clusters (seam : Seam) (text : Text) :
    begun seam text ≤ (clusters text).length := by
  cases text with
  | nil => simp [begun]
  | cons first rest =>
      rw [length_clusters_cons, begun]
      split
      · have later := begun_le (seam.push_continues_start (joining first)) (Seam.counted_push _ _)
          (Seam.counted_start _) rest
        have one := (seam.push (joining first)).slack_le_one (.start (joining first))
        omega
      · exact Nat.le_refl _

theorem length_clusters_append {first : Char} {rest : Text} (text : Text) :
    (clusters (first :: rest ++ text)).length =
      (clusters (first :: rest)).length +
        begun ((Seam.start (joining first)).behind rest) text := by
  rw [List.cons_append, length_clusters_cons, length_clusters_cons, begun_append]
  omega

theorem length_clusters_append_le (left right : Text) :
    (clusters (left ++ right)).length ≤ (clusters left).length + (clusters right).length := by
  cases left with
  | nil => simp
  | cons first rest =>
      rw [length_clusters_append]
      exact Nat.add_le_add_left (begun_le_length_clusters _ right) _

theorem length_clusters_le_append (left right : Text) :
    (clusters left).length ≤ (clusters (left ++ right)).length := by
  cases left with
  | nil => simp
  | cons first rest =>
      rw [length_clusters_append]
      exact Nat.le_add_right _ _

/-- A cluster ends where it does also if less comes after it. -/
theorem clusterTail_of_prefix {part : Text} (before : part <+: (clusterTail seam text).2) :
    clusterTail seam ((clusterTail seam text).1 ++ part) = ((clusterTail seam text).1, part) := by
  induction text generalizing seam with
  | nil =>
      obtain rfl := List.prefix_nil.mp before
      rfl
  | cons next rest ih =>
      rw [clusterTail] at before ⊢
      cases joins : seam.joins (joining next) with
      | true =>
          simp only [joins, if_true] at before ⊢
          rw [List.cons_append, clusterTail, joins, if_pos rfl, ih before]
      | false =>
          simp only [joins, Bool.false_eq_true, if_false, List.nil_append] at before ⊢
          rcases List.prefix_cons_iff.mp before with rfl | ⟨later, rfl, _⟩
          · rfl
          · simp [clusterTail, joins]

theorem flatten_take_prefix (text : Text) (count : Nat) :
    ((clusters text).take count).flatten <+: text := by
  refine ⟨((clusters text).drop count).flatten, ?_⟩
  rw [← List.flatten_append, List.take_append_drop, flatten_clusters]

theorem clusters_flatten_take (text : Text) (count : Nat) :
    clusters ((clusters text).take count).flatten = (clusters text).take count := by
  induction count generalizing text with
  | zero => simp
  | succ count ih =>
      cases text with
      | nil => simp
      | cons first rest =>
          have before := flatten_take_prefix (clusterTail (.start (joining first)) rest).2 count
          rw [clusters_cons, List.take_succ_cons, List.flatten_cons, List.cons_append,
            clusters_cons, clusterTail_of_prefix before, ih]

/-- A cluster that ends within a text ends there also if more comes after it. -/
theorem clusterTail_append_of_rest (rest : (clusterTail seam left).2 ≠ []) (right : Text) :
    clusterTail seam (left ++ right) =
      ((clusterTail seam left).1, (clusterTail seam left).2 ++ right) := by
  induction left generalizing seam with
  | nil => exact absurd rfl rest
  | cons next later ih =>
      rw [clusterTail] at rest ⊢
      cases joins : seam.joins (joining next) with
      | true =>
          simp only [joins, if_true] at rest ⊢
          rw [List.cons_append, clusterTail, joins, if_pos rfl, ih rest]
      | false => simp [clusterTail, joins]

theorem length_le_clusterTail_append (whole : (clusterTail seam left).2 = []) (right : Text) :
    left.length ≤ (clusterTail seam (left ++ right)).1.length := by
  induction left generalizing seam with
  | nil => exact Nat.zero_le _
  | cons next later ih =>
      rw [clusterTail] at whole
      cases joins : seam.joins (joining next) with
      | true =>
          simp only [joins, if_true] at whole
          simp only [List.cons_append, clusterTail, joins, if_true, List.length_cons]
          exact Nat.succ_le_succ (ih whole)
      | false => simp [joins] at whole

/-- As many clusters of a text begin before a position as the text up to there has. -/
theorem length_flatten_take_lt_iff (left right : Text) (count : Nat) :
    ((clusters (left ++ right)).take count).flatten.length < left.length ↔
      count < (clusters left).length := by
  induction count generalizing left with
  | zero => cases left <;> simp [clusters_cons]
  | succ count ih =>
      cases left with
      | nil => simp
      | cons first rest =>
          rw [List.cons_append, clusters_cons, clusters_cons, List.take_succ_cons,
            List.flatten_cons, List.length_append, List.length_cons, List.length_cons,
            List.length_cons, Nat.add_lt_add_iff_right]
          by_cases whole : (clusterTail (.start (joining first)) rest).2 = []
          · have longer := length_le_clusterTail_append whole right
            rw [whole, clusters_nil, List.length_nil]
            omega
          · have parts := congrArg List.length (clusterTail_append (.start (joining first)) rest)
            rw [List.length_append] at parts
            rw [clusterTail_append_of_rest whole, ← ih]
            simp only
            omega

theorem clusters_flatten_drop (text : Text) (count : Nat) :
    clusters ((clusters text).drop count).flatten = (clusters text).drop count := by
  induction count generalizing text with
  | zero => simp
  | succ count ih =>
      cases text with
      | nil => simp
      | cons first rest => rw [clusters_cons, List.drop_succ_cons, ih]

/-- No cluster reaches from one text into the next. -/
def Parted (left right : Text) : Prop := clusters (left ++ right) = clusters left ++ clusters right

instance (left right : Text) : Decidable (Parted left right) :=
  inferInstanceAs (Decidable (clusters (left ++ right) = clusters left ++ clusters right))

/-- What stands behind as many clusters as a text has alone was behind the text. -/
theorem flatten_drop_suffix (left right : Text) :
    ((clusters (left ++ right)).drop (clusters left).length).flatten <:+ right := by
  have whole := congrArg List.flatten
    (List.take_append_drop (clusters left).length (clusters (left ++ right)))
  rw [List.flatten_append, flatten_clusters] at whole
  have reached : ¬ ((clusters (left ++ right)).take (clusters left).length).flatten.length <
      left.length := by
    rw [length_flatten_take_lt_iff]
    exact Nat.lt_irrefl _
  have lengths := congrArg List.length whole
  rw [List.length_append, List.length_append] at lengths
  refine List.suffix_of_suffix_length_le ⟨_, whole⟩ (List.suffix_append left right) ?_
  omega

theorem parted_iff : Parted left right ↔
    ((clusters (left ++ right)).drop (clusters left).length).flatten = right := by
  constructor
  · intro parted
    rw [parted, List.drop_left, flatten_clusters]
  · intro rest
    have whole := congrArg List.flatten
      (List.take_append_drop (clusters left).length (clusters (left ++ right)))
    rw [List.flatten_append, flatten_clusters, rest] at whole
    have before := clusters_flatten_take (left ++ right) (clusters left).length
    have after := clusters_flatten_drop (left ++ right) (clusters left).length
    rw [List.append_cancel_right whole] at before
    rw [rest] at after
    have parts := List.take_append_drop (clusters left).length (clusters (left ++ right))
    rw [← before, ← after] at parts
    exact parts.symm

end GraphPrograms.Text

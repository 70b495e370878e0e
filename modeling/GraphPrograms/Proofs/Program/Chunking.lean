import GraphPrograms.Program.Chunk
import Mathlib.Algebra.Order.Floor.Div

/-!
The programs of a list of equations cover it: every equation has its pair in exactly one program,
in order, with the color of its place in the whole list and the slot of its place in the program.

Everything comes from `groups_eq_map`, which says what the group at an index is without the
recursion that makes the groups.
-/

namespace GraphPrograms.Chunk

variable {α β : Type}

@[simp] theorem groups_nil : groups ([] : List α) = [] := by rw [groups]

theorem groups_of_ne_nil {items : List α} (nonempty : items ≠ []) :
    groups items = items.take slotCount :: groups (items.drop slotCount) := by
  cases items with
  | nil => contradiction
  | cons first rest => rw [groups, slotCount, List.drop_succ_cons]

@[simp] theorem flatten_groups (items : List α) : (groups items).flatten = items := by
  fun_induction groups items with
  | case1 => rfl
  | case2 first rest ih =>
      rw [List.flatten_cons, ih]
      exact List.take_append_drop slotCount (first :: rest)

theorem lt_countFor_iff {index count : Nat} :
    index < countFor count ↔ slotCount * index < count := by
  simp only [countFor, slotCount]
  omega

/-- The group at an index starts at ten times the index and takes what there is, up to ten. -/
theorem getElem?_groups (items : List α) (index : Nat) :
    (groups items)[index]? =
      if slotCount * index < items.length then
        some ((items.drop (slotCount * index)).take slotCount)
      else none := by
  -- By the index and not by the groups: one step leaves a whole group behind.
  induction index generalizing items with
  | zero =>
      cases items with
      | nil => simp
      | cons first rest => rw [groups_of_ne_nil (by simp)]; simp
  | succ index ih =>
      by_cases nonempty : items = []
      · subst nonempty
        simp
      · have shift : slotCount + slotCount * index = slotCount * (index + 1) := by
          simp only [slotCount]
          omega
        rw [groups_of_ne_nil nonempty, List.getElem?_cons_succ, ih, List.length_drop,
          List.drop_drop, shift]
        exact if_congr (by simp only [slotCount]; omega) rfl rfl

theorem groups_eq_map (items : List α) :
    groups items = (List.range (countFor items.length)).map fun index =>
      (items.drop (slotCount * index)).take slotCount := by
  apply List.ext_getElem?
  intro index
  rw [getElem?_groups, List.getElem?_map]
  by_cases inside : index < countFor items.length
  · rw [if_pos (lt_countFor_iff.mp inside), List.getElem?_range inside, Option.map_some]
  · rw [if_neg (mt lt_countFor_iff.mpr inside), List.getElem?_eq_none (by simpa using inside),
      Option.map_none]

@[simp] theorem groups_eq_nil_iff {items : List α} : groups items = [] ↔ items = [] := by
  constructor
  · intro empty
    simpa [empty] using (flatten_groups items).symm
  · rintro rfl
    exact groups_nil

theorem length_of_mem_dropLast_groups {items : List α} {group : List α}
    (member : group ∈ (groups items).dropLast) : group.length = slotCount := by
  fun_induction groups items with
  | case1 => simp at member
  | case2 first rest ih =>
      by_cases last : groups (rest.drop (slotCount - 1)) = []
      · simp [last] at member
      · rw [List.dropLast_cons_of_ne_nil last] at member
        rcases List.mem_cons.mp member with rfl | member
        · rw [groups_eq_nil_iff, List.drop_eq_nil_iff] at last
          simp only [List.length_take, List.length_cons, slotCount] at last ⊢
          omega
        · exact ih member

theorem length_of_mem_groups {items : List α} {group : List α} (member : group ∈ groups items) :
    1 ≤ group.length ∧ group.length ≤ slotCount := by
  fun_induction groups items with
  | case1 => simp at member
  | case2 first rest ih =>
      rcases List.mem_cons.mp member with rfl | member
      · simp only [List.length_take, List.length_cons, slotCount]
        omega
      · exact ih member

/-- The entries of the group at an index, with the colors of their places in the whole list. -/
def groupEntries (equations : List Equation) (assignment : Assignment) (index : Nat) :
    List (Equation × Color) :=
  ((equations.drop (slotCount * index)).take slotCount).mapIdx fun offset equation =>
    (equation, assignment.resolved (slotCount * index + offset))

/-- The pair of every equation, with the slot that is left when whole programs are counted off. -/
def placedPairs (equations : List Equation) (assignment : Assignment) : List InstructionPair :=
  equations.mapIdx fun index equation =>
    .ofEquation equation (assignment.resolved index) (.ofPosition index)

theorem take_drop_mapIdx (f : Nat → α → β) (items : List α) (start count : Nat) :
    ((items.mapIdx f).drop start).take count =
      ((items.drop start).take count).mapIdx fun offset item => f (start + offset) item := by
  apply List.ext_getElem?
  intro offset
  simp only [List.getElem?_take, List.getElem?_drop, List.getElem?_mapIdx]
  split <;> rfl

/-- What is done to items by their places in a list is done to its groups by the same places. -/
theorem groups_mapIdx (f : Nat → α → β) (items : List α) :
    groups (items.mapIdx f) = (groups items).mapIdx fun index group =>
      group.mapIdx fun offset item => f (slotCount * index + offset) item := by
  apply List.ext_getElem?
  intro index
  rw [List.getElem?_mapIdx, getElem?_groups, getElem?_groups, List.length_mapIdx,
    take_drop_mapIdx]
  split <;> rfl

theorem length_groupEntries_le (equations : List Equation) (assignment : Assignment) (index : Nat) :
    (groupEntries equations assignment index).length ≤ slotCount := by
  simp [groupEntries]

theorem ofEquations_eq_map (equations : List Equation) (assignment : Assignment) :
    ofEquations equations assignment = (List.range (countFor equations.length)).map fun index =>
      assemble (index + 1) (groupEntries equations assignment index) := by
  have grouped : groups (entries equations assignment) =
      (List.range (countFor equations.length)).map (groupEntries equations assignment) := by
    rw [groups_eq_map, entries, List.length_mapIdx]
    exact List.map_congr_left fun index _ => take_drop_mapIdx _ _ _ _
  apply List.ext_getElem?
  intro index
  rw [ofEquations, grouped, List.getElem?_mapIdx, List.getElem?_map, List.getElem?_map]
  by_cases inside : index < countFor equations.length
  · simp [List.getElem?_range inside]
  · simp [inside]

theorem getElem?_slots (position : Nat) :
    Slot.all[position]? = if position < slotCount then some (.ofPosition position) else none := by
  by_cases inside : position < slotCount
  · have slot : Slot.ofPosition position = ⟨position, inside⟩ :=
      Fin.ext (Nat.mod_eq_of_lt inside)
    rw [if_pos inside, slot, Slot.all, List.getElem?_eq_getElem (by simpa using inside),
      List.getElem_finRange]
    rfl
  · rw [if_neg inside, Slot.all, List.getElem?_eq_none (by simpa using inside)]

/-- A group that fits loses none of its entries to the end of the slots. -/
theorem pairs_assemble {entries : List (Equation × Color)} (fits : entries.length ≤ slotCount)
    (number : Nat) :
    (assemble number entries).pairs = entries.mapIdx fun position entry =>
      .ofEquation entry.1 entry.2 (.ofPosition position) := by
  apply List.ext_getElem?
  intro position
  rw [assemble, List.getElem?_zipWith, List.getElem?_mapIdx, getElem?_slots]
  by_cases inside : position < entries.length
  · rw [if_pos (Nat.lt_of_lt_of_le inside fits), List.getElem?_eq_getElem inside]
    rfl
  · rw [List.getElem?_eq_none (Nat.le_of_not_lt inside)]
    rfl

theorem ofPosition_add_mul (index offset : Nat) :
    Slot.ofPosition (slotCount * index + offset) = Slot.ofPosition offset :=
  Fin.ext (Nat.mul_add_mod slotCount index offset)

/-- Without colors the pairs of a program depend on its own equations alone. -/
theorem groups_placedPairs_blank (equations : List Equation) (size : Nat) :
    groups (placedPairs equations (.blank size)) = (groups equations).map fun program =>
      program.mapIdx fun position equation =>
        .ofEquation equation .fallback (.ofPosition position) := by
  rw [placedPairs, groups_mapIdx]
  simp only [ofPosition_add_mul, Assignment.resolved, Assignment.get?_blank, Option.getD_none]
  exact List.mapIdx_eq_iff.mpr fun index => List.getElem?_map

theorem pairs_groupEntries (equations : List Equation) (assignment : Assignment)
    (number index : Nat) :
    (assemble number (groupEntries equations assignment index)).pairs =
      ((placedPairs equations assignment).drop (slotCount * index)).take slotCount := by
  rw [pairs_assemble (length_groupEntries_le equations assignment index), placedPairs,
    take_drop_mapIdx, groupEntries, List.mapIdx_mapIdx]
  simp only [Function.comp_def, ofPosition_add_mul]

/-- The pair at a position of a program is that of an equation, if the position has a slot. -/
theorem getElem?_pairs {equations : List Equation} {assignment : Assignment} {chunk : Chunk}
    {index : Nat} (found : (ofEquations equations assignment)[index]? = some chunk)
    (position : Nat) :
    chunk.pairs[position]? =
      if position < slotCount then
        equations[slotCount * index + position]?.map fun equation =>
          .ofEquation equation (assignment.resolved (slotCount * index + position))
            (.ofPosition position)
      else none := by
  rw [ofEquations_eq_map, List.getElem?_map] at found
  obtain ⟨_, listed, rfl⟩ := Option.map_eq_some_iff.mp found
  obtain ⟨_, rfl⟩ := List.getElem?_eq_some_iff.mp listed
  rw [List.getElem_range, pairs_groupEntries, List.getElem?_take, List.getElem?_drop, placedPairs,
    List.getElem?_mapIdx]
  simp only [ofPosition_add_mul]

theorem map_pairs_ofEquations (equations : List Equation) (assignment : Assignment) :
    (ofEquations equations assignment).map pairs = groups (placedPairs equations assignment) := by
  rw [ofEquations_eq_map, groups_eq_map, placedPairs, List.length_mapIdx, List.map_map]
  exact List.map_congr_left fun index _ => pairs_groupEntries equations assignment _ index

theorem length_ofEquations (equations : List Equation) (assignment : Assignment) :
    (ofEquations equations assignment).length = countFor equations.length := by
  rw [ofEquations_eq_map, List.length_map, List.length_range]

theorem map_number_ofEquations (equations : List Equation) (assignment : Assignment) :
    (ofEquations equations assignment).map number = List.range' 1 (countFor equations.length) := by
  rw [ofEquations_eq_map, List.map_map, List.range'_eq_map_range]
  exact List.map_congr_left fun index _ => Nat.add_comm index 1

theorem ofEntries_of_le {entries : List (Equation × Color)} (fits : entries.length ≤ slotCount)
    (number : Nat) : ofEntries number entries = .ok (assemble number entries) :=
  if_neg (Nat.not_lt_of_le fits)

theorem ofEntries_eq_error_iff {number : Nat} {entries : List (Equation × Color)}
    {error : ChunkOverflow} :
    ofEntries number entries = .error error ↔
      slotCount < entries.length ∧ error = ⟨entries.length⟩ := by
  unfold ofEntries
  split
  · simp_all [eq_comm]
  · simp_all

/-- Every equation gets its own pair once and in order, in programs that are full but for the
last, and each program is the one that its group of entries makes alone. -/
theorem ofEquations_covers (equations : List Equation) (assignment : Assignment) :
    (ofEquations equations assignment).length = countFor equations.length ∧
    countFor equations.length = equations.length ⌈/⌉ 10 ∧
    (ofEquations equations assignment).map number =
      List.range' 1 (ofEquations equations assignment).length ∧
    (∀ chunk ∈ (ofEquations equations assignment).dropLast, chunk.equationCount = 10) ∧
    (∀ chunk ∈ (ofEquations equations assignment).getLast?,
      1 ≤ chunk.equationCount ∧ chunk.equationCount ≤ 10) ∧
    (ofEquations equations assignment).flatMap pairs =
      (equations.mapIdx fun index equation =>
        .ofEquation equation (assignment.resolved index) (.ofPosition index)) ∧
    (ofEquations equations assignment).map Except.ok =
      ((List.range (countFor equations.length)).map fun index =>
        ofEntries (index + 1) (groupEntries equations assignment index)) ∧
    ∀ (number : Nat) (entries : List (Equation × Color)) (error : ChunkOverflow),
      ofEntries number entries = .error error ↔ 10 < entries.length ∧ error = ⟨entries.length⟩ := by
  have grouped := map_pairs_ofEquations equations assignment
  refine ⟨length_ofEquations equations assignment, rfl, ?numbers, ?full, ?last, ?pairs, ?alone,
    fun number entries error => ofEntries_eq_error_iff⟩
  case numbers => rw [length_ofEquations, map_number_ofEquations]
  case full =>
    intro chunk member
    have group : chunk.pairs ∈ (groups (placedPairs equations assignment)).dropLast := by
      rw [← grouped, ← List.map_dropLast]
      exact List.mem_map_of_mem member
    exact length_of_mem_dropLast_groups group
  case last =>
    intro chunk member
    have group : chunk.pairs ∈ groups (placedPairs equations assignment) := by
      rw [← grouped]
      exact List.mem_map_of_mem (List.mem_of_getLast? member)
    exact length_of_mem_groups group
  case pairs =>
    rw [List.flatMap_def, grouped, flatten_groups, placedPairs]
  case alone =>
    rw [ofEquations_eq_map, List.map_map]
    refine List.map_congr_left fun index _ => ?_
    exact (ofEntries_of_le (length_groupEntries_le equations assignment index) (index + 1)).symm

/-- Eleven equations, of which three could have a color, need a full program and one more. -/
theorem ofEquations_covers_eleven :
    ∃ first last : Chunk,
      ofEquations (List.replicate 11 ⟨['x'], []⟩) (.blank 3) = [first, last] ∧
      first.equationCount = 10 ∧ 1 ≤ last.equationCount ∧ last.equationCount ≤ 10 := by
  have programs := ofEquations_eq_map (List.replicate 11 ⟨['x'], []⟩) (.blank 3)
  obtain ⟨_, _, _, full, rest, _⟩ :=
    ofEquations_covers (List.replicate 11 ⟨['x'], []⟩) (.blank 3)
  rw [programs] at full rest
  exact ⟨_, _, programs, full _ (List.mem_singleton_self _), rest _ rfl⟩

end GraphPrograms.Chunk

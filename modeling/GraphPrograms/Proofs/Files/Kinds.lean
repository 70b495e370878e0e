import GraphPrograms.Files.Disk

/-!
What stands at the places of a file tree.

A folder is looked at without its members, so that a change at one place is a change at that place
alone: `kind?_put` and `kind?_erase` say so for trees, and `put_sets` for a disk on which a file is
written or an empty folder made.
-/

namespace GraphPrograms

/-- What an entry is, apart from the members of a folder. -/
inductive Kind where
  | file (content : ByteArray)
  | folder

namespace Tree

variable {tree new : Tree} {place rest other : Place} {name : Text}

def kind : Tree → Kind
  | .file content => .file content
  | .folder _ => .folder

/-- What stands at a place. -/
def kind? (place : Place) (tree : Tree) : Option Kind := (tree.get? place).map kind

@[simp] theorem kind?_nil (tree : Tree) : tree.kind? [] = some tree.kind := rfl

@[simp] theorem kind?_file_cons (content : ByteArray) (name : Text) (rest : Place) :
    (file content).kind? (name :: rest) = none := rfl

theorem kind?_folder_cons (members : List (Text × Tree)) (name : Text) (rest : Place) :
    (folder members).kind? (name :: rest) = (members.lookup name).bind (kind? rest) := by
  rw [kind?, get?]
  cases members.lookup name <;> rfl

theorem get?_append (place rest : Place) (tree : Tree) :
    tree.get? (place ++ rest) = (tree.get? place).bind (get? rest) := by
  induction place generalizing tree with
  | nil => rfl
  | cons name later ih =>
      cases tree with
      | file content => rfl
      | folder members =>
          rw [List.cons_append, get?, get?]
          cases members.lookup name with
          | none => rfl
          | some child => exact ih child

/-- What an entry stands in is a folder. -/
theorem kind?_of_append (below : rest ≠ []) (there : tree.kind? (place ++ rest) ≠ none) :
    tree.kind? place = some .folder := by
  rw [kind?, get?_append] at there
  rw [kind?]
  cases found : tree.get? place with
  | none => simp [found] at there
  | some entry =>
      cases entry with
      | folder members => rfl
      | file content =>
          cases rest with
          | nil => contradiction
          | cons name later => simp [found, get?] at there

theorem put_cons (below : rest ≠ []) (members : List (Text × Tree)) :
    (folder members).put (name :: rest) new =
      match members.lookup name with
      | some child => folder (putMember name (child.put rest new) members)
      | none => folder members := by
  cases rest with
  | nil => contradiction
  | cons first later => rfl

theorem erase_cons (below : rest ≠ []) (members : List (Text × Tree)) :
    (folder members).erase (name :: rest) =
      match members.lookup name with
      | some child => folder (putMember name (child.erase rest) members)
      | none => folder members := by
  cases rest with
  | nil => contradiction
  | cons first later => rfl

theorem putMember_self {members : List (Text × Tree)} (found : members.lookup name = some tree) :
    putMember name tree members = members := by
  induction members with
  | nil => simp at found
  | cons member rest ih =>
      obtain ⟨key, old⟩ := member
      rw [putMember]
      by_cases here : name = key
      · subst here
        rw [List.lookup_cons_self, Option.some.injEq] at found
        rw [if_pos rfl, found]
      · rw [List.lookup_cons, beq_eq_false_iff_ne.mpr here] at found
        rw [if_neg here, ih found]

/-- Without a folder to put it in, nothing is put anywhere. -/
theorem put_of_not_folder (noFolder : tree.kind? place ≠ some .folder) (name : Text) (new : Tree) :
    tree.put (place ++ [name]) new = tree := by
  induction place generalizing tree with
  | nil =>
      cases tree with
      | file content => rfl
      | folder members => exact absurd rfl noFolder
  | cons head rest ih =>
      cases tree with
      | file content => rfl
      | folder members =>
          rw [List.cons_append, put_cons (by simp)]
          cases found : members.lookup head with
          | none => rfl
          | some child =>
              rw [kind?_folder_cons, found, Option.bind_some] at noFolder
              simp only [ih noFolder, putMember_self found]

theorem kind?_put (inFolder : tree.kind? place = some .folder) (name : Text) (new : Tree)
    (other : Place) :
    (tree.put (place ++ [name]) new).kind? other =
      if place ++ [name] <+: other then new.kind? (other.drop (place.length + 1))
      else tree.kind? other := by
  induction place generalizing tree other with
  | nil =>
      cases tree with
      | file content => simp [kind] at inFolder
      | folder members =>
          rw [List.nil_append, put]
          cases other with
          | nil => rfl
          | cons first later =>
              rw [kind?_folder_cons, kind?_folder_cons, lookup_putMember]
              by_cases same : first = name
              · simp [same]
              · simp [same, Ne.symm same]
  | cons head rest ih =>
      cases tree with
      | file content => simp at inFolder
      | folder members =>
          rw [kind?_folder_cons] at inFolder
          obtain ⟨child, found, childFolder⟩ := Option.bind_eq_some_iff.mp inFolder
          rw [List.cons_append, put_cons (by simp), found]
          cases other with
          | nil => rfl
          | cons first later =>
              rw [kind?_folder_cons, kind?_folder_cons, lookup_putMember]
              by_cases same : first = head
              · subst same
                simp [found, ih childFolder]
              · simp [same, Ne.symm same]

theorem kind?_erase (tree : Tree) (place : Place) (name : Text) (other : Place) :
    (tree.erase (place ++ [name])).kind? other =
      if place ++ [name] <+: other then none else tree.kind? other := by
  induction place generalizing tree other with
  | nil =>
      cases tree with
      | file content =>
          cases other with
          | nil => rfl
          | cons first later => simp [erase]
      | folder members =>
          rw [List.nil_append, erase]
          cases other with
          | nil => rfl
          | cons first later =>
              rw [kind?_folder_cons, kind?_folder_cons, lookup_eraseMember]
              by_cases same : first = name
              · simp [same]
              · simp [same, Ne.symm same]
  | cons head rest ih =>
      cases tree with
      | file content =>
          cases other with
          | nil => rfl
          | cons first later => simp [erase]
      | folder members =>
          rw [List.cons_append, erase_cons (by simp)]
          cases found : members.lookup head with
          | none =>
              cases other with
              | nil => rfl
              | cons first later =>
                  rw [kind?_folder_cons]
                  by_cases same : first = head
                  · simp [same, found]
                  · simp [Ne.symm same]
          | some child =>
              cases other with
              | nil => rfl
              | cons first later =>
                  rw [kind?_folder_cons, kind?_folder_cons, lookup_putMember]
                  by_cases same : first = head
                  · subst same
                    simp [found, ih]
                  · simp [same, Ne.symm same]

end Tree

namespace Disk

variable {disk before after : Disk} {place : Place} {name : Text} {kind : Kind}

def kind? (disk : Disk) (place : Place) : Option Kind := disk.root.kind? place

theorem kind?_eq_file_iff {content : ByteArray} :
    disk.kind? place = some (.file content) ↔ disk.get? place = some (.file content) := by
  rw [kind?, Tree.kind?, ← get?]
  cases disk.get? place with
  | none => simp
  | some entry => cases entry <;> simp [Tree.kind]

theorem kind?_eq_folder_iff :
    disk.kind? place = some .folder ↔ ∃ members, disk.get? place = some (.folder members) := by
  rw [kind?, Tree.kind?, ← get?]
  cases disk.get? place with
  | none => simp
  | some entry => cases entry <;> simp [Tree.kind]

theorem kind?_eq_none_iff : disk.kind? place = none ↔ disk.get? place = none := by
  rw [kind?, Tree.kind?, ← get?, Option.map_eq_none_iff]

/-- A disk that another one becomes by what is put at one place. -/
structure Sets (before after : Disk) (place : Place) (kind : Kind) : Prop where
  current : after.current = before.current
  kind? : ∀ other, after.kind? other = if other = place then some kind else before.kind? other

theorem Sets.kind?_self (sets : before.Sets after place kind) : after.kind? place = some kind := by
  rw [sets.kind?, if_pos rfl]

theorem Sets.kind?_of_ne (sets : before.Sets after place kind) {other : Place}
    (different : other ≠ place) : after.kind? other = before.kind? other := by
  rw [sets.kind?, if_neg different]

theorem kind?_below (notFolder : disk.kind? place ≠ some .folder) {rest : Place}
    (below : rest ≠ []) : disk.kind? (place ++ rest) = none := by
  cases found : disk.kind? (place ++ rest) with
  | none => rfl
  | some kind =>
      refine absurd (Tree.kind?_of_append below fun absent => ?_) notFolder
      rw [kind?, absent] at found
      contradiction

/-- An entry without members takes the place of nothing or of a file. -/
theorem put_sets {new : Tree} (alone : ∀ rest ≠ [], new.kind? rest = none)
    (inFolder : disk.kind? place = some .folder)
    (notFolder : disk.kind? (place ++ [name]) ≠ some .folder) :
    disk.Sets (disk.put (place ++ [name]) new) (place ++ [name]) new.kind where
  current := rfl
  kind? := by
    intro other
    refine (Tree.kind?_put inFolder name new other).trans ?_
    by_cases under : place ++ [name] <+: other
    · obtain ⟨rest, rfl⟩ := under
      have dropped : (place ++ [name] ++ rest).drop (place.length + 1) = rest :=
        List.drop_left' (by simp)
      rw [if_pos (List.prefix_append _ _), dropped]
      by_cases here : rest = []
      · simp [here]
      · rw [if_neg (by simpa using here), alone rest here]
        exact (kind?_below notFolder here).symm
    · rw [if_neg under, if_neg]
      · rfl
      · rintro rfl
        exact under (List.prefix_refl _)

theorem putFile_sets (content : ByteArray) (inFolder : disk.kind? place = some .folder)
    (notFolder : disk.kind? (place ++ [name]) ≠ some .folder) :
    disk.Sets (disk.put (place ++ [name]) (.file content)) (place ++ [name]) (.file content) := by
  refine put_sets (fun rest below => ?_) inFolder notFolder
  cases rest with
  | nil => contradiction
  | cons first later => rfl

theorem putFolder_sets (inFolder : disk.kind? place = some .folder)
    (absent : disk.kind? (place ++ [name]) = none) :
    disk.Sets (disk.put (place ++ [name]) (.folder [])) (place ++ [name]) .folder := by
  refine put_sets (fun rest below => ?_) inFolder (by simp [absent])
  cases rest with
  | nil => contradiction
  | cons first later => rfl

theorem kind?_erase (disk : Disk) (place : Place) (name : Text) (other : Place) :
    (disk.erase (place ++ [name])).kind? other =
      if place ++ [name] <+: other then none else disk.kind? other :=
  Tree.kind?_erase disk.root place name other

theorem kind?_erase_file {bytes : ByteArray}
    (file : disk.kind? (place ++ [name]) = some (.file bytes)) (other : Place) :
    (disk.erase (place ++ [name])).kind? other =
      if other = place ++ [name] then none else disk.kind? other := by
  rw [kind?_erase]
  by_cases under : place ++ [name] <+: other
  · obtain ⟨rest, rfl⟩ := under
    rw [if_pos (List.prefix_append _ rest)]
    by_cases here : rest = []
    · simp [here]
    · rw [if_neg (by simpa using here), kind?_below (by simp [file]) here]
  · rw [if_neg under, if_neg]
    rintro rfl
    exact under (List.prefix_refl _)

/-- Nothing is in what stands at a place, if anything does. -/
def Vacant (disk : Disk) (place : Place) : Prop :=
  ∀ name, disk.kind? (place ++ [name]) = none

theorem Vacant.below (vacant : disk.Vacant place) {rest : Place} (below : rest ≠ []) :
    disk.kind? (place ++ rest) = none := by
  obtain ⟨name, later, rfl⟩ := List.exists_cons_of_ne_nil below
  rw [← List.singleton_append, ← List.append_assoc]
  by_cases last : later = []
  · rw [last, List.append_nil, vacant name]
  · exact kind?_below (by simp [vacant name]) last

theorem vacant_iff {members : List (Text × Tree)}
    (held : disk.get? place = some (.folder members)) :
    disk.Vacant place ↔ members = [] := by
  have inside : ∀ name, disk.kind? (place ++ [name]) = (members.lookup name).map Tree.kind := by
    intro name
    rw [kind?, Tree.kind?, Tree.get?_append, ← get?, held, Option.bind_some, Tree.get?]
    cases members.lookup name <;> rfl
  constructor
  · intro vacant
    cases members with
    | nil => rfl
    | cons member rest =>
        have there := (inside member.1).symm.trans (vacant member.1)
        simp at there
  · rintro rfl name
    rw [inside]
    rfl

end Disk

end GraphPrograms

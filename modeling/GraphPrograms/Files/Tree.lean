import GraphPrograms.Text.Basic

/-!
File trees: files with bytes in them, and folders with names in them.

A place is the list of names that leads to an entry.  `get?` looks one up, `put` and `erase`
change one; the laws of the three are what all other operations on files are proved from.
-/

namespace GraphPrograms

/-- A file or a folder.  Of two members with one name only the first one counts. -/
inductive Tree where
  | file (content : ByteArray)
  | folder (members : List (Text × Tree))

/-- The names that lead from a folder to an entry. -/
abbrev Place := List Text

namespace Tree

instance : Inhabited Tree := ⟨.folder []⟩

def isFolder : Tree → Bool
  | .file _ => false
  | .folder _ => true

/-- The entry at a place. -/
def get? : Place → Tree → Option Tree
  | [], tree => some tree
  | _ :: _, .file _ => none
  | name :: rest, .folder members => (members.lookup name).bind (get? rest)

/-- Members with one put under a name, instead of the one it had or at the end. -/
def putMember (name : Text) (tree : Tree) : List (Text × Tree) → List (Text × Tree)
  | [] => [(name, tree)]
  | (other, old) :: rest =>
      if name = other then (name, tree) :: rest else (other, old) :: putMember name tree rest

def eraseMember (name : Text) (members : List (Text × Tree)) : List (Text × Tree) :=
  members.filter (·.1 != name)

/-- The tree with an entry put at a place.  Without a folder to hold it nothing changes. -/
def put : Place → Tree → Tree → Tree
  | [], _, new => new
  | _ :: _, .file content, _ => .file content
  | [name], .folder members, new => .folder (putMember name new members)
  | name :: rest, .folder members, new =>
      match members.lookup name with
      | some child => .folder (putMember name (put rest child new) members)
      | none => .folder members

/-- The tree without the entry at a place; the tree itself stays. -/
def erase : Place → Tree → Tree
  | [], tree => tree
  | _ :: _, .file content => .file content
  | [name], .folder members => .folder (eraseMember name members)
  | name :: rest, .folder members =>
      match members.lookup name with
      | some child => .folder (putMember name (erase rest child) members)
      | none => .folder members

theorem lookup_putMember (name other : Text) (tree : Tree) (members : List (Text × Tree)) :
    (putMember name tree members).lookup other =
      if other = name then some tree else members.lookup other := by
  induction members with
  | nil =>
      by_cases same : other = name
      · simp [putMember, same]
      · simp [putMember, List.lookup_cons, same, beq_eq_false_iff_ne.mpr same]
  | cons member rest ih =>
      obtain ⟨key, old⟩ := member
      rw [putMember]
      by_cases here : name = key
      · subst here
        rw [if_pos rfl]
        by_cases same : other = name
        · simp [same]
        · simp [List.lookup_cons, same, beq_eq_false_iff_ne.mpr same]
      · rw [if_neg here]
        by_cases first : other = key
        · subst first
          simp [Ne.symm here]
        · simp only [List.lookup_cons, beq_eq_false_iff_ne.mpr first, ih]

theorem lookup_eraseMember (name other : Text) (members : List (Text × Tree)) :
    (eraseMember name members).lookup other =
      if other = name then none else members.lookup other := by
  induction members with
  | nil => simp [eraseMember]
  | cons member rest ih =>
      obtain ⟨key, old⟩ := member
      unfold eraseMember at ih ⊢
      by_cases here : key = name
      · subst here
        simp only [List.filter, bne_self_eq_false, ih]
        by_cases same : other = key
        · simp [same]
        · simp [List.lookup_cons, same, beq_eq_false_iff_ne.mpr same]
      · simp only [List.filter, bne_iff_ne.mpr here]
        by_cases first : other = key
        · subst first
          simp [here]
        · simp only [List.lookup_cons, beq_eq_false_iff_ne.mpr first, ih]

end Tree

end GraphPrograms

import CommitStore.Instant
import CommitStore.Oid
set_option autoImplicit false

/-!
# Stored objects

Three kinds of objects are stored: commits, blobs and annotated tags. A commit names its first
parent in its own row; a merge commit has its whole list of parents, the first one included, in rows
of their own, the links. A tag names the object it tags.

The rows refer to each other by id, and the store refuses a row whose ids are not stored
(`admits`, `admitsLinks`) and the removal of a row that another one names (`isReferenced`).
Objects are kept in the order in which they were stored, each id once.
-/

namespace CommitStore

/-- The kinds of stored objects. -/
inductive ObjectKind
  | commit
  | blob
  | tag
  deriving DecidableEq, Repr, Inhabited

/-- The name of a kind, which is part of what an object's id is the hash of. -/
def ObjectKind.text : ObjectKind → String
  | .commit => "commit"
  | .blob => "blob"
  | .tag => "tag"

/-- The kind with the given name. -/
def ObjectKind.ofText? (s : String) : Option ObjectKind :=
  [ObjectKind.commit, .blob, .tag].find? fun kind => kind.text == s

/-- A stored object. -/
structure StoredObject where
  oid : Oid
  kind : ObjectKind
  /-- The first parent of a commit. -/
  parent : Option Oid := none
  /-- The object that a tag names. -/
  target : Option Oid := none
  payload : Option String := none
  message : Option String := none
  createdAt : Instant
  deriving DecidableEq, Repr, Inhabited

/-- One parent of a merge commit, with its place in the list of parents. -/
structure ParentLink where
  commit : Oid
  parent : Oid
  position : Nat
  deriving DecidableEq, Repr, Inhabited

/-- All objects with their parent links. -/
structure ObjectStore where
  objects : List StoredObject
  links : List ParentLink
  nodup : (objects.map (·.oid)).Nodup

namespace ObjectStore

/-! ## 1. Looking up -/

/-- The store without objects. -/
def empty : ObjectStore := ⟨[], [], List.nodup_nil⟩

instance : Inhabited ObjectStore := ⟨empty⟩

/-- The object with the given id. -/
def get? (s : ObjectStore) (oid : Oid) : Option StoredObject :=
  s.objects.find? fun o => o.oid == oid

/-- Whether an object with the given id is stored. -/
def contains (s : ObjectStore) (oid : Oid) : Bool := (s.get? oid).isSome

/-- Whether a commit with the given id is stored. -/
def isCommit (s : ObjectStore) (oid : Oid) : Bool :=
  (s.get? oid).any fun o => o.kind == .commit

theorem get?_eq_none_iff (s : ObjectStore) (oid : Oid) :
    s.get? oid = none ↔ oid ∉ s.objects.map (·.oid) := by
  simp [get?, List.find?_eq_none]

/-- The parents of an object: its links in the order of their places, or else the parent in its own
row. -/
def parents (s : ObjectStore) (oid : Oid) : List Oid :=
  let links := s.links.filter (·.commit == oid)
  match links.mergeSort (fun a b => decide (a.position ≤ b.position)) with
  | [] => ((s.get? oid).bind (·.parent)).toList
  | link :: rest => (link :: rest).map (·.parent)

/-! ## 2. Rows that may enter -/

/-- Whether the ids that a new row names are stored; the row may name itself. -/
def admits (s : ObjectStore) (o : StoredObject) : Bool :=
  o.parent.all (fun oid => oid == o.oid || s.contains oid) &&
    o.target.all (fun oid => oid == o.oid || s.contains oid)

/-- The store with a new object; an id that is stored already keeps its object. -/
def insert (s : ObjectStore) (o : StoredObject) : ObjectStore :=
  if h : s.get? o.oid = none then
    { s with
      objects := s.objects ++ [o]
      nodup := by
        -- The new id is at the end, and it is none of those before it.
        have hnot := (s.get?_eq_none_iff o.oid).1 h
        rw [List.map_append, List.nodup_append]
        refine ⟨s.nodup, by simp, ?_⟩
        intro a ha b hb hab
        simp only [List.map_cons, List.map_nil, List.mem_singleton] at hb
        exact hnot (hb ▸ hab ▸ ha) }
  else s

/-- The links that give a commit the listed parents, in their order. -/
def linksFor (commit : Oid) (parents : List Oid) : List ParentLink :=
  parents.zipIdx.map fun (parent, position) => ⟨commit, parent, position⟩

/-- Whether the listed parents may be added to a commit: all ids are stored, and no pair of commit
and parent is there twice. -/
def admitsLinks (s : ObjectStore) (commit : Oid) (parents : List Oid) : Bool :=
  s.contains commit && parents.all s.contains && decide parents.Nodup &&
    parents.all fun parent =>
      !s.links.any fun link => link.commit == commit && link.parent == parent

/-- The store with further parents of a commit. -/
def link (s : ObjectStore) (commit : Oid) (parents : List Oid) : ObjectStore :=
  { s with links := s.links ++ linksFor commit parents }

/-! ## 3. Rows that may leave -/

/-- Whether another row names an object: a child, a tag, or a link at either of its ends. -/
def isReferenced (s : ObjectStore) (oid : Oid) : Bool :=
  (s.objects.any fun o => o.oid != oid && (o.parent == some oid || o.target == some oid)) ||
    s.links.any fun link => link.commit == oid || link.parent == oid

/-- The store without an object. -/
def erase (s : ObjectStore) (oid : Oid) : ObjectStore :=
  { s with
    objects := s.objects.filter fun o => o.oid != oid
    nodup := s.nodup.sublist (List.filter_sublist.map _) }

/-! ## 4. Peeling -/

/-- Where the tags around an object lead. -/
inductive Peeled
  | commit (oid : Oid)
  | noCommit
  | missing (oid : Oid)
  /-- The tags lead back to an object they came from, and taking them off has no end. -/
  | endless
  deriving DecidableEq, Repr

/-- Follows tags; `steps` bounds the number of objects looked at. -/
def peelWithin (s : ObjectStore) : (steps : Nat) → Oid → Peeled
  | 0, _ => .endless
  | steps + 1, oid =>
    match s.get? oid with
    | none => .missing oid
    | some o =>
      match o.kind, o.target with
      | .commit, _ => .commit o.oid
      | .tag, some target => s.peelWithin steps target
      | .tag, none => .noCommit
      | .blob, _ => .noCommit

/-- The commit that is left when all tags around an object are taken off. Tags that end pass through
each stored object at most once, and then at most one that is missing; so where this number of steps
is not enough, no number is. -/
def peel (s : ObjectStore) (oid : Oid) : Peeled := s.peelWithin (s.objects.length + 1) oid

end ObjectStore
end CommitStore

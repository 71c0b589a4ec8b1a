import CommitStore.Object.Store
set_option autoImplicit false

/-!
# Commits as they are shown

A `CommitInfo` is a stored commit with its parents. Its summary is the start of its id and the start
of its message; a long message ends in three dots.
-/

namespace CommitStore

/-- A commit with its parents. -/
structure CommitInfo where
  oid : Oid
  parents : List Oid
  message : Option String
  createdAt : Instant
  deriving DecidableEq, Repr, Inhabited

namespace CommitInfo

/-- The longest message that a summary shows in full. -/
def maxSummary : Nat := 60

/-- How much of an id a summary shows. -/
def summaryOid : Nat := 8

/-- A message as a summary shows it, never longer than `maxSummary`. -/
def shorten (message : List Char) : List Char :=
  if maxSummary < message.length then message.take (maxSummary - 3) ++ ['.', '.', '.'] else message

/-- The start of the id and the start of the message. -/
def summary (c : CommitInfo) : String :=
  Oid.abbreviate summaryOid c.oid ++ " " ++ String.ofList (shorten (c.message.getD "").toList)

theorem length_shorten_le (message : List Char) : (shorten message).length ≤ maxSummary := by
  unfold shorten
  split
  · rw [List.length_append, List.length_take]
    exact Nat.add_le_add_right (Nat.min_le_left _ _) 3
  · omega

end CommitInfo

/-- The commit with the given id, if one is stored. -/
def ObjectStore.commit? (s : ObjectStore) (oid : Oid) : Option CommitInfo :=
  match s.get? oid with
  | some o =>
    if o.kind = .commit then some ⟨o.oid, s.parents o.oid, o.message, o.createdAt⟩ else none
  | none => none

/-- A commit, its first parent, that commit's first parent and so on, at most `count` of them. -/
def ObjectStore.firstParents (s : ObjectStore) : (count : Nat) → Option Oid → List CommitInfo
  | 0, _ => []
  | _, none => []
  | count + 1, some oid =>
    match s.commit? oid with
    | none => []
    | some c => c :: s.firstParents count c.parents.head?

end CommitStore

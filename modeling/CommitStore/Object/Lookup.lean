import CommitStore.Object.Store
import CommitStore.Text.Wildcard
set_option autoImplicit false

/-!
# Looking an object up by the start of its id

The start of an id, of at least `minLength` characters, names an object if only one id begins with
it. The start is a wildcard pattern (`Text/Wildcard`), and the search stops after `maxMatches`
objects.
-/

namespace CommitStore
namespace ObjectStore

/-- The fewest characters that are looked up. -/
def minLength : Nat := 4

/-- How many matching objects are looked at. -/
def maxMatches : Nat := 6

/-- What the start of an id names. -/
inductive Match
  | tooShort
  | tooLong
  | none
  | unique (o : StoredObject)
  | ambiguous (candidates : List Oid)
  deriving Repr

/-- The objects whose ids begin with an instance of the pattern, oldest first. -/
def startingWith (s : ObjectStore) (start : String) : List StoredObject :=
  (s.objects.filter fun o => Text.startsLike start o.oid).take maxMatches

/-- Whether the store refuses to match its objects against a pattern. -/
def refuses (s : ObjectStore) (start : String) : Bool :=
  Text.isTooLong start && !s.objects.isEmpty

/-- The object that the start of an id names. -/
def lookup (s : ObjectStore) (start : String) : Match :=
  if start.length < minLength then .tooShort
  else if s.refuses start then .tooLong
  else
    match s.startingWith start with
    | [] => .none
    | [o] => .unique o
    | os => .ambiguous (os.map (·.oid))

end ObjectStore
end CommitStore

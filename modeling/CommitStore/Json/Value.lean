set_option autoImplicit false

/-!
# JSON values

The documents that are hashed into object ids, the payloads kept with objects, and the stored form
of a whole database are JSON values. Whole numbers are exact at any size; a number that was written
with a fraction or an exponent is a double. The fields of an object keep the order they were given
in, and a repeated field takes its last value (`put`).
-/

namespace CommitStore
namespace Json

/-- A JSON value. -/
inductive Value
  | null
  | bool (b : Bool)
  | integer (n : Int)
  | double (x : Float)
  | text (s : String)
  | array (items : List Value)
  | object (fields : List (String × Value))
  deriving Inhabited, Repr

/-- The fields with one of them set: a new field comes last, a known one keeps its place. -/
def put (key : String) (value : Value) : List (String × Value) → List (String × Value)
  | [] => [(key, value)]
  | (k, v) :: rest => if k = key then (key, value) :: rest else (k, v) :: put key value rest

/-- The value of a field of an object. -/
def Value.field? (v : Value) (key : String) : Option Value :=
  match v with
  | .object fields => (fields.find? (·.1 == key)).map (·.2)
  | _ => none

/-- A text, or null for none. -/
def Value.ofText? : Option String → Value
  | none => .null
  | some s => .text s

end Json
end CommitStore

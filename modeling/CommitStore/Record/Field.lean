import CommitStore.Json.Value
import CommitStore.Numeral
set_option autoImplicit false

/-!
# Fields of a record

Configurations and events can be given as records whose fields hold any JSON value. A field wants a
text, a boolean or a whole number, and some values of another shape count as one: the usual words
for yes and no, and numbers without a fraction. `FieldFault` says which field was wrong and how.
-/

namespace CommitStore
namespace Record

open Json (Value)

/-! ## 1. Faults -/

/-- How a field can be wrong. -/
inductive Mismatch
  | notText
  | notBoolean
  | notBooleanWord
  | notInteger
  | notIntegerText
  | integerTooLarge
  | fraction
  | notFinite
  | notOneOf (choices : List String)
  | refused (reason : String)
  deriving DecidableEq, Repr

/-- A field with what is wrong about its value. -/
structure FieldFault where
  field : String
  mismatch : Mismatch
  deriving DecidableEq, Repr

/-- The short name of a mismatch. -/
def Mismatch.code : Mismatch → String
  | .notText => "string_type"
  | .notBoolean => "bool_type"
  | .notBooleanWord => "bool_parsing"
  | .notInteger => "int_type"
  | .notIntegerText => "int_parsing"
  | .integerTooLarge => "int_parsing_size"
  | .fraction => "int_from_float"
  | .notFinite => "finite_number"
  | .notOneOf _ => "enum"
  | .refused _ => "value_error"

/-- The choices of a field, each between single quotes, the last one after `or`. -/
def listChoices : List String → String
  | [] => ""
  | [one] => "'" ++ one ++ "'"
  | [one, other] => "'" ++ one ++ "' or '" ++ other ++ "'"
  | first :: rest => "'" ++ first ++ "', " ++ listChoices rest

/-- The mismatch in words. -/
def Mismatch.describe : Mismatch → String
  | .notText => "Input should be a valid string"
  | .notBoolean => "Input should be a valid boolean"
  | .notBooleanWord => "Input should be a valid boolean, unable to interpret input"
  | .notInteger => "Input should be a valid integer"
  | .notIntegerText => "Input should be a valid integer, unable to parse string as an integer"
  | .integerTooLarge =>
    "Unable to parse input string as an integer, exceeded maximum size"
  | .fraction => "Input should be a valid integer, got a number with a fractional part"
  | .notFinite => "Input should be a finite number"
  | .notOneOf choices => "Input should be " ++ listChoices choices
  | .refused reason => "Value error, " ++ reason

/-! ## 2. Values as texts, booleans and numbers -/

/-- The magnitude below which a double counts as a whole number. -/
def wholeLimit : Float := 9223372036854775808.0

/-- The whole number that a double without a fraction stands for. -/
def wholeOfDouble (x : Float) : Except Mismatch Int :=
  if !x.isFinite then .error .notFinite
  else if x != x.floor then .error .fraction
  else if x.abs < wholeLimit then .ok x.toInt64.toInt
  else .error .integerTooLarge

/-- A text. -/
def text : Value → Except Mismatch String
  | .text s => .ok s
  | _ => .error .notText

/-- The words for no and for yes, in small letters. -/
def noWords : List String := ["0", "f", "n", "no", "off", "false"]

@[inherit_doc noWords]
def yesWords : List String := ["1", "t", "y", "on", "yes", "true"]

/-- A boolean that is given as a word, in letters of either case. -/
def booleanOfWord (s : String) : Except Mismatch Bool :=
  let word := String.ofList (s.toList.map Char.toLower)
  if word ∈ noWords then .ok false
  else if word ∈ yesWords then .ok true
  else .error .notBooleanWord

/-- The numbers of a machine word lie from minus this limit on up to below it. -/
def wordLimit : Int := 0x8000000000000000

/-- A boolean that is given as zero or one. Numbers that do not fit a machine word are not looked
at. -/
def booleanOfInteger (n : Int) : Except Mismatch Bool :=
  if n = 0 then .ok false
  else if n = 1 then .ok true
  else if -wordLimit ≤ n ∧ n < wordLimit then .error .notBooleanWord
  else .error .notBoolean

/-- A boolean. -/
def boolean : Value → Except Mismatch Bool
  | .bool b => .ok b
  | .text s => booleanOfWord s
  | .integer n => booleanOfInteger n
  | .double x =>
    match wholeOfDouble x with
    | .ok n => booleanOfInteger n
    | .error _ => .error .notBoolean
  | _ => .error .notBoolean

/-- A whole number. -/
def integer : Value → Except Mismatch Int
  | .integer n => .ok n
  | .bool b => .ok (if b then 1 else 0)
  | .double x => wholeOfDouble x
  | .text s =>
    match Numeral.readLenient s with
    | .ok n => .ok n
    | .error (.tooLong _) => .error .integerTooLarge
    | .error .malformed => .error .notIntegerText
  | _ => .error .notInteger

/-- A value that may be null. -/
def nullable {α : Type} (read : Value → Except Mismatch α) : Value → Except Mismatch (Option α)
  | .null => .ok none
  | v => (read v).map some

/-! ## 3. Fields -/

/-- Reads a field of a record, or takes the default if the record lacks it. -/
def field {α : Type} (record : Value) (name : String) (read : Value → Except Mismatch α)
    (default : α) : Except FieldFault α :=
  match record.field? name with
  | none => .ok default
  | some v => (read v).mapError fun mismatch => ⟨name, mismatch⟩

/-- Reads a field of a record that has no default; one that the record lacks counts as null. -/
def required {α : Type} (record : Value) (name : String) (read : Value → Except Mismatch α) :
    Except FieldFault α :=
  (read ((record.field? name).getD .null)).mapError fun mismatch => ⟨name, mismatch⟩

/-- The fault of a field that was read, as a list. -/
def faultOf {α : Type} : Except FieldFault α → List FieldFault
  | .ok _ => []
  | .error fault => [fault]

end Record
end CommitStore

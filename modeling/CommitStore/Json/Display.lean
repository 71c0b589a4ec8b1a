import CommitStore.Decimal.Layout
import CommitStore.Json.Value
import CommitStore.Text.Quoted
set_option autoImplicit false

/-!
# Values in messages

A message that mentions a value shows it in a notation of its own: texts are quoted, the constants
begin with a capital, and a blank follows each comma and colon. A text that is the whole of what is
mentioned can also be shown as it is (`shown`).
-/

namespace CommitStore
namespace Json

mutual

/-- A value as a message shows it. -/
def Value.display : Value → String
  | .null => "None"
  | .bool true => "True"
  | .bool false => "False"
  | .integer n => toString n
  | .double x => String.ofList (Decimal.plain.text x)
  | .text s => Text.quoted s
  | .array items => "[" ++ ", ".intercalate (displayItems items) ++ "]"
  | .object fields => "\x7b" ++ ", ".intercalate (displayFields fields) ++ "\x7d"

/-- The items of an array as a message shows them. -/
def displayItems : List Value → List String
  | [] => []
  | item :: rest => item.display :: displayItems rest

/-- The fields of an object as a message shows them. -/
def displayFields : List (String × Value) → List String
  | [] => []
  | (key, value) :: rest => (Text.quoted key ++ ": " ++ value.display) :: displayFields rest

end

/-- A value as a message shows it, a text without its quotes. -/
def Value.shown : Value → String
  | .text s => s
  | v => v.display

/-- What is said by values that are given together: nothing, one value, or a sequence of them. -/
def said : List Value → String
  | [] => ""
  | [v] => v.shown
  | values => "(" ++ ", ".intercalate (displayItems values) ++ ")"

end Json
end CommitStore

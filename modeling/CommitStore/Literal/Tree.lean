import CommitStore.Literal.Fault
set_option autoImplicit false

/-!
# Expressions

What an expression is, as far as it matters for whether it is a literal: a number, a quoted text,
one of a few constants, or a group of literals. `Tree.fault?` says why an expression is none.
-/

namespace CommitStore
namespace Literal

/-- An expression, or a part of one. -/
inductive Tree
  /-- A constant other than a number, and what it is called. -/
  | constant (what : String)
  | number (imaginary : Bool)
  /-- A number with a sign. -/
  | signed (imaginary : Bool)
  | name
  | sequence (items : List Tree)
  | set (items : List Tree)
  /-- A record of pairs and spreads. -/
  | record (fields : List Tree)
  /-- A key and its value. -/
  | pair (key value : Tree)
  /-- A record that is spread into another one. -/
  | spread
  /-- Any other expression, and what it is called. -/
  | computed (what : String)
  /-- One of several quoted texts that make one. -/
  | part (letters : String) (body : List Char)
  deriving Inhabited

/-- What an expression is called. -/
def Tree.what : Tree → String
  | .constant what | .computed what => what
  | .number _ | .part _ _ => "literal"
  | .signed _ => "expression"
  | .name => "name"
  | .sequence _ => "tuple"
  | .set _ => "set display"
  | .record _ | .pair _ _ | .spread => "dict literal"

/-- A sign in front of an expression. -/
def Tree.withSign : Tree → Tree
  | .number imaginary => .signed imaginary
  | _ => .computed "expression"

/-- A sum or a difference; a complex number is written as one. -/
def Tree.plus : Tree → Tree → Tree
  | .number false, .number true | .signed false, .number true => .constant "expression"
  | _, _ => .computed "expression"

/-! ## Literals -/

/-- What an expression is that cannot be in a set, if it is such. -/
def Tree.unhashable? : Tree → Option String
  | .set _ => some "set"
  | .record _ => some "dict"
  | .sequence items => firstUnhashable? items
  | _ => none
where
  /-- The first of some expressions that cannot be in a set. -/
  firstUnhashable? : List Tree → Option String
    | [] => none
    | tree :: rest => tree.unhashable? <|> firstUnhashable? rest

mutual

/-- Why an expression is no literal. -/
def Tree.fault? : Tree → Option Fault
  | .constant _ | .number _ | .signed _ => none
  | .name | .computed _ | .part _ _ => some .computed
  | .sequence items => itemsFault? items
  | .set items => membersFault? items
  | .record fields => itemsFault? fields
  | .pair key value => key.fault? <|> value.fault? <|> key.unhashable?.map .unhashable
  | .spread => some .spread

/-- Why one of some expressions is no literal. -/
def itemsFault? : List Tree → Option Fault
  | [] => none
  | tree :: rest => tree.fault? <|> itemsFault? rest

/-- Why one of some expressions is no literal that can be in a set. -/
def membersFault? : List Tree → Option Fault
  | [] => none
  | tree :: rest => tree.fault? <|> tree.unhashable?.map .unhashable <|> membersFault? rest

end

end Literal
end CommitStore

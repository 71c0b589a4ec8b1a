import CommitStore.Literal.Form
set_option autoImplicit false

/-!
# Rules of expressions

The names of the rules by which expressions are read (`Literal/Grammar`), and of those for mistakes
that are often made in them (`Literal/Mistake`).
-/

namespace CommitStore
namespace Literal

/-- What a mistake is made in. -/
inductive Mistake
  | expression
  | call
  | value
  | arguments
  | keyword
  | group
  | comprehension
  | recordComprehension
  | fields
  | lastField
  deriving DecidableEq, Repr

/-- The rules of expressions. -/
inductive Rule
  -- Whole texts.
  | whole
  | values
  -- Expressions, looser ones first.
  | expression
  | plainExpression
  | disjunction
  | conjunction
  | negation
  | comparison
  | union
  | exclusion
  | intersection
  | shift
  | sum
  | product
  | signed
  | power
  | awaited
  | primary
  | atom
  | texts
  -- Brackets.
  | group
  | sequence
  | generator
  | set
  | setComprehension
  | record
  | recordComprehension
  | naming
  | value
  | starred
  | element
  | elements
  | pair
  | field
  | clauses
  -- Calls.
  | argumentList
  | arguments
  | argument
  | keywords
  | keyword
  | spreadKeyword
  -- Mistakes.
  | mistake (m : Mistake)
  deriving DecidableEq, Repr

/-- Whether what a rule answers at a place is kept for good. -/
def Rule.isRemembered : Rule → Bool
  | .expression | .disjunction | .conjunction | .negation | .union | .exclusion | .intersection
  | .shift | .sum | .product | .signed | .awaited | .primary | .texts | .argumentList
  | .mistake .value => true
  | _ => false

end Literal
end CommitStore

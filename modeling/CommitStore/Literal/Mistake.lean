import CommitStore.Literal.Rule
set_option autoImplicit false

/-!
# Common mistakes

The forms of mistakes that are often made in expressions. They are only tried where no expression
can be read otherwise, and say more than that the text is malformed.
-/

namespace CommitStore
namespace Literal

/-! ## 1. Why a form is a mistake -/

/-- Two expressions that follow each other in brackets. -/
def neighbours (depth : Nat) (_ : List Tree) : Option Fault :=
  if depth = 0 then none else some .missingComma

/-- A name is given in passing to what is no name. -/
def misnamed (_ : Nat) (trees : List Tree) : Option Fault :=
  trees.head?.map fun tree => .named tree.what

/-- An expression is assigned to. -/
def misassigned (_ : Nat) (trees : List Tree) : Option Fault :=
  trees.head?.map fun tree => .assigned tree.what

/-- The arguments of a call that are given by their position. -/
def positional : Tree → List Tree
  | .sequence arguments =>
    arguments.filter fun
      | .pair _ _ | .spread => false
      | _ => true
  | _ => []

/-- A generator without brackets of its own among several arguments. -/
def unbracketed (_ : Nat) (trees : List Tree) : Option Fault :=
  match trees with
  | arguments :: _ => if (positional arguments).length ≤ 1 then none else some .bareGenerator
  | [] => none

/-- Arguments behind those that have to be the last ones. -/
def belated (_ : Nat) (trees : List Tree) : Option Fault :=
  match trees with
  | .sequence arguments :: _ =>
    let spreads := arguments.any fun
      | .spread => true
      | _ => false
    some (if spreads then .argumentAfterUnpacking else .argumentAfterKeyword)
  | _ => some .argumentAfterKeyword

/-! ## 2. The forms -/

/-- The words that cannot be assigned to. -/
def constantWords : List String := ["True", "False", "None"]

/-- The form of a mistake. -/
def Mistake.form : Mistake → Form Rule
  | .expression => .alt [
      .fault neighbours (.seq [
        .ahead false (.alt [.seq [.kind .name, .kind .text], .kind .softWord]),
        .rule .disjunction, .trusted (.rule .plainExpression)]),
      .mistake .missingElse (.seq [
        .rule .disjunction, .word "if", .rule .disjunction,
        .ahead false (.alt [.word "else", .mark ":"])])]
  | .call =>
      -- A name with an expression behind it may be a call without brackets. It is read, but is no
      -- mistake of its own.
      .fault (fun _ _ => none)
        (.seq [.kind .name, .ahead false (.mark "("), .rule .values])
  | .value => .alt [
      .fault misnamed (.seq [.rule .expression, .mark ":=", .rule .expression]),
      .mistake .assignedName (.seq [
        .kind .name, .mark "=", .rule .union, .ahead false (.alt [.mark "=", .mark ":="])]),
      .fault misassigned (.seq [
        .ahead false (.alt [
          .rule .sequence, .rule .generator, .word "True", .word "None", .word "False"]),
        .rule .union, .mark "=", .rule .union,
        .ahead false (.alt [.mark "=", .mark ":="])])]
  | .arguments => .alt [
      .mistake .unpackingAfterUnpacking (.seq [.rule .arguments, .mark ",", .mark "*"]),
      .mistake .bareGenerator (.seq [
        .rule .expression, .rule .clauses, .mark ",",
        .opt (.alt [.rule .arguments, .seq [.rule .expression, .rule .clauses]])]),
      .mistake .assignedName
        (.seq [.kind .name, .mark "=", .rule .expression, .rule .clauses]),
      .fault unbracketed (.seq [.rule .arguments, .rule .clauses]),
      .mistake .bareGenerator
        (.seq [.rule .arguments, .mark ",", .rule .expression, .rule .clauses]),
      .fault belated (.seq [.rule .arguments, .mark ",", .rule .arguments])]
  | .keyword => .alt (
      constantWords.map (fun word =>
        .mistake (.assignedConstant word) (.seq [.word word, .mark "="])) ++ [
      .mistake .assignedName
        (.seq [.kind .name, .mark "=", .rule .expression, .rule .clauses]),
      .mistake .assignedArgument (.seq [
        .ahead false (.seq [.kind .name, .mark "="]), .rule .expression, .mark "="])])
  | .group => .alt [
      .mistake .starredGroup (.seq [.mark "(", .rule .starred, .mark ")"]),
      .mistake .doublyStarredGroup
        (.seq [.mark "(", .mark "**", .rule .expression, .mark ")"])]
  | .comprehension => .alt [
      .mistake .starredComprehension (.seq [
        .alt [.mark "(", .mark "\x7b"], .rule .starred, .rule .clauses]),
      .mistake .bareTarget (.seq [
        .mark "\x7b", .rule .element, .mark ",", .rule .elements, .rule .clauses]),
      .mistake .bareTarget
        (.seq [.mark "\x7b", .rule .element, .mark ",", .rule .clauses])]
  | .recordComprehension =>
      .mistake .spreadComprehension (.seq [
        .mark "\x7b", .mark "**", .rule .union, .rule .clauses, .mark "\x7d"])
  | .fields => .alt [
      .seq [.listed (.rule .field), .mark ",", .rule (.mistake .lastField)],
      .mistake .starredValue
        (.seq [.rule .expression, .mark ":", .mark "*", .rule .union]),
      .mistake .missingValue (.seq [
        .rule .expression, .mark ":", .ahead true (.alt [.mark "\x7d", .mark ","])])]
  | .lastField => .alt [
      .mistake .missingColon (.seq [.rule .expression, .ahead false (.mark ":")]),
      .mistake .starredValue
        (.seq [.rule .expression, .mark ":", .mark "*", .rule .union]),
      .mistake .missingValue (.seq [
        .rule .expression, .mark ":", .ahead true (.alt [.mark "\x7d", .mark ","])])]

end Literal
end CommitStore

import CommitStore.Literal.Escape
import CommitStore.Literal.Mistake
set_option autoImplicit false

/-!
# The grammar of expressions

An expression is read by rules, from the loosest operators to the tightest. Only those expressions
are told from each other that make a difference for whether a text is a literal.
-/

namespace CommitStore
namespace Literal

/-! ## 1. Expressions from their parts -/

/-- The parts of an expression as one: a single part stands for itself, and several are `what`. -/
def joined (what : String) : List Tree → List Tree
  | [] => [.computed what]
  | [tree] => [tree]
  | _ => [.computed what]

/-- The operands of a sum as one expression. -/
def summed : List Tree → List Tree
  | [] => []
  | first :: rest => [rest.foldl Tree.plus first]

/-- The quoted texts that follow each other as one expression; it is computed if one of them has
expressions. -/
def united (trees : List Tree) : Except Fault (List Tree) :=
  let parts := trees.filterMap fun
    | .part letters body => some (letters, body)
    | _ => none
  match textsFault? none parts with
  | some fault => .error fault
  | none =>
    let isTemplate := parts.any fun (letters, _) => letters.toList.contains 'f'
    .ok [if isTemplate then .computed "f-string expression" else .constant "literal"]

/-- A field of a record. -/
def paired : List Tree → List Tree
  | [key, value] => [.pair key value]
  | trees => trees

/-! ## 2. Shapes of rules -/

/-- Operands with operators between them. -/
def operands (what : String) (operator : Form Rule) (operand : Rule) : Form Rule :=
  .built (joined what) (.seq [.rule operand, .many (.seq [operator, .rule operand])])

/-- One of some marks. -/
def anyMark (signs : List String) : Form Rule := .alt (signs.map .mark)

/-- An expression that no name is given to in passing. -/
def unnamed : Form Rule := .seq [.rule .expression, .ahead false (.mark ":=")]

/-- What stands in brackets. -/
def bracketed (opening closing : String) (inside : List (Form Rule)) : Form Rule :=
  .seq (.mark opening :: inside ++ [.mark closing])

/-- An operator that compares, with its words. -/
def comparisonOperator : Form Rule :=
  .alt [.mark "==", .mark "!=", .mark "<=", .mark "<", .mark ">=", .mark ">",
    .seq [.word "not", .word "in"], .word "in", .seq [.word "is", .word "not"], .word "is"]

/-! ## 3. The rules -/

/-- The form of a rule. -/
def Rule.form : Rule → Form Rule
  | .whole => .seq [.rule .values, .many (.kind .lineEnd), .kind .finish]
  | .values => .alt [
      .built (fun trees => [.sequence trees]) (.seq [
        .rule .expression, .some (.seq [.mark ",", .rule .expression]), .opt (.mark ",")]),
      .built (fun trees => [.sequence trees]) (.seq [.rule .expression, .mark ","]),
      .rule .expression]
  | .expression => .alt [
      .suspected (.rule (.mistake .expression)),
      .suspected (.rule (.mistake .call)),
      .rule .plainExpression]
  | .plainExpression => .alt [
      .as (.computed "conditional expression") (.seq [
        .rule .disjunction, .word "if", .rule .disjunction, .word "else", .rule .expression]),
      .rule .disjunction]
  | .disjunction => operands "expression" (.word "or") .conjunction
  | .conjunction => operands "expression" (.word "and") .negation
  | .negation => .alt [
      .as (.computed "expression") (.seq [.word "not", .rule .negation]),
      .rule .comparison]
  | .comparison => operands "comparison" comparisonOperator .union
  | .union => operands "expression" (.mark "|") .exclusion
  | .exclusion => operands "expression" (.mark "^") .intersection
  | .intersection => operands "expression" (.mark "&") .shift
  | .shift => operands "expression" (anyMark ["<<", ">>"]) .sum
  | .sum => .built summed (.seq [
      .rule .product, .many (.seq [anyMark ["+", "-"], .rule .product])])
  | .product => operands "expression" (anyMark ["*", "/", "//", "%", "@"]) .signed
  | .signed => .alt [
      .built (·.map .withSign) (.seq [anyMark ["+", "-"], .rule .signed]),
      .as (.computed "expression") (.seq [.mark "~", .rule .signed]),
      .rule .power]
  | .power => .alt [
      .as (.computed "expression") (.seq [.rule .awaited, .mark "**", .rule .signed]),
      .rule .awaited]
  | .awaited => .alt [
      .as (.computed "await expression") (.seq [.word "await", .rule .primary]),
      .rule .primary]
  | .primary => .built (fun trees => trees.getLast?.toList) (.seq [
      .rule .atom,
      .many (.alt [
        .as (.computed "attribute") (.seq [.mark ".", .kind .name]),
        .as (.computed "function call") (.rule .generator),
        .as (.computed "function call") (bracketed "(" ")" [.opt (.rule .argumentList)])])])
  | .atom => .alt ([
      .kind .name,
      .as (.constant "True") (.word "True"),
      .as (.constant "False") (.word "False"),
      .as (.constant "None") (.word "None"),
      .rule .texts,
      .kind .number] ++
      [.sequence, .group, .generator, .record, .set, .recordComprehension,
        .setComprehension].map .rule ++
      [.as (.constant "ellipsis") (.mark "...")])
  | .texts => .checked united (.some (.kind .text))
  -- Brackets.
  | .group => .alt [
      bracketed "(" ")" [.rule .value],
      .suspected (.rule (.mistake .group))]
  | .sequence =>
      .built (fun trees => [.sequence trees]) (bracketed "(" ")" [
        .opt (.seq [.rule .element, .mark ",", .opt (.rule .elements)])])
  | .generator => .alt [
      .as (.computed "generator expression") (bracketed "(" ")" [
        .alt [.rule .naming, unnamed], .rule .clauses]),
      .suspected (.rule (.mistake .comprehension))]
  | .set =>
      .built (fun trees => [.set trees]) (bracketed "\x7b" "\x7d" [.rule .elements])
  | .setComprehension => .alt [
      .as (.computed "set comprehension") (bracketed "\x7b" "\x7d" [
        .rule .value, .rule .clauses]),
      .suspected (.rule (.mistake .comprehension))]
  | .record => .alt [
      .built (fun trees => [.record trees]) (bracketed "\x7b" "\x7d" [
        .opt (.seq [.listed (.rule .field), .opt (.mark ",")])]),
      bracketed "\x7b" "\x7d" [.rule (.mistake .fields)]]
  | .recordComprehension => .alt [
      .as (.computed "dict comprehension") (bracketed "\x7b" "\x7d" [
        .rule .pair, .rule .clauses]),
      .suspected (.rule (.mistake .recordComprehension))]
  | .naming =>
      .as (.computed "named expression")
        (.seq [.kind .name, .mark ":=", .rule .expression])
  | .value => .alt [.rule .naming, .suspected (.rule (.mistake .value)), unnamed]
  | .starred => .as (.computed "starred") (.seq [.mark "*", .rule .expression])
  | .element => .alt [
      .as (.computed "starred") (.seq [.mark "*", .rule .union]),
      .rule .value]
  | .elements => .seq [.listed (.rule .element), .opt (.mark ",")]
  | .pair => .built paired (.seq [.rule .expression, .mark ":", .rule .expression])
  | .field => .alt [
      .as .spread (.seq [.mark "**", .rule .union]),
      .rule .pair]
  | .clauses => .some (.seq [
      .opt (.word "async"), .word "for", .listed (.rule .primary), .opt (.mark ","),
      .word "in", .rule .disjunction, .many (.seq [.word "if", .rule .disjunction])])
  -- Calls.
  | .argumentList => .alt [
      .seq [.rule .arguments, .opt (.mark ","), .ahead true (.mark ")")],
      .suspected (.rule (.mistake .arguments))]
  | .arguments => .built (fun trees => [.sequence trees]) (.alt [
      .seq [.listed (.rule .argument), .opt (.seq [.mark ",", .rule .keywords])],
      .rule .keywords])
  | .argument => .alt [
      .rule .starred,
      .seq [.alt [.rule .naming, unnamed], .ahead false (.mark "=")]]
  | .keywords => .alt [
      .seq [.listed (.rule .keyword), .mark ",", .listed (.rule .spreadKeyword)],
      .listed (.rule .keyword),
      .listed (.rule .spreadKeyword)]
  | .keyword => .alt [
      .suspected (.rule (.mistake .keyword)),
      .built paired (.seq [.kind .name, .mark "=", .rule .expression]),
      .rule .starred]
  | .spreadKeyword => .alt [
      .suspected (.rule (.mistake .keyword)),
      .built paired (.seq [.kind .name, .mark "=", .rule .expression]),
      .as .spread (.seq [.mark "**", .rule .expression])]
  -- Mistakes.
  | .mistake m => m.form

end Literal
end CommitStore

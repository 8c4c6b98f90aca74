/-!
# Operators

The operators a call can carry. Their names are the contract with the optimizer, which
recognises calls by name. Core operators and built-in functions have a fixed name and a
fixed number of operands; any other function is carried by its name alone and is resolved
later. `Operator.ofName` reads a name back: a name outside the fixed vocabulary is a
function.
-/

namespace SqlAlgebra

/-! ## Operand counts -/

/-- The operand counts an operator accepts. -/
inductive Arity
  | exact (count : Nat)
  | between (least greatest : Nat)
  | atLeast (least : Nat)
deriving DecidableEq, Repr, Inhabited

namespace Arity

/-- Whether a number of operands is accepted. -/
def accepts : Arity → Nat → Bool
  | exact n, count => count == n
  | between least greatest, count => least ≤ count && count ≤ greatest
  | atLeast least, count => least ≤ count

/-- Operand counts in messages. -/
def text : Arity → String
  | exact n => n.repr
  | between least greatest => least.repr ++ " or " ++ greatest.repr
  | atLeast least => "at least " ++ least.repr

end Arity

/-! ## The fixed vocabulary -/

/-- The operators of the algebra itself. -/
inductive CoreOperator
  | asAlias
  | explicitTable
  | and
  | or
  | not
  | xor
  | equals
  | notEquals
  | lessThan
  | lessThanOrEqual
  | greaterThan
  | greaterThanOrEqual
  | isNotDistinctFrom
  | isDistinctFrom
  | isNull
  | isNotNull
  | isTrue
  | isNotTrue
  | isFalse
  | isNotFalse
  | plus
  | minus
  | multiply
  | divide
  | modulo
  | concat
  | like
  | notLike
  | memberOf
  | notMemberOf
  | between
  | notBetween
  | existsQuery
  | scalarQuery
  | searchedCase
  | simpleCase
  | descending
  | nullsFirst
  | nullsLast
  | count
  | sum
  | avg
  | min
  | max
deriving DecidableEq, Repr, Inhabited

namespace CoreOperator

/-- The name of a core operator. -/
def name : CoreOperator → String
  | asAlias => "AS"
  | explicitTable => "EXPLICIT_TABLE"
  | and => "AND"
  | or => "OR"
  | not => "NOT"
  | xor => "XOR"
  | equals => "EQUALS"
  | notEquals => "NOT_EQUALS"
  | lessThan => "LESS_THAN"
  | lessThanOrEqual => "LESS_THAN_OR_EQUAL"
  | greaterThan => "GREATER_THAN"
  | greaterThanOrEqual => "GREATER_THAN_OR_EQUAL"
  | isNotDistinctFrom => "IS_NOT_DISTINCT_FROM"
  | isDistinctFrom => "IS_DISTINCT_FROM"
  | isNull => "IS_NULL"
  | isNotNull => "IS_NOT_NULL"
  | isTrue => "IS_TRUE"
  | isNotTrue => "IS_NOT_TRUE"
  | isFalse => "IS_FALSE"
  | isNotFalse => "IS_NOT_FALSE"
  | plus => "PLUS"
  | minus => "MINUS"
  | multiply => "MULTIPLY"
  | divide => "DIVIDE"
  | modulo => "MOD"
  | concat => "CONCAT"
  | like => "LIKE"
  | notLike => "NOT_LIKE"
  | memberOf => "IN"
  | notMemberOf => "NOT_IN"
  | between => "BETWEEN"
  | notBetween => "NOT_BETWEEN"
  | existsQuery => "EXISTS"
  | scalarQuery => "SCALAR_QUERY"
  | searchedCase => "CASE"
  | simpleCase => "SIMPLE_CASE"
  | descending => "DESC"
  | nullsFirst => "NULLS_FIRST"
  | nullsLast => "NULLS_LAST"
  | count => "COUNT"
  | sum => "SUM"
  | avg => "AVG"
  | min => "MIN"
  | max => "MAX"

/-- The operand counts of a core operator. A searched CASE has WHEN/THEN pairs and an ELSE; a
simple CASE also has the operand in front. -/
def arity : CoreOperator → Arity
  | asAlias => .between 1 2
  | explicitTable => .exact 1
  | and => .atLeast 2
  | or => .atLeast 2
  | not => .exact 1
  | xor => .exact 2
  | equals => .exact 2
  | notEquals => .exact 2
  | lessThan => .exact 2
  | lessThanOrEqual => .exact 2
  | greaterThan => .exact 2
  | greaterThanOrEqual => .exact 2
  | isNotDistinctFrom => .exact 2
  | isDistinctFrom => .exact 2
  | isNull => .exact 1
  | isNotNull => .exact 1
  | isTrue => .exact 1
  | isNotTrue => .exact 1
  | isFalse => .exact 1
  | isNotFalse => .exact 1
  | plus => .exact 2
  | minus => .exact 2
  | multiply => .exact 2
  | divide => .exact 2
  | modulo => .exact 2
  | concat => .atLeast 2
  | like => .exact 2
  | notLike => .exact 2
  | memberOf => .exact 2
  | notMemberOf => .exact 2
  | between => .exact 3
  | notBetween => .exact 3
  | existsQuery => .exact 1
  | scalarQuery => .exact 1
  | searchedCase => .atLeast 3
  | simpleCase => .atLeast 4
  | descending => .exact 1
  | nullsFirst => .exact 1
  | nullsLast => .exact 1
  | count => .atLeast 1
  | sum => .exact 1
  | avg => .exact 1
  | min => .exact 1
  | max => .exact 1

/-- Whether an operator aggregates over rows. -/
def isAggregate : CoreOperator → Bool
  | count | sum | avg | min | max => true
  | _ => false

/-- Every core operator, in declared order. -/
def all : List CoreOperator :=
  [.asAlias, .explicitTable, .and, .or, .not, .xor, .equals, .notEquals, .lessThan,
    .lessThanOrEqual, .greaterThan, .greaterThanOrEqual, .isNotDistinctFrom, .isDistinctFrom,
    .isNull, .isNotNull, .isTrue, .isNotTrue, .isFalse, .isNotFalse, .plus, .minus, .multiply,
    .divide, .modulo, .concat, .like, .notLike, .memberOf, .notMemberOf, .between,
    .notBetween, .existsQuery, .scalarQuery, .searchedCase, .simpleCase, .descending,
    .nullsFirst, .nullsLast, .count, .sum, .avg, .min, .max]

end CoreOperator

/-- The scalar functions with a fixed meaning. -/
inductive Builtin
  | coalesce
  | nullIf
  | upper
  | lower
  | abs
  | charLength
  | substring
  | trim
  | round
  | floor
  | ceil
  | currentTimestamp
deriving DecidableEq, Repr, Inhabited

namespace Builtin

/-- The name of a built-in function. -/
def name : Builtin → String
  | coalesce => "COALESCE"
  | nullIf => "NULLIF"
  | upper => "UPPER"
  | lower => "LOWER"
  | abs => "ABS"
  | charLength => "CHAR_LENGTH"
  | substring => "SUBSTRING"
  | trim => "TRIM"
  | round => "ROUND"
  | floor => "FLOOR"
  | ceil => "CEIL"
  | currentTimestamp => "CURRENT_TIMESTAMP"

/-- The operand counts of a built-in function. -/
def arity : Builtin → Arity
  | coalesce => .atLeast 1
  | nullIf => .exact 2
  | upper => .exact 1
  | lower => .exact 1
  | abs => .exact 1
  | charLength => .exact 1
  | substring => .between 2 3
  | trim => .exact 1
  | round => .between 1 2
  | floor => .exact 1
  | ceil => .exact 1
  | currentTimestamp => .between 0 1

/-- Every built-in function, in declared order. -/
def all : List Builtin :=
  [.coalesce, .nullIf, .upper, .lower, .abs, .charLength, .substring, .trim, .round, .floor,
    .ceil, .currentTimestamp]

end Builtin

/-! ## Operators -/

/-- An operator of a call. -/
inductive Operator
  | core (operator : CoreOperator)
  | builtin (function : Builtin)
  /-- A function without a fixed meaning, resolved by the optimizer's catalog. -/
  | function (name : String)
deriving DecidableEq, Repr, Inhabited

instance : Coe CoreOperator Operator := ⟨.core⟩

namespace Operator

/-- The name of an operator. -/
def name : Operator → String
  | core op => op.name
  | builtin f => f.name
  | function name => name

/-- The operand counts of an operator; a function without a fixed meaning takes any. -/
def arity : Operator → Arity
  | core op => op.arity
  | builtin f => f.arity
  | function _ => .atLeast 0

/-- Whether an operator aggregates over rows. -/
def isAggregate : Operator → Bool
  | core op => op.isAggregate
  | _ => false

/-- The operators whose names are fixed. -/
def vocabulary : List Operator :=
  CoreOperator.all.map core ++ Builtin.all.map builtin

/-- The operator a name denotes. -/
def ofName (name : String) : Operator :=
  (vocabulary.find? fun op => op.name == name).getD (.function name)

end Operator

end SqlAlgebra

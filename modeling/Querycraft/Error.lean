/-
  Querycraft.Error — why a query cannot be built.

  An error is a cause. `kind` sorts the causes into four classes, `detail` gives each
  its words, and `message` is the class's label followed by them. Functions that a
  caller plugs in report their own failures through `reported`.
-/

import Querycraft.Expr.Shape
import Querycraft.Operation
import Querycraft.Operator
import Querycraft.TextMatch
import Querycraft.Value.Kind

namespace Querycraft

inductive ErrorKind where
  | unsupportedExpression
  | configuration
  | argument
  | invalidOperation
  deriving DecidableEq

def ErrorKind.label : ErrorKind → String
  | .unsupportedExpression => "Unsupported expression: "
  | .configuration => "Configuration error: "
  | .argument => "Argument error: "
  | .invalidOperation => "Invalid operation: "

inductive Error where
  /-- A whole row where one operand is wanted. -/
  | rowAsOperand (entity : String)
  | arithmeticOnColumn (op : Operator)
  | methodOnColumn (method : String)
  | recordAsOperand
  | columnExpected (shape : Expr.Shape)
  /-- A row's value is asked for outside a query. -/
  | rowHasNoValue (entity : String)
  | constantsCompared (op : Operator)
  | noEvaluator (method : String)
  | recordAsValue
  | operatorInPredicate (op : Operator)
  /-- `NULL` in an order comparison. -/
  | nullOrdered (op : Operator)
  | functionOfRow (function : String)
  | havingOperator (op : Operator)
  | assignmentsExpected (shape : Expr.Shape)
  | rowExpected (shape : Expr.Shape)
  | methodInUpdate (method : String)
  | rowAsOutput (table : String)
  | unknownTextMatch (name : String)
  | noDialect
  | unknownDialect (name : String)
  /-- A configuration text that cannot be read. -/
  | malformedConfiguration
  | argumentCount (m : TextMatch) (given : Nat)
  | textExpected (m : TextMatch) (given : Value.Kind)
  | noMember (owner : Value.Kind) (member : String)
  | booleanExpected (given : Value.Kind)
  | integerRange (left : Int64) (op : Operator) (right : Int64)
  | operandKinds (op : Operator) (left right : Value.Kind)
  | templateIndex (placeholder : String) (given : Nat)
  | objectExpected (given : Value.Kind)
  | captureFailed (reason : String)
  | insertCaptureFailed (reason : String)
  | parameterBound (name : String)
  | rowWithoutColumns
  | rowsDiffer
  | noRows
  | noAssignments
  | replaceArguments
  | conditionUnavailable (operation : Operation)
  | targetUnavailable (operation : Operation)
  /-- A failure of a function that the caller plugged in. -/
  | reported (kind : ErrorKind) (detail : String)
  deriving DecidableEq

namespace Error

def kind : Error → ErrorKind
  | .rowAsOperand _ | .arithmeticOnColumn _ | .methodOnColumn _ | .recordAsOperand
  | .columnExpected _ | .rowHasNoValue _ | .constantsCompared _ | .noEvaluator _ | .recordAsValue
  | .operatorInPredicate _ | .nullOrdered _ | .functionOfRow _ | .havingOperator _
  | .assignmentsExpected _ | .rowExpected _ | .methodInUpdate _ | .rowAsOutput _
  | .unknownTextMatch _ => .unsupportedExpression
  | .noDialect | .unknownDialect _ | .malformedConfiguration => .configuration
  | .argumentCount .. | .textExpected .. | .noMember .. | .booleanExpected _ | .integerRange ..
  | .operandKinds .. | .templateIndex .. | .objectExpected _ | .captureFailed _
  | .insertCaptureFailed _ | .parameterBound _ | .rowWithoutColumns | .rowsDiffer | .noRows
  | .noAssignments | .replaceArguments => .argument
  | .conditionUnavailable _ | .targetUnavailable _ => .invalidOperation
  | .reported kind _ => kind

def detail : Error → String
  | .rowAsOperand entity => "Parameter: a bare " ++ entity ++ " row cannot be used as an operand"
  | .arithmeticOnColumn op => "Binary: arithmetic (" ++ op.symbol ++ ") on a column is not supported"
  | .methodOnColumn method => "Call: method '" ++ method ++ "' on a column is not supported"
  | .recordAsOperand => "Record: record construction is only valid as a projection"
  | .columnExpected shape => shape.name ++ ": expected a column reference"
  | .rowHasNoValue entity => "parameter of " ++ entity ++ " has no value outside a query"
  | .constantsCompared op => "cannot evaluate " ++ op.name ++ " between constant values"
  | .noEvaluator method => "Call: method '" ++ method ++ "' has no evaluator"
  | .recordAsValue => "record construction cannot be evaluated to a single value"
  | .operatorInPredicate op => "Binary: operator " ++ op.name ++ " cannot appear in a predicate"
  | .nullOrdered op => "Binary: NULL can only be compared with = or <>, not " ++ op.symbol
  | .functionOfRow function => "Parameter: " ++ function ++ " needs a column, not a whole row"
  | .havingOperator op => "Binary: HAVING needs a comparison operator, not " ++ op.name
  | .assignmentsExpected shape => shape.name ++ ": UPDATE expects a record of assignments"
  | .rowExpected shape => shape.name ++ ": INSERT expects a record of values"
  | .methodInUpdate method => "Call: method '" ++ method ++ "' is not supported in UPDATE"
  | .rowAsOutput table => "Parameter: INSERT output needs columns, not " ++ table ++ ".*"
  | .unknownTextMatch name => "'" ++ name ++ "' is not a pattern-match method"
  | .noDialect => "no SQL adapter configured; set a dialect on the SqlContext first"
  | .unknownDialect name => "unknown SQL dialect '" ++ name ++ "'"
  | .malformedConfiguration => "malformed configuration"
  | .argumentCount m given => m.name ++ " expects exactly 1 argument, got " ++ toString given
  | .textExpected m given => m.name ++ " expects a text argument, got " ++ given.name
  | .noMember owner member => owner.name ++ " value has no member '" ++ member ++ "'"
  | .booleanExpected given => "NOT expects a boolean, got " ++ given.name
  | .integerRange left op right =>
    "integer overflow or division by zero in " ++ toString left.toInt ++ " " ++ op.symbol ++ " "
      ++ toString right.toInt
  | .operandKinds op left right =>
    "cannot apply " ++ op.name ++ " to " ++ left.name ++ " and " ++ right.name
  | .templateIndex placeholder given =>
    "template placeholder " ++ placeholder ++ " has no matching argument (" ++ toString given ++ " given)"
  | .objectExpected given => "INSERT expects an object value, got " ++ given.name
  | .captureFailed reason => "cannot capture value: " ++ reason
  | .insertCaptureFailed reason => "cannot capture insert value: " ++ reason
  | .parameterBound name =>
    "parameter '" ++ name ++ "' is already bound; fork sub-queries from the builder they join"
  | .rowWithoutColumns => "insert row has no columns"
  | .rowsDiffer => "insert rows must list the same columns in the same order"
  | .noRows => "INSERT requires at least one row"
  | .noAssignments => "UPDATE requires at least one value"
  | .replaceArguments => "REPLACE requires 2 arguments: the old and the new string"
  | .conditionUnavailable operation =>
    "WHERE text is only available for SELECT and COUNT, not " ++ operation.name
  | .targetUnavailable operation =>
    "insert target is only available for INSERT statements, not " ++ operation.name
  | .reported _ detail => detail

def message (error : Error) : String := error.kind.label ++ error.detail

end Error

end Querycraft

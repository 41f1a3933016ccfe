import DraftLisp.Text.Casing
import DraftLisp.Text.Escaped
import DraftLisp.Value.Text

/-!
What can go wrong in a script, as causes, and the wording of each cause.

Every family of causes has a case `reported` for text that an embedding editor words itself.
-/

namespace DraftLisp

/-- Why a text cannot be split into tokens. -/
inductive LexFault where
  | unterminatedString
  | unexpectedInput
  | reported (text : String)

/-- Why tokens or forms are not a program. -/
inductive SyntaxFault where
  | nesting (limit : Nat)
  | closing
  | quoteAtEnd
  | unclosed (count : Nat)
  | operandCount (name : String) (count : Nat) (form : Form)
  | noValue (form : Form)
  | notSymbol (name : String) (form : Form)
  | notClause (form : Form)
  | notFunctionName (form : Form)
  | notParameter (owner : String) (form : Form)
  | notParameterList (owner : String) (form : Form)
  | noParameterList (value : Value)
  | reported (text : String)

/-- Why a drawing refuses an operation. -/
inductive HostFault where
  | unknownId (id : EntityId)
  | missingEntity (operator : String) (id : EntityId)
  | emptyCommandName
  | reported (text : String)

/-- Why a well-typed operation has no result. -/
inductive EvalFault where
  | depth (limit : Nat)
  | constant (name : String)
  | divideByZero
  | undefinedFor (argument : Float)
  | unordered (first second : Value)
  | substringStart (start : Float)
  | substringLength (length : Float)
  | characterCode (code : Float)
  | selectionMode (mode : String)
  | noEntityType
  | unsupportedType (name : String)
  | reported (text : String)

/-- Why a value does not fit its place. -/
inductive TypeFault where
  | expected (what : String) (got : Value)
  | operand (operator what : String) (got : Value)
  | group (code : Int) (what : String) (got : Value)
  | notFunction (value : Value)
  | notIntegers (operator : String)
  | incomparable (first second : Value)
  | noEntityName (list : Value)
  | reported (text : String)

inductive Error where
  | lex (fault : LexFault) (offset : Nat) (context : Option String)
  | syntactic (fault : SyntaxFault)
  | unknownFunction (name : String)
  | host (fault : HostFault)
  | eval (fault : EvalFault)
  | type (fault : TypeFault)
  | arity (expected got : Nat) (operator : Option String)
  | inputOrphaned (kind : String)

namespace LexFault

def message : LexFault → String
  | .unterminatedString => "unterminated string literal"
  | .unexpectedInput => "unexpected input"
  | .reported text => text

end LexFault

namespace SyntaxFault

def malformed (name detail : String) : String := "malformed " ++ Text.lower name ++ ": " ++ detail

def message : SyntaxFault → String
  | .nesting limit => "nesting exceeds maximum depth of " ++ limit.repr
  | .closing => "unexpected ')'"
  | .quoteAtEnd => "quote without a following form"
  | .unclosed count => "unexpected end of input: " ++ count.repr ++ " unclosed parenthesis"
  | .operandCount name count form =>
    malformed name (count.repr ++ " operand(s) in " ++ form.text)
  | .noValue form => malformed "setq" ("no value for " ++ form.text)
  | .notSymbol name form => malformed name ("expected symbol, got " ++ form.text)
  | .notClause form => malformed "cond" ("clause must be a list, got " ++ form.text)
  | .notFunctionName form => malformed "defun" ("expected function name, got " ++ form.text)
  | .notParameter owner form => malformed owner ("parameter must be a symbol, got " ++ form.text)
  | .notParameterList owner form => malformed owner ("parameter list expected, got " ++ form.text)
  | .noParameterList value => malformed "lambda" ("missing parameter list in " ++ value.text)
  | .reported text => text

end SyntaxFault

namespace HostFault

def message : HostFault → String
  | .unknownId id => "no entity with id " ++ id.repr
  | .missingEntity operator id => operator ++ ": entity " ++ id.repr ++ " does not exist"
  | .emptyCommandName => "empty command name"
  | .reported text => text

end HostFault

namespace EvalFault

def message : EvalFault → String
  | .depth limit => "evaluation depth limit exceeded (max: " ++ limit.repr ++ ")"
  | .constant name => "setq: cannot assign to constant " ++ name
  | .divideByZero => "divide by zero"
  | .undefinedFor argument => "function undefined for argument: " ++ numberText argument
  | .unordered first second => "cannot compare " ++ first.text ++ " with " ++ second.text
  | .substringStart start => "substr: start must be at least 1, got " ++ numberText start
  | .substringLength length => "substr: invalid length " ++ numberText length
  | .characterCode code => "chr: invalid character code " ++ numberText code
  | .selectionMode mode => "ssget: unsupported selection mode " ++ Text.Escaped.escaped mode
  | .noEntityType => "entity list has no type (group 0)"
  | .unsupportedType name => "unsupported entity type: " ++ name
  | .reported text => text

end EvalFault

namespace TypeFault

def message : TypeFault → String
  | .expected what got => "expected " ++ what ++ ", got " ++ got.text
  | .operand operator what got => operator ++ ": expected " ++ what ++ ", got " ++ got.text
  | .group code what got =>
    "group " ++ Numeric.intText code ++ " expects a " ++ what ++ ", got " ++ got.text
  | .notFunction value => "not a function: " ++ value.text
  | .notIntegers operator => operator ++ ": expected integers"
  | .incomparable first second => "cannot compare " ++ first.text ++ " with " ++ second.text
  | .noEntityName list => "entmod: list has no entity name (group -1): " ++ list.text
  | .reported text => text

end TypeFault

namespace Error

def message : Error → String
  | .lex fault offset context =>
    "LexError: " ++ fault.message ++ " at offset " ++ offset.repr
      ++ (match context with
        | some excerpt => "\nContext: " ++ excerpt
        | none => "")
  | .syntactic fault => "SyntaxError: " ++ fault.message
  | .unknownFunction name => "UnknownFunction: no function definition: " ++ name
  | .host fault => "HostBridgeError: " ++ fault.message
  | .eval fault => "EvaluationError: " ++ fault.message
  | .type fault => "Type error: " ++ fault.message
  | .arity expected got (some operator) =>
    "ArityError: " ++ operator ++ ": expected " ++ expected.repr ++ " arguments, got " ++ got.repr
  | .arity expected got none =>
    "ArityError: function expected " ++ expected.repr ++ " arguments but got " ++ got.repr
  | .inputOrphaned kind =>
    "InputOrphaned: " ++ kind ++ " request was replaced before it was answered"

/-- Names the operator in an error about an operand count that does not name one yet. -/
def named (operator : String) : Error → Error
  | .arity expected got none => .arity expected got (some (Text.lower operator))
  | error => error

end Error

end DraftLisp

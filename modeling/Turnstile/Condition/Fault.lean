import Turnstile.Text.Quoted

/-! Why a condition has no answer. -/
namespace Turnstile.Condition

/-- What went wrong during evaluation. -/
inductive Fault where
  | undeclared (name : String)
  | noSuchKey (name : String)
  /-- A function that is not part of the language failed with a message. -/
  | functionFailed (function message : String)
  /-- A function of the language cannot be applied to the values it was given. -/
  | inapplicable (function : String)
  | argumentCount
  | noTarget
  | unexpectedType
  | notComparable
  | unsupportedBinary
  | unsupportedUnary
  | unsupportedKey
  | unsupportedIndex
  | unsupportedListIndex
  | unsupportedMapIndex
  | unsupportedFields
  /-- A whole number is divided by zero. -/
  | zeroDivisor
  /-- The quotient of whole numbers is out of range. -/
  | overflow
deriving DecidableEq, Inhabited

namespace Fault

/-- The name of the kind of fault. -/
def kind : Fault → String
  | undeclared _ => "UndeclaredReference"
  | noSuchKey _ => "NoSuchKey"
  | functionFailed _ _ | inapplicable _ => "FunctionError"
  | argumentCount => "InvalidArgumentCount"
  | noTarget => "MissingArgumentOrTarget"
  | unexpectedType => "UnexpectedType"
  | notComparable => "ValuesNotComparable"
  | unsupportedBinary => "UnsupportedBinaryOperator"
  | unsupportedUnary => "UnsupportedUnaryOperator"
  | unsupportedKey => "UnsupportedKeyType"
  | unsupportedIndex => "UnsupportedIndex"
  | unsupportedListIndex => "UnsupportedListIndex"
  | unsupportedMapIndex => "UnsupportedMapIndex"
  | unsupportedFields => "UnsupportedFieldsConstruction"
  | zeroDivisor => "ZeroDivisor"
  | overflow => "Overflow"

/-- The kind with what it is about, if that is a name or the message of a function. -/
def describe : Fault → String
  | undeclared name => s!"UndeclaredReference({Text.quoted name})"
  | noSuchKey name => s!"NoSuchKey({Text.quoted name})"
  | functionFailed function message =>
    "FunctionError \x7b function: " ++ Text.quoted function ++ ", message: " ++
      Text.quoted message ++ " \x7d"
  | f => f.kind

end Fault

inductive Failure where
  | unparsable (expression : String)
  | faulty (expression : String) (fault : Fault)
  /-- The value is of the named type instead of a truth value. -/
  | notBoolean (expression kind : String)
deriving DecidableEq, Inhabited

def Failure.message : Failure → String
  | unparsable expression => s!"cannot parse condition \x60{expression}\x60"
  | faulty expression fault => s!"cannot evaluate condition \x60{expression}\x60: {fault.describe}"
  | notBoolean expression kind =>
    s!"condition \x60{expression}\x60 returned {kind}, not a boolean"

end Turnstile.Condition

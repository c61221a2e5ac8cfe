import Collate.Text.Numeral
import Collate.Text.Quoted

/-!
# Failures

Reading an item, comparing two values and telling a listener can fail: a member
of an item may refuse to be read, an index may not be a number, an operation may
not be defined on its operands.  A `Failure` is the cause; `Failure.kind` is the
class it belongs to and `Failure.message` its wording, which some failures do not
have: to ask for it fails in turn.

Classes are derived from one another, and a failure counts as one of every class
that its own is derived from.  Two of them are treated apart when values are
compared: operands without the operation (`Failure.isUnorderable`) and arithmetic
that has no result (`Failure.isArithmetic`).  An interruption is no ordinary
failure; nothing that survives a failing part survives it.
-/

namespace Collate

/-- The class of a failure. -/
inductive Failure.Kind where
  /-- The class that all others are derived from. -/
  | any
  /-- The class of all failures that are no interruptions. -/
  | ordinary
  | operand
  | value
  | absence
  | key
  | index
  | state
  | arithmetic
  | zeroDivision
  | overflow
  | invalidOperation
  | interruption
  /-- A class that is derived from another one. -/
  | other (name : String) (parent : Failure.Kind)
  deriving DecidableEq

namespace Failure.Kind

/-- The name of a class in messages. -/
def name : Failure.Kind → String
  | any => "BaseException"
  | ordinary => "Exception"
  | operand => "TypeError"
  | value => "ValueError"
  | absence => "AttributeError"
  | key => "KeyError"
  | index => "IndexError"
  | state => "RuntimeError"
  | arithmetic => "ArithmeticError"
  | zeroDivision => "ZeroDivisionError"
  | overflow => "OverflowError"
  | invalidOperation => "InvalidOperation"
  | interruption => "KeyboardInterrupt"
  | other name _ => name

/-- The class and those that it is derived from, from the narrowest to the widest. -/
def lineage : Failure.Kind → List Failure.Kind
  | any => [any]
  | ordinary => [ordinary, any]
  | interruption => [interruption, any]
  | zeroDivision => [zeroDivision, arithmetic, ordinary, any]
  | overflow => [overflow, arithmetic, ordinary, any]
  | invalidOperation => [invalidOperation, arithmetic, ordinary, any]
  | kind@(other _ parent) => kind :: parent.lineage
  | kind => [kind, ordinary, any]

/-- Whether failures of the class are also of this wider class. -/
def isA (kind wider : Failure.Kind) : Bool := wider ∈ kind.lineage

/-- The classes that have a constructor of their own. -/
def known : List Failure.Kind :=
  [any, ordinary, operand, value, absence, key, index, state, arithmetic, zeroDivision, overflow,
    invalidOperation, interruption]

/-- Further classes that are derived from one of a special kind. -/
def derived : List Failure.Kind :=
  let encoding := other "UnicodeError" value
  ["SystemExit", "GeneratorExit", "CancelledError", "BaseExceptionGroup"].map (other · any) ++
    encoding :: ["UnicodeDecodeError", "UnicodeEncodeError", "UnicodeTranslateError"].map
      (other · encoding) ++
    ["FloatingPointError", "DecimalException", "DivisionByZero", "Overflow", "Underflow"].map
      (other · arithmetic)

/-- The class with this name. -/
def ofName (text : String) : Failure.Kind :=
  ((known ++ derived).find? fun kind => kind.name == text).getD (other text ordinary)

end Failure.Kind

/-- Why a computation did not give a result. -/
inductive Failure where
  /-- Raised by a part of an item, by a handler or by a listener. -/
  | raised (kind : Failure.Kind) (text : String)
  /-- Raised likewise, but whoever asks for its wording meets another failure. -/
  | mute (kind : Failure.Kind) (cause : Failure)
  /-- A text that should be an integer is not one. -/
  | integerText (text : String) (fault : Text.IntegerFault)
  /-- A mapping has no such entry. -/
  | absentEntry (name : String)
  /-- A path without segments has no first one. -/
  | emptyPath
  /-- An object claims a length below zero. -/
  | negativeLength
  /-- An object claims a length that no sequence has. -/
  | lengthTooLarge
  /-- A range has more numbers than a sequence can have. -/
  | rangeTooLong
  /-- Something else than an integer stands where one is needed. -/
  | notInteger (kind : String)
  /-- An operation is not defined on operands of these kinds. -/
  | operands (operation left right : String)
  /-- Values of these kinds have no order. -/
  | unordered (left right : String)
  /-- A value of this kind has no length. -/
  | noLength (kind : String)
  /-- An object gives something else than a truth value where it is asked for one. -/
  | notTruth (kind : String)
  /-- A quotient is beyond the floating numbers. -/
  | quotientTooLarge
  /-- A value of this kind cannot be used in this way. -/
  | unusable (kind use : String)
  /-- A comparison with a number that signals. -/
  | signalled
  /-- Arithmetic with a number that signals. -/
  | signalledOperand
  /-- The result of arithmetic is beyond the decimal numbers. -/
  | decimalTooLarge
  /-- A buffer of negative size. -/
  | negativeCapacity

namespace Failure

/-- The class of a failure. -/
def kind : Failure → Kind
  | raised kind _ | mute kind _ => kind
  | integerText _ _ | negativeLength | negativeCapacity => .value
  | absentEntry _ => .key
  | emptyPath => .index
  | lengthTooLarge | rangeTooLong | quotientTooLarge => .overflow
  | notInteger _ | operands _ _ _ | unordered _ _ | noLength _ | notTruth _ | unusable _ _ =>
    .operand
  | signalled | signalledOperand => .invalidOperation
  | decimalTooLarge => .other "Overflow" .arithmetic

/-- The most characters that a message shows of a text that is no number. -/
def quotedLimit : Nat := 200

/-- The wording of a failure, if it has one.  What a mapping lacks is quoted. -/
def message : Failure → Except Failure String
  | raised kind text => .ok (if kind.isA .key then Text.quoted text else text)
  | mute _ cause => .error cause
  | integerText text .malformed =>
    .ok ("invalid literal for int() with base 10: " ++
      String.ofList ((Text.quoted text).toList.take quotedLimit))
  | integerText _ (.tooLong digits) =>
    .ok ("Exceeds the limit (" ++ toString Text.digitLimit ++
      " digits) for integer string conversion: value has " ++ toString digits ++
      " digits; use sys.set_int_max_str_digits() to increase the limit")
  | absentEntry name => .ok (Text.quoted name)
  | emptyPath => .ok "tuple index out of range"
  | negativeLength => .ok "__len__() should return >= 0"
  | lengthTooLarge => .ok "cannot fit 'int' into an index-sized integer"
  | rangeTooLong => .ok "Python int too large to convert to C ssize_t"
  | notInteger kind => .ok ("'" ++ kind ++ "' object cannot be interpreted as an integer")
  | operands operation left right =>
    .ok ("unsupported operand type(s) for " ++ operation ++ ": '" ++ left ++ "' and '" ++ right ++
      "'")
  | unordered left right =>
    .ok ("'<' not supported between instances of '" ++ left ++ "' and '" ++ right ++ "'")
  | noLength kind => .ok ("object of type '" ++ kind ++ "' has no len()")
  | notTruth kind => .ok ("__bool__ should return bool, returned " ++ kind)
  | quotientTooLarge => .ok "integer division result too large for a float"
  | unusable kind use => .ok ("'" ++ kind ++ "' object is not " ++ use)
  | signalled => .ok "comparison involving sNaN"
  | signalledOperand => .ok "[<class 'decimal.InvalidOperation'>]"
  | decimalTooLarge => .ok "[<class 'decimal.Overflow'>]"
  | negativeCapacity => .ok "maxlen must be non-negative"

/-- A failure as it is shown where nobody is left to handle it. -/
def shown (failure : Failure) : String :=
  failure.message.toOption.getD "<exception str() failed>"

/-- Whether the failure says that the operands do not have the operation. -/
def isUnorderable (failure : Failure) : Bool := failure.kind.isA .operand

/-- Whether the failure is one of arithmetic. -/
def isArithmetic (failure : Failure) : Bool := failure.kind.isA .arithmetic

/-- Whether the failure says that something is not there. -/
def isAbsence (failure : Failure) : Bool := failure.kind.isA .absence

/-- Whether the failure says that a value cannot be converted to a number. -/
def refusesConversion (failure : Failure) : Bool :=
  failure.kind.isA .operand || failure.kind.isA .value || failure.kind.isA .overflow

/-- Whether the failure is an interruption. -/
def isInterruption (failure : Failure) : Bool := !failure.kind.isA .ordinary

/-- The integer that a text writes. -/
def readInteger (text : String) : Except Failure Int :=
  (Text.readInteger text.toList).mapError (integerText text)

end Failure

/-- A failing result in any monad where failures can be raised. -/
def orRaise {m : Type → Type} [Monad m] [MonadExceptOf Failure m] {α : Type} :
    Except Failure α → m α
  | .ok result => pure result
  | .error failure => throw failure

end Collate

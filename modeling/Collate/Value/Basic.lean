import Collate.Failure
import Collate.Markup.Place
import Collate.Value.Scalar

/-!
# Values

What is read off an item can be anything: numbers of several kinds, texts,
collections, members of enumerations, dates, functions, markup elements, and
objects of foreign classes.  An object has attributes, some of which refuse to be
read, and hooks that decide what an operation does with it.  An object may be a
scalar besides, if its class is derived from a kind of scalars; then it behaves like
the scalar in all that its class does not decide.

Besides there is the value that stands for no value at all, `Value.missing`.  It
is not the same value as `Value.none`, but both sort last.

Values that are distinguished although they look the same carry an identity.
Identity `0` is nobody's: it marks a value put together for a single reading.

A member of an enumeration goes by a name, unless it unites members of a flag
enumeration and there is none that it could be called after.  But an enumeration
may name its members by itself; then the name can be anything, and to ask for it,
or to put it into words, can fail.
-/

namespace Collate

/-- A value that was read off an item. -/
inductive Value where
  /-- No value. -/
  | missing
  | none
  | bool (value : Bool)
  | int (value : Int)
  | floating (value : Floating)
  | text (value : String)
  | bytes (value : List Nat)
  | decimal (value : Decimal)
  | fraction (value : Rat)
  | complex (real imaginary : Floating)
  | list (identity : Nat) (items : List Value)
  | tuple (identity : Nat) (items : List Value)
  | set (identity : Nat) (items : List Value)
  | mapping (identity : Nat) (entries : List (String × Value))
  | range (start stop step : Int)
  | date (value : Date)
  | moment (value : Moment)
  | clock (value : ClockTime)
  | span (value : Span)
  /-- A member of an enumeration that is neither a number nor a text.  Its name is asked for
  twice: first it is `told` to someone, then it is the `name`. -/
  | member (identity : Nat) (class_ : String) (told : Except Failure String)
      (name : Except Failure Value) (value : Value)
  /-- A member of an enumeration of integers. -/
  | intMember (class_ : String) (name : Option String) (value : Int)
  /-- A member of an enumeration of texts. -/
  | textMember (class_ name value : String)
  | function (identity : Nat)
  /-- A class. -/
  | class_ (name : String)
  /-- An object of a foreign class, and the scalar that it is, if its class is derived from a kind
  of scalars. -/
  | object (identity : Nat) (class_ : String) (attributes : List (String × Value))
      (refusals : List (String × Failure)) (hooks : List (Hook × Except Failure Value))
      (comparisons : List (Comparing × (Sight → Except Failure Value))) (scalar : Option Scalar)
  | element (place : Markup.Place)

namespace Value

instance : Inhabited Value := ⟨missing⟩

/-! ## Kinds -/

/-- Whether the value counts as no value. -/
def isMissing : Value → Bool
  | missing | none => true
  | _ => false

/-- Whether the value is the one that stands for no value. -/
def isAbsent : Value → Bool
  | missing => true
  | _ => false

/-- Whether the value is an object of a foreign class. -/
def isForeign : Value → Bool
  | object .. => true
  | _ => false

/-- The value that a scalar is. -/
def ofScalar : Scalar → Value
  | .bool value => bool value
  | .int value => int value
  | .floating value => floating value
  | .text value => text value
  | .decimal value => decimal value
  | .fraction value => fraction value
  | .date value => date value
  | .moment value => moment value
  | .clock value => clock value
  | .span value => span value
  | .intMember cls name value => intMember cls name value
  | .textMember cls name value => textMember cls name value

/-- The scalar that a value is, if it is one. -/
def scalar? : Value → Option Scalar
  | bool value => some (.bool value)
  | int value => some (.int value)
  | floating value => some (.floating value)
  | text value => some (.text value)
  | decimal value => some (.decimal value)
  | fraction value => some (.fraction value)
  | date value => some (.date value)
  | moment value => some (.moment value)
  | clock value => some (.clock value)
  | span value => some (.span value)
  | intMember cls name value => some (.intMember cls name value)
  | textMember cls name value => some (.textMember cls name value)
  | object _ _ _ _ _ _ scalar => scalar
  | _ => Option.none

/-- The value without what the class of an object adds to a scalar. -/
def core : Value → Value
  | object _ _ _ _ _ _ (some scalar) => ofScalar scalar
  | value => value

/-- Whether the value has no parts that a path could name. -/
def isPrimitive (value : Value) : Bool :=
  match value.core with
  | text _ | bytes _ | bool _ | int _ | floating _ | complex _ _ | decimal _ | fraction _ => true
  | intMember _ _ _ | textMember _ _ _ => true
  | _ => false

/-- The name of a value's class in messages. -/
def kind : Value → String
  | missing => "_MissingType"
  | none => "NoneType"
  | bool _ => "bool"
  | int _ => "int"
  | floating _ => "float"
  | text _ => "str"
  | bytes _ => "bytes"
  | decimal _ => "Decimal"
  | fraction _ => "Fraction"
  | complex _ _ => "complex"
  | list _ _ => "list"
  | tuple _ _ => "tuple"
  | set _ _ => "set"
  | mapping _ _ => "dict"
  | range _ _ _ => "range"
  | date _ => "date"
  | moment _ => "datetime"
  | clock _ => "time"
  | span _ => "timedelta"
  | member _ cls _ _ _ | intMember cls _ _ | textMember cls _ _ => cls
  | function _ => "function"
  | class_ _ => "type"
  | object _ cls _ _ _ _ _ => cls
  | element _ => "Tag"

/-- The identity of a value; `0` if it has none. -/
def identity : Value → Nat
  | list identity _ | tuple identity _ | set identity _ | mapping identity _ => identity
  | member identity _ _ _ _ | function identity | object identity _ _ _ _ _ _ => identity
  | _ => 0

/-- What the value shows to an object that is compared with it. -/
def sight (value : Value) : Sight := ⟨value.identity, value.kind, value.scalar?⟩

/-- What the object decides about an operation, if it does. -/
def hook? (value : Value) (hook : Hook) : Option (Except Failure Value) :=
  match value with
  | object _ _ _ _ hooks _ _ => hooks.lookup hook
  | _ => Option.none

/-- What the object decides about itself and another value, if it does. -/
def verdict? (value : Value) (comparing : Comparing) (other : Value) :
    Option (Except Failure Value) :=
  match value with
  | object _ _ _ _ _ comparisons _ =>
    (comparisons.lookup comparing).map fun verdict => verdict other.sight
  | _ => Option.none

/-- Whether the value is an object that decides about some comparison. -/
def decides : Value → Bool
  | object _ _ _ _ _ comparisons _ => !comparisons.isEmpty
  | _ => false

theorem verdict?_eq_none {value : Value} (h : value.decides = false) (comparing : Comparing)
    (other : Value) : value.verdict? comparing other = Option.none := by
  cases value with
  | object identity cls attributes refusals hooks comparisons scalar =>
    have hnone : comparisons = [] := by simpa [decides] using h
    rw [verdict?, hnone]
    rfl
  | _ => rfl

/-- Whether the value can be called. -/
def isCallable (value : Value) : Bool :=
  match value with
  | function _ | class_ _ | element _ => true
  | object .. => (value.hook? .call).isSome
  | _ => false

/-- The text that a value is, if it is one. -/
def text? (value : Value) : Option String :=
  match value.core with
  | text value | textMember _ _ value => some value
  | _ => Option.none

/-- A name as a value. -/
def ofName? (name : Option String) : Value := name.elim none text

/-- The member of an enumeration that goes by this name. -/
def named (identity : Nat) (cls : String) (name : Option String) (value : Value) : Value :=
  member identity cls (.ok (name.getD "None")) (.ok (ofName? name)) value

/-- Whether the value is one of the two truth values. -/
def isBool : Value → Bool
  | bool _ => true
  | _ => false

/-! ## Numbers -/

/-- The integer that a value is, if it is one; truth values are `0` and `1`. -/
def int? (value : Value) : Option Int :=
  match value.core with
  | bool value => some (if value then 1 else 0)
  | int value | intMember _ _ value => some value
  | _ => Option.none

/-- The real number that a value is, if it is one. -/
def quantity? (value : Value) : Option Quantity :=
  match value.core with
  | floating value => some value.quantity
  | decimal value => some value.quantity
  | fraction value => some (.exact value)
  | _ => value.int?.map fun n => .exact n

/-- Whether the value is a number, but not a number. -/
def isUndefined (value : Value) : Bool := value.scalar?.any Scalar.isUndefined

/-! ## Lengths and truth -/

/-- The number of integers from `start` on, in steps, before `stop`. -/
def rangeLength (start stop step : Int) : Nat :=
  if 0 < step then ((stop - start + step - 1).fdiv step).toNat
  else ((start - stop - step - 1).fdiv (-step)).toNat

/-- The greatest length. -/
def greatestLength : Int := 0x7fffffffffffffff

/-- The length of a range as a sequence. -/
def rangeSize (start stop step : Int) : Except Failure Nat :=
  let length := rangeLength start stop step
  if greatestLength < length then .error .rangeTooLong else .ok length

/-- The integer that a value can stand for. -/
def asInteger (value : Value) : Except Failure Int :=
  match value.int? with
  | some n => .ok n
  | Option.none =>
    match value.hook? .index with
    | some (.ok answer) =>
      match answer.int? with
      | some n => .ok n
      | Option.none => .error (.notInteger answer.kind)
    | some (.error failure) => .error failure
    | Option.none => .error (.notInteger value.kind)

/-- The length that an object claims. -/
def claimedLength (claim : Except Failure Value) : Except Failure Nat := do
  let length ← (← claim).asInteger
  if length < 0 then .error .negativeLength
  else if greatestLength < length then .error .lengthTooLarge
  else .ok length.toNat

/-- The length of a value, if it has one. -/
def length? (value : Value) : Option (Except Failure Nat) :=
  match value.hook? .length with
  | some claim => some (claimedLength claim)
  | Option.none =>
    match value.core with
    | text s | textMember _ _ s => some (.ok s.length)
    | bytes octets => some (.ok octets.length)
    | list _ items | tuple _ items | set _ items => some (.ok items.length)
    | mapping _ entries => some (.ok entries.length)
    | range start stop step => some (rangeSize start stop step)
    | element place => some (.ok place.children.length)
    | _ => Option.none

/-- Whether a value counts as true, as far as its kind goes. -/
def plainTruth (value : Value) : Except Failure Bool :=
  match value.core with
  | missing | none => .ok false
  | bool b => .ok b
  | int n | intMember _ _ n => .ok (n != 0)
  | floating x => .ok x.isNonzero
  | decimal x => .ok x.isNonzero
  | fraction x => .ok (x != 0)
  | complex x y => .ok (x.isNonzero || y.isNonzero)
  | span s => .ok (s.microseconds != 0)
  | range start stop step => .ok (rangeLength start stop step != 0)
  | element _ => .ok true
  | _ =>
    match value.length? with
    | some length => length.map (· != 0)
    | Option.none => .ok true

/-- Whether a value counts as true. -/
def truth (value : Value) : Except Failure Bool :=
  match value.hook? .truth with
  | some claim =>
    claim.bind fun answer =>
      match answer with
      | bool b => .ok b
      | _ => .error (.notTruth answer.kind)
  | Option.none => value.plainTruth

/-- Whether the value is a decimal number whose class has a say in whether it is a number. -/
def disputes (value : Value) : Bool :=
  (value.hook? .undefined).isSome && value.scalar?.any Scalar.isDecimal

/-- Whether the value is taken for a number that is not a number. -/
def undefined? (value : Value) : Except Failure Bool :=
  match value.hook? .undefined with
  | some answer =>
    if value.scalar?.any Scalar.isDecimal then answer.bind truth else .ok value.isUndefined
  | Option.none => .ok value.isUndefined

theorem undefined?_of_disputes {value : Value} (h : value.disputes = false) :
    value.undefined? = .ok value.isUndefined := by
  unfold disputes at h
  unfold undefined?
  cases hhook : value.hook? .undefined with
  | none => rfl
  | some answer =>
    rw [hhook] at h
    exact if_neg (by simpa using h)

end Value

end Collate

import Collate.Calendar
import Collate.Number.Decimal

/-!
# Scalars

Numbers, texts, dates, times and spans are ordered as they are.  A class may be
derived from one of these kinds; its objects are scalars as well, and decide some
operations for themselves.

What an object is asked about itself alone is a `Hook`, and what it is asked about
itself and another value is a `Comparing`.  Of the other value it sees the identity,
the class and the scalar, if there is one (`Sight`).
-/

namespace Collate

/-- A value of a kind that is ordered as it is. -/
inductive Scalar where
  | bool (value : Bool)
  | int (value : Int)
  | floating (value : Floating)
  | text (value : String)
  | decimal (value : Decimal)
  | fraction (value : Rat)
  | date (value : Date)
  | moment (value : Moment)
  | clock (value : ClockTime)
  | span (value : Span)
  /-- A member of an enumeration of integers. -/
  | intMember (class_ : String) (name : Option String) (value : Int)
  /-- A member of an enumeration of texts. -/
  | textMember (class_ name value : String)

namespace Scalar

/-- Whether the scalar is a number, but not a number. -/
def isUndefined : Scalar → Bool
  | floating .undefined => true
  | decimal value => value.isUndefined
  | _ => false

/-- Whether the scalar is a decimal number. -/
def isDecimal : Scalar → Bool
  | decimal _ => true
  | _ => false

/-- The place of a kind of numbers in their row: a number can tell whether it is equal to one of
its own kind or of a kind before it. -/
def rank? : Scalar → Option Nat
  | bool _ | int _ | intMember _ _ _ => some 0
  | floating _ => some 1
  | fraction _ => some 2
  | decimal _ => some 3
  | _ => none

/-- Whether the first scalar can tell by itself whether it is equal to the second. -/
def knows : Scalar → Scalar → Bool
  | text _, text _ | text _, textMember _ _ _ => true
  | textMember _ _ _, text _ | textMember _ _ _, textMember _ _ _ => true
  | date _, date _ | moment _, moment _ | clock _, clock _ | span _, span _ => true
  | a, b =>
    match a.rank?, b.rank? with
    | some m, some n => n ≤ m
    | _, _ => false

/-- Whether a class that is derived from the kind of the second scalar is also derived from the
kind of the first. -/
def embraces : Scalar → Scalar → Bool
  | int _, int _ | int _, intMember _ _ _ | floating _, floating _ => true
  | decimal _, decimal _ | fraction _, fraction _ => true
  | text _, text _ | text _, textMember _ _ _ => true
  | date _, date _ | date _, moment _ | moment _, moment _ => true
  | clock _, clock _ | span _, span _ => true
  | _, _ => false

end Scalar

/-- What an object may decide for itself. -/
inductive Hook where
  | length
  | call
  | floating
  | integer
  | index
  | truth
  /-- Whether a decimal number is not a number. -/
  | undefined
  deriving DecidableEq

namespace Hook

/-- The name under which the class of an object declares a hook. -/
def name : Hook → String
  | length => "__len__"
  | call => "__call__"
  | floating => "__float__"
  | integer => "__int__"
  | index => "__index__"
  | truth => "__bool__"
  | undefined => "is_nan"

/-- All hooks. -/
def all : List Hook := [length, call, floating, integer, index, truth, undefined]

/-- The hook of this name. -/
def ofName? (text : String) : Option Hook := all.find? fun hook => hook.name == text

end Hook

/-- What an object may decide for itself about another value. -/
inductive Comparing where
  | equal
  | less
  | greater
  deriving DecidableEq

namespace Comparing

/-- The name under which the class of an object declares a comparison. -/
def name : Comparing → String
  | equal => "__eq__"
  | less => "__lt__"
  | greater => "__gt__"

/-- The comparison of this name. -/
def ofName? (text : String) : Option Comparing :=
  [equal, less, greater].find? fun comparing => comparing.name == text

end Comparing

/-- What a value shows to an object that is compared with it. -/
structure Sight where
  /-- The identity of the value; `0` if it has none. -/
  identity : Nat
  /-- The name of its class. -/
  kind : String
  /-- The scalar that it is. -/
  scalar : Option Scalar

end Collate

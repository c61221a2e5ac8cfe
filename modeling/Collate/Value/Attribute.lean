import Collate.Value.Basic

/-!
# Attributes of values

A value has attributes by its kind: its parts, such as the year of a date, and its
methods.  An object has the attributes that it was given, unless it refuses them,
the hooks of its class, and what the scalar has that it is, if it is one.  Whatever
else is asked for is missing.

The documentation that comes with every kind of value is no data and is left out.
-/

namespace Collate.Value

/-! ## Methods -/

/-- The methods of every value. -/
def commonMethods : List String :=
  ["__delattr__", "__dir__", "__eq__", "__format__", "__ge__", "__getattribute__",
    "__getstate__", "__gt__", "__init__", "__init_subclass__", "__le__", "__lt__", "__ne__",
    "__new__", "__reduce__", "__reduce_ex__", "__repr__", "__setattr__", "__sizeof__",
    "__str__", "__subclasshook__"]

/-- The methods of every number. -/
def numberMethods : List String :=
  ["__abs__", "__add__", "__bool__", "__hash__", "__mul__", "__neg__", "__pos__", "__pow__",
    "__radd__", "__rmul__", "__rpow__", "__rsub__", "__rtruediv__", "__sub__", "__truediv__",
    "conjugate"]

/-- The further methods of numbers on the real line. -/
def realMethods : List String :=
  ["__ceil__", "__divmod__", "__float__", "__floor__", "__floordiv__", "__int__", "__mod__",
    "__rdivmod__", "__rfloordiv__", "__rmod__", "__round__", "__trunc__", "as_integer_ratio"]

/-- The further methods of integers. -/
def integerMethods : List String :=
  ["__and__", "__getnewargs__", "__index__", "__invert__", "__lshift__", "__or__", "__rand__",
    "__rlshift__", "__ror__", "__rrshift__", "__rshift__", "__rxor__", "__xor__", "bit_count",
    "bit_length", "from_bytes", "to_bytes"]

/-- The further methods of floating numbers. -/
def floatingMethods : List String :=
  ["__getformat__", "__getnewargs__", "fromhex", "hex", "is_integer"]

/-- The further methods of decimal numbers. -/
def decimalMethods : List String :=
  ["__complex__", "__copy__", "__deepcopy__", "adjusted", "as_tuple", "canonical", "compare",
    "compare_signal", "compare_total", "compare_total_mag", "copy_abs", "copy_negate",
    "copy_sign", "exp", "fma", "from_float", "is_canonical", "is_finite", "is_infinite",
    "is_nan", "is_normal", "is_qnan", "is_signed", "is_snan", "is_subnormal", "is_zero", "ln",
    "log10", "logb", "logical_and", "logical_invert", "logical_or", "logical_xor", "max",
    "max_mag", "min", "min_mag", "next_minus", "next_plus", "next_toward", "normalize",
    "number_class", "quantize", "radix", "remainder_near", "rotate", "same_quantum", "scaleb",
    "shift", "sqrt", "to_eng_string", "to_integral", "to_integral_exact", "to_integral_value"]

/-- The further methods of fractions. -/
def fractionMethods : List String :=
  ["__complex__", "__copy__", "__deepcopy__", "_add", "_div", "_divmod", "_floordiv", "_mod",
    "_mul", "_operator_fallbacks", "_richcmp", "_sub", "from_decimal", "from_float",
    "limit_denominator"]

/-- The further methods of complex numbers. -/
def complexMethods : List String := ["__complex__", "__getnewargs__"]

/-- The methods of every sequence that holds its items. -/
def sequenceMethods : List String :=
  ["__add__", "__contains__", "__getitem__", "__iter__", "__len__", "__mul__", "__rmul__",
    "count", "index"]

/-- The further methods of texts and of octets. -/
def characterMethods : List String :=
  ["__getnewargs__", "__hash__", "__mod__", "__rmod__", "capitalize", "center", "endswith",
    "expandtabs", "find", "isalnum", "isalpha", "isascii", "isdigit", "islower", "isspace",
    "istitle", "isupper", "join", "ljust", "lower", "lstrip", "maketrans", "partition",
    "removeprefix", "removesuffix", "replace", "rfind", "rindex", "rjust", "rpartition",
    "rsplit", "rstrip", "split", "splitlines", "startswith", "strip", "swapcase", "title",
    "translate", "upper", "zfill"]

/-- The further methods of texts. -/
def textMethods : List String :=
  ["casefold", "encode", "format", "format_map", "isdecimal", "isidentifier", "isnumeric",
    "isprintable"]

/-- The further methods of octets. -/
def bytesMethods : List String := ["__bytes__", "decode", "fromhex", "hex"]

/-- The further methods of lists. -/
def listMethods : List String :=
  ["__class_getitem__", "__delitem__", "__iadd__", "__imul__", "__reversed__", "__setitem__",
    "append", "clear", "copy", "extend", "insert", "pop", "remove", "reverse", "sort"]

/-- The further methods of tuples. -/
def tupleMethods : List String := ["__class_getitem__", "__getnewargs__", "__hash__"]

/-- The methods of sets. -/
def setMethods : List String :=
  ["__and__", "__class_getitem__", "__contains__", "__iand__", "__ior__", "__isub__",
    "__iter__", "__ixor__", "__len__", "__or__", "__rand__", "__ror__", "__rsub__", "__rxor__",
    "__sub__", "__xor__", "add", "clear", "copy", "difference", "difference_update", "discard",
    "intersection", "intersection_update", "isdisjoint", "issubset", "issuperset", "pop",
    "remove", "symmetric_difference", "symmetric_difference_update", "union", "update"]

/-- The methods of ranges. -/
def rangeMethods : List String :=
  ["__bool__", "__contains__", "__getitem__", "__hash__", "__iter__", "__len__", "__reversed__",
    "count", "index"]

/-- The methods of dates. -/
def dateMethods : List String :=
  ["__add__", "__hash__", "__radd__", "__rsub__", "__sub__", "ctime", "fromisocalendar",
    "fromisoformat", "fromordinal", "fromtimestamp", "isocalendar", "isoformat", "isoweekday",
    "replace", "strftime", "timetuple", "today", "toordinal", "weekday"]

/-- The further methods of moments, which are dates as well. -/
def momentMethods : List String :=
  ["astimezone", "combine", "date", "dst", "now", "strptime", "time", "timestamp", "timetz",
    "tzname", "utcfromtimestamp", "utcnow", "utcoffset", "utctimetuple"]

/-- The methods of times of day. -/
def clockMethods : List String :=
  ["__hash__", "dst", "fromisoformat", "isoformat", "replace", "strftime", "tzname", "utcoffset"]

/-- The methods of spans. -/
def spanMethods : List String :=
  ["__abs__", "__add__", "__bool__", "__divmod__", "__floordiv__", "__hash__", "__mod__",
    "__mul__", "__neg__", "__pos__", "__radd__", "__rdivmod__", "__rfloordiv__", "__rmod__",
    "__rmul__", "__rsub__", "__rtruediv__", "__sub__", "__truediv__", "total_seconds"]

/-- The names of the methods that a value has by its kind, beside those of every value. -/
def methods : Value → List String
  | none => ["__bool__", "__hash__"]
  | bool _ | int _ | intMember _ _ _ => numberMethods ++ realMethods ++ integerMethods
  | floating _ => numberMethods ++ realMethods ++ floatingMethods
  | decimal _ => numberMethods ++ realMethods ++ decimalMethods
  | fraction _ => numberMethods ++ realMethods ++ fractionMethods
  | complex _ _ => numberMethods ++ complexMethods
  | text _ | textMember _ _ _ => sequenceMethods ++ characterMethods ++ textMethods
  | bytes _ => sequenceMethods ++ characterMethods ++ bytesMethods
  | list _ _ => sequenceMethods ++ listMethods
  | tuple _ _ => sequenceMethods ++ tupleMethods
  | set _ _ => setMethods
  | range _ _ _ => rangeMethods
  | date _ => dateMethods
  | moment _ => dateMethods ++ momentMethods
  | clock _ => clockMethods
  | span _ => spanMethods
  | _ => []

/-- The attributes that a value of any class has. -/
def commonAttribute (cls name : String) : Value :=
  if name = "__class__" then class_ cls
  else if name ∈ commonMethods then function 0 else missing

/-! ## Parts -/

/-- The parts of an integer. -/
def integerParts (n : Int) : List (String × Value) :=
  [("real", int n), ("imag", int 0), ("numerator", int n), ("denominator", int 1)]

/-- The parts of a date. -/
def dateParts (date : Date) : List (String × Value) :=
  [("year", int date.year), ("month", int date.month), ("day", int date.day)]

/-- The parts of a time of day. -/
def clockParts (time : ClockTime) : List (String × Value) :=
  [("hour", int time.hour), ("minute", int time.minute), ("second", int time.second),
    ("microsecond", int time.microsecond), ("fold", int 0)]

/-- The name and the value of a member of an enumeration. -/
def memberParts (own value : Value) : List (String × Value) := [("name", own), ("value", value)]

/-- The least and the greatest value of a kind, and the distance between two of them. -/
def boundaries (least greatest distance : Value) : List (String × Value) :=
  [("min", least), ("max", greatest), ("resolution", distance)]

/-- The first and the last day of the calendar. -/
def calendarEnds : Date × Date := (⟨1, 1, 1⟩, ⟨9999, 12, 31⟩)

/-- The first and the last moment of a day. -/
def dayEnds : ClockTime × ClockTime := (⟨0, 0, 0, 0⟩, ⟨23, 59, 59, 999999⟩)

/-- The greatest number of days in a span. -/
def greatestDays : Int := 999999999

/-- The zone of a moment; one that knows its offset has one. -/
def zone (moment : Moment) : Value :=
  if moment.offset.isSome then object 0 "timezone" [] [] [] [] Option.none else none

/-- The parts of a value by their names. -/
def parts : Value → List (String × Value)
  | bool b => integerParts (if b then 1 else 0)
  | int n => integerParts n
  | floating x => [("real", floating x), ("imag", floating (Floating.zeroOf false))]
  | complex x y => [("real", floating x), ("imag", floating y)]
  | decimal x =>
    [("real", decimal x), ("imag", decimal (.finite false 0 0)), ("__module__", text "decimal")]
  | fraction x =>
    [("numerator", int x.num), ("denominator", int x.den), ("_numerator", int x.num),
      ("_denominator", int x.den), ("real", fraction x), ("imag", int 0),
      ("__module__", text "fractions")]
  | range start stop step => [("start", int start), ("stop", int stop), ("step", int step)]
  | list _ _ | set _ _ => [("__hash__", none)]
  | date d =>
    dateParts d ++
      boundaries (date calendarEnds.1) (date calendarEnds.2) (span ⟨Span.dayLength⟩)
  | moment m =>
    ("tzinfo", zone m) :: dateParts m.date ++ clockParts m.time ++
      boundaries (moment ⟨calendarEnds.1, dayEnds.1, Option.none⟩)
        (moment ⟨calendarEnds.2, dayEnds.2, Option.none⟩) (span ⟨1⟩)
  | clock t =>
    ("tzinfo", none) :: clockParts t ++
      boundaries (clock dayEnds.1) (clock dayEnds.2) (span ⟨1⟩)
  | span s =>
    [("days", int s.days), ("seconds", int s.seconds),
      ("microseconds", int s.restMicroseconds)] ++
      boundaries (span (.ofParts (-greatestDays) 0 0)) (span (.ofParts greatestDays 86399 999999))
        (span ⟨1⟩)
  | intMember _ own n => memberParts (ofName? own) (int n) ++ integerParts n
  | textMember _ own s => memberParts (text own) (text s)
  | _ => []

/-! ## Attributes -/

/-- An attribute that a value has by its kind. -/
def ownAttribute (value : Value) (name : String) : Value :=
  (value.parts.lookup name).getD
    (if name ∈ value.methods then function 0 else commonAttribute value.kind name)

/-- What the class of an object gives it, where `core` is the object without its class.  A class
that decides about equality takes away its hashing. -/
def objectMethod (cls : String) (hooks : List (Hook × Except Failure Value))
    (comparisons : List (Comparing × (Sight → Except Failure Value))) (core : Option Value)
    (name : String) : Value :=
  if (hooks.any fun hook => hook.1.name == name) ||
      comparisons.any fun comparison => comparison.1.name == name then function 0
  else if name = "__hash__" then
    if comparisons.any fun comparison => comparison.1 == .equal then none else function 0
  else if name = "__doc__" ∨ name = "__weakref__" then none
  else if name = "__class__" then class_ cls
  else (core.map fun core => core.ownAttribute name).getD (commonAttribute cls name)

/-- What is asked for; a failure that says it is not there is none. -/
def orMissing : Except Failure Value → Except Failure Value
  | .error failure => if failure.isAbsence then .ok missing else .error failure
  | found => found

/-- The attribute of a value. -/
def attributeOf (value : Value) (name : String) : Except Failure Value :=
  match value with
  | object _ cls attributes refusals hooks comparisons scalar =>
    match refusals.lookup name with
    | some failure => orMissing (.error failure)
    | Option.none =>
      let own := ("__dict__", mapping 0 attributes) :: attributes
      .ok ((own.lookup name).getD
        (objectMethod cls hooks comparisons (scalar.map ofScalar) name))
  | member _ _ _ own inner =>
    if name = "name" then orMissing own
    else if name = "value" then .ok inner
    else .ok (value.ownAttribute name)
  | _ => .ok (value.ownAttribute name)

end Collate.Value

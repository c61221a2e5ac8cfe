import Collate.Notice
import Collate.Value.Basic

/-!
# Normal form of values

Values are ordered in their normal form: a number, a text, a truth value, or a
date, time or span, but never something that is not a number.

What is none of these is represented by something that is.  Collections, and
objects with a length, are ordered by their length; members of enumerations by
their name; what can be called by its presence; and an object that converts to a
number by that number.  The two substitutions that lose most leave a notice, and
so does a value with no normal form.

An enumeration that names its members by itself may give them any names; they are
taken as they are.

## Strategy

`normalize` tries these in turn and comes to a `Finding`: a value or a failure, and
the notice that was left before.  `Value.isNormal` describes the values that have
nothing left to do: `normalize` leaves them as they are.
-/

namespace Collate

/-- What reading a value comes to. -/
structure Finding where
  /-- The value, unless reading it fails. -/
  outcome : Except Failure Value
  /-- What is told before the outcome is known. -/
  notice : Option Notice := none

namespace Finding

/-- A value without a notice. -/
def found (value : Value) : Finding := { outcome := .ok value }

/-- No value, and why. -/
def missed (notice : Notice) : Finding := { outcome := .ok .missing, notice }

/-- What a step leads to, unless it fails. -/
def after {α : Type} (step : Except Failure α) (next : α → Finding) : Finding :=
  match step with
  | .ok result => next result
  | .error failure => { outcome := .error failure }

@[simp] theorem outcome_found (value : Value) : (found value).outcome = .ok value := rfl

@[simp] theorem outcome_missed (notice : Notice) : (missed notice).outcome = .ok .missing := rfl

@[simp] theorem outcome_after {α : Type} (step : Except Failure α) (next : α → Finding) :
    (after step next).outcome = step.bind fun result => (next result).outcome := by
  cases step <;> rfl

/-- What a value is found after is a step that did not fail. -/
theorem exists_of_after_eq_ok {α : Type} {step : Except Failure α} {next : α → Finding}
    {value : Value} {notice : Option Notice}
    (h : after step next = { outcome := .ok value, notice }) :
    ∃ result, step = .ok result ∧ next result = { outcome := .ok value, notice } := by
  cases step with
  | error failure => cases h
  | ok result => exact ⟨result, rfl, h⟩

end Finding

namespace Value

/-- Whether a value can be ordered as it is. -/
def isOrdered (value : Value) : Bool := value.scalar?.isSome

/-- Whether a value is in normal form. -/
def isNormal (value : Value) : Bool :=
  value.isMissing || (value.isOrdered && value.undefined? matches .ok false)

/-! ## Conversion to a number -/

/-- What an object says it is as an integer. -/
def claimedInteger (value : Value) : Except Failure Value :=
  match value.hook? .integer with
  | some claim =>
    claim.bind fun answer =>
      match answer.int? with
      | some n => .ok (int n)
      | Option.none => .error (.notInteger answer.kind)
  | Option.none => value.asInteger.map int

/-- What an object says it is as a floating number. -/
def claimedFloating (claim : Except Failure Value) : Except Failure Value :=
  claim.bind fun answer =>
    match answer.core with
    | floating x => .ok (floating x)
    | _ => .error (.unusable answer.kind "a floating number")

/-- The ways in which an object converts to a number, in order of preference. -/
def conversions (value : Value) : List (Except Failure Value) :=
  ((value.hook? .index).map fun _ => value.claimedInteger).toList ++
    ((value.hook? .floating).map claimedFloating).toList ++
    ((value.hook? .integer).map fun _ => value.claimedInteger).toList

/-- The first conversion that is not refused. -/
def firstAccepted : List (Except Failure Value) → Except Failure Value
  | [] => .ok missing
  | .ok number :: _ => .ok number
  | .error failure :: rest =>
    if failure.refusesConversion then firstAccepted rest else .error failure

/-! ## Normal form -/

/-- The length by which a value is ordered, if it has one. -/
def orderingLength? (value : Value) : Except Failure (Option Nat) :=
  match value with
  | object _ _ _ refusals _ _ _ =>
    match refusals.lookup Hook.length.name with
    | some failure => if failure.isAbsence then .ok Option.none else .error failure
    | Option.none => claimed
  | _ => claimed
where
  /-- The claimed length, unless the claim is of no use. -/
  claimed : Except Failure (Option Nat) :=
    match value.length? with
    | Option.none => .ok Option.none
    | some (.ok n) => .ok (some n)
    | some (.error failure) =>
      if failure.isUnorderable then .ok Option.none else .error failure

/-- The normal form of a value that is neither ordered nor a member of an
enumeration nor has a length. -/
def normalizeObject (value : Value) : Finding :=
  if value.isCallable then { outcome := .ok (bool true), notice := some .orderedByPresence }
  else
    .after (firstAccepted value.conversions) fun number =>
      if number.isAbsent then .missed (.unorderable value.kind)
      else if number.isUndefined then .found missing
      else .found number

/-- The normal form of a value, and a notice if it is not the value itself that
is ordered. -/
def normalize (value : Value) : Finding :=
  if value.isMissing then .found value
  else
    .after value.undefined? fun undefined =>
      if undefined then .found missing
      else if value.isOrdered then .found value
      else
        match value with
        | member _ _ told name _ =>
          .after told fun told => { outcome := name, notice := some (.orderedByName told) }
        | _ =>
          .after value.orderingLength? fun length =>
            match length with
            | some n => .found (int n)
            | Option.none => value.normalizeObject

theorem normalize_of_isNormal {value : Value} (h : value.isNormal = true) :
    value.normalize = .found value := by
  simp only [isNormal, Bool.or_eq_true, Bool.and_eq_true] at h
  unfold normalize
  rcases h with hmissing | ⟨hordered, hundefined⟩
  · simp [hmissing]
  · have hdefined : value.undefined? = .ok false := by
      split at hundefined <;> simp_all
    simp only [hdefined, hordered, Finding.after]
    split <;> simp

end Value

end Collate

import Collate.Selector.Basic

/-!
# Named tests

Some tests go by a name alone.  A few of them are positions, such as `first-child`;
others abbreviate a longer selector, such as `checked`.  Still others ask about
things that only happen while a document is shown; no element of a document at rest
passes those.
-/

namespace Collate.Selector

/-! ## Building blocks -/

/-- A position that is a single place. -/
def placeAt (place : Int) (sameName fromEnd : Bool) : Test :=
  .nth { step := place, offset := 0, repeats := false, sameName, fromEnd } []

/-- All of some tests as one. -/
def allOf (tests : List Test) : Test := .some_ [.ends tests]

/-- Elements with one of these names. -/
def named (names : List String) : Test := .some_ (names.map fun name => .ends [.tag none name])

/-- Elements without this attribute. -/
def without (name : String) : Test := .none_ [.ends [.withAttribute name none]]

/-- The type of an element, without regard to case. -/
def ofType (type : String) : Test :=
  .withAttribute "type" (some { operator := .equal, value := type.toList, ignoresCase := true })

/-- Inputs that are not hidden. -/
def shownInput : List Test := [.tag none "input", .none_ [.ends [ofType "hidden"]]]

/-- Elements in which a user can enter something, with others of these names. -/
def control (others : List String) : Test :=
  .some_ (.ends shownInput :: others.map fun name => .ends [.tag none name])

/-! ## Abbreviations -/

/-- Links that lead somewhere. -/
def link : Test := allOf [named ["a", "area"], .withAttribute "href" none]

/-- Boxes that are ticked and options that are chosen. -/
def checked : Test :=
  .some_
    [.ends
      [.some_
        [.ends [.tag none "input", ofType "checkbox"], .ends [.tag none "input", ofType "radio"]],
        .withAttribute "checked" none],
     .ends [.tag none "option", .withAttribute "selected" none]]

/-- Elements that can be required. -/
def requirable : Test := named ["input", "select", "textarea"]

/-- Elements that can be disabled. -/
def disableable : Test :=
  control ["button", "select", "textarea", "fieldset", "optgroup", "option"]

/-- Elements that are disabled, by themselves or by what is around them. -/
def disabled : Test :=
  let fieldset : List Test := [.tag none "fieldset", .withAttribute "disabled" none]
  let inFieldset := control ["button", "select", "textarea", "fieldset"]
  let firstLegend : Chain := .ends [.tag none "legend", placeAt 1 true false]
  .some_
    [.ends [disableable, .withAttribute "disabled" none],
     .linked [.tag none "option"] .parent
       (.ends [.tag none "optgroup", .withAttribute "disabled" none]),
     .linked [inFieldset] .parent (.ends fieldset),
     .linked [inFieldset] .ancestor (.linked [.none_ [firstLegend]] .parent (.ends fieldset))]

/-- Elements that can be disabled and are not. -/
def enabled : Test := allOf [disableable, .none_ [.ends [disabled]]]

/-! ## Names -/

/-- The names of tests that no element of a document at rest passes. -/
def restless : List String :=
  ["active", "autofill", "current", "focus", "focus-visible", "focus-within", "future", "host",
   "hover", "local-link", "past", "paused", "playing", "target", "target-within",
   "user-invalid", "visited"]

/-- The test of this name. -/
def ofName? (name : String) : Option Test :=
  match name with
  | "root" => some .root
  | "scope" => some .scope
  | "empty" => some .empty
  | "first-child" => some (placeAt 1 false false)
  | "last-child" => some (placeAt 1 false true)
  | "only-child" => some (allOf [placeAt 1 false false, placeAt 1 false true])
  | "first-of-type" => some (placeAt 1 true false)
  | "last-of-type" => some (placeAt 1 true true)
  | "only-of-type" => some (allOf [placeAt 1 true false, placeAt 1 true true])
  | "link" | "any-link" => some link
  | "checked" => some checked
  | "required" => some (allOf [requirable, .withAttribute "required" none])
  | "optional" => some (allOf [requirable, without "required"])
  | "disabled" => some disabled
  | "enabled" => some enabled
  | other => if restless.contains other then some .never else none

end Collate.Selector

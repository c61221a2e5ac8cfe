import Collate.Selector.Named
import Collate.Selector.Token

/-!
# Reading selectors

The words of a selector are read from left to right.  Alternatives are separated by
commas, and the elements of an alternative by combinators; every element has at
least one test, and the test of its name comes first.  Inside `:has` an alternative
looks ahead and may begin with a combinator.  Only `:is` and `:where` put up with an
alternative that is empty; it picks nothing.

## Strategy

A `Frame` is a list of alternatives in the making, and `Stack` holds the frames that
brackets have opened.  `Stack.add` takes in one word.
-/

namespace Collate.Selector

/-! ## Errors -/

/-- Why a text is no selector. -/
inductive Error where
  | malformed
  /-- It has a part, after so many characters, of a kind that is not supported. -/
  | unsupported (what : String) (position : Nat)
  deriving DecidableEq

/-- The wording of an error. -/
def Error.message : Error → String
  | malformed => "Malformed selector"
  | unsupported what position => what ++ " found at position " ++ toString position

/-! ## Frames -/

/-- What a list of alternatives is for. -/
inductive Purpose where
  | whole
  /-- One of the alternatives; the flag says that they may be empty. -/
  | oneOf (forgiving : Bool)
  | noneOf
  | ahead
  | among (position : Position)
  /-- For something that never is the case. -/
  | nothing

/-- Whether alternatives may be empty. -/
def Purpose.forgives : Purpose → Bool
  | oneOf forgiving => forgiving
  | _ => false

/-- Whether alternatives look ahead. -/
def Purpose.looksAhead : Purpose → Bool
  | ahead => true
  | _ => false

/-- A list of alternatives in the making. -/
structure Frame where
  purpose : Purpose
  /-- The alternatives that are complete. -/
  complete : List Chain := []
  /-- The tests of the present element. -/
  tests : List Test := []
  /-- What the present element looks back to. -/
  past : Option (Link × Chain) := none
  /-- When looking ahead, the elements before the present one. -/
  led : List (Link × List Test) := []
  /-- When looking ahead, the link to the present element. -/
  lead : Link := .descendant

/-- Elements that look back to others. -/
def chainBack (tests : List Test) : Option (Link × Chain) → Chain
  | none => .ends tests
  | some (link, next) => .linked tests link next

/-- Elements that look ahead, from an element with these tests. -/
def chainAhead (tests : List Test) : List (Link × List Test) → Chain
  | [] => .ends tests
  | (link, next) :: rest => .linked tests link (chainAhead next rest)

/-- The link that a combinator means when looking back. -/
def Combinator.back : Combinator → Link
  | inside => .ancestor
  | directlyInside => .parent
  | after => .earlierSibling
  | directlyAfter => .previousSibling

/-- The link that a combinator means when looking ahead. -/
def Combinator.ahead : Combinator → Link
  | inside => .descendant
  | directlyInside => .child
  | after => .laterSibling
  | directlyAfter => .nextSibling

namespace Frame

/-- The alternative that ends with the present element. -/
def chain (frame : Frame) : Chain :=
  if frame.purpose.looksAhead then chainAhead [] (frame.led ++ [(frame.lead, frame.tests)])
  else chainBack frame.tests frame.past

/-- The frame with one more complete alternative, about to begin another one. -/
def completed (frame : Frame) (chain : Chain) : Frame :=
  { purpose := frame.purpose, complete := frame.complete ++ [chain] }

/-- The frame with one more test of the present element. -/
def addTest (frame : Frame) (test : Test) : Frame := { frame with tests := frame.tests ++ [test] }

/-- Ends an alternative. -/
def comma (frame : Frame) : Except Error Frame :=
  if frame.tests.isEmpty then
    if frame.purpose.forgives then .ok (frame.completed (.ends [.never])) else .error .malformed
  else .ok (frame.completed frame.chain)

/-- Goes on to another element. -/
def combine (frame : Frame) (combinator : Combinator) : Except Error Frame :=
  if frame.purpose.looksAhead then
    if ¬ frame.tests.isEmpty then
      .ok { frame with
        led := frame.led ++ [(frame.lead, frame.tests)], tests := [], lead := combinator.ahead }
    else if frame.lead = .descendant then .ok { frame with lead := combinator.ahead }
    else .error .malformed
  else if frame.tests.isEmpty then .error .malformed
  else .ok { frame with past := some (combinator.back, frame.chain), tests := [] }

/-- All alternatives. -/
def alternatives (frame : Frame) : Except Error (List Chain) :=
  if ¬ frame.tests.isEmpty then .ok (frame.complete ++ [frame.chain])
  else if frame.purpose.forgives ∧ (frame.complete.isEmpty ∨ frame.past.isNone) then
    .ok (frame.complete ++ [.ends [.never]])
  else .error .malformed

/-- The test that the alternatives of a bracket make. -/
def test (frame : Frame) : Except Error Test :=
  frame.alternatives.map fun chains =>
    match frame.purpose with
    | .noneOf => .none_ chains
    | .among position => .nth position chains
    | .nothing => .never
    | .whole | .oneOf _ | .ahead => .some_ chains

end Frame

/-! ## The stack -/

/-- The frames that are open, the innermost one apart. -/
structure Stack where
  inner : Frame
  outer : List Frame

/-- What a bracket behind a name is for. -/
def bracketPurpose? (name : String) : Option Purpose :=
  match name with
  | "is" | "where" => some (.oneOf true)
  | "matches" | "contains" => some (.oneOf false)
  | "not" => some .noneOf
  | "has" => some .ahead
  | "current" | "host" | "host-context" => some .nothing
  | _ => none

namespace Stack

/-- Nothing read yet. -/
def empty : Stack := ⟨{ purpose := .whole }, []⟩

/-- Opens a bracket. -/
def opened (stack : Stack) (purpose : Purpose) : Stack :=
  ⟨{ purpose }, stack.inner :: stack.outer⟩

/-- Changes the innermost frame. -/
def within (stack : Stack) (change : Frame → Except Error Frame) : Except Error Stack :=
  (change stack.inner).map fun inner => { stack with inner }

/-- Adds a test. -/
def addTest (stack : Stack) (test : Test) : Except Error Stack :=
  stack.within fun frame => .ok (frame.addTest test)

/-- Closes the innermost bracket. -/
def closed (stack : Stack) : Except Error Stack :=
  match stack.outer with
  | [] => .error .malformed
  | frame :: outer => stack.inner.test.map fun test => ⟨frame.addTest test, outer⟩

/-- Takes in a word. -/
def add (stack : Stack) : Token → Except Error Stack
  | .test test => stack.addTest test
  | .tag test => if stack.inner.tests.isEmpty then stack.addTest test else .error .malformed
  | .pseudoClass name true =>
    match bracketPurpose? name with
    | some purpose => .ok (stack.opened purpose)
    | none => .error .malformed
  | .pseudoClass name false =>
    match ofName? name with
    | some test => stack.addTest test
    | none => .error .malformed
  | .nthAmong position => .ok (stack.opened (.among position))
  | .combinator combinator => stack.within fun frame => frame.combine combinator
  | .comma => stack.within Frame.comma
  | .close => stack.closed
  | .unsupported what position => .error (.unsupported what position)

end Stack

/-! ## Whole selectors -/

/-- The selector that a text denotes. -/
def read (text : String) : Except Error Selector := do
  let (tokens, complete) := tokensOf text
  let stack ← tokens.foldlM Stack.add Stack.empty
  if ¬ complete ∨ ¬ stack.outer.isEmpty then .error .malformed
  else stack.inner.alternatives.map Selector.mk

end Collate.Selector

/-!
# Patterns

A pattern describes the start of a text.  It is matched by trying: a run of characters is tried as
long as it gets, then one character shorter, and so on; what comes behind it decides which of these
tries becomes the match.

A text is cut by a pattern from left to right: the first match from where the last one ended,
whatever else might match inside of it.
-/

namespace Collate.Text

/-- A description of the start of a text. -/
inductive Pattern where
  /-- One character of a class. -/
  | one (inClass : Char → Bool)
  /-- A run of characters of a class, rather longer than shorter. -/
  | run (inClass : Char → Bool)
  /-- One pattern, and another one behind it. -/
  | andThen (first second : Pattern)
  /-- Nothing, where a pattern does not match. -/
  | notAt (pattern : Pattern)

namespace Pattern

/-- What a text leaves behind runs of a class at its start, the longest run first. -/
def behindRuns (inClass : Char → Bool) : List Char → List (List Char)
  | [] => [[]]
  | c :: rest => if inClass c then behindRuns inClass rest ++ [c :: rest] else [c :: rest]

/-- What a text leaves behind each try at its start that succeeds, in the order of trying. -/
def tries : Pattern → List Char → List (List Char)
  | one _, [] => []
  | one inClass, c :: rest => if inClass c then [rest] else []
  | run inClass, text => behindRuns inClass text
  | andThen first second, text => (first.tries text).flatMap second.tries
  | notAt pattern, text => if pattern.tries text = [] then [text] else []

/-- What a text leaves behind the match at its start, which takes at least one character. -/
def behind? (pattern : Pattern) (text : List Char) : Option (List Char) :=
  (pattern.tries text).find? fun rest => rest.length < text.length

/-- The pieces of a text between the matches of a pattern. -/
def split (pattern : Pattern) (text : List Char) : List (List Char) :=
  match text with
  | [] => [[]]
  | c :: rest =>
    match _h : pattern.behind? (c :: rest) with
    | some after => [] :: split pattern after
    | none => (split pattern rest).modifyHead (c :: ·)
termination_by text.length
decreasing_by
  · simpa using List.find?_some _h
  · simp

end Pattern

end Collate.Text

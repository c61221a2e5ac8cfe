import Collate.Rule.Basic

/-!
# Clauses of rule text

Commas separate the clauses of a rule text, but a comma inside the braces of a
selector belongs to the selector.  A comma is taken to be inside braces when the
next brace after it, if there is one, is a closing one.  The blanks after a
separating comma are not part of any clause.
-/

namespace Collate

open Text

/-- Whether the next brace of the text, if it has one, is a closing one. -/
def closesFirst (text : List Char) : Bool :=
  text.find? isBrace == some closeBrace

/-- The clauses of a rule text, without the separating commas and the blanks
that follow them. -/
def splitClauses : List Char → List (List Char)
  | [] => [[]]
  | c :: rest =>
    if c = ',' ∧ closesFirst rest = false then
      [] :: (splitClauses rest).modifyHead trimStart
    else
      (splitClauses rest).modifyHead (c :: ·)

theorem splitClauses_ne_nil (text : List Char) : splitClauses text ≠ [] := by
  induction text with
  | nil => simp [splitClauses]
  | cons c rest ih =>
    rw [splitClauses]
    split
    · simp
    · cases h : splitClauses rest with
      | nil => exact absurd h ih
      | cons clause others => simp

/-- The number of commas of a text that separate clauses. -/
def separatorCount : List Char → Nat
  | [] => 0
  | c :: rest => separatorCount rest + if c = ',' ∧ closesFirst rest = false then 1 else 0

/-- A text has one more clause than separating commas. -/
theorem length_splitClauses (text : List Char) :
    (splitClauses text).length = separatorCount text + 1 := by
  induction text with
  | nil => rfl
  | cons c rest ih =>
    rw [splitClauses, separatorCount]
    split <;> simp [ih]

end Collate

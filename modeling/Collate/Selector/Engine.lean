import Collate.Selector.Matching
import Collate.Selector.Reader

/-!
# Selector engines

An engine reads the text of a selector and finds the elements below a place that it
picks.  Whatever selectors an engine knows, what they pick lies below the place and
comes in document order; nothing else about them matters to lookups and placements.

`Engine.standard` is the engine of this library.
-/

namespace Collate.Selector

open Markup

/-- What reads selectors and finds what they pick. -/
structure Engine where
  /-- The places below a place that the selector with this text picks. -/
  select : String → Place → Except Error (List Place)
  sublist_of_select : ∀ {text : String} {place : Place} {picked : List Place},
    select text place = .ok picked → picked.Sublist place.descendants

/-- The engine for the selectors that `Selector.read` knows. -/
def Engine.standard : Engine where
  select text place := (read text).map fun selector => Selector.select selector place
  sublist_of_select {text place picked} h := by
    cases hread : read text with
    | error error => rw [hread] at h; cases h
    | ok selector =>
      rw [hread] at h
      cases h
      exact select_sublist selector place

end Collate.Selector

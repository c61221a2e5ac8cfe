import Collate.Proofs.Comparison.Composing
import Collate.Proofs.Lookup.Entry
import Collate.Proofs.Lookup.Spared
import Collate.Proofs.Sorter.Completing
import Collate.Proofs.Sorter.Sorting

/-!
# Sorting in the other direction

Sorting the items from last to first, in reverse, returns them in the opposite of the order
that sorting them forwards does, whichever rules are descending (`Sorter.sort_reverse`).  That
needs a value for every rule: items without one come last in both directions.

## Strategy

Reversing the options turns the verdict of the rules around (`verdict_not`), and a stable
sort by a comparison turned around reverses what it does to the reversed items
(`sortBy_reverse`).
-/

namespace Collate.Sorter

variable {α : Type}

/-- The sorter, sorting in this direction. -/
def inDirection (reverse : Bool) (sorter : Sorter α) : Sorter α :=
  { sorter with options := { sorter.options with reverse } }

variable [DecidableEq α]

/-- **Reversed items, sorted in reverse, come in the opposite order.** -/
theorem sort_reverse (sorter : Sorter α) (view : α → Value) (items : List α)
    (hrandom : sorter.options.random = false) (hcustom : sorter.options.custom = none)
    {value : α → Rule → Value}
    (hlookup : ∀ x ∈ items, ∀ rule ∈ sorter.rules,
      (sorter.reader.lookup (view x) rule).Returns sorter.bulletin.outlet (value x rule))
    (hpresent : ∀ x ∈ items, ∀ rule ∈ sorter.rules, (value x rule).isMissing = false)
    (hcomparable : ∀ rule ∈ sorter.rules, Comparable items (value · rule))
    (hcalm : sorter.hub.Calm) :
    ∃ forth back later last,
      Sorter.sort view items (sorter.inDirection false) = (.ok forth, later) ∧
      Sorter.sort view items.reverse (sorter.inDirection true) = (.ok back, last) ∧
      back.order = forth.order.reverse := by
  have hvalues : ValuesConsistent (· ∈ items) value sorter.rules :=
    fun rule hrule => (hcomparable rule hrule).consistent
  have hranking := ranking_verdict false hvalues
  have hreversed : ∀ x ∈ items.reverse, x ∈ items := fun _ hx => List.mem_reverse.mp hx
  obtain ⟨forth, later, hforth, hforthOrder, -⟩ := exists_sort_verdict
    (show (sorter.inDirection false).hub.Calm from hcalm) hrandom hcustom hlookup hvalues
  obtain ⟨back, last, hback, hbackOrder, -⟩ := exists_sort_verdict
    (show (sorter.inDirection true).hub.Calm from hcalm) hrandom hcustom
    (fun x hx => hlookup x (hreversed x hx)) (hvalues.mono (fun _ hrule => hrule) hreversed)
  refine ⟨forth, back, later, last, hforth, hback, ?_⟩
  -- present values compare the other way round in reverse, and that is the verdict on the two items
  -- exchanged
  have hturned : ∀ x ∈ items.reverse, ∀ y ∈ items.reverse,
      verdict value true sorter.rules x y = verdict value false sorter.rules y x := by
    intro x hx y hy
    have hxItems := hreversed x hx
    have hyItems := hreversed y hy
    rw [hranking.swap hxItems hyItems]
    exact verdict_not false hvalues hxItems hyItems (hpresent x hxItems) (hpresent y hyItems)
  calc back.order = sortBy (verdict value true sorter.rules) items.reverse := hbackOrder
    _ = sortBy (fun x y => verdict value false sorter.rules y x) items.reverse :=
        sortBy_congr hturned
    _ = (sortBy (verdict value false sorter.rules) items).reverse := sortBy_reverse hranking
    _ = forth.order.reverse := by rw [hforthOrder]; rfl

/-- Five items by a descending number and a text, with ties. -/
theorem sort_reverse_entries :
    let sorter : Sorter Nat := Sorter.create .plain
      [⟨.path ["parity"], none, true, by decide, by simp⟩,
        ⟨.path ["size"], none, false, by decide, by simp⟩] {} (.opened 10 .journal)
    let view : Nat → Value := fun k =>
      .mapping k [("parity", .int (k % 2)), ("size", .text (if k < 3 then "small" else "large"))]
    ∃ forth back later last,
      Sorter.sort view [0, 1, 2, 3, 4] (sorter.inDirection false) = (.ok forth, later) ∧
      Sorter.sort view [4, 3, 2, 1, 0] (sorter.inDirection true) = (.ok back, last) ∧
      back.order = forth.order.reverse := by
  intro sorter view
  have hlookup : ∀ x ∈ [0, 1, 2, 3, 4], ∀ rule ∈ sorter.rules,
      (sorter.reader.lookup (view x) rule).Returns sorter.bulletin.outlet
        (ItemReader.plain.valueOf (view x) rule) := by
    intro x hx rule _
    have haccepts : sorter.bulletin.outlet.Accepts := trivial
    have hfalters : ∀ y ∈ [0, 1, 2, 3, 4], (view y).falters = false := by decide
    exact ItemReader.returns_lookup_plain haccepts (hfalters x hx) rule
  have hparity : ∀ x, ItemReader.plain.valueOf (view x)
      ⟨.path ["parity"], none, true, by decide, by simp⟩ = .int (x % 2) :=
    fun x => ItemReader.plain_valueOf_of_lookup rfl rfl x rfl rfl rfl
  have hsize : ∀ x, ItemReader.plain.valueOf (view x)
      ⟨.path ["size"], none, false, by decide, by simp⟩ =
        .text (if x < 3 then "small" else "large") :=
    fun x => ItemReader.plain_valueOf_of_lookup rfl rfl x rfl rfl rfl
  have hpresent : ∀ x ∈ [0, 1, 2, 3, 4], ∀ rule ∈ sorter.rules,
      (ItemReader.plain.valueOf (view x) rule).isMissing = false := by
    intro x _ rule hrule
    rcases List.mem_pair.mp hrule with rfl | rfl
    · rw [hparity]
      rfl
    · rw [hsize]
      rfl
  have hcomparable : ∀ rule ∈ sorter.rules,
      Comparable [0, 1, 2, 3, 4] fun x => ItemReader.plain.valueOf (view x) rule := by
    intro rule hrule
    rcases List.mem_pair.mp hrule with rfl | rfl
    · refine .inr (.inl fun x _ _ => ?_)
      dsimp only
      rw [hparity]
      exact ⟨x % 2, rfl, rfl, rfl⟩
    · refine .inr (.inr fun x _ _ => ?_)
      dsimp only
      rw [hsize]
      exact ⟨_, rfl, rfl⟩
  have hcalm : sorter.hub.Calm := calm_create _ _ _ _
  exact sort_reverse sorter view [0, 1, 2, 3, 4] rfl rfl hlookup hpresent hcomparable hcalm

end Collate.Sorter

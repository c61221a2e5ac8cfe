import Collate.Proofs.Placement.Values

/-!
# Sorting a container once more

A container that was sorted is sorted: a second sort decides on the same order, moves nothing
and leaves the document as it is (`Desk.sortChildren_again`).  What that takes is that the
values of a child are the same wherever it stands among its siblings, and that they compare
consistently.

## Strategy

The first sort leaves the children in the order that it has decided.  So the second one is
asked to sort an order that was made by the same verdicts, and such an order stays
(`sortBy_sortBy`).
-/

namespace Collate

open Markup Placement

namespace Desk

variable {desk later : Desk} {container : Nat} {place : Place} {value : Nat → Rule → Value}

theorem withChildren_id (desk : Desk) (container : Nat) :
    desk.withChildren container id = desk := by
  have hdocument : desk.document.update container (rearrange id) = desk.document :=
    Document.update_eq_self fun _ _ _ => rfl
  unfold withChildren
  rw [hdocument]

/-- **Sorting a container a second time returns the same order, moves nothing and changes
nothing**, as long as the values of its children do not depend on how they are arranged and
compare consistently.  Either sort ends in no other way, unless a handler is interrupted when
the result is announced. -/
theorem sortChildren_again (hnumbered : desk.document.Numbered)
    (hplace : desk.place? container = some place)
    (hrandom : desk.sorter.options.random = false) (hcustom : desk.sorter.options.custom = none)
    (hvalue : ∀ arrange : List Node → List Node, (∀ nodes, (arrange nodes).Perm nodes) →
      (desk.withChildren container arrange).Shows container value)
    (hcomparable : ∀ rule ∈ desk.sorter.rules,
      Comparable (place.elements.map Place.serial) (value · rule)) :
    (∃ result between, sortChildren container desk = (.ok result, between) ∧
      ∃ again : Sorted Nat, again.order = result.order ∧ again.moved = 0 ∧
        ((∃ later, sortChildren container between = (.ok again, later) ∧
            later.document = between.document) ∨
          ∃ failure, failure.isInterruption = true ∧
            (Hub.publish ⟨"sort_completed", .sorted again⟩ between.sorter.hub).1 =
              .error failure ∧
            (sortChildren container between).1 = .error (.sorter (.failure failure)))) ∨
    ∃ (result : Sorted Nat) (failure : Failure), failure.isInterruption = true ∧
      (Hub.publish ⟨"sort_completed", .sorted result⟩ desk.sorter.hub).1 = .error failure ∧
      (sortChildren container desk).1 = .error (.sorter (.failure failure)) := by
  rw [map_serial_elements] at hcomparable
  have hconsistent : ValuesConsistent (· ∈ serialsOf place.children) value desk.sorter.rules :=
    fun rule hrule => (hcomparable rule hrule).consistent
  have hranking := ranking_verdict desk.sorter.options.reverse hconsistent
  have hshows : desk.Shows container value := by
    have hstart := hvalue id fun nodes => .refl nodes
    rwa [withChildren_id] at hstart
  obtain ⟨result, horder, -, hfirst⟩ :=
    exists_sortChildren hplace hrandom hcustom hshows hconsistent
  rcases hfirst with ⟨between, hbetween, hsetup⟩ | hinterrupted
  case inr => exact .inr ⟨result, hinterrupted⟩
  refine .inl ⟨result, between, hbetween, ?_⟩
  obtain ⟨hperm, hdocument, -⟩ := document_of_sortChildren hnumbered hplace hbetween
  obtain ⟨place', hplace', -, hserials⟩ := exists_place_of_sortChildren hnumbered hplace hbetween
  -- the children show the same values as before, in their new order
  have hshows' : between.Shows container value :=
    (hvalue _ (arranged_perm result.order)).of_sameSetup hdocument hsetup
  have hconsistent' : ValuesConsistent (· ∈ serialsOf place'.children) value
      between.sorter.rules := by
    rw [hsetup.rules, hserials]
    refine fun rule hrule => (hconsistent rule hrule).mono ?_
    rintro v ⟨hmissing, x, hx, hfound⟩
    exact ⟨hmissing, x, hperm.mem_iff.mp hx, hfound⟩
  obtain ⟨again, horder', hmoved', hsecond⟩ := exists_sortChildren hplace'
    (hsetup.options ▸ hrandom) (hsetup.options ▸ hcustom) hshows' hconsistent'
  rw [hsetup.options, hsetup.rules, hserials, horder, sortBy_sortBy hranking, ← horder] at horder'
  rw [hserials, horder', Sorter.differences_self] at hmoved'
  refine ⟨again, horder', hmoved', ?_⟩
  rcases hsecond with ⟨later, hlater, -⟩ | hinterrupted
  · have hnumbered' : between.document.Numbered := by
      rw [hdocument]
      exact hnumbered.update (arranged_perm result.order) container
    exact .inl ⟨later, hlater, (document_of_sortChildren hnumbered' hplace' hlater).2.2 hmoved'⟩
  · exact .inr hinterrupted

/-- The entries of a list are sorted by their texts; after that, sorting moves nothing. -/
theorem sortChildren_again_list :
    ∃ result between again later, sortChildren 1 listDesk = (.ok result, between) ∧
      sortChildren 1 between = (.ok again, later) ∧ again.order = result.order ∧
      again.moved = 0 ∧ later.document = between.document := by
  have hnumbered : listDesk.document.Numbered := by decide +kernel
  have hdefault : listDesk.SortsByText := ⟨⟨_, rfl⟩, rfl, rfl, rfl, rfl⟩
  have hfound : (listDesk.place? 1).isSome = true := by decide +kernel
  obtain ⟨place, hplace⟩ := Option.isSome_iff_exists.mp hfound
  have hfirst : (sortChildren 1 listDesk).1.isOk = true := by decide +kernel
  have hsecond : (sortChildren 1 (sortChildren 1 listDesk).2).1.isOk = true := by decide +kernel
  rcases sortChildren_again hnumbered hplace rfl rfl
      (fun _ harrange => hdefault.shows_withChildren hnumbered hplace harrange)
      (fun _ _ => .inr (.inr fun serial _ _ => ⟨listDesk.textOf serial, rfl, rfl⟩)) with
    ⟨result, between, hbetween, again, horder, hmoved, hagain⟩ | ⟨_, _, -, -, herror⟩
  · rw [hbetween] at hsecond
    rcases hagain with ⟨later, hlater, hdocument⟩ | ⟨_, -, -, herror⟩
    · exact ⟨result, between, again, later, hbetween, hlater, horder, hmoved, hdocument⟩
    · rw [herror] at hsecond
      cases hsecond
  · rw [herror] at hfirst
    cases hfirst

end Desk

end Collate

import Collate.Proofs.Markup.Tags
import Collate.Proofs.Placement.Values

/-!
# Sorting several containers

The containers of a document are sorted one after the other.  Each of them ends up with its
elements in the order that its own sort decided on (`Desk.sortDocument_sorts_each`).

By default that is the order of the visible texts.  But sorting a container that lies inside
another one can change the texts by which the outer one was sorted, as it is sorted first
(`Desk.sortDocument_sorts_outer_first`).  So the order of the texts is known to last only
where nothing moved in the containers inside.

## Strategy

`SortsEach` is what the loop over the containers does.  A step of it changes neither which
elements lie inside of which others (`holds_iff_of_sortChildren`) nor the child list of
another container; and it changes nothing at all below a container unless it moves something
there (`element?_of_sortChildren_inside`).  Both carry over to the steps that follow by
induction on `SortsEach`.
-/

namespace Collate

open Markup Placement

namespace Desk

variable {desk between later : Desk} {container inner : Nat} {place : Place}
  {result : Sorted Nat} {containers : List Nat} {results : List (Sorted Nat)}

/-! ## Elements inside of others -/

/-- An element lies inside of another one. -/
def Holds (desk : Desk) (container inner : Nat) : Prop :=
  ∃ element, desk.document.element? container = some element ∧ inner ∈ numbersOf element.2

theorem Holds.ne (hnumbered : desk.document.Numbered) (h : desk.Holds container inner) :
    inner ≠ container := by
  rintro rfl
  obtain ⟨element, helement, hinside⟩ := h
  have hserial := ((Document.element?_eq_some_iff hnumbered).mp helement).2
  have hnodup := hnumbered.nodup_of_element? helement
  rw [hserial] at hnodup
  exact (List.nodup_cons.mp hnodup).1 hinside

/-- Nothing moves in those of the containers that lie inside of an element. -/
def StillInside (desk : Desk) (outer : Nat) (containers : List Nat)
    (results : List (Sorted Nat)) : Prop :=
  ∀ inner result, (inner, result) ∈ containers.zip results → desk.Holds outer inner →
    result.moved = 0

/-- Sorting a container moves no element into another one or out of it. -/
theorem holds_iff_of_sortChildren (hnumbered : desk.document.Numbered)
    (hplace : desk.place? container = some place)
    (h : sortChildren container desk = (.ok result, later)) (outer inner : Nat) :
    later.Holds outer inner ↔ desk.Holds outer inner := by
  have hafter := element?_of_sortChildren hnumbered hplace h outer
  unfold Holds
  rw [hafter]
  cases houter : desk.document.element? outer with
  | none => simp
  | some element =>
      have hinside := (List.nodup_cons.mp (hnumbered.nodup_of_element? houter)).2
      have hperm := numbersOf_rearranged_perm container (arranged_perm result.order) hinside
      simp only [Option.map_some, Option.some.injEq, exists_eq_left']
      exact hperm.mem_iff

/-- Below another element nothing changes, if nothing moves in a container there. -/
theorem element?_of_sortChildren_inside (hnumbered : desk.document.Numbered)
    (hplace : desk.place? container = some place)
    (h : sortChildren container desk = (.ok result, later)) {outer : Nat}
    (hne : outer ≠ container) (hmoved : desk.Holds outer container → result.moved = 0) :
    later.document.element? outer = desk.document.element? outer := by
  cases houter : desk.document.element? outer with
  | none => rw [element?_of_sortChildren hnumbered hplace h, houter, Option.map_none]
  | some element =>
      by_cases hholds : container ∈ numbersOf element.2
      · -- a container inside of the element moves nothing, so the document is the same
        have hzero := hmoved ⟨element, houter, hholds⟩
        rw [(document_of_sortChildren hnumbered hplace h).2.2 hzero, houter]
      · obtain ⟨tag, children⟩ := element
        have hserial : tag.serial ≠ container :=
          ((Document.element?_eq_some_iff hnumbered).mp houter).2.trans_ne hne
        rw [element?_of_sortChildren hnumbered hplace h, houter, Option.map_some,
          rearranged_of_serial_ne hserial, updateAll_eq_self_of_not_mem hholds]

theorem numbered_of_sortChildren (hnumbered : desk.document.Numbered)
    (hplace : desk.place? container = some place)
    (h : sortChildren container desk = (.ok result, later)) : later.document.Numbered := by
  rw [(document_of_sortChildren hnumbered hplace h).2.1]
  exact hnumbered.update (arranged_perm result.order) container

/-! ## One container after the other -/

/-- Sorting containers one after the other, with these results. -/
inductive SortsEach : Desk → List Nat → List (Sorted Nat) → Desk → Prop
  | nil (desk : Desk) : SortsEach desk [] [] desk
  | cons {desk between later : Desk} {container : Nat} {containers : List Nat} {place : Place}
      {result : Sorted Nat} {results : List (Sorted Nat)}
      (hplace : desk.place? container = some place)
      (hstep : sortChildren container desk = (.ok result, between))
      (hrest : SortsEach between containers results later) :
      SortsEach desk (container :: containers) (result :: results) later

namespace SortsEach

theorem mapM_eq (h : desk.SortsEach containers results later) :
    containers.mapM sortChildren desk = (.ok results, later) := by
  induction h with
  | nil desk => rfl
  | cons hplace hstep hrest ih =>
      rw [List.mapM_cons, bind_apply, hstep]
      simp only [bind_apply]
      rw [ih]
      rfl

theorem length_eq (h : desk.SortsEach containers results later) :
    results.length = containers.length := by
  induction h with
  | nil desk => rfl
  | cons hplace hstep hrest ih => rw [List.length_cons, List.length_cons, ih]

/-- The child list of an element that is not among the containers stays. -/
theorem childList_eq (h : desk.SortsEach containers results later)
    (hnumbered : desk.document.Numbered) {outer : Nat} (houter : outer ∉ containers) :
    later.childList outer = desk.childList outer := by
  induction h with
  | nil desk => rfl
  | cons hplace hstep hrest ih =>
      rw [List.mem_cons, not_or] at houter
      rw [ih (numbered_of_sortChildren hnumbered hplace hstep) houter.2]
      exact childList_of_sortChildren hnumbered hplace hstep houter.1

end SortsEach

theorem StillInside.rest (hnumbered : desk.document.Numbered)
    (hplace : desk.place? container = some place)
    (h : sortChildren container desk = (.ok result, between)) {outer : Nat}
    (hstill : desk.StillInside outer (container :: containers) (result :: results)) :
    between.StillInside outer containers results := fun inner moved hmem hholds =>
  hstill inner moved (List.mem_cons_of_mem _ hmem)
    ((holds_iff_of_sortChildren hnumbered hplace h outer inner).mp hholds)

/-- An element that is not among the containers stays with all that is below, if nothing moves
in those of the containers that lie inside of it. -/
theorem SortsEach.element?_eq (h : desk.SortsEach containers results later)
    (hnumbered : desk.document.Numbered) {outer : Nat} (houter : outer ∉ containers)
    (hstill : desk.StillInside outer containers results) :
    later.document.element? outer = desk.document.element? outer := by
  induction h with
  | nil desk => rfl
  | cons hplace hstep hrest ih =>
      rw [List.mem_cons, not_or] at houter
      rw [ih (numbered_of_sortChildren hnumbered hplace hstep) houter.2
        (hstill.rest hnumbered hplace hstep)]
      exact element?_of_sortChildren_inside hnumbered hplace hstep houter.1
        (hstill _ _ (List.mem_cons_self ..))

/-! ## What a container looks like in the end -/

/-- The elements of a container whose child list has not changed are in the same order. -/
theorem exists_place_of_childList_eq (hplace : between.place? container = some place)
    (h : later.childList container = between.childList container) :
    ∃ place', later.place? container = some place' ∧
      serialsOf place'.children = serialsOf place.children := by
  unfold childList at h
  rw [contents_of_place? hplace, Option.map_some, Option.map_eq_some_iff] at h
  obtain ⟨element, helement, hlist⟩ := h
  obtain ⟨place', hplace', rfl⟩ := exists_place_of_element? helement
  refine ⟨place', hplace', ?_⟩
  have hnodes : place'.children.map Node.shallow = place.children.map Node.shallow :=
    congrArg Prod.snd hlist
  rw [← serialsOf_map_shallow, hnodes, serialsOf_map_shallow]

/-- The elements of a container below which nothing has changed have the same texts. -/
theorem texts_of_element?_eq {place' : Place} (hplace : between.place? container = some place)
    (hplace' : later.place? container = some place')
    (h : later.document.element? container = between.document.element? container) :
    place'.elements.map Place.visibleText = place.elements.map Place.visibleText := by
  rw [contents_of_place? hplace, contents_of_place? hplace'] at h
  have hchildren : place'.children = place.children := congrArg Prod.snd (Option.some.inj h)
  have htexts : ∀ place : Place, place.elements.map Place.visibleText =
      (childElements place.children).map fun element => Markup.visibleText element.1 element.2 := by
    intro place
    rw [← Place.map_contents_elements, List.map_map]
    rfl
  rw [htexts, htexts, hchildren]

/-- Each container ends up with its elements in the order that its sort decided on; and that is
the order of their texts, if nothing moves in the containers inside of it. -/
theorem SortsEach.sorted (h : desk.SortsEach containers results later) (htext : desk.SortsByText)
    (hnumbered : desk.document.Numbered) (hnodup : containers.Nodup) :
    ∀ container result, (container, result) ∈ containers.zip results →
      ∃ place, later.place? container = some place ∧
        place.elements.map Place.serial = result.order ∧
        (desk.StillInside container containers results →
          (place.elements.map Place.visibleText).Pairwise (· ≤ ·)) := by
  induction h with
  | nil desk =>
      intro container result hmem
      cases hmem
  | @cons desk between later head containers place sorted results hplace hstep hrest ih =>
      obtain ⟨hhead, hnodup'⟩ := List.nodup_cons.mp hnodup
      have hnumbered' := numbered_of_sortChildren hnumbered hplace hstep
      -- a sort leaves the rules and the reader as they are
      have hsetup := (order_of_sortChildren hplace htext.random htext.custom
        (htext.shows hnumbered head) (valuesConsistent_textValue _ _) hstep).2
      intro container result hmem
      rw [List.zip_cons_cons, List.mem_cons] at hmem
      rcases hmem with heq | hmem
      · -- the container is the first one, and the others are sorted after it
        cases heq
        obtain ⟨placed, hplaced, -, hserials⟩ :=
          exists_place_of_sortChildren hnumbered hplace hstep
        obtain ⟨final, hfinal, hfinalSerials⟩ :=
          exists_place_of_childList_eq hplaced (hrest.childList_eq hnumbered' hhead)
        refine ⟨final, hfinal, ?_, fun hstill => ?_⟩
        · rw [map_serial_elements, hfinalSerials, hserials]
        · obtain ⟨placed', hplaced', hordered⟩ :=
            texts_of_sortChildren htext hnumbered hplace hstep
          rw [texts_of_element?_eq hplaced' hfinal
            (hrest.element?_eq hnumbered' hhead (hstill.rest hnumbered hplace hstep))]
          exact hordered
      · obtain ⟨final, hfinal, hserials, htexts⟩ :=
          ih (htext.of_sameSetup hsetup) hnumbered' hnodup' container result hmem
        exact ⟨final, hfinal, hserials, fun hstill =>
          htexts (hstill.rest hnumbered hplace hstep)⟩

/-- Sorting containers by visible text one after the other comes to an end, unless a handler
is interrupted when a result is announced. -/
theorem exists_sortsEach (htext : desk.SortsByText) (hnumbered : desk.document.Numbered)
    (hplaces : ∀ container ∈ containers, (desk.place? container).isSome = true) :
    (∃ results later, desk.SortsEach containers results later) ∨
      ∃ failure, failure.isInterruption = true ∧
        (containers.mapM sortChildren desk).1 = .error (.sorter (.failure failure)) := by
  induction containers generalizing desk with
  | nil => exact .inl ⟨[], desk, .nil desk⟩
  | cons container rest ih =>
      obtain ⟨hfirst, hothers⟩ := List.forall_mem_cons.mp hplaces
      obtain ⟨place, hplace⟩ := Option.isSome_iff_exists.mp hfirst
      obtain ⟨result, -, -, ⟨between, hstep, hsetup⟩ | ⟨failure, hinterruption, -, herror⟩⟩ :=
        exists_sortChildren hplace htext.random htext.custom (htext.shows hnumbered container)
          (valuesConsistent_textValue _ _)
      · -- the other containers are still there
        have hplaces' : ∀ other ∈ rest, (between.place? other).isSome = true := by
          intro other hother
          have hfound := hothers other hother
          rw [← Option.isSome_map (f := Place.contents), map_contents_place?] at hfound ⊢
          rwa [element?_of_sortChildren hnumbered hplace hstep, Option.isSome_map]
        rcases ih (htext.of_sameSetup hsetup) (numbered_of_sortChildren hnumbered hplace hstep)
            hplaces' with ⟨results, later, hrest⟩ | ⟨failure, hinterruption, herror⟩
        · exact .inl ⟨result :: results, later, .cons hplace hstep hrest⟩
        · refine .inr ⟨failure, hinterruption, ?_⟩
          rw [List.mapM_cons, bind_apply, hstep]
          simp only [bind_apply]
          cases hrun : rest.mapM sortChildren between with
          | mk outcome later =>
              rw [hrun] at herror
              rw [show outcome = _ from herror]
      · refine .inr ⟨failure, hinterruption, ?_⟩
        rw [List.mapM_cons, bind_apply]
        cases hrun : sortChildren container desk with
        | mk outcome later =>
            rw [hrun] at herror
            rw [show outcome = _ from herror]

/-! ## The containers of a document -/

theorem numbers_eq (desk : Desk) :
    desk.document.numbers = (desk.root :: desk.root.descendants).map Place.serial := by
  unfold Document.numbers
  rw [← map_contents_places, List.map_map]
  rfl

/-- A selector picks elements of the document, none of them twice. -/
theorem containers_sublist {selector : String} {all : Bool} {chosen : List Nat}
    (h : desk.containers selector all = .ok chosen) : chosen.Sublist desk.document.numbers := by
  unfold containers at h
  cases hselect : desk.engine.select selector desk.root with
  | error error =>
      rw [hselect] at h
      cases h
  | ok picked =>
      have hsublist := desk.engine.sublist_of_select hselect
      rw [hselect] at h
      dsimp only [Except.mapError, bind, Except.bind] at h
      -- all of the elements that the engine picks, or the first one
      have hpicked : (if all then picked else picked.take 1).Sublist desk.root.descendants := by
        split
        · exact hsublist
        · exact (List.take_sublist 1 _).trans hsublist
      generalize (if all then picked else picked.take 1) = kept at h hpicked
      cases hempty : kept.isEmpty <;> rw [hempty] at h <;> cases h
      rw [numbers_eq]
      exact (hpicked.map Place.serial).trans (List.sublist_cons_self _ _)

theorem isSome_place? {serial : Nat} (h : serial ∈ desk.document.numbers) :
    (desk.place? serial).isSome = true := by
  rw [numbers_eq, List.mem_map] at h
  obtain ⟨place, hplace, hserial⟩ := h
  unfold place?
  rw [List.find?_isSome]
  exact ⟨place, hplace, beq_iff_eq.mpr hserial⟩

/-- The desk with a record of what was sorted. -/
def recorded (desk : Desk) (count : Nat) (selector : String) : Desk :=
  let message := placementMessage count selector desk.sorter.rulesText
  { desk with sorter.bulletin := desk.sorter.bulletin.record .info placementSource message }

/-- To sort a document is to sort its containers and to record that. -/
theorem sortDocument_apply {selector : String} {all : Bool} {chosen : List Nat}
    (hchosen : desk.containers selector all = .ok chosen) :
    sortDocument selector all desk =
      match chosen.mapM sortChildren desk with
      | (.ok results, later) => (.ok results, later.recorded results.length selector)
      | (.error fault, later) => (.error fault, later) := by
  have hlift : (liftM (desk.containers selector all) : AtDesk (List Nat)) desk =
      (.ok chosen, desk) := by
    rw [hchosen]
    rfl
  unfold sortDocument
  simp only [bind_apply, get_apply, modify_apply, pure_apply]
  rw [hlift]
  dsimp only
  cases chosen.mapM sortChildren desk with
  | mk outcome later => cases outcome <;> rfl

/-- **Sorting a document by visible text puts the elements of each container into the order
that is decided for it, and leaves them in the order of their texts, if nothing moves in the
chosen containers that lie inside of it.**  In particular all containers are left sorted if
none of them lies inside another one.  A sort ends in no other way, unless a handler is
interrupted when a result is announced. -/
theorem sortDocument_sorts_each (htext : desk.SortsByText) (hnumbered : desk.document.Numbered)
    {selector : String} {all : Bool} {chosen : List Nat}
    (hchosen : desk.containers selector all = .ok chosen) :
    (∃ results later, sortDocument selector all desk = (.ok results, later) ∧
      results.length = chosen.length ∧
      ∀ container result, (container, result) ∈ chosen.zip results →
        ∃ place, later.place? container = some place ∧
          place.elements.map Place.serial = result.order ∧
          (desk.StillInside container chosen results →
            (place.elements.map Place.visibleText).Pairwise (· ≤ ·))) ∨
    ∃ failure, failure.isInterruption = true ∧
      (sortDocument selector all desk).1 = .error (.sorter (.failure failure)) := by
  have hsublist := containers_sublist hchosen
  have hplaces : ∀ container ∈ chosen, (desk.place? container).isSome = true :=
    fun container hcontainer => isSome_place? (hsublist.mem hcontainer)
  rw [sortDocument_apply hchosen]
  rcases exists_sortsEach htext hnumbered hplaces with
    ⟨results, later, hsorts⟩ | ⟨failure, hinterruption, herror⟩
  · rw [hsorts.mapM_eq]
    exact .inl ⟨results, _, rfl, hsorts.length_eq,
      hsorts.sorted htext hnumbered (hnumbered.sublist hsublist)⟩
  · refine .inr ⟨failure, hinterruption, ?_⟩
    cases hrun : chosen.mapM sortChildren desk with
    | mk outcome later =>
        rw [hrun] at herror
        rw [show outcome = _ from herror]

/-- The desk for the document that a text is read as, with nothing but defaults. -/
def deskFor? (text : String) : Option Desk :=
  (Document.read text).toOption.map fun document =>
    { sorter := Sorter.create (.markup .standard) [] {} (.opened 10 .journal), document,
      engine := .standard }

theorem sortsByText_of_deskFor? {text : String} (h : deskFor? text = some desk) :
    desk.SortsByText ∧ desk.document.Numbered := by
  obtain ⟨document, hread, rfl⟩ := Option.map_eq_some_iff.mp h
  exact ⟨⟨⟨_, rfl⟩, rfl, rfl, rfl, rfl⟩, Document.numbered_of_read (eq_ok_of_toOption hread)⟩

/-- A list inside of another one that is in order already does not disturb the outer one. -/
theorem sortDocument_sorts_each_inside :
    ∃ desk, deskFor? "<ul><li><ul><li>b</li><li>c</li></ul></li><li>a</li></ul>" = some desk ∧
      ∃ results later place, sortDocument "ul" true desk = (.ok results, later) ∧
        later.place? 1 = some place ∧
        (place.elements.map Place.visibleText).Pairwise (· ≤ ·) := by
  have hrun : (deskFor? "<ul><li><ul><li>b</li><li>c</li></ul></li><li>a</li></ul>").map
      (fun desk => ((desk.containers "ul" true).toOption,
        (sortDocument "ul" true desk).1.toOption.map fun results => results.map Sorted.moved)) =
      some (some [1, 3], some [2, 0]) := by
    decide +kernel
  obtain ⟨desk, hdesk, hfacts⟩ := Option.map_eq_some_iff.mp hrun
  obtain ⟨hcontainers, hmoved⟩ := Prod.mk.inj hfacts
  obtain ⟨htext, hnumbered⟩ := sortsByText_of_deskFor? hdesk
  refine ⟨desk, hdesk, ?_⟩
  rcases sortDocument_sorts_each htext hnumbered (eq_ok_of_toOption hcontainers) with
    ⟨results, later, hsort, hlength, hsorted⟩ | ⟨_, -, herror⟩
  · obtain ⟨outer, inside, rfl⟩ := List.length_eq_two.mp hlength
    rw [hsort] at hmoved
    obtain ⟨place, hplace, -, htexts⟩ := hsorted 1 outer (List.mem_cons_self ..)
    refine ⟨[outer, inside], later, place, hsort, hplace, htexts fun inner result hmem hholds => ?_⟩
    rcases List.mem_cons.mp hmem with heq | hmem
    · cases heq
      exact absurd rfl (hholds.ne hnumbered)
    · -- the list inside has not moved anything
      cases List.mem_singleton.mp hmem
      injection hmoved with hmoved
      injection hmoved with _ hmoved
      injection hmoved
  · rw [herror] at hmoved
    cases hmoved

/-- An outer list is sorted by the texts that its entries have before the list inside of the
first one is sorted.  So `b a` goes behind `az`, and it is there as `a b` in the end. -/
theorem sortDocument_sorts_outer_first :
    ∃ desk, deskFor? "<ul><li><ul><li>b</li><li>a</li></ul></li><li>az</li></ul>" = some desk ∧
      desk.SortsByText ∧
      ∃ chosen results later place, desk.containers "ul" true = .ok chosen ∧ 1 ∈ chosen ∧
        sortDocument "ul" true desk = (.ok results, later) ∧ later.place? 1 = some place ∧
        ¬ (place.elements.map Place.visibleText).Pairwise (· ≤ ·) := by
  have hrun : (deskFor? "<ul><li><ul><li>b</li><li>a</li></ul></li><li>az</li></ul>").map
      (fun desk => ((desk.containers "ul" true).toOption, (sortDocument "ul" true desk).1.isOk,
        ((sortDocument "ul" true desk).2.place? 1).map fun place =>
          place.elements.map Place.visibleText)) =
      some (some [1, 3], true, some ["az", "a b"]) := by
    decide +kernel
  obtain ⟨desk, hdesk, hfacts⟩ := Option.map_eq_some_iff.mp hrun
  obtain ⟨hcontainers, hfacts⟩ := Prod.mk.inj hfacts
  obtain ⟨hok, htexts⟩ := Prod.mk.inj hfacts
  obtain ⟨place, hplace, htexts⟩ := Option.map_eq_some_iff.mp htexts
  cases hsort : sortDocument "ul" true desk with
  | mk outcome later =>
    rw [hsort] at hok hplace
    cases outcome with
    | error fault => cases hok
    | ok results =>
        refine ⟨desk, hdesk, (sortsByText_of_deskFor? hdesk).1, [1, 3], results, later, place,
          eq_ok_of_toOption hcontainers, List.mem_cons_self .., hsort, hplace, ?_⟩
        rw [htexts]
        decide +kernel

end Desk

end Collate

import Mathlib.Data.List.Nodup
import Mathlib.Data.List.Perm.Basic
import Collate.Placement

/-!
# Arranging child nodes

`Placement.arranged` moves elements to the end, one after the other.  What comes of it does
not depend on the way there: the nodes that are not moved stay in their order, and the moved
elements follow in the order in which they were moved (`foldl_toEnd`).

From that equation everything else about an arrangement is read off:

* it has the nodes it was made of (`arranged_perm`), the data among them in the same order
  (`filter_data_arranged`);
* its elements are in the order that was asked for (`serialsOf_arranged`);
* the elements that were in place from the start on have not moved, not even past data
  (`filter_arranged`).
-/

namespace Collate.Placement

open Markup

variable {nodes : List Node} {order moved kept : List Nat}

/-! ## Moving elements to the end -/

theorem toEnd_perm (nodes : List Node) (serial : Nat) : (toEnd nodes serial).Perm nodes := by
  have hperm := List.filter_append_perm (fun node => decide (node.serial? ≠ some serial)) nodes
  unfold toEnd
  convert hperm using 3
  simp

theorem foldl_toEnd_perm (moved : List Nat) (nodes : List Node) :
    (moved.foldl toEnd nodes).Perm nodes := by
  induction moved generalizing nodes with
  | nil => exact List.Perm.refl nodes
  | cons serial rest ih => exact (ih _).trans (toEnd_perm nodes serial)

theorem filter_data_foldl_toEnd (moved : List Nat) (nodes : List Node) :
    (moved.foldl toEnd nodes).filter (fun node => !node.isElement) =
      nodes.filter fun node => !node.isElement := by
  induction moved generalizing nodes with
  | nil => rfl
  | cons serial rest ih => exact (ih _).trans (filter_data_toEnd nodes serial)

/-- Whether a node stays when these elements move. -/
def stays (moved : List Nat) (node : Node) : Bool :=
  node.serial?.all fun serial => decide (serial ∉ moved)

/-- Elements that are moved one after the other end up in that order behind what stays. -/
theorem foldl_toEnd (hmoved : moved.Nodup) (nodes : List Node) :
    moved.foldl toEnd nodes =
      nodes.filter (stays moved) ++
        moved.flatMap fun serial => nodes.filter fun node => node.serial? = some serial := by
  induction moved generalizing nodes with
  | nil =>
      have hall : nodes.filter (stays []) = nodes :=
        List.filter_eq_self.mpr fun node _ => by cases h : node.serial? <;> simp [stays, h]
      simp [hall]
  | cons serial rest ih =>
      obtain ⟨hserial, hrest⟩ := List.nodup_cons.mp hmoved
      -- with the first element at the end, the others leave it where it is
      have hstay : (toEnd nodes serial).filter (stays rest) =
          nodes.filter (stays (serial :: rest)) ++
            nodes.filter fun node => node.serial? = some serial := by
        unfold toEnd
        rw [List.filter_append, List.filter_filter, List.filter_filter]
        congr 1
        · refine List.filter_congr fun node _ => ?_
          cases h : node.serial? with
          | none => simp [stays, h]
          | some other => by_cases heq : other = serial <;> simp [stays, h, heq]
        · refine List.filter_congr fun node _ => ?_
          by_cases heq : node.serial? = some serial <;> simp [stays, heq, hserial]
      -- and moving it has brought none of the others
      have hmove : ∀ other ∈ rest,
          (toEnd nodes serial).filter (fun node => node.serial? = some other) =
            nodes.filter fun node => node.serial? = some other := by
        intro other hother
        have hne : serial ≠ other := by
          rintro rfl
          exact hserial hother
        unfold toEnd
        rw [List.filter_append, List.filter_filter, List.filter_filter]
        have hnone : (nodes.filter fun node => decide (node.serial? = some other) &&
            decide (node.serial? = some serial)) = [] := by
          rw [List.filter_eq_nil_iff]
          intro node _
          by_cases heq : node.serial? = some serial <;> simp [heq, hne]
        rw [hnone, List.append_nil]
        refine List.filter_congr fun node _ => ?_
        by_cases heq : node.serial? = some other <;> simp [heq, hne.symm]
      rw [List.foldl_cons, ih hrest, hstay, List.flatMap_cons, List.append_assoc]
      congr 2
      exact List.flatMap_congr hmove

/-! ## The elements of an arrangement -/

theorem serialsOf_append (nodes others : List Node) :
    serialsOf (nodes ++ others) = serialsOf nodes ++ serialsOf others := List.filterMap_append

theorem serialsOf_filter_stays (moved : List Nat) (nodes : List Node) :
    serialsOf (nodes.filter (stays moved)) =
      (serialsOf nodes).filter fun serial => decide (serial ∉ moved) := by
  induction nodes with
  | nil => rfl
  | cons node rest ih =>
      simp only [serialsOf] at ih ⊢
      cases hserial : node.serial? with
      | none => simp [stays, hserial, ih]
      | some serial => by_cases hmem : serial ∈ moved <;> simp [stays, hserial, hmem, ih]

theorem serialsOf_filter_eq (serial : Nat) (nodes : List Node) :
    serialsOf (nodes.filter fun node => node.serial? = some serial) =
      (serialsOf nodes).filter fun other => other = serial := by
  induction nodes with
  | nil => rfl
  | cons node rest ih =>
      simp only [serialsOf] at ih ⊢
      cases hserial : node.serial? with
      | none => simp [hserial, ih]
      | some other => by_cases heq : other = serial <;> simp [hserial, heq, ih]

theorem serialsOf_foldl_toEnd (hnodes : (serialsOf nodes).Nodup) (hmoved : moved.Nodup)
    (hmem : ∀ serial ∈ moved, serial ∈ serialsOf nodes) :
    serialsOf (moved.foldl toEnd nodes) =
      ((serialsOf nodes).filter fun serial => decide (serial ∉ moved)) ++ moved := by
  -- no two children have the same serial
  have hone : ∀ serial ∈ moved, serialsOf (nodes.filter fun node => node.serial? = some serial) =
      [serial] := by
    intro serial hserial
    rw [serialsOf_filter_eq, List.filter_eq,
      List.count_eq_one_of_mem hnodes (hmem serial hserial)]
    rfl
  rw [foldl_toEnd hmoved, serialsOf_append, serialsOf_filter_stays]
  congr 1
  unfold serialsOf at hone ⊢
  rw [List.filterMap_flatMap, List.flatMap_congr hone]
  simp

/-! ## What is in place already -/

theorem take_agreement (order serials : List Nat) :
    serials.take (agreement order serials) = order.take (agreement order serials) := by
  induction order generalizing serials with
  | nil => simp [agreement]
  | cons x xs ih =>
      cases serials with
      | nil => simp [agreement]
      | cons y ys =>
          by_cases heq : x = y
          · simp [agreement, heq, ih]
          · simp [agreement, heq]

/-- Two lists agree at least as far as any common beginning goes. -/
theorem length_le_agreement {serials : List Nat} (horder : kept <+: order)
    (hserials : kept <+: serials) : kept.length ≤ agreement order serials := by
  induction kept generalizing order serials with
  | nil => exact Nat.zero_le _
  | cons x rest ih =>
      obtain ⟨order', rfl⟩ := horder
      obtain ⟨serials', rfl⟩ := hserials
      have hrest := ih (List.prefix_append rest order') (List.prefix_append rest serials')
      simp only [List.cons_append, agreement, if_true, List.length_cons]
      omega

theorem not_mem_drop_agreement {serials : List Nat} (horder : order.Nodup)
    (hkept : kept <+: order) (hserials : kept <+: serials) {serial : Nat} (hserial : serial ∈ kept) :
    serial ∉ order.drop (agreement order serials) := by
  have hlength := length_le_agreement hkept hserials
  rw [← List.take_append_drop (agreement order serials) order, List.nodup_append] at horder
  have htake : serial ∈ order.take (agreement order serials) :=
    (List.prefix_take_iff.mpr ⟨hkept, hlength⟩).mem hserial
  exact fun hdrop => horder.2.2 serial htake serial hdrop rfl

/-! ## Arrangements -/

theorem arranged_perm (order : List Nat) (children : List Node) :
    (arranged order children).Perm children := foldl_toEnd_perm _ children

theorem filter_data_arranged (order : List Nat) (children : List Node) :
    (arranged order children).filter (fun node => !node.isElement) =
      children.filter fun node => !node.isElement := filter_data_foldl_toEnd _ children

variable {children : List Node}

/-- **The elements of an arrangement are in the order that was asked for.** -/
theorem serialsOf_arranged (hperm : order.Perm (serialsOf children))
    (hchildren : (serialsOf children).Nodup) : serialsOf (arranged order children) = order := by
  have horder : order.Nodup := hperm.nodup_iff.mpr hchildren
  unfold arranged
  generalize hagreement : agreement order (serialsOf children) = count
  have htake : (serialsOf children).take count = order.take count := by
    rw [← hagreement]
    exact take_agreement order _
  -- what is not in place is the same in the order as among the children
  have hdrop : (order.drop count).Perm ((serialsOf children).drop count) := by
    rw [← List.take_append_drop count order, ← htake] at hperm
    have hsplit := hperm.trans (.of_eq (List.take_append_drop count (serialsOf children)).symm)
    exact (List.perm_append_left_iff _).mp hsplit
  -- so what stays is the beginning on which both agree
  have hstay : (serialsOf children).filter (fun serial => decide (serial ∉ order.drop count)) =
      order.take count := by
    conv_lhs => rw [← List.take_append_drop count (serialsOf children)]
    rw [List.filter_append, htake]
    have htakeAll : (order.take count).filter (fun serial => decide (serial ∉ order.drop count)) =
        order.take count := by
      rw [List.filter_eq_self]
      intro serial hserial
      rw [decide_eq_true_eq]
      intro hmem
      rw [← List.take_append_drop count order, List.nodup_append] at horder
      exact horder.2.2 serial hserial serial hmem rfl
    have hdropNone : ((serialsOf children).drop count).filter
        (fun serial => decide (serial ∉ order.drop count)) = [] := by
      rw [List.filter_eq_nil_iff]
      intro serial hserial
      simpa using hdrop.mem_iff.mpr hserial
    rw [htakeAll, hdropNone, List.append_nil]
  rw [serialsOf_foldl_toEnd hchildren (horder.sublist (List.drop_sublist count order)) ?_, hstay,
    List.take_append_drop]
  intro serial hserial
  exact hperm.mem_iff.mp (List.mem_of_mem_drop hserial)

/-- Whether a node is data or one of these elements. -/
def isDataOrAmong (kept : List Nat) (node : Node) : Bool :=
  node.serial?.all fun serial => decide (serial ∈ kept)

/-- What is data or stands at a common beginning of both orders does not move. -/
theorem filter_arranged (horder : order.Nodup) (hkept : kept <+: order)
    (hchildren : kept <+: serialsOf children) :
    (arranged order children).filter (isDataOrAmong kept) =
      children.filter (isDataOrAmong kept) := by
  have hmoved := horder.sublist (List.drop_sublist (agreement order (serialsOf children)) order)
  have hnot : ∀ serial ∈ kept, serial ∉ order.drop (agreement order (serialsOf children)) :=
    fun serial hserial => not_mem_drop_agreement horder hkept hchildren hserial
  unfold arranged
  rw [foldl_toEnd hmoved, List.filter_append, List.filter_filter]
  -- nothing that moves is data or in place
  have hnone : ((order.drop (agreement order (serialsOf children))).flatMap fun serial =>
      children.filter fun node => node.serial? = some serial).filter (isDataOrAmong kept) = [] := by
    rw [List.filter_eq_nil_iff]
    intro node hnode
    rw [List.mem_flatMap] at hnode
    obtain ⟨serial, hserial, hnode⟩ := hnode
    have heq : node.serial? = some serial := by simpa using (List.mem_filter.mp hnode).2
    have hout : serial ∉ kept := fun hmem => hnot serial hmem hserial
    simp [isDataOrAmong, heq, hout]
  rw [hnone, List.append_nil]
  refine List.filter_congr fun node _ => ?_
  cases hserial : node.serial? with
  | none => simp [stays, isDataOrAmong, hserial]
  | some serial =>
      by_cases hmem : serial ∈ kept
      · simp [stays, isDataOrAmong, hserial, hmem, hnot serial hmem]
      · simp [isDataOrAmong, hserial, hmem]

end Collate.Placement

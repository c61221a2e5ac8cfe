import Mathlib.Data.List.Basic
import Collate.Proofs.Text.Trim

/-!
# Texts cut at a character

A text is cut at every occurrence of a character.  Two equations say where: at the character
itself (`splitOn_cons_self`), and nowhere else (`splitOn_cons_of_ne`).

However texts are cut, blanks around a text are blanks around its parts, if this is so at each of
its ends (`map_trim_cut_trim`).  So it is if the character is no blank (`map_trim_splitOn_trim`).
-/

namespace Collate.Text

variable {sep c : Char}

theorem splitOn_cons_of_ne (h : c ≠ sep) (rest : List Char) :
    (c :: rest).splitOn sep = (rest.splitOn sep).modifyHead (List.cons c) := by
  rw [List.splitOn, List.splitOnP_cons_eq_if_modifyHead, if_neg (by simpa using h), List.splitOn]

theorem splitOn_cons_self (sep : Char) (rest : List Char) :
    (sep :: rest).splitOn sep = [] :: rest.splitOn sep := by
  rw [List.splitOn, List.splitOnP_cons_eq_if_modifyHead, if_pos (beq_self_eq_true sep),
    List.splitOn]

theorem splitOn_append_sep (left right : List Char) :
    (left ++ sep :: right).splitOn sep = left.splitOn sep ++ right.splitOn sep :=
  List.splitOnP_append_cons left right (beq_self_eq_true sep)

/-! ## Blanks around a text -/

theorem map_modifyHead_congr {α β : Type} {f : α → β} {g : α → α}
    (hg : ∀ x y, f x = f y → f (g x) = f (g y)) {left right : List α}
    (h : left.map f = right.map f) :
    (left.modifyHead g).map f = (right.modifyHead g).map f := by
  cases left with
  | nil =>
      rw [List.map_nil, eq_comm, List.map_eq_nil_iff] at h
      rw [h]
  | cons x xs =>
      obtain ⟨y, ys, rfl, hxy, hrest⟩ := List.map_eq_cons_iff.mp h.symm
      rw [List.modifyHead_cons, List.modifyHead_cons, List.map_cons, List.map_cons,
        hg y x hxy, hrest]

/-- Wherever texts are cut: if blanks in front of a text are blanks in front of its first part, and
blanks behind it are blanks behind parts, then blanks around a text are blanks around its parts. -/
theorem map_trim_cut_trim {cut : List Char → List (List Char)}
    (hfront : ∀ gap text, allBlank gap = true → cut (gap ++ text) = (cut text).modifyHead (gap ++ ·))
    (hback : ∀ text gap, allBlank gap = true →
      (cut (text ++ gap)).map trimEnd = (cut text).map trimEnd) (text : List Char) :
    (cut (trim text)).map trim = (cut text).map trim := by
  obtain ⟨before, after, hbefore, hafter, htext⟩ := exists_eq_append_trim text
  have hstart : (cut (before ++ trim text)).map trim = (cut (trim text)).map trim := by
    rw [hfront before (trim text) hbefore]
    cases cut (trim text) with
    | nil => rfl
    | cons head tail =>
        rw [List.modifyHead_cons, List.map_cons, List.map_cons, trim_append_left hbefore]
  -- once the ends are trimmed, only the beginnings are left to trim
  have htrim : ∀ parts : List (List Char), parts.map trim = (parts.map trimEnd).map trim := by
    intro parts
    rw [List.map_map]
    exact List.map_congr_left fun part _ => (trim_trimEnd part).symm
  calc (cut (trim text)).map trim
      = (cut (before ++ trim text)).map trim := hstart.symm
    _ = ((cut (before ++ trim text)).map trimEnd).map trim := htrim _
    _ = ((cut (before ++ trim text ++ after)).map trimEnd).map trim := by
        rw [hback _ _ hafter]
    _ = (cut text).map trim := by rw [← htrim, ← htext]

variable {gap : List Char}

/-- A text is not cut inside of blanks. -/
theorem splitOn_append_left (hsep : isBlank sep = false) (hgap : allBlank gap = true)
    (text : List Char) :
    (gap ++ text).splitOn sep = (text.splitOn sep).modifyHead (gap ++ ·) := by
  induction gap with
  | nil =>
      rw [List.nil_append]
      cases text.splitOn sep <;> rfl
  | cons c rest ih =>
      have hblank := allBlank_iff.mp hgap
      -- a blank is not the character at which texts are cut
      have hne : c ≠ sep := by
        rintro rfl
        have hc := hblank c (List.mem_cons_self ..)
        rw [hsep] at hc
        cases hc
      have hrest : allBlank rest = true :=
        allBlank_iff.mpr fun d hd => hblank d (List.mem_cons_of_mem c hd)
      rw [List.cons_append, splitOn_cons_of_ne hne, ih hrest, List.modifyHead_modifyHead]
      rfl

theorem splitOn_of_allBlank (hsep : isBlank sep = false) (hgap : allBlank gap = true) :
    gap.splitOn sep = [gap] := by
  have h := splitOn_append_left hsep hgap []
  rwa [List.append_nil, show ([] : List Char).splitOn sep = [[]] from rfl, List.modifyHead_cons,
    List.append_nil] at h

/-- Blanks behind a text are blanks behind its last part. -/
theorem map_trimEnd_splitOn_append (hsep : isBlank sep = false) (text : List Char)
    (hgap : allBlank gap = true) :
    ((text ++ gap).splitOn sep).map trimEnd = (text.splitOn sep).map trimEnd := by
  induction text with
  | nil =>
      have hend : trimEnd gap = trimEnd [] := trimEnd_append [] hgap
      rw [List.nil_append, splitOn_of_allBlank hsep hgap, List.map_singleton, hend]
      rfl
  | cons c rest ih =>
      rw [List.cons_append]
      by_cases hc : c = sep
      · rw [hc, splitOn_cons_self, splitOn_cons_self, List.map_cons, List.map_cons, ih]
      · rw [splitOn_cons_of_ne hc, splitOn_cons_of_ne hc]
        refine map_modifyHead_congr (fun x y hxy => ?_) ih
        rw [← trimEnd_cons_trimEnd c x, hxy, trimEnd_cons_trimEnd]

theorem map_trim_splitOn_trim (hsep : isBlank sep = false) (text : List Char) :
    ((trim text).splitOn sep).map trim = (text.splitOn sep).map trim :=
  map_trim_cut_trim (fun _ text hgap => splitOn_append_left hsep hgap text)
    (fun text _ hgap => map_trimEnd_splitOn_append hsep text hgap) text

end Collate.Text

import Collate.Proofs.Comparison.Composing
import Collate.Proofs.Lookup.Entry
import Collate.Proofs.Lookup.Spared
import Collate.Proofs.Sorter.Completing
import Collate.Proofs.Sorter.Sorting

/-!
# Sorting by one rule after another

A sorter with several rules puts its items in the order that it would find by sorting them
once for each rule, by the last rule first and by the first rule at the end
(`Sorter.sort_eq_sortSuccessively`).

## Strategy

`Sorter.sortByRule` replaces the rules of the sorter by a single one and sorts
(`Sorter.exists_sortByRule`).  By induction on the rules, what `Sorter.sortSuccessively` has
found after some of them is the order of their verdict: one more rule is one more stable sort
(`sortBy_verdict_cons`).
-/

namespace Collate.Sorter

variable {α : Type} {sorter later last : Sorter α}

/-! ## Replacing the rules -/

/-- Two sorters read items, compare and report in the same way, by whatever rules. -/
structure SameUpToRules (sorter later : Sorter α) : Prop where
  reader : later.reader = sorter.reader
  options : later.options = sorter.options
  outlet : later.bulletin.outlet = sorter.bulletin.outlet

theorem SameUpToRules.refl (sorter : Sorter α) : SameUpToRules sorter sorter := ⟨rfl, rfl, rfl⟩

theorem SameUpToRules.trans (h : SameUpToRules sorter later) (hlast : SameUpToRules later last) :
    SameUpToRules sorter last where
  reader := hlast.reader.trans h.reader
  options := hlast.options.trans h.options
  outlet := hlast.outlet.trans h.outlet

theorem SameSetup.sameUpToRules (h : SameSetup sorter later) : SameUpToRules sorter later :=
  ⟨h.reader, h.options, h.outlet⟩

theorem exists_setRules_of_calm (hcalm : sorter.hub.Calm) (rule : Rule) :
    ∃ later, setRules [rule] sorter = (.ok (), later) ∧ later.rules = [rule] ∧
      SameUpToRules sorter later ∧ later.hub.Calm := by
  have hrules : (sorter.withRules [rule]).rules = [rule] := rfl
  obtain ⟨hub, hpublish, hlater⟩ := Hub.exists_publish_of_calm hcalm
    ⟨"rules_changed", .rulesChanged (sorter.withRules [rule]).rules⟩
  refine ⟨{ sorter.withRules [rule] with hub }, ?_, hrules, ⟨rfl, rfl, rfl⟩, hlater⟩
  unfold setRules
  simp only [bind_apply, modify_apply, get_apply]
  unfold announce onHub
  rw [show (sorter.withRules [rule]).hub = sorter.hub from rfl, Announcement.eventName, hpublish]

/-! ## One sort after another -/

variable {view : α → Value} {items : List α} {value : α → Rule → Value} {rules : List Rule}

theorem sortBy_verdict_nil (reverse : Bool) (items : List α) :
    sortBy (verdict value reverse []) items = items := by
  apply sortBy_eq_of_stable .zero (.refl items)
  · exact List.pairwise_of_forall fun _ _ => Int.le_refl 0
  · intro x _
    rfl

variable [DecidableEq α]

/-- Sorts the items by a single rule. -/
def sortByRule (view : α → Value) (items : List α) (rule : Rule) : OnSorter α (List α) := do
  setRules [rule]
  return (← Sorter.sort view items).order

/-- Sorts the items once for each rule, by the last one first. -/
def sortSuccessively (view : α → Value) (items : List α) : List Rule → OnSorter α (List α)
  | [] => return items
  | rule :: rest => do
    let order ← sortSuccessively view items rest
    sortByRule view order rule

theorem exists_sortByRule {rule : Rule} (hcalm : sorter.hub.Calm)
    (hrandom : sorter.options.random = false) (hcustom : sorter.options.custom = none)
    (hlookup : ∀ x ∈ items,
      (sorter.reader.lookup (view x) rule).Returns sorter.bulletin.outlet (value x rule))
    (hvalues : ValuesConsistent (· ∈ items) value [rule]) :
    ∃ later, sortByRule view items rule sorter =
        (.ok (sortBy (verdict value sorter.options.reverse [rule]) items), later) ∧
      SameUpToRules sorter later ∧ later.hub.Calm := by
  obtain ⟨chosen, hchosen, hrules, hlike, hcalm'⟩ := exists_setRules_of_calm hcalm rule
  -- the new rules are the only thing that has changed about the sorter
  have hlookup' : ∀ x ∈ items, ∀ other ∈ chosen.rules,
      (chosen.reader.lookup (view x) other).Returns chosen.bulletin.outlet (value x other) := by
    intro x hx other hother
    rw [hrules, List.mem_singleton] at hother
    rw [hother, hlike.reader, hlike.outlet]
    exact hlookup x hx
  obtain ⟨result, later, hsort, horder, hsetup, hlater⟩ := exists_sort_verdict hcalm'
    (hlike.options ▸ hrandom) (hlike.options ▸ hcustom) hlookup' (hrules ▸ hvalues)
  refine ⟨later, ?_, hlike.trans hsetup.sameUpToRules, hlater⟩
  rw [hrules, hlike.options] at horder
  unfold sortByRule
  simp only [bind_apply, hchosen, hsort, horder, pure_apply]

/-- Sorting successively comes to the order of the verdict of all rules. -/
theorem exists_sortSuccessively (hcalm : sorter.hub.Calm)
    (hrandom : sorter.options.random = false) (hcustom : sorter.options.custom = none)
    (hlookup : ∀ x ∈ items, ∀ rule ∈ rules,
      (sorter.reader.lookup (view x) rule).Returns sorter.bulletin.outlet (value x rule))
    (hvalues : ValuesConsistent (· ∈ items) value rules) :
    ∃ last, sortSuccessively view items rules sorter =
        (.ok (sortBy (verdict value sorter.options.reverse rules) items), last) ∧
      SameUpToRules sorter last ∧ last.hub.Calm := by
  induction rules with
  | nil =>
      refine ⟨sorter, ?_, .refl sorter, hcalm⟩
      rw [sortBy_verdict_nil]
      rfl
  | cons rule rest ih =>
      have hrest : ValuesConsistent (· ∈ items) value rest :=
        hvalues.mono (fun _ hother => List.mem_cons_of_mem rule hother) fun _ hx => hx
      obtain ⟨between, hbetween, hlike, hcalm'⟩ := ih
        (fun x hx other hother => hlookup x hx other (List.mem_cons_of_mem rule hother)) hrest
      -- the next sort is one by the first rule alone, of what the other rules have made
      obtain ⟨hperm, -, -⟩ := sort_of_ranking (ranking_verdict sorter.options.reverse hrest)
      have hlookup' : ∀ x ∈ sortBy (verdict value sorter.options.reverse rest) items,
          (between.reader.lookup (view x) rule).Returns between.bulletin.outlet
            (value x rule) := by
        intro x hx
        rw [hlike.reader, hlike.outlet]
        exact hlookup x (hperm.mem_iff.mp hx) rule (List.mem_cons_self ..)
      have hvalues' : ValuesConsistent
          (· ∈ sortBy (verdict value sorter.options.reverse rest) items) value [rule] :=
        hvalues.mono (fun _ hother => List.mem_singleton.mp hother ▸ List.mem_cons_self ..)
          fun _ hx => hperm.mem_iff.mp hx
      obtain ⟨last, hlast, hlike', hcalm''⟩ := exists_sortByRule hcalm'
        (hlike.options ▸ hrandom) (hlike.options ▸ hcustom) hlookup' hvalues'
      refine ⟨last, ?_, hlike.trans hlike', hcalm''⟩
      rw [hlike.options, ← sortBy_verdict_cons sorter.options.reverse hvalues] at hlast
      rw [sortSuccessively, bind_apply, hbetween]
      exact hlast

/-- **Sorting by several rules is sorting by each of them**, the last one first, in the same
direction. -/
theorem sort_eq_sortSuccessively (sorter : Sorter α) (view : α → Value) (items : List α)
    (hrandom : sorter.options.random = false) (hcustom : sorter.options.custom = none)
    {value : α → Rule → Value}
    (hlookup : ∀ x ∈ items, ∀ rule ∈ sorter.rules,
      (sorter.reader.lookup (view x) rule).Returns sorter.bulletin.outlet (value x rule))
    (hcomparable : ∀ rule ∈ sorter.rules, Comparable items (value · rule))
    (hcalm : sorter.hub.Calm) :
    ∃ result later last, Sorter.sort view items sorter = (.ok result, later) ∧
      sortSuccessively view items sorter.rules sorter = (.ok result.order, last) := by
  have hvalues : ValuesConsistent (· ∈ items) value sorter.rules :=
    fun rule hrule => (hcomparable rule hrule).consistent
  obtain ⟨result, later, hsort, horder, -⟩ :=
    exists_sort_verdict hcalm hrandom hcustom hlookup hvalues
  obtain ⟨last, hlast, -⟩ := exists_sortSuccessively hcalm hrandom hcustom hlookup hvalues
  exact ⟨result, later, last, hsort, horder ▸ hlast⟩

/-- Six items, in reverse, by two entries: whoever has the same text comes by number, and the
item without a number comes last there. -/
theorem sort_eq_sortSuccessively_entries :
    let sorter : Sorter Nat := Sorter.create .plain
      [⟨.path ["parity"], none, true, by decide, by simp⟩,
        ⟨.path ["third"], none, false, by decide, by simp⟩]
      { reverse := true } (.opened 10 .journal)
    let third : Nat → Value := fun k => if k = 2 then .none else .int (k / 3)
    let view : Nat → Value := fun k =>
      .mapping k [("parity", .text (if k % 2 = 0 then "even" else "odd")), ("third", third k)]
    ∃ result later last, Sorter.sort view [0, 1, 2, 3, 4, 5] sorter = (.ok result, later) ∧
      sortSuccessively view [0, 1, 2, 3, 4, 5] sorter.rules sorter = (.ok result.order, last) := by
  intro sorter third view
  have hlookup : ∀ x ∈ [0, 1, 2, 3, 4, 5], ∀ rule ∈ sorter.rules,
      (sorter.reader.lookup (view x) rule).Returns sorter.bulletin.outlet
        (ItemReader.plain.valueOf (view x) rule) := by
    intro x hx rule _
    have haccepts : sorter.bulletin.outlet.Accepts := trivial
    have hfalters : ∀ y ∈ [0, 1, 2, 3, 4, 5], (view y).falters = false := by decide
    exact ItemReader.returns_lookup_plain haccepts (hfalters x hx) rule
  have hcomparable : ∀ rule ∈ sorter.rules,
      Comparable [0, 1, 2, 3, 4, 5] fun x => ItemReader.plain.valueOf (view x) rule := by
    intro rule hrule
    rcases List.mem_pair.mp hrule with rfl | rfl
    · -- the texts
      refine .inr (.inr fun x _ _ => ?_)
      dsimp only
      rw [ItemReader.plain_valueOf_of_lookup rfl rfl x rfl rfl rfl]
      exact ⟨_, rfl, rfl⟩
    · -- the numbers
      refine .inr (.inl fun x _ hpresent => ?_)
      have hthird : (third x).isNormal = true ∧ (third x).isAbsent = false := by
        simp only [third]
        split <;> exact ⟨rfl, rfl⟩
      dsimp only at hpresent ⊢
      rw [ItemReader.plain_valueOf_of_lookup rfl rfl x rfl hthird.1 hthird.2] at hpresent ⊢
      simp only [third] at hpresent ⊢
      split at hpresent
      · cases hpresent
      · next hother =>
        rw [if_neg hother]
        exact ⟨x / 3, rfl, rfl, rfl⟩
  have hcalm : sorter.hub.Calm := calm_create _ _ _ _
  exact sort_eq_sortSuccessively sorter view [0, 1, 2, 3, 4, 5] rfl rfl hlookup hcomparable hcalm

end Collate.Sorter

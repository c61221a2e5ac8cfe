import Collate.Proofs.Ordering.Merge
import Collate.Proofs.Ordering.Run

/-!
# The sort is stable

A sort whose questions are answered by a weak order arranges its items stably
(`sorts_sort`).

## Strategy

A merge of neighbouring runs sets apart what is in place already, at both ends, and so
comes to the middle with the invariant of a merge: the first item of the right run comes
before everything in the left one, and the last item of the left run after everything in
the right one.

The stack is described by its contents, the runs one behind the other from the bottom up
(`Arranges`).  Merging two neighbours rearranges a stretch of the contents stably, whatever
the powers of the borders are; they decide only how long the sort takes.
-/

namespace Collate.Ordering

variable {α : Type} {before seen : α → α → Bool} {left right kept other : List α}

/-! ## The middle of two runs -/

theorem sorts_mergeFrom (patience : Nat) (side : End) (order : WeakOrder before)
    (h : Mergeable (side.sees before) kept other)
    (hfirst : ∀ first ∈ other.head?, ∀ x ∈ kept, side.sees before first x = true) :
    Sorts (side.sees before) (kept ++ other)
      ((mergeRuns.mergeFrom patience side kept other).answeredBy before).items := by
  have order' := order.sees side
  cases other with
  | nil =>
      rw [List.append_nil]
      exact .refl h.kept_inOrder
  | cons first rest =>
      -- the first item of the second list is known to come first, so it is taken without a question
      have hturn : ∀ result, Sorts (side.sees before) (kept ++ rest) result →
          Sorts (side.sees before) (kept ++ first :: rest) (first :: result) := fun _ =>
        h.sorts_keptTurn order' 0 (by simp) (hfirst first rfl)
      have hsmaller : Mergeable (side.sees before) kept rest := h.drop_other 1
      unfold mergeRuns.mergeFrom
      dsimp only
      split
      · next left hleft => exact hturn left (hsmaller.sorts_finished? order' hleft)
      · rw [items_behind]
        exact hturn _ (sorts_mergeByItems side order hsmaller patience 0 0)

/-- Two runs whose ends are out of place are merged from the end of the shorter one. -/
theorem sorts_mergeMiddle (patience : Nat) (order : WeakOrder before)
    (hleft : InOrder before left) (hright : InOrder before right) {firstRight lastLeft : α}
    (hfirstRight : firstRight ∈ right.head?) (hlastLeft : lastLeft ∈ left.getLast?)
    (hfirst : ∀ x ∈ left, before firstRight x = true)
    (hlast : ∀ y ∈ right, before y lastLeft = true) :
    Sorts before (left ++ right)
      ((mergeRuns.mergeMiddle patience left right).answeredBy before).items := by
  unfold mergeRuns.mergeMiddle
  split
  · have hmergeable : Mergeable before left right := ⟨hleft, hright, lastLeft, hlastLeft, hlast⟩
    refine sorts_mergeFrom patience .front order hmergeable ?_
    intro first hhead
    cases Option.mem_unique hhead hfirstRight
    exact hfirst
  · -- from the back, the roles of the runs are exchanged and every list is turned around
    have hmergeable : Mergeable (End.back.sees before) right.reverse left.reverse := by
      refine ⟨inOrder_reverse.mpr hright, inOrder_reverse.mpr hleft, firstRight, ?_, ?_⟩
      · rw [List.getLast?_reverse]
        exact hfirstRight
      · intro y hy
        exact hfirst y (List.mem_reverse.mp hy)
    have hsorts := sorts_mergeFrom patience .back order hmergeable (by
      intro first hhead x hx
      rw [List.head?_reverse] at hhead
      cases Option.mem_unique hhead hlastLeft
      exact hlast x (List.mem_reverse.mp hx))
    have hreverse := Sorts.reverse hsorts
    rw [List.reverse_append, List.reverse_reverse, List.reverse_reverse] at hreverse
    rw [Inquiry.answeredBy_map]
    exact hreverse

/-! ## Neighbouring runs -/

theorem InOrder.not_before_head (order : WeakOrder before) {items : List α}
    (h : InOrder before items) {first : α} (hfirst : first ∈ items.head?) :
    ∀ y ∈ items, before y first = false := by
  cases items with
  | nil => cases hfirst
  | cons x rest =>
      cases hfirst
      exact not_before_of_head order h (order.irrefl first)

theorem InOrder.last_not_before (order : WeakOrder before) {items : List α}
    (h : InOrder before items) {last : α} (hlast : last ∈ items.getLast?) :
    ∀ x ∈ items, before last x = false := by
  have hreverse : InOrder (fun x y => before y x) items.reverse := inOrder_reverse.mpr h
  rw [← List.head?_reverse] at hlast
  intro x hx
  exact hreverse.not_before_head order.swap hlast x (List.mem_reverse.mpr hx)

/-- Two runs are arranged as soon as their middle is, if what is set apart of the left one
does not come behind the first item of the right one, and what is set apart of the right
one not before the last item of the left one. -/
theorem sorts_around (order : WeakOrder before) (hleft : InOrder before left)
    (hright : InOrder before right) {firstRight lastLeft : α}
    (hfirstRight : firstRight ∈ right.head?) (hlastLeft : lastLeft ∈ left.getLast?)
    {placed cut : Nat} (hplaced : ∀ x ∈ left.take placed, before firstRight x = false)
    (hcut : ∀ y ∈ right.drop cut, before y lastLeft = false) {middle : List α}
    (hmiddle : Sorts before (left.drop placed ++ right.take cut) middle) :
    Sorts before (left ++ right) (left.take placed ++ middle ++ right.drop cut) := by
  -- what is set apart in front stays in front of all of the right run
  have hplacedRight : Precedes before (left.take placed) right := by
    intro x hx y hy
    exact order.not_before_trans (hplaced x hx) (hright.not_before_head order hfirstRight y hy)
  -- and what is set apart behind stays behind all of the left one
  have hleftCut : Precedes before left (right.drop cut) := by
    intro x hx y hy
    exact order.not_before_trans (hleft.last_not_before order hlastLeft x hx) (hcut y hy)
  rw [← List.take_append_drop placed left] at hleft
  rw [← List.take_append_drop cut right] at hright
  obtain ⟨htakeOrder, -, htakeDrop⟩ := inOrder_append.mp hleft
  obtain ⟨-, hdropOrder, hmiddleCut⟩ := inOrder_append.mp hright
  have hbehind : Sorts before (left.drop placed ++ right.take cut ++ right.drop cut)
      (middle ++ right.drop cut) := by
    refine .append order hmiddle (.refl hdropOrder) ?_
    intro x hx y hy
    rcases List.mem_append.mp hx with hx | hx
    · exact hleftCut x (List.mem_of_mem_drop hx) y hy
    · exact hmiddleCut x hx y hy
  rw [List.append_assoc, List.take_append_drop] at hbehind
  have hall : Sorts before (left.take placed ++ (left.drop placed ++ right))
      (left.take placed ++ (middle ++ right.drop cut)) := by
    refine .append order (.refl htakeOrder) hbehind ?_
    intro x hx y hy
    rcases List.mem_append.mp hy with hy | hy
    · exact htakeDrop x hx y hy
    · exact hplacedRight x hx y hy
  rwa [← List.append_assoc, List.take_append_drop, ← List.append_assoc] at hall

/-- Two runs are in order already if the first item of the right one comes before nothing
in the left one. -/
theorem inOrder_append_of_head (order : WeakOrder before) (hleft : InOrder before left)
    (hright : InOrder before right) {firstRight : α} (hfirstRight : firstRight ∈ right.head?)
    (hbehind : ∀ x ∈ left, before firstRight x = false) : InOrder before (left ++ right) := by
  refine inOrder_append.mpr ⟨hleft, hright, ?_⟩
  intro x hx y hy
  exact order.not_before_trans (hbehind x hx) (hright.not_before_head order hfirstRight y hy)

theorem inOrder_append_of_no_border (hleft : InOrder before left) (hright : InOrder before right)
    (hnone : ∀ first last, right.head? = some first → left.getLast? = some last → False) :
    InOrder before (left ++ right) := by
  rcases List.eq_nil_or_concat left with rfl | ⟨front, last, rfl⟩
  · exact hright
  cases right with
  | nil => rwa [List.append_nil]
  | cons first rest => exact (hnone first last rfl (by simp)).elim

/-- What is set apart at the end of a run does not reach its first item, if that comes
before an item that nothing set apart comes before. -/
theorem head?_take_of_before {y first : α} {cut : Nat} (hfirst : first ∈ right.head?)
    (hbefore : before first y = true) (hcut : ∀ x ∈ right.drop cut, before x y = false) :
    first ∈ (right.take cut).head? := by
  cases right with
  | nil => cases hfirst
  | cons x rest =>
      cases hfirst
      cases cut with
      | zero =>
          have hnot := hcut first (List.mem_cons_self ..)
          rw [hbefore] at hnot
          cases hnot
      | succ cut => rfl

theorem sorts_mergeRuns (patience : Nat) (order : WeakOrder before) (hleft : InOrder before left)
    (hright : InOrder before right) :
    Sorts before (left ++ right) ((mergeRuns patience left right).answeredBy before).items := by
  unfold mergeRuns
  split
  · next firstRight lastLeft hfirstRight hlastLeft =>
    rw [Inquiry.answeredBy_bind]
    generalize hplacedCount : (gallop .front
      (fun item => (Inquiry.comesBefore firstRight item).map not) left).answeredBy before = placed
    obtain ⟨hplaced, hfirst⟩ := gallop_not_before .front order hleft firstRight hplacedCount
    dsimp only
    split
    · next hdrop =>
      have htake := List.take_append_drop placed left
      rw [hdrop, List.append_nil] at htake
      rw [htake] at hplaced
      exact .refl (inOrder_append_of_head order hleft hright hfirstRight hplaced)
    · next hdrop =>
      rw [Inquiry.answeredBy_bind]
      generalize hbackCount : (gallop .back
        (fun item => (Inquiry.comesBefore item lastLeft).map not) right.reverse).answeredBy
          before = placedBack
      obtain ⟨hback, hlast⟩ := gallop_not_before .back order (inOrder_reverse.mpr hright) lastLeft
        hbackCount
      rw [List.take_reverse] at hback
      rw [List.drop_reverse] at hlast
      -- the search from the back counts what to set apart at the end of the right run
      have hcut : ∀ y ∈ right.drop (right.length - placedBack), before y lastLeft = false := by
        intro y hy
        exact hback y (List.mem_reverse.mpr hy)
      have hlastLeft' : lastLeft ∈ (left.drop placed).getLast? := by
        rwa [← List.take_append_drop placed left, List.getLast?_append_of_ne_nil _ hdrop]
          at hlastLeft
      have hfirstRight' := head?_take_of_before hfirstRight
        (hfirst lastLeft (List.mem_of_getLast? hlastLeft')) hcut
      rw [Inquiry.answeredBy_map]
      refine sorts_around order hleft hright hfirstRight hlastLeft hplaced hcut ?_
      refine sorts_mergeMiddle patience order (hleft.sublist (List.drop_sublist placed left))
        (hright.sublist (List.take_sublist _ right)) hfirstRight' hlastLeft' hfirst ?_
      intro y hy
      exact hlast y (List.mem_reverse.mpr hy)
  · next hnone => exact .refl (inOrder_append_of_no_border hleft hright hnone)

/-! ## The stack of runs -/

/-- The runs of a stack are in order, and its contents have the items of a list in its
order, class by class. -/
structure Arranges (before : α → α → Bool) (items : List α) (stack : Stack α) : Prop where
  inOrder : ∀ pending ∈ stack, InOrder before pending.run
  sameClasses : SameClasses before items (Stack.contents stack)

theorem Arranges.of_sameClasses {items others : List α} {stack : Stack α}
    (hclasses : SameClasses before items others) (h : Arranges before others stack) :
    Arranges before items stack := ⟨h.inOrder, hclasses.trans h.sameClasses⟩

theorem Arranges.push {items run : List α} {stack : Stack α} (h : Arranges before items stack)
    (hrun : InOrder before run) (power : Nat) :
    Arranges before (items ++ run) (⟨run, power⟩ :: stack) := by
  refine ⟨?_, h.sameClasses.append (.refl run)⟩
  rw [List.forall_mem_cons]
  exact ⟨hrun, h.inOrder⟩

theorem Arranges.self {stack : Stack α} (h : ∀ pending ∈ stack, InOrder before pending.run) :
    Arranges before (Stack.contents stack) stack := ⟨h, .refl _⟩

theorem arranges_mergeAbove (order : WeakOrder before) (patience power : Nat) {run : List α}
    (borderBelow : Nat) {stack : Stack α} (hrun : InOrder before run)
    (hstack : ∀ pending ∈ stack, InOrder before pending.run) :
    Arranges before (Stack.contents stack ++ run)
      ((mergeAbove patience power run borderBelow stack).answeredBy before).1 := by
  induction stack generalizing patience run borderBelow with
  | nil => exact Arranges.push (.self hstack) hrun borderBelow
  | cons below rest ih =>
      unfold mergeAbove
      split
      · rw [List.forall_mem_cons] at hstack
        have hmerged := sorts_mergeRuns patience order hstack.1 hrun
        have hclasses : SameClasses before (Stack.contents (below :: rest) ++ run)
            (Stack.contents rest ++
              ((mergeRuns patience below.run run).answeredBy before).items) := by
          rw [Stack.contents, List.append_assoc]
          exact .append (.refl _) hmerged.sameClasses
        rw [Inquiry.answeredBy_bind]
        exact .of_sameClasses hclasses (ih _ below.power hmerged.inOrder hstack.2)
      · exact Arranges.push (.self hstack) hrun borderBelow

theorem arranges_addRun (order : WeakOrder before) (total patience : Nat) {run : List α}
    {stack : Stack α} (hrun : InOrder before run)
    (hstack : ∀ pending ∈ stack, InOrder before pending.run) :
    Arranges before (Stack.contents stack ++ run)
      ((addRun total patience run stack).answeredBy before).1 := by
  cases stack with
  | nil => exact Arranges.push (.self hstack) hrun 0
  | cons top below =>
      rw [List.forall_mem_cons] at hstack
      unfold addRun
      rw [Inquiry.answeredBy_map]
      exact (arranges_mergeAbove order patience _ top.power hstack.1 hstack.2).push hrun _

theorem sorts_mergeAll (order : WeakOrder before) (patience : Nat) {stack : Stack α}
    (hstack : ∀ pending ∈ stack, InOrder before pending.run) :
    Sorts before (Stack.contents stack) ((mergeAll patience stack).answeredBy before) := by
  -- the three topmost runs become two, whichever neighbours are merged
  induction patience, stack using mergeAll.induct with
  | case1 patience =>
      rw [mergeAll]
      exact .refl List.Pairwise.nil
  | case2 patience last =>
      rw [mergeAll]
      exact .refl (hstack last (List.mem_singleton_self last))
  | case3 patience top below =>
      rw [List.forall_mem_cons, List.forall_mem_cons] at hstack
      rw [mergeAll, Inquiry.answeredBy_map]
      exact sorts_mergeRuns patience order hstack.2.1 hstack.1
  | case4 patience top middle below rest hshorter ih =>
      rw [List.forall_mem_cons, List.forall_mem_cons, List.forall_mem_cons] at hstack
      obtain ⟨htop, hmiddle, hbelow, hrest⟩ := hstack
      have hmerged := sorts_mergeRuns patience order hbelow hmiddle
      rw [mergeAll, if_pos hshorter, Inquiry.answeredBy_bind]
      refine .of_sameClasses ?_
        (ih ((mergeRuns patience below.run middle.run).answeredBy before) ?_)
      · have hclasses := (SameClasses.append (.refl (Stack.contents rest))
          hmerged.sameClasses).append (.refl top.run)
        rwa [← List.append_assoc (Stack.contents rest)] at hclasses
      · rw [List.forall_mem_cons, List.forall_mem_cons]
        exact ⟨htop, hmerged.inOrder, hrest⟩
  | case5 patience top middle below rest hshorter ih =>
      rw [List.forall_mem_cons, List.forall_mem_cons, List.forall_mem_cons] at hstack
      obtain ⟨htop, hmiddle, hbelow, hrest⟩ := hstack
      have hmerged := sorts_mergeRuns patience order hmiddle htop
      rw [mergeAll, if_neg hshorter, Inquiry.answeredBy_bind]
      refine .of_sameClasses ?_ (ih ((mergeRuns patience middle.run top.run).answeredBy before) ?_)
      · have hclasses := SameClasses.append (.refl (Stack.contents (below :: rest)))
          hmerged.sameClasses
        rwa [← List.append_assoc] at hclasses
      · rw [List.forall_mem_cons, List.forall_mem_cons]
        exact ⟨hmerged.inOrder, hbelow, hrest⟩

/-! ## The sort -/

theorem sorts_sortOnto (order : WeakOrder before) (least total patience : Nat) {stack : Stack α}
    {items : List α} (hstack : ∀ pending ∈ stack, InOrder before pending.run) :
    Sorts before (Stack.contents stack ++ items)
      ((sortOnto least total patience stack items).answeredBy before) := by
  induction patience, stack, items using sortOnto.induct with
  | case1 patience stack =>
      rw [sortOnto, List.append_nil]
      exact sorts_mergeAll order patience hstack
  | case2 patience stack first rest ih =>
      rw [sortOnto, Inquiry.answeredBy_bind]
      cases htaken : (takeRun least first rest).answeredBy before with
      | mk run count =>
        have hrun := sorts_takeRun order least first rest htaken
        have hadded := arranges_addRun order total patience hrun.inOrder hstack
        -- the run was taken from the front of the items, and merging keeps the classes
        have hclasses : SameClasses before (Stack.contents stack ++ first :: rest)
            (Stack.contents ((addRun total patience run stack).answeredBy before).1 ++
              rest.drop count) := by
          have hsplit := (SameClasses.trans (.append (.refl (Stack.contents stack))
            hrun.sameClasses) hadded.sameClasses).append (.refl (rest.drop count))
          rwa [List.append_assoc, List.cons_append, List.take_append_drop] at hsplit
        dsimp only
        rw [Inquiry.answeredBy_bind]
        exact .of_sameClasses hclasses (ih count _ _ hadded.inOrder)

/-- **A sort arranges its items stably**, if a weak order answers its questions. -/
theorem sorts_sort (order : WeakOrder before) (items : List α) :
    Sorts before items ((sort items).answeredBy before) := by
  have hnone : ∀ pending ∈ ([] : Stack α), InOrder before pending.run := by
    intro pending hpending
    cases hpending
  exact sorts_sortOnto order (leastRun items.length) items.length longStreak hnone

end Collate.Ordering

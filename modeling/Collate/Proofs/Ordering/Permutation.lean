import Mathlib.Data.List.Basic
import Mathlib.Data.List.Perm.Basic
import Collate.Ordering.Sort
import Collate.Proofs.Ordering.Questions

/-!
# A sort returns its items

Whatever answers a sort gets, consistent or not, it asks about the items of its list
only, and returns them all (`asksOnly_sort`).

## Strategy

Every part of the sort has its own lemma, proved along the recursion of the part.  A
search may count whatever it likes, because its caller cuts a list at the count and puts
the pieces together again.
-/

namespace Collate.Ordering

variable {α : Type} {among : α → Prop}

/-! ## Searching -/

variable {stays : α → Inquiry α Bool} {items : List α}

theorem asksOnly_comesBefore (side : End) {x y : α} (hx : among x) (hy : among y) :
    (side.comesBefore x y).AsksOnly among fun _ => True := by
  cases side with
  | front => exact Inquiry.asksOnly_comesBefore hx hy
  | back => exact Inquiry.asksOnly_comesBefore hy hx

theorem asksOnly_bisect (side : End)
    (hstays : ∀ item ∈ items, (stays item).AsksOnly among fun _ => True) (start count : Nat) :
    (bisect side stays items start count).AsksOnly among fun _ => True := by
  induction count using Nat.strongRecOn generalizing start with
  | ind count ih =>
    unfold bisect
    split
    · trivial
    next hcount =>
    dsimp only
    split
    · trivial
    next item hitem =>
    -- either half is smaller than the stretch
    have hhalf := side.middle_lt (Nat.pos_of_ne_zero hcount)
    refine (hstays item (List.mem_of_getElem? hitem)).bind fun answer _ => ?_
    split
    · exact ih _ (by omega) _
    · exact ih _ hhalf _

theorem asksOnly_gallopFrom (side : End)
    (hstays : ∀ item ∈ items, (stays item).AsksOnly among fun _ => True) (last next : Nat) :
    (gallopFrom side stays items last next).AsksOnly among fun _ => True := by
  induction last, next using gallopFrom.induct items with
  | case1 last next hnext =>
      unfold gallopFrom
      split
      · exact asksOnly_bisect side hstays _ _
      next item hitem =>
      rw [hnext] at hitem
      cases hitem
  | case2 last next item hitem ih =>
      unfold gallopFrom
      split
      · exact asksOnly_bisect side hstays _ _
      next item' hitem' =>
      refine (hstays item' (List.mem_of_getElem? hitem')).bind fun answer _ => ?_
      split
      · exact ih
      · exact asksOnly_bisect side hstays _ _

theorem asksOnly_gallop (side : End)
    (hstays : ∀ item ∈ items, (stays item).AsksOnly among fun _ => True) :
    (gallop side stays items).AsksOnly among fun _ => True := by
  cases items with
  | nil => trivial
  | cons first rest =>
      refine (hstays first (List.mem_cons_self ..)).bind fun answer _ => ?_
      split
      · exact asksOnly_gallopFrom side hstays 0 1
      · trivial

/-! ## Runs -/

theorem asksOnly_continuing (descending : Bool) {previous : α} (hprevious : among previous)
    (hitems : ∀ item ∈ items, among item) :
    (continuing descending previous items).AsksOnly among fun _ => True := by
  induction items generalizing previous with
  | nil => trivial
  | cons item rest ih =>
      rw [List.forall_mem_cons] at hitems
      refine (Inquiry.asksOnly_comesBefore hitems.1 hprevious).bind fun answer _ => ?_
      split
      · exact (ih hitems.1 hitems.2).map fun _ _ => trivial
      · trivial

theorem asksOnly_firstRun {first : α} (hfirst : among first)
    (hitems : ∀ item ∈ items, among item) :
    (firstRun first items).AsksOnly among fun _ => True := by
  cases items with
  | nil => trivial
  | cons second rest =>
      rw [List.forall_mem_cons] at hitems
      refine (Inquiry.asksOnly_comesBefore hitems.1 hfirst).bind fun descending _ => ?_
      exact (asksOnly_continuing descending hitems.1 hitems.2).map fun _ _ => trivial

theorem perm_insertBehind (item : α) (count : Nat) (run : List α) :
    (insertBehind item count run).Perm (run ++ [item]) := by
  have hmiddle : (insertBehind item count run).Perm (item :: (run.take count ++ run.drop count)) :=
    List.perm_middle
  rw [List.take_append_drop] at hmiddle
  exact hmiddle.trans (List.perm_append_singleton item run).symm

theorem asksOnly_insertAll {run : List α} (hrun : ∀ item ∈ run, among item)
    (hitems : ∀ item ∈ items, among item) :
    (insertAll run items).AsksOnly among fun longer => longer.Perm (run ++ items) := by
  induction items generalizing run with
  | nil =>
      rw [List.append_nil]
      exact List.Perm.refl run
  | cons item rest ih =>
      rw [List.forall_mem_cons] at hitems
      have hstays : ∀ other ∈ run, ((Inquiry.comesBefore item other).map not).AsksOnly among
          fun _ => True := fun other hother =>
        (Inquiry.asksOnly_comesBefore hitems.1 (hrun other hother)).map fun _ _ => trivial
      refine (asksOnly_bisect .front hstays 0 run.length).bind fun count _ => ?_
      have hperm := perm_insertBehind item count run
      -- the longer run asks about the same items
      have hlonger : ∀ other ∈ insertBehind item count run, among other := by
        intro other hother
        rw [hperm.mem_iff, List.mem_append, List.mem_singleton] at hother
        rcases hother with hother | rfl
        · exact hrun other hother
        · exact hitems.1
      refine (ih hlonger hitems.2).mono fun longer hlonger => hlonger.trans ?_
      have happend := hperm.append_right rest
      rwa [List.append_assoc] at happend

theorem take_append_drop_take {count wanted : Nat} (h : count ≤ wanted) (items : List α) :
    items.take count ++ (items.take wanted).drop count = items.take wanted := by
  have htake : items.take count = (items.take wanted).take count := by
    rw [List.take_take, Nat.min_eq_left h]
  rw [htake, List.take_append_drop]

theorem asksOnly_takeRun (least : Nat) {first : α} (hfirst : among first)
    (hitems : ∀ item ∈ items, among item) :
    (takeRun least first items).AsksOnly among
      fun found => found.1.Perm (first :: items.take found.2) := by
  refine (asksOnly_firstRun hfirst hitems).bind fun result _ => ?_
  obtain ⟨count, descending⟩ := result
  dsimp only
  -- a run that descends is turned around
  have hrun : (if descending then (first :: items.take count).reverse
      else first :: items.take count).Perm (first :: items.take count) := by
    split
    · exact List.reverse_perm _
    · exact List.Perm.refl _
  split
  next hcount =>
    have hmem : ∀ item ∈ first :: items.take count, among item := by
      rw [List.forall_mem_cons]
      exact ⟨hfirst, fun item hitem => hitems item (List.mem_of_mem_take hitem)⟩
    refine (asksOnly_insertAll (fun item hitem => hmem item (hrun.mem_iff.mp hitem))
      fun item hitem => hitems item (List.mem_of_mem_take (List.mem_of_mem_drop hitem))).map
      fun longer hlonger => hlonger.trans ?_
    have happend := hrun.append_right ((items.take (min (least - 1) items.length)).drop count)
    rwa [List.cons_append, take_append_drop_take (Nat.le_of_lt hcount)] at happend
  · exact hrun

/-! ## Merging -/

/-- What is left when nothing is left to ask is all that was there. -/
theorem perm_of_finished? {kept other left : List α} (h : finished? kept other = some left) :
    left.Perm (kept ++ other) := by
  unfold finished? at h
  split at h
  · cases h
    exact List.Perm.refl _
  · cases h
    rw [List.append_nil]
  · cases h
    exact List.perm_append_comm
  · cases h

theorem perm_getD_finished? (kept other : List α) :
    ((finished? kept other).getD (kept ++ other)).Perm (kept ++ other) := by
  cases h : finished? kept other with
  | none => exact List.Perm.refl _
  | some left => exact perm_of_finished? h

/-- After a turn a gallop goes on galloping or item by item. -/
theorem goOn_cases (side : End) (patience : Nat) (turn : Turn) (round : Round) (streak : Bool)
    (kept other : List α) (bound : Nat) (h : kept.length + other.length < bound) :
    (∃ patience' turn' round', goOn side patience turn round streak kept other bound h =
      mergeByGallop side patience' turn' round' kept other) ∨
    ∃ patience', goOn side patience turn round streak kept other bound h =
      mergeByItems side patience' 0 0 kept other := by
  rw [goOn.eq_def]
  cases round with
  | firstTurn => exact .inl ⟨_, _, _, rfl⟩
  | secondTurn earlier =>
      dsimp only
      split
      · exact .inl ⟨_, _, _, rfl⟩
      · exact .inr ⟨_, rfl⟩

theorem asksOnly_behind {taken left all : List α} {inquiry : Inquiry α (Merged α)}
    (h : inquiry.AsksOnly among fun merged => merged.items.Perm left)
    (hperm : (taken ++ left).Perm all) :
    (inquiry.map (Merged.behind taken)).AsksOnly among fun merged => merged.items.Perm all :=
  h.map fun _ hmerged => (hmerged.append_left taken).trans hperm

theorem perm_take_item (item : α) (kept others : List α) :
    ([item] ++ (kept ++ others)).Perm (kept ++ item :: others) := by
  show (item :: (kept ++ others)).Perm _
  exact List.perm_middle.symm

theorem perm_take_kept (count : Nat) (kept : List α) (item : α) (others : List α) :
    (kept.take count ++ [item] ++ (kept.drop count ++ others)).Perm (kept ++ item :: others) := by
  have happend := (perm_take_item item (kept.drop count) others).append_left (kept.take count)
  rw [← List.append_assoc (kept.take count) (kept.drop count), List.take_append_drop] at happend
  rwa [List.append_assoc]

theorem perm_take_other (count : Nat) (item : α) (kept other : List α) :
    (other.take count ++ [item] ++ (kept ++ other.drop count)).Perm (item :: kept ++ other) := by
  have hcomm : (other.take count ++ ((item :: kept) ++ other.drop count)).Perm
      ((item :: kept) ++ (other.take count ++ other.drop count)) :=
    List.perm_append_comm_assoc _ _ _
  rwa [List.take_append_drop, List.cons_append, List.append_cons] at hcomm

/-- Merging fewer items than that asks about them only and returns them all, whichever way
it begins. -/
def KeepsFewer (side : End) (among : α → Prop) (total : Nat) : Prop :=
  ∀ kept other : List α, kept.length + other.length < total →
    (∀ item ∈ kept, among item) → (∀ item ∈ other, among item) →
    (∀ patience keptStreak otherStreak,
      (mergeByItems side patience keptStreak otherStreak kept other).AsksOnly among
        fun merged => merged.items.Perm (kept ++ other)) ∧
    ∀ patience turn round,
      (mergeByGallop side patience turn round kept other).AsksOnly among
        fun merged => merged.items.Perm (kept ++ other)

theorem perm_append_of_finished? {kept other left taken all : List α}
    (hleft : finished? kept other = some left) (hperm : (taken ++ (kept ++ other)).Perm all) :
    (taken ++ left).Perm all :=
  ((perm_of_finished? hleft).append_left taken).trans hperm

theorem asksOnly_mergeByItems_of_fewer (side : End) {kept other : List α}
    (hkept : ∀ item ∈ kept, among item) (hother : ∀ item ∈ other, among item)
    (hfewer : KeepsFewer side among (kept.length + other.length))
    (patience keptStreak otherStreak : Nat) :
    (mergeByItems side patience keptStreak otherStreak kept other).AsksOnly among
      fun merged => merged.items.Perm (kept ++ other) := by
  rw [mergeByItems.eq_def]
  split
  · next x x' rest y others =>
    have hrest : ∀ item ∈ x' :: rest, among item := (List.forall_mem_cons.mp hkept).2
    have hothers : ∀ item ∈ others, among item := (List.forall_mem_cons.mp hother).2
    refine (asksOnly_comesBefore side (hother y (List.mem_cons_self ..))
      (hkept x (List.mem_cons_self ..))).bind fun answer _ => ?_
    split
    · have hperm : ([y] ++ (x :: x' :: rest ++ others)).Perm (x :: x' :: rest ++ y :: others) :=
        perm_take_item y _ others
      split
      · next left hleft => exact perm_append_of_finished? hleft hperm
      · refine asksOnly_behind ?_ hperm
        obtain ⟨hitems, hgallop⟩ := hfewer _ _ (by simp) hkept hothers
        split
        · exact hgallop _ _ _
        · exact hitems _ _ _
    · have hperm : ([x] ++ (x' :: rest ++ y :: others)).Perm (x :: x' :: rest ++ y :: others) :=
        List.Perm.refl _
      split
      · next left hleft => exact perm_append_of_finished? hleft hperm
      · refine asksOnly_behind ?_ hperm
        obtain ⟨hitems, hgallop⟩ := hfewer _ _ (by simp) hrest hother
        split
        · exact hgallop _ _ _
        · exact hitems _ _ _
  · exact perm_getD_finished? _ _

theorem asksOnly_goOn {side : End} {total : Nat} (hfewer : KeepsFewer side among total)
    {kept other : List α} (hkept : ∀ item ∈ kept, among item)
    (hother : ∀ item ∈ other, among item) (hlength : kept.length + other.length < total)
    (patience : Nat) (turn : Turn) (round : Round) (streak : Bool) :
    (goOn side patience turn round streak kept other total hlength).AsksOnly among
      fun merged => merged.items.Perm (kept ++ other) := by
  obtain ⟨hitems, hgallop⟩ := hfewer kept other hlength hkept hother
  -- whichever way it goes on, there are fewer items now
  rcases goOn_cases side patience turn round streak kept other total hlength with
    ⟨patience', turn', round', hgoOn⟩ | ⟨patience', hgoOn⟩
  · rw [hgoOn]
    exact hgallop patience' turn' round'
  · rw [hgoOn]
    exact hitems patience' 0 0

theorem asksOnly_mergeByGallop_of_fewer (side : End) {kept other : List α}
    (hkept : ∀ item ∈ kept, among item) (hother : ∀ item ∈ other, among item)
    (hfewer : KeepsFewer side among (kept.length + other.length))
    (patience : Nat) (turn : Turn) (round : Round) :
    (mergeByGallop side patience turn round kept other).AsksOnly among
      fun merged => merged.items.Perm (kept ++ other) := by
  rw [mergeByGallop.eq_def]
  split
  · next x x' rest y others =>
    have hrest : ∀ item ∈ x' :: rest, among item := (List.forall_mem_cons.mp hkept).2
    have hothers : ∀ item ∈ others, among item := (List.forall_mem_cons.mp hother).2
    cases turn with
    | kept =>
        have hstays : ∀ item ∈ x :: x' :: rest,
            ((side.comesBefore y item).map not).AsksOnly among fun _ => True := fun item hitem =>
          (asksOnly_comesBefore side (hother y (List.mem_cons_self ..)) (hkept item hitem)).map
            fun _ _ => trivial
        refine (asksOnly_gallop side hstays).bind fun count _ => ?_
        -- the streak, the item of the other list, and what is left of both
        have hperm := perm_take_kept count (x :: x' :: rest) y others
        split
        · next left hleft =>
          have hall := perm_append_of_finished? hleft hperm
          rwa [List.append_assoc] at hall
        · refine asksOnly_behind (asksOnly_goOn hfewer ?_ hothers _ _ _ _ _) hperm
          intro item hitem
          exact hkept item (List.mem_of_mem_drop hitem)
    | other =>
        have hstays : ∀ item ∈ y :: others,
            (side.comesBefore item x).AsksOnly among fun _ => True := fun item hitem =>
          asksOnly_comesBefore side (hother item hitem) (hkept x (List.mem_cons_self ..))
        refine (asksOnly_gallop side hstays).bind fun count _ => ?_
        have hperm := perm_take_other count x (x' :: rest) (y :: others)
        split
        · next left hleft =>
          have hall := perm_append_of_finished? hleft hperm
          rwa [List.append_assoc] at hall
        · refine asksOnly_behind (asksOnly_goOn hfewer hrest ?_ _ _ _ _ _) hperm
          intro item hitem
          exact hother item (List.mem_of_mem_drop hitem)
  · exact perm_getD_finished? _ _

theorem keepsFewer (side : End) (among : α → Prop) (total : Nat) :
    KeepsFewer side among total := by
  -- every turn of either merge takes an item at least, so the items become fewer
  induction total with
  | zero =>
      intro kept other hlength
      exact absurd hlength (Nat.not_lt_zero _)
  | succ total ih =>
      intro kept other hlength hkept hother
      have hfewer : KeepsFewer side among (kept.length + other.length) := by
        intro kept' other' hlength'
        exact ih kept' other' (by omega)
      exact ⟨asksOnly_mergeByItems_of_fewer side hkept hother hfewer,
        asksOnly_mergeByGallop_of_fewer side hkept hother hfewer⟩

theorem asksOnly_mergeByItems (side : End) (patience : Nat) {kept other : List α}
    (hkept : ∀ item ∈ kept, among item) (hother : ∀ item ∈ other, among item) :
    (mergeByItems side patience 0 0 kept other).AsksOnly among
      fun merged => merged.items.Perm (kept ++ other) :=
  (keepsFewer side among _ kept other (Nat.lt_succ_self _) hkept hother).1 patience 0 0

theorem asksOnly_mergeFrom (patience : Nat) (side : End) {kept other : List α}
    (hkept : ∀ item ∈ kept, among item) (hother : ∀ item ∈ other, among item) :
    (mergeRuns.mergeFrom patience side kept other).AsksOnly among
      fun merged => merged.items.Perm (kept ++ other) := by
  unfold mergeRuns.mergeFrom
  split
  · show kept.Perm (kept ++ [])
    rw [List.append_nil]
  · next first rest =>
    rw [List.forall_mem_cons] at hother
    have hperm : ([first] ++ (kept ++ rest)).Perm (kept ++ first :: rest) :=
      perm_take_item first kept rest
    split
    · next left hleft => exact perm_append_of_finished? hleft hperm
    · exact asksOnly_behind (asksOnly_mergeByItems side _ hkept hother.2) hperm

theorem asksOnly_mergeMiddle (patience : Nat) {left right : List α}
    (hleft : ∀ item ∈ left, among item) (hright : ∀ item ∈ right, among item) :
    (mergeRuns.mergeMiddle patience left right).AsksOnly among
      fun merged => merged.items.Perm (left ++ right) := by
  unfold mergeRuns.mergeMiddle
  split
  · exact asksOnly_mergeFrom patience .front hleft hright
  · refine (asksOnly_mergeFrom patience .back
      (fun item hitem => hright item (List.mem_reverse.mp hitem))
      fun item hitem => hleft item (List.mem_reverse.mp hitem)).map fun merged hmerged => ?_
    -- from the back, both lists are turned around, and so is what comes of them
    rw [← List.reverse_append] at hmerged
    exact (List.reverse_perm _).trans (hmerged.trans (List.reverse_perm _))

theorem asksOnly_mergeRuns (patience : Nat) {left right : List α}
    (hleft : ∀ item ∈ left, among item) (hright : ∀ item ∈ right, among item) :
    (mergeRuns patience left right).AsksOnly among
      fun merged => merged.items.Perm (left ++ right) := by
  unfold mergeRuns
  split
  · next firstRight lastLeft hfirstRight hlastLeft =>
    have hfirst := hright firstRight (List.mem_of_mem_head? hfirstRight)
    have hlast := hleft lastLeft (List.mem_of_getLast? hlastLeft)
    refine (asksOnly_gallop .front fun item hitem =>
      (Inquiry.asksOnly_comesBefore hfirst (hleft item hitem)).map fun _ _ => trivial).bind
      fun placed _ => ?_
    dsimp only
    split
    · exact List.Perm.refl _
    · refine (asksOnly_gallop .back fun item hitem =>
        (Inquiry.asksOnly_comesBefore (hright item (List.mem_reverse.mp hitem)) hlast).map
          fun _ _ => trivial).bind fun placedBack _ => ?_
      refine (asksOnly_mergeMiddle patience
        (fun item hitem => hleft item (List.mem_of_mem_drop hitem))
        fun item hitem => hright item (List.mem_of_mem_take hitem)).map fun merged hmerged => ?_
      -- what is set apart on either side goes back where it was
      have hall := (hmerged.append_left (left.take placed)).append_right
        (right.drop (right.length - placedBack))
      rwa [← List.append_assoc (left.take placed), List.take_append_drop,
        List.append_assoc left, List.take_append_drop] at hall
  · exact List.Perm.refl _

/-! ## The stack of runs -/

/-- The items of a stack, in the order of the list they come from. -/
def Stack.contents : Stack α → List α
  | [] => []
  | top :: below => Stack.contents below ++ top.run

theorem Stack.forall_mem_contents_cons {top : Pending α} {below : Stack α} :
    (∀ item ∈ Stack.contents (top :: below), among item) ↔
      (∀ item ∈ Stack.contents below, among item) ∧ ∀ item ∈ top.run, among item :=
  List.forall_mem_append

theorem asksOnly_mergeAbove (patience power : Nat) {run : List α} (borderBelow : Nat)
    {stack : Stack α} (hrun : ∀ item ∈ run, among item)
    (hstack : ∀ item ∈ Stack.contents stack, among item) :
    (mergeAbove patience power run borderBelow stack).AsksOnly among
      fun result => (Stack.contents result.1).Perm (Stack.contents stack ++ run) := by
  induction stack generalizing patience run borderBelow with
  | nil => exact List.Perm.refl _
  | cons below rest ih =>
      rw [Stack.forall_mem_contents_cons] at hstack
      unfold mergeAbove
      split
      · refine (asksOnly_mergeRuns patience hstack.2 hrun).bind fun merged hmerged => ?_
        have hitems : ∀ item ∈ merged.items, among item := by
          intro item hitem
          rw [hmerged.mem_iff, List.mem_append] at hitem
          exact hitem.elim (hstack.2 item) (hrun item)
        refine (ih merged.patience below.power hitems hstack.1).mono fun result hresult => ?_
        rw [Stack.contents, List.append_assoc]
        exact hresult.trans (hmerged.append_left _)
      · exact List.Perm.refl _

theorem asksOnly_addRun (total patience : Nat) (run : List α) {stack : Stack α}
    (hstack : ∀ item ∈ Stack.contents stack, among item) :
    (addRun total patience run stack).AsksOnly among
      fun result => (Stack.contents result.1).Perm (Stack.contents stack ++ run) := by
  cases stack with
  | nil => exact List.Perm.refl _
  | cons top below =>
      rw [Stack.forall_mem_contents_cons] at hstack
      exact (asksOnly_mergeAbove patience _ top.power hstack.2 hstack.1).map
        fun result hresult => hresult.append_right run

theorem asksOnly_mergeAll (patience : Nat) {stack : Stack α}
    (hstack : ∀ item ∈ Stack.contents stack, among item) :
    (mergeAll patience stack).AsksOnly among
      fun result => result.Perm (Stack.contents stack) := by
  induction patience, stack using mergeAll.induct with
  | case1 patience =>
      rw [mergeAll]
      exact List.Perm.refl _
  | case2 patience last =>
      rw [mergeAll]
      exact List.Perm.refl _
  | case3 patience top below =>
      rw [Stack.forall_mem_contents_cons, Stack.forall_mem_contents_cons] at hstack
      rw [mergeAll]
      exact (asksOnly_mergeRuns patience hstack.1.2 hstack.2).map fun merged hmerged => hmerged
  | case4 patience top middle below rest hshorter ih =>
      have hmiddle := Stack.forall_mem_contents_cons.mp (Stack.forall_mem_contents_cons.mp hstack).1
      have hbelow := Stack.forall_mem_contents_cons.mp hmiddle.1
      rw [mergeAll, if_pos hshorter]
      refine (asksOnly_mergeRuns patience hbelow.2 hmiddle.2).bind fun merged hmerged => ?_
      -- the two runs below the top are next to each other, so merging them moves no other item
      have hcontents : (Stack.contents (top :: ⟨merged.items, below.power⟩ :: rest)).Perm
          (Stack.contents (top :: middle :: below :: rest)) := by
        have hall := (hmerged.append_left (Stack.contents rest)).append_right top.run
        rwa [← List.append_assoc (Stack.contents rest)] at hall
      exact (ih merged fun item hitem => hstack item (hcontents.mem_iff.mp hitem)).mono
        fun result hresult => hresult.trans hcontents
  | case5 patience top middle below rest hshorter ih =>
      have htop := Stack.forall_mem_contents_cons.mp hstack
      have hmiddle := Stack.forall_mem_contents_cons.mp htop.1
      rw [mergeAll, if_neg hshorter]
      refine (asksOnly_mergeRuns patience hmiddle.2 htop.2).bind fun merged hmerged => ?_
      have hcontents : (Stack.contents (⟨merged.items, middle.power⟩ :: below :: rest)).Perm
          (Stack.contents (top :: middle :: below :: rest)) := by
        have hall := hmerged.append_left (Stack.contents (below :: rest))
        rwa [← List.append_assoc] at hall
      exact (ih merged fun item hitem => hstack item (hcontents.mem_iff.mp hitem)).mono
        fun result hresult => hresult.trans hcontents

/-! ## The sort -/

theorem asksOnly_sortOnto (least total patience : Nat) {stack : Stack α}
    (hstack : ∀ item ∈ Stack.contents stack, among item) (hitems : ∀ item ∈ items, among item) :
    (sortOnto least total patience stack items).AsksOnly among
      fun result => result.Perm (Stack.contents stack ++ items) := by
  induction patience, stack, items using sortOnto.induct with
  | case1 patience stack =>
      rw [sortOnto, List.append_nil]
      exact asksOnly_mergeAll patience hstack
  | case2 patience stack first rest ih =>
      rw [List.forall_mem_cons] at hitems
      rw [sortOnto]
      refine (asksOnly_takeRun least hitems.1 hitems.2).bind fun found hfound => ?_
      obtain ⟨run, count⟩ := found
      refine (asksOnly_addRun total patience run hstack).bind fun result hresult => ?_
      obtain ⟨stack', patience'⟩ := result
      -- the run is made of the items at the front, which may be asked about
      have hrun : ∀ item ∈ run, among item := by
        intro item hitem
        rw [hfound.mem_iff, List.mem_cons] at hitem
        rcases hitem with rfl | hitem
        · exact hitems.1
        · exact hitems.2 item (List.mem_of_mem_take hitem)
      refine (ih count stack' patience' (fun item hitem => ?_) fun item hitem =>
        hitems.2 item (List.mem_of_mem_drop hitem)).mono fun sorted hsorted => ?_
      · rw [hresult.mem_iff, List.mem_append] at hitem
        exact hitem.elim (hstack item) (hrun item)
      · have hall := (hresult.trans (hfound.append_left _)).append_right (rest.drop count)
        rw [List.append_assoc, List.cons_append, List.take_append_drop] at hall
        exact hsorted.trans hall

/-- **Whatever the answers are, a sort asks about its items only, and returns them all.** -/
theorem asksOnly_sort (items : List α) :
    (sort items).AsksOnly (· ∈ items) fun result => result.Perm items := by
  have hnone : ∀ item ∈ Stack.contents ([] : Stack α), item ∈ items := by
    intro item hitem
    cases hitem
  exact asksOnly_sortOnto (leastRun items.length) items.length longStreak hnone
    fun item hitem => hitem

end Collate.Ordering

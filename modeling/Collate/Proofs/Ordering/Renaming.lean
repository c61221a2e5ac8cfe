import Collate.Ordering.Sort

/-!
# Sorts of renamed items

A sort handles its items, but never looks at them.  If every item is replaced by its image under a
function, it asks the same questions about the images, in the same order, and arrives at the images
of its result (`sort_map`).  The function need not be injective, and the images may be of another
type.

## Strategy

`Inquiry.rename` replaces the items in the questions of an inquiry and changes its result.  Every
part of the sort commutes with it, along the recursion of the part; the equation is carried from
the parts to the whole by `Inquiry.bind_rename` and `Inquiry.map_rename`.
-/

namespace Collate

/-! ## Renaming an inquiry -/

namespace Inquiry

variable {α γ β β' δ δ' : Type} {f : α → γ} {g : β → δ} {g' : β' → δ'}

/-- The inquiry with other items in its questions, and its result changed. -/
def rename (f : α → γ) (g : β → δ) : Inquiry α β → Inquiry γ δ
  | done result => done (g result)
  | ask x y next => ask (f x) (f y) fun answer => (next answer).rename f g

theorem bind_rename {inquiry : Inquiry α β} {inquiry' : Inquiry γ δ} {next : β → Inquiry α β'}
    {next' : δ → Inquiry γ δ'} (h : inquiry' = inquiry.rename f g)
    (hnext : ∀ result, next' (g result) = (next result).rename f g') :
    inquiry'.bind next' = (inquiry.bind next).rename f g' := by
  subst h
  induction inquiry with
  | done result => exact hnext result
  | ask x y following ih => exact congrArg (ask (f x) (f y)) (funext ih)

theorem map_rename {inquiry : Inquiry α β} {inquiry' : Inquiry γ δ} {change : β → β'}
    {change' : δ → δ'} (h : inquiry' = inquiry.rename f g)
    (hchange : ∀ result, change' (g result) = g' (change result)) :
    inquiry'.map change' = (inquiry.map change).rename f g' := by
  subst h
  induction inquiry with
  | done result => exact congrArg done (hchange result)
  | ask x y following ih => exact congrArg (ask (f x) (f y)) (funext ih)

theorem comesBefore_rename (f : α → γ) (x y : α) :
    comesBefore (f x) (f y) = (comesBefore x y).rename f id := rfl

end Inquiry

namespace Ordering

variable {α γ : Type} (f : α → γ)

/-! ## Searching -/

theorem End.comesBefore_rename (side : End) (x y : α) :
    side.comesBefore (f x) (f y) = (side.comesBefore x y).rename f id := by
  cases side <;> rfl

section Search

variable {f} {stays : α → Inquiry α Bool} {stays' : γ → Inquiry γ Bool}

theorem bisect_map (side : End) (hstays : ∀ item, stays' (f item) = (stays item).rename f id)
    (items : List α) (start count : Nat) :
    bisect side stays' (items.map f) start count =
      (bisect side stays items start count).rename f id := by
  induction count using Nat.strongRecOn generalizing start with
  | ind count ih =>
    rw [bisect, bisect]
    by_cases hcount : count = 0
    · rw [if_pos hcount, if_pos hcount]
      rfl
    rw [if_neg hcount, if_neg hcount]
    dsimp only
    rw [List.getElem?_map]
    cases items[start + side.middle count]? with
    | none => rfl
    | some item =>
        have hhalf := side.middle_lt (Nat.pos_of_ne_zero hcount)
        refine Inquiry.bind_rename (hstays item) fun answer => ?_
        cases answer with
        | true => exact ih _ (by omega) _
        | false => exact ih _ hhalf _

theorem gallopFrom_of_eq_none {side : End} {items : List α} {last next : Nat}
    (h : items[next]? = none) : gallopFrom side stays items last next =
      bisect side stays items (last + 1) (items.length - (last + 1)) := by
  rw [gallopFrom.eq_def]
  split
  · rfl
  next item hitem =>
  rw [h] at hitem
  cases hitem

theorem gallopFrom_of_eq_some {side : End} {items : List α} {last next : Nat} {item : α}
    (h : items[next]? = some item) : gallopFrom side stays items last next =
      (stays item).bind fun answer =>
        if answer then gallopFrom side stays items next (2 * next + 1)
        else bisect side stays items (last + 1) (next - (last + 1)) := by
  rw [gallopFrom.eq_def]
  split
  · next hnone =>
    rw [h] at hnone
    cases hnone
  next found hfound =>
  rw [h] at hfound
  cases hfound
  rfl

theorem gallopFrom_map (side : End) (hstays : ∀ item, stays' (f item) = (stays item).rename f id)
    (items : List α) (last next : Nat) :
    gallopFrom side stays' (items.map f) last next =
      (gallopFrom side stays items last next).rename f id := by
  induction last, next using gallopFrom.induct items with
  | case1 last next hnext =>
      have hnext' : (items.map f)[next]? = none := by rw [List.getElem?_map, hnext, Option.map_none]
      rw [gallopFrom_of_eq_none hnext, gallopFrom_of_eq_none hnext', List.length_map]
      exact bisect_map side hstays items _ _
  | case2 last next item hitem ih =>
      have hitem' : (items.map f)[next]? = some (f item) := by
        rw [List.getElem?_map, hitem, Option.map_some]
      rw [gallopFrom_of_eq_some hitem, gallopFrom_of_eq_some hitem']
      refine Inquiry.bind_rename (hstays item) fun answer => ?_
      cases answer with
      | true => exact ih
      | false => exact bisect_map side hstays items _ _

theorem gallop_map (side : End) (hstays : ∀ item, stays' (f item) = (stays item).rename f id)
    (items : List α) :
    gallop side stays' (items.map f) = (gallop side stays items).rename f id := by
  cases items with
  | nil => rfl
  | cons first rest =>
      refine Inquiry.bind_rename (hstays first) fun answer => ?_
      cases answer with
      | true => exact gallopFrom_map side hstays (first :: rest) 0 1
      | false => rfl

end Search

/-! ## Runs -/

theorem continuing_map (descending : Bool) (previous : α) (items : List α) :
    continuing descending (f previous) (items.map f) =
      (continuing descending previous items).rename f id := by
  induction items generalizing previous with
  | nil => rfl
  | cons item rest ih =>
      refine Inquiry.bind_rename (Inquiry.comesBefore_rename f item previous) fun answer => ?_
      by_cases hanswer : answer = descending
      · rw [if_pos hanswer, id, if_pos hanswer]
        exact Inquiry.map_rename (ih item) fun _ => rfl
      · rw [if_neg hanswer, id, if_neg hanswer]
        rfl

theorem firstRun_map (first : α) (rest : List α) :
    firstRun (f first) (rest.map f) = (firstRun first rest).rename f id := by
  cases rest with
  | nil => rfl
  | cons second rest =>
      refine Inquiry.bind_rename (Inquiry.comesBefore_rename f second first) fun descending => ?_
      exact Inquiry.map_rename (continuing_map f descending second rest) fun _ => rfl

theorem insertBehind_map (item : α) (count : Nat) (items : List α) :
    insertBehind (f item) count (items.map f) = (insertBehind item count items).map f := by
  simp [insertBehind]

theorem insertAll_map (run items : List α) :
    insertAll (run.map f) (items.map f) = (insertAll run items).rename f (List.map f) := by
  induction items generalizing run with
  | nil => rfl
  | cons item rest ih =>
      rw [List.map_cons, insertAll, insertAll, List.length_map]
      refine Inquiry.bind_rename (bisect_map .front (fun other => ?_) run 0 run.length)
        fun count => ?_
      · exact Inquiry.map_rename (Inquiry.comesBefore_rename f item other) fun _ => rfl
      · rw [id, insertBehind_map]
        exact ih _

theorem takeRun_map (least : Nat) (first : α) (rest : List α) :
    takeRun least (f first) (rest.map f) =
      (takeRun least first rest).rename f (Prod.map (List.map f) id) := by
  refine Inquiry.bind_rename (firstRun_map f first rest) fun found => ?_
  obtain ⟨count, descending⟩ := found
  -- turning a run around commutes with renaming
  have hrun : (if descending then (f first :: (rest.map f).take count).reverse
      else f first :: (rest.map f).take count) =
        (if descending then (first :: rest.take count).reverse
          else first :: rest.take count).map f := by
    rw [← List.map_take, ← List.map_cons, ← List.map_reverse]
    split <;> rfl
  dsimp only [id]
  rw [hrun, List.length_map]
  split
  · rw [← List.map_take, ← List.map_drop]
    exact Inquiry.map_rename (insertAll_map f _ _) fun _ => rfl
  · rfl

/-! ## Merging -/

/-- The merged list of the images. -/
def Merged.rename (merged : Merged α) : Merged γ := ⟨merged.items.map f, merged.patience⟩

theorem finished?_map (kept other : List α) :
    finished? (kept.map f) (other.map f) = (finished? kept other).map (List.map f) := by
  rcases kept with _ | ⟨x, _ | ⟨x', rest⟩⟩
  · rfl
  · rcases other with _ | ⟨y, others⟩
    · rfl
    · simp [finished?]
  · rcases other with _ | ⟨y, others⟩ <;> rfl

theorem done_getD_finished?_map (kept other : List α) (patience : Nat) :
    Inquiry.done ⟨(finished? (kept.map f) (other.map f)).getD (kept.map f ++ other.map f),
        patience⟩ =
      (Inquiry.done ⟨(finished? kept other).getD (kept ++ other), patience⟩).rename f
        (Merged.rename f) := by
  rw [finished?_map, ← List.map_append, Option.getD_map]
  rfl

/-- There is nothing to merge among the images if there is nothing among the items. -/
theorem short_map {kept other : List α}
    (h : ∀ x x' rest y others, kept = x :: x' :: rest → other = y :: others → False) :
    ∀ x x' rest y others, kept.map f = x :: x' :: rest → other.map f = y :: others → False := by
  intro x x' rest y others hkept hother
  obtain ⟨_, _, rfl, -, hrest⟩ := List.map_eq_cons_iff.mp hkept
  obtain ⟨_, _, rfl, -, -⟩ := List.map_eq_cons_iff.mp hrest
  obtain ⟨_, _, rfl, -, -⟩ := List.map_eq_cons_iff.mp hother
  exact h _ _ _ _ _ rfl rfl

/-- What is left when nothing is left to ask, behind some items that were taken and another one, or
else what the merge of the rest leads to. -/
def finishing (left : Option (List α)) (patience : Nat) (taken : List α) (item : α)
    (rest : Inquiry α (Merged α)) : Inquiry α (Merged α) :=
  match left with
  | some left => .done ⟨taken ++ item :: left, patience⟩
  | none => rest.map (Merged.behind (taken ++ [item]))

theorem finishing_map {rest : Inquiry α (Merged α)} {rest' : Inquiry γ (Merged γ)}
    (h : rest' = rest.rename f (Merged.rename f)) (kept other taken : List α) (item : α)
    (patience : Nat) :
    finishing (finished? (kept.map f) (other.map f)) patience (taken.map f) (f item) rest' =
      (finishing (finished? kept other) patience taken item rest).rename f (Merged.rename f) := by
  rw [finished?_map]
  cases finished? kept other with
  | none => exact Inquiry.map_rename h fun merged => by simp [Merged.behind, Merged.rename]
  | some left =>
      show Inquiry.done _ = Inquiry.done _
      rw [Merged.rename, List.map_append, List.map_cons]

/-- Merges of fewer items than this commute with renaming. -/
def RenamesFewer (side : End) (total : Nat) : Prop :=
  ∀ kept other : List α, kept.length + other.length < total →
    (∀ patience keptStreak otherStreak,
      mergeByItems side patience keptStreak otherStreak (kept.map f) (other.map f) =
        (mergeByItems side patience keptStreak otherStreak kept other).rename f
          (Merged.rename f)) ∧
    ∀ patience turn round,
      mergeByGallop side patience turn round (kept.map f) (other.map f) =
        (mergeByGallop side patience turn round kept other).rename f (Merged.rename f)

theorem mergeByItems_map_of_fewer (side : End) {kept other : List α}
    (hfewer : RenamesFewer f side (kept.length + other.length))
    (patience keptStreak otherStreak : Nat) :
    mergeByItems side patience keptStreak otherStreak (kept.map f) (other.map f) =
      (mergeByItems side patience keptStreak otherStreak kept other).rename f
        (Merged.rename f) := by
  rw [mergeByItems.eq_def side patience keptStreak otherStreak kept]
  split
  · next x x' rest y others =>
    rw [mergeByItems.eq_def]
    refine Inquiry.bind_rename (side.comesBefore_rename f y x) fun answer => ?_
    -- either way an item is taken, and `finishing` is what follows
    cases answer with
    | true =>
        obtain ⟨hitems, hgallop⟩ := hfewer (x :: x' :: rest) others (by simp)
        refine finishing_map f ?_ (x :: x' :: rest) others [] y patience
        split
        · exact hgallop _ _ _
        · exact hitems _ _ _
    | false =>
        obtain ⟨hitems, hgallop⟩ := hfewer (x' :: rest) (y :: others) (by simp)
        refine finishing_map f ?_ (x' :: rest) (y :: others) [] x patience
        split
        · exact hgallop _ _ _
        · exact hitems _ _ _
  · next hshort =>
    rw [mergeByItems.eq_def]
    split
    · next hkept hother => exact (short_map f hshort _ _ _ _ _ hkept hother).elim
    · exact done_getD_finished?_map f kept other patience

/-- The bounds are there for termination only, and may differ. -/
theorem goOn_map {side : End} {total : Nat} (hfewer : RenamesFewer f side total) (patience : Nat)
    (turn : Turn) (round : Round) (streak : Bool) {kept other : List α} {bound bound' : Nat}
    (hlength : kept.length + other.length < total) (h : kept.length + other.length < bound)
    (h' : (kept.map f).length + (other.map f).length < bound') :
    goOn side patience turn round streak (kept.map f) (other.map f) bound' h' =
      (goOn side patience turn round streak kept other bound h).rename f (Merged.rename f) := by
  obtain ⟨hitems, hgallop⟩ := hfewer kept other hlength
  rw [goOn.eq_def, goOn.eq_def]
  cases round with
  | firstTurn => exact hgallop _ _ _
  | secondTurn earlier =>
      dsimp only
      split
      · exact hgallop _ _ _
      · exact hitems _ _ _

theorem mergeByGallop_map_of_fewer (side : End) {kept other : List α}
    (hfewer : RenamesFewer f side (kept.length + other.length))
    (patience : Nat) (turn : Turn) (round : Round) :
    mergeByGallop side patience turn round (kept.map f) (other.map f) =
      (mergeByGallop side patience turn round kept other).rename f (Merged.rename f) := by
  rw [mergeByGallop.eq_def side patience turn round kept]
  split
  · next x x' rest y others =>
    rw [mergeByGallop.eq_def]
    cases turn with
    | kept =>
        refine Inquiry.bind_rename (gallop_map side (fun item => ?_) (x :: x' :: rest))
          fun count => ?_
        · exact Inquiry.map_rename (side.comesBefore_rename f y item) fun _ => rfl
        · simp only [id, ← List.map_cons, ← List.map_drop, ← List.map_take]
          -- what is dropped makes the lists shorter, whatever the count is
          refine finishing_map f (goOn_map f hfewer _ _ _ _ ?_ _ _) _ others _ y patience
          simp only [List.length_drop, List.length_cons]
          omega
    | other =>
        refine Inquiry.bind_rename (gallop_map side (fun item => ?_) (y :: others))
          fun count => ?_
        · exact side.comesBefore_rename f item x
        · simp only [id, ← List.map_cons, ← List.map_drop, ← List.map_take]
          refine finishing_map f (goOn_map f hfewer _ _ _ _ ?_ _ _) (x' :: rest) _ _ x patience
          simp only [List.length_drop, List.length_cons]
          omega
  · next hshort =>
    rw [mergeByGallop.eq_def]
    split
    · next hkept hother => exact (short_map f hshort _ _ _ _ _ hkept hother).elim
    · exact done_getD_finished?_map f kept other patience

theorem renamesFewer (side : End) (total : Nat) : RenamesFewer f side total := by
  -- every turn of either merge takes an item at least, so the items become fewer
  induction total with
  | zero =>
      intro kept other hlength
      exact absurd hlength (Nat.not_lt_zero _)
  | succ total ih =>
      intro kept other hlength
      have hfewer : RenamesFewer f side (kept.length + other.length) := by
        intro kept' other' hlength'
        exact ih kept' other' (by omega)
      exact ⟨mergeByItems_map_of_fewer f side hfewer, mergeByGallop_map_of_fewer f side hfewer⟩

theorem mergeByItems_map (side : End) (patience keptStreak otherStreak : Nat)
    (kept other : List α) :
    mergeByItems side patience keptStreak otherStreak (kept.map f) (other.map f) =
      (mergeByItems side patience keptStreak otherStreak kept other).rename f (Merged.rename f) :=
  (renamesFewer f side _ kept other (Nat.lt_succ_self _)).1 _ _ _

theorem mergeFrom_map (patience : Nat) (side : End) (kept other : List α) :
    mergeRuns.mergeFrom patience side (kept.map f) (other.map f) =
      (mergeRuns.mergeFrom patience side kept other).rename f (Merged.rename f) := by
  cases other with
  | nil => rfl
  | cons first rest =>
      exact finishing_map f (mergeByItems_map f side patience 0 0 kept rest) kept rest [] first
        patience

theorem mergeMiddle_map (patience : Nat) (left right : List α) :
    mergeRuns.mergeMiddle patience (left.map f) (right.map f) =
      (mergeRuns.mergeMiddle patience left right).rename f (Merged.rename f) := by
  unfold mergeRuns.mergeMiddle
  rw [List.length_map, List.length_map]
  split
  · exact mergeFrom_map f patience .front left right
  · rw [← List.map_reverse, ← List.map_reverse]
    exact Inquiry.map_rename (mergeFrom_map f patience .back _ _) fun merged => by
      simp [Merged.rename]

theorem done_append_map (left right : List α) (patience : Nat) :
    Inquiry.done ⟨left.map f ++ right.map f, patience⟩ =
      (Inquiry.done ⟨left ++ right, patience⟩).rename f (Merged.rename f) := by
  rw [← List.map_append]
  rfl

theorem mergeRuns_map (patience : Nat) (left right : List α) :
    mergeRuns patience (left.map f) (right.map f) =
      (mergeRuns patience left right).rename f (Merged.rename f) := by
  unfold mergeRuns
  rw [List.head?_map, List.getLast?_map]
  cases right.head? with
  | none => exact done_append_map f left right patience
  | some firstRight =>
    cases left.getLast? with
    | none => exact done_append_map f left right patience
    | some lastLeft =>
      refine Inquiry.bind_rename (gallop_map .front (fun item => ?_) left) fun placed => ?_
      · exact Inquiry.map_rename (Inquiry.comesBefore_rename f firstRight item) fun _ => rfl
      simp only [id, ← List.map_drop, List.map_eq_nil_iff, ← List.map_reverse]
      split
      · exact done_append_map f left right patience
      refine Inquiry.bind_rename (gallop_map .back (fun item => ?_) right.reverse)
        fun placedBack => ?_
      · exact Inquiry.map_rename (Inquiry.comesBefore_rename f item lastLeft) fun _ => rfl
      dsimp only [id]
      rw [List.length_map, ← List.map_take, ← List.map_take]
      exact Inquiry.map_rename (mergeMiddle_map f patience _ _) fun merged => by
        simp [Merged.rename]

/-! ## The stack of runs -/

/-- The run of the images. -/
def Pending.rename (pending : Pending α) : Pending γ := ⟨pending.run.map f, pending.power⟩

/-- The stack of the images. -/
def Stack.rename (stack : Stack α) : Stack γ := stack.map (Pending.rename f)

theorem Stack.rename_cons (top : Pending α) (below : Stack α) :
    Stack.rename f (top :: below) = ⟨top.run.map f, top.power⟩ :: Stack.rename f below := rfl

theorem Stack.size_rename (stack : Stack α) :
    Stack.size (Stack.rename f stack) = Stack.size stack := by
  induction stack with
  | nil => rfl
  | cons top below ih =>
      show (top.run.map f).length + Stack.size (Stack.rename f below) = _
      rw [List.length_map, ih]
      rfl

theorem mergeAbove_map (patience power : Nat) (run : List α) (borderBelow : Nat)
    (stack : Stack α) :
    mergeAbove patience power (run.map f) borderBelow (Stack.rename f stack) =
      (mergeAbove patience power run borderBelow stack).rename f
        (Prod.map (Stack.rename f) id) := by
  induction stack generalizing patience run borderBelow with
  | nil => rfl
  | cons below rest ih =>
      rw [Stack.rename_cons, mergeAbove, mergeAbove]
      split
      · exact Inquiry.bind_rename (mergeRuns_map f patience below.run run) fun merged =>
          ih merged.patience merged.items below.power
      · rfl

theorem addRun_map (total patience : Nat) (run : List α) (stack : Stack α) :
    addRun total patience (run.map f) (Stack.rename f stack) =
      (addRun total patience run stack).rename f (Prod.map (Stack.rename f) id) := by
  cases stack with
  | nil => rfl
  | cons top below =>
      rw [Stack.rename_cons, addRun, addRun]
      dsimp only
      rw [Stack.size_rename, List.length_map, List.length_map]
      exact Inquiry.map_rename (mergeAbove_map f patience _ top.run top.power below) fun _ => rfl

theorem mergeAll_map (patience : Nat) (stack : Stack α) :
    mergeAll patience (Stack.rename f stack) =
      (mergeAll patience stack).rename f (List.map f) := by
  induction patience, stack using mergeAll.induct with
  | case1 patience =>
      show mergeAll patience [] = _
      rw [mergeAll, mergeAll]
      rfl
  | case2 patience last =>
      show mergeAll patience [⟨last.run.map f, last.power⟩] = _
      rw [mergeAll, mergeAll]
      rfl
  | case3 patience top below =>
      show mergeAll patience [⟨top.run.map f, top.power⟩, ⟨below.run.map f, below.power⟩] = _
      rw [mergeAll, mergeAll]
      exact Inquiry.map_rename (mergeRuns_map f patience below.run top.run) fun _ => rfl
  | case4 patience top middle below rest hshorter ih =>
      rw [mergeAll, if_pos hshorter]
      simp only [Stack.rename_cons]
      rw [mergeAll, if_pos (by simpa using hshorter)]
      exact Inquiry.bind_rename (mergeRuns_map f patience below.run middle.run) ih
  | case5 patience top middle below rest hshorter ih =>
      rw [mergeAll, if_neg hshorter]
      simp only [Stack.rename_cons]
      rw [mergeAll, if_neg (by simpa using hshorter)]
      exact Inquiry.bind_rename (mergeRuns_map f patience middle.run top.run) ih

/-! ## The sort -/

theorem sortOnto_map (least total patience : Nat) (stack : Stack α) (items : List α) :
    sortOnto least total patience (Stack.rename f stack) (items.map f) =
      (sortOnto least total patience stack items).rename f (List.map f) := by
  induction patience, stack, items using sortOnto.induct with
  | case1 patience stack =>
      rw [List.map_nil, sortOnto, sortOnto]
      exact mergeAll_map f patience stack
  | case2 patience stack first rest ih =>
      rw [List.map_cons, sortOnto, sortOnto]
      refine Inquiry.bind_rename (takeRun_map f least first rest) fun found => ?_
      obtain ⟨run, count⟩ := found
      refine Inquiry.bind_rename (addRun_map f total patience run stack) fun result => ?_
      obtain ⟨stack', patience'⟩ := result
      dsimp only [Prod.map, id]
      rw [← List.map_drop]
      exact ih count stack' patience'

/-- **A sort of images asks about the images what it would have asked about the items,** and has
the images of the result. -/
theorem sort_map (items : List α) :
    sort (items.map f) = (sort items).rename f (List.map f) := by
  unfold sort
  rw [List.length_map]
  exact sortOnto_map f _ _ _ [] items

end Ordering

end Collate

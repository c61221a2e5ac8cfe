import Collate.Proofs.RuleText.Splitting
import Collate.Text.Pattern

/-!
# The commas that separate clauses

Which commas separate the clauses of a text can be said in two ways: by the next brace behind the
comma (`separators`), and by a pattern (`clauseSeparator`), which takes a comma and the blanks
behind it, unless a closing brace can be reached without passing another brace.  The clauses are
what stands between the separators (`splitClauses_between`), exactly, and nothing else is lost.

## Strategy

The pattern can be tried with all of the blanks, and with fewer of them.  But blanks are no braces,
so the braces that come next are the same behind each try (`closesFirst_of_mem_behindRuns`): if the
first try fails, they all do (`tries_clauseSeparator`).  So the pattern cuts a text where the linear
scan does.

What a scan finds in `c :: rest` is what it finds in `rest`, one position further, and perhaps a
separator in front (`separators_cons`).  Everything about positions is an induction along the text
from there.
-/

namespace Collate

open Text

/-! ## The separator as a pattern -/

/-- A closing brace that comes before any other brace. -/
def closingNext : Pattern := .andThen (.run (!isBrace ·)) (.one (· == closeBrace))

/-- A comma and the blanks behind it, where no closing brace comes next. -/
def clauseSeparator : Pattern :=
  .andThen (.one (· == ',')) (.andThen (.run isBlank) (.notAt closingNext))

theorem tries_closingNext_eq_nil_iff (text : List Char) :
    closingNext.tries text = [] ↔ closesFirst text = false := by
  rw [closingNext, Pattern.tries, Pattern.tries]
  induction text with
  | nil => simp [Pattern.behindRuns, Pattern.tries, closesFirst]
  | cons c rest ih =>
      cases hbrace : isBrace c with
      | true => simp [Pattern.behindRuns, Pattern.tries, closesFirst, hbrace]
      | false =>
          have hclose : c ≠ closeBrace := by
            rintro rfl
            exact absurd hbrace (by decide)
          rw [closesFirst_cons_of_isBrace_eq_false hbrace, ← ih]
          simp [Pattern.behindRuns, Pattern.tries, hbrace, hclose]

/-- However many of the blanks are taken, the same brace comes next. -/
theorem closesFirst_of_mem_behindRuns {text rest : List Char}
    (h : rest ∈ Pattern.behindRuns isBlank text) : closesFirst rest = closesFirst text := by
  induction text with
  | nil => rw [List.mem_singleton.mp h]
  | cons c others ih =>
      rw [Pattern.behindRuns] at h
      split at h
      · next hblank =>
        rcases List.mem_append.mp h with hmem | hmem
        · rw [ih hmem, closesFirst_cons_of_isBrace_eq_false (isBrace_eq_false_of_isBlank hblank)]
        · rw [List.mem_singleton.mp hmem]
      · rw [List.mem_singleton.mp h]

/-- All tries behind a separating comma succeed, and none behind another one. -/
theorem tries_clauseSeparator (c : Char) (rest : List Char) :
    clauseSeparator.tries (c :: rest) =
      if c = ',' ∧ closesFirst rest = false then Pattern.behindRuns isBlank rest else [] := by
  -- the same brace comes next however many of the blanks are taken
  have hlater : ∀ others ∈ Pattern.behindRuns isBlank rest,
      (Pattern.notAt closingNext).tries others =
        if closesFirst rest = false then [others] else [] := by
    intro others hothers
    rw [Pattern.tries, ← closesFirst_of_mem_behindRuns hothers]
    simp only [tries_closingNext_eq_nil_iff]
  have hruns : (Pattern.behindRuns isBlank rest).flatMap (Pattern.notAt closingNext).tries =
      if closesFirst rest = false then Pattern.behindRuns isBlank rest else [] := by
    rw [List.flatMap_congr hlater]
    split <;> simp
  rw [clauseSeparator, Pattern.tries, Pattern.tries]
  by_cases hcomma : c = ','
  · rw [if_pos (by simpa using hcomma), List.flatMap_singleton, Pattern.tries, Pattern.tries, hruns]
    simp [hcomma]
  · rw [if_neg (by simpa using hcomma), List.flatMap_nil, if_neg (fun h => hcomma h.1)]

theorem exists_behindRuns_eq_cons (inClass : Char → Bool) (text : List Char) :
    ∃ shorter, Pattern.behindRuns inClass text = text.dropWhile inClass :: shorter := by
  induction text with
  | nil => exact ⟨[], rfl⟩
  | cons c rest ih =>
      obtain ⟨shorter, hshorter⟩ := ih
      rw [Pattern.behindRuns, List.dropWhile_cons]
      split
      · exact ⟨shorter ++ [c :: rest], by rw [hshorter, List.cons_append]⟩
      · exact ⟨[], rfl⟩

/-- The first try takes all of the blanks, and it is the match. -/
theorem behind?_clauseSeparator (c : Char) (rest : List Char) :
    clauseSeparator.behind? (c :: rest) =
      if c = ',' ∧ closesFirst rest = false then some (trimStart rest) else none := by
  rw [Pattern.behind?, tries_clauseSeparator]
  split
  · obtain ⟨shorter, hshorter⟩ := exists_behindRuns_eq_cons isBlank rest
    have hle : (rest.dropWhile isBlank).length ≤ rest.length :=
      (List.dropWhile_sublist isBlank).length_le
    rw [hshorter, List.find?_cons_of_pos (by simpa using Nat.lt_succ_of_le hle), trimStart]
  · rfl

/-- What does not begin with a blank has no clause to begin with that does. -/
theorem modifyHead_trimStart_splitClauses {text : List Char} (h : trimStart text = text) :
    (splitClauses text).modifyHead trimStart = splitClauses text := by
  cases text with
  | nil => rfl
  | cons c rest =>
      have hc : isBlank c = false := trimStart_eq_self_iff.mp h c rfl
      rw [splitClauses]
      split
      · rfl
      · cases splitClauses rest with
        | nil => rfl
        | cons clause others => simp [trimStart, hc]

theorem splitClauses_trimStart (text : List Char) :
    splitClauses (trimStart text) = (splitClauses text).modifyHead trimStart := by
  have hgap := allBlank_leadingBlanks text
  have hsplit := splitClauses_append_left hgap (trimStart text)
  rw [leadingBlanks_append_trimStart] at hsplit
  rw [hsplit, List.modifyHead_modifyHead,
    ← modifyHead_trimStart_splitClauses (trimStart_trimStart text), List.modifyHead_modifyHead]
  congr 1
  funext clause
  simp only [Function.comp_apply, trimStart_append hgap, trimStart_trimStart]

/-- The pattern cuts a text into its clauses. -/
theorem split_clauseSeparator (text : List Char) :
    clauseSeparator.split text = splitClauses text := by
  fun_induction Pattern.split clauseSeparator text with
  | case1 => rfl
  | case2 c rest after hbehind ih =>
      rw [behind?_clauseSeparator] at hbehind
      split at hbehind
      · next hsep =>
        rw [Option.some.injEq] at hbehind
        -- the pattern has taken the blanks that cutting trims off
        rw [ih, ← hbehind, splitClauses_trimStart, splitClauses, if_pos hsep]
      · cases hbehind
  | case3 c rest hbehind ih =>
      rw [behind?_clauseSeparator] at hbehind
      split at hbehind
      · cases hbehind
      · next hsep => rw [ih, splitClauses, if_neg hsep]

/-! ## Where the separators stand -/

/-- The positions of the commas behind which no closing brace comes next. -/
def separators (text : List Char) : List Nat :=
  (List.range text.length).filter fun i =>
    text[i]? == some ',' && !closesFirst (text.drop (i + 1))

/-- The position behind a separator and the blanks that follow it. -/
def behindSeparator (text : List Char) (i : Nat) : Nat :=
  i + 1 + (leadingBlanks (text.drop (i + 1))).length

theorem behindSeparator_cons_succ (c : Char) (rest : List Char) (i : Nat) :
    behindSeparator (c :: rest) (i + 1) = behindSeparator rest i + 1 := by
  simp only [behindSeparator, List.drop_succ_cons]
  omega

theorem mem_separators_iff {text : List Char} {i : Nat} :
    i ∈ separators text ↔ text[i]? = some ',' ∧ closesFirst (text.drop (i + 1)) = false := by
  have hlt : text[i]? = some ',' → i < text.length := fun h =>
    (List.getElem?_eq_some_iff.mp h).1
  simp only [separators, List.mem_filter, List.mem_range, Bool.and_eq_true, beq_iff_eq,
    Bool.not_eq_true']
  exact ⟨And.right, fun h => ⟨hlt h.1, h⟩⟩

theorem separators_cons (c : Char) (rest : List Char) :
    separators (c :: rest) =
      (if c = ',' ∧ closesFirst rest = false then [0] else []) ++
        (separators rest).map (· + 1) := by
  have hlater : ((List.range rest.length).map Nat.succ).filter
      (fun i => (c :: rest)[i]? == some ',' && !closesFirst ((c :: rest).drop (i + 1))) =
        (separators rest).map (· + 1) := by
    rw [List.filter_map]
    rfl
  rw [separators, List.length_cons, List.range_succ_eq_map, List.filter_cons, hlater]
  by_cases hsep : c = ',' ∧ closesFirst rest = false
  · rw [if_pos hsep, if_pos (by simpa using hsep)]
    rfl
  · rw [if_neg hsep, if_neg (by simpa using hsep)]
    rfl

theorem length_separators (text : List Char) : (separators text).length = separatorCount text := by
  induction text with
  | nil => rfl
  | cons c rest ih =>
      rw [separators_cons, separatorCount, List.length_append, List.length_map, ih, Nat.add_comm]
      split <;> rfl

/-! ## What stands between the separators -/

/-- The positions at which clauses end: the separators, and the end of the text. -/
def clauseEnds (text : List Char) : List Nat := separators text ++ [text.length]

/-- The positions at which clauses begin. -/
def clauseStarts (text : List Char) : List Nat :=
  0 :: (separators text).map (behindSeparator text)

/-- No clause ends inside of the blanks at the beginning of the text. -/
theorem length_leadingBlanks_le {text : List Char} {stop : Nat} (h : stop ∈ clauseEnds text) :
    (leadingBlanks text).length ≤ stop := by
  have happend := leadingBlanks_append_trimStart text
  rcases List.mem_append.mp h with hmem | hmem
  · by_contra hlt
    obtain ⟨hcomma, -⟩ := mem_separators_iff.mp hmem
    rw [← happend, List.getElem?_append_left (Nat.lt_of_not_le hlt)] at hcomma
    -- a separator is a comma, and that is no blank
    have hblank := allBlank_iff.mp (allBlank_leadingBlanks text) _ (List.mem_of_getElem? hcomma)
    exact absurd hblank (by decide)
  · rw [List.mem_singleton.mp hmem]
    exact (List.takeWhile_sublist isBlank).length_le

theorem exists_clauseEnds_eq_cons (text : List Char) :
    ∃ stop stops, clauseEnds text = stop :: stops ∧ (leadingBlanks text).length ≤ stop := by
  obtain ⟨stop, stops, hstops⟩ := List.exists_cons_of_ne_nil
    (show clauseEnds text ≠ [] by simp [clauseEnds])
  exact ⟨stop, stops, hstops, length_leadingBlanks_le (hstops ▸ List.mem_cons_self ..)⟩

/-- The piece of a text between two positions. -/
def piece (text : List Char) (start stop : Nat) : List Char := (text.take stop).drop start

theorem zipWith_piece_cons (c : Char) (rest : List Char) (starts stops : List Nat) :
    List.zipWith (piece (c :: rest)) (starts.map (· + 1)) (stops.map (· + 1)) =
      List.zipWith (piece rest) starts stops := by
  rw [List.zipWith_map]
  rfl

/-- The clauses of a text are its pieces between the separators. -/
theorem splitClauses_between (text : List Char) :
    splitClauses text = List.zipWith (piece text) (clauseStarts text) (clauseEnds text) := by
  induction text with
  | nil => rfl
  | cons c rest ih =>
      obtain ⟨stop, stops, hstops, hle⟩ := exists_clauseEnds_eq_cons rest
      have hends : clauseEnds (c :: rest) =
          (if c = ',' ∧ closesFirst rest = false then [0] else []) ++
            (stop + 1) :: stops.map (· + 1) := by
        rw [clauseEnds, separators_cons, List.append_assoc, List.length_cons,
          show [rest.length + 1] = [rest.length].map (· + 1) from rfl, ← List.map_append,
          show separators rest ++ [rest.length] = stop :: stops from hstops, List.map_cons]
      have hlater : ((separators rest).map (· + 1)).map (behindSeparator (c :: rest)) =
          ((separators rest).map (behindSeparator rest)).map (· + 1) := by
        simp [Function.comp_def, behindSeparator_cons_succ]
      rw [clauseStarts, hstops, List.zipWith_cons_cons] at ih
      rw [splitClauses, ih, clauseStarts, hends, separators_cons]
      split
      · -- a separator: the next clause begins behind the blanks that follow it
        have hfirst : trimStart (piece rest 0 stop) =
            piece (c :: rest) (behindSeparator (c :: rest) 0) (stop + 1) := by
          have hdrop := drop_length_leadingBlanks (rest.take stop)
          rw [leadingBlanks_take hle] at hdrop
          rw [piece, List.drop_zero, ← hdrop, piece, behindSeparator, Nat.zero_add, Nat.add_comm]
          rfl
        rw [List.modifyHead_cons, hfirst, List.singleton_append, List.singleton_append,
          List.map_cons, hlater, List.zipWith_cons_cons, List.zipWith_cons_cons,
          zipWith_piece_cons]
        rfl
      · rw [List.modifyHead_cons, List.nil_append, List.nil_append, hlater,
          List.zipWith_cons_cons, zipWith_piece_cons]
        rfl

/-- What trimming takes off the first clause are the blanks at the beginning of the text. -/
theorem leadingBlanks_append_trimStart_of_splitClauses {text clause : List Char}
    {others : List (List Char)} (h : splitClauses text = clause :: others) :
    leadingBlanks text ++ trimStart clause = clause := by
  obtain ⟨stop, stops, hstops, hle⟩ := exists_clauseEnds_eq_cons text
  have hfirst := splitClauses_between text
  rw [h, clauseStarts, hstops, List.zipWith_cons_cons, List.cons.injEq] at hfirst
  rw [hfirst.1, ← leadingBlanks_take hle]
  exact leadingBlanks_append_trimStart _

/-- The comma at a position and the blanks that follow it. -/
def separation (text : List Char) (i : Nat) : List Char :=
  ',' :: leadingBlanks (text.drop (i + 1))

/-- The clauses and what separates them make up the text. -/
theorem flatten_clauses_separations (text : List Char) :
    (List.zipWith (· ++ ·) (splitClauses text)
      ((separators text).map (separation text) ++ [[]])).flatten = text := by
  induction text with
  | nil => rfl
  | cons c rest ih =>
      have hlater : ((separators rest).map (· + 1)).map (separation (c :: rest)) =
          (separators rest).map (separation rest) := by
        rw [List.map_map]
        rfl
      obtain ⟨clause, others, hsplit⟩ := List.exists_cons_of_ne_nil (splitClauses_ne_nil rest)
      obtain ⟨gap, gaps, hgaps⟩ :
          ∃ gap gaps, (separators rest).map (separation rest) ++ [[]] = gap :: gaps :=
        List.exists_cons_of_ne_nil (by simp)
      rw [hsplit, hgaps, List.zipWith_cons_cons, List.flatten_cons, List.append_assoc] at ih
      rw [splitClauses, hsplit, separators_cons, List.map_append, hlater, List.append_assoc, hgaps]
      split
      · next hsep =>
        -- the blanks behind the comma are what its clause has lost
        have hclause := leadingBlanks_append_trimStart_of_splitClauses hsplit
        have hcomma : separation (c :: rest) 0 = c :: leadingBlanks rest := by
          rw [separation, hsep.1]
          rfl
        rw [List.modifyHead_cons, List.map_singleton, List.singleton_append,
          List.zipWith_cons_cons, List.zipWith_cons_cons, List.flatten_cons, List.flatten_cons,
          List.nil_append, hcomma, List.cons_append, List.append_assoc, ← List.append_assoc,
          hclause, ih]
      · rw [List.modifyHead_cons, List.map_nil, List.nil_append, List.zipWith_cons_cons,
          List.flatten_cons, List.cons_append, List.cons_append, List.append_assoc, ih]

theorem isBlank_head?_of_mem_tail {text clause : List Char}
    (hmem : clause ∈ (splitClauses text).tail) : ∀ c ∈ clause.head?, isBlank c = false := by
  induction text with
  | nil => cases hmem
  | cons c rest ih =>
      obtain ⟨first, others, hrest⟩ := List.exists_cons_of_ne_nil (splitClauses_ne_nil rest)
      rw [splitClauses, hrest, List.modifyHead_cons, List.modifyHead_cons] at hmem
      rw [hrest] at ih
      split at hmem
      · rcases List.mem_cons.mp hmem with rfl | hmem
        · exact trimStart_eq_self_iff.mp (trimStart_trimStart first)
        · exact ih hmem
      · exact ih hmem

/-- Wherever the pattern is tried in a text, it matches exactly at the separators, and takes the
comma and all of the blanks behind it. -/
theorem behind?_drop (text : List Char) (i : Nat) :
    clauseSeparator.behind? (text.drop i) =
      if i ∈ separators text then some (text.drop (behindSeparator text i)) else none := by
  by_cases hi : i < text.length
  · have hmem : i ∈ separators text ↔ text[i] = ',' ∧ closesFirst (text.drop (i + 1)) = false := by
      rw [mem_separators_iff, List.getElem?_eq_getElem hi, Option.some.injEq]
    rw [List.drop_eq_getElem_cons hi, behind?_clauseSeparator, ← drop_length_leadingBlanks,
      List.drop_drop]
    simp only [hmem]
    rfl
  · have hend : text.length ≤ i := Nat.le_of_not_lt hi
    rw [List.drop_eq_nil_of_le hend, if_neg]
    · rfl
    · intro hmem
      have hnone := (mem_separators_iff.mp hmem).1
      rw [List.getElem?_eq_none hend] at hnone
      cases hnone

/-- A comma separates clauses exactly if no closing brace comes next behind it, and so the pattern
says.  The clauses are the pieces of the text between these commas, each from behind the blanks that
follow the comma before it on; with the commas and these blanks they make up the whole text. -/
theorem splitClauses_at_separators (text : List Char) :
    (∀ i, i ∈ separators text ↔
      text[i]? = some ',' ∧ (text.drop (i + 1)).find? isBrace ≠ some closeBrace) ∧
    (∀ i, clauseSeparator.behind? (text.drop i) =
      if i ∈ separators text then some (text.drop (behindSeparator text i)) else none) ∧
    clauseSeparator.split text = splitClauses text ∧
    splitClauses text = List.zipWith (piece text) (clauseStarts text) (clauseEnds text) ∧
    (splitClauses text).length = (separators text).length + 1 ∧
    (List.zipWith (· ++ ·) (splitClauses text)
      ((separators text).map (separation text) ++ [[]])).flatten = text ∧
    ∀ clause ∈ (splitClauses text).tail, ∀ c ∈ clause.head?, isBlank c = false := by
  refine ⟨fun i => ?_, behind?_drop text, split_clauseSeparator text, splitClauses_between text, ?_,
    flatten_clauses_separations text, fun clause => isBlank_head?_of_mem_tail⟩
  · rw [mem_separators_iff, closesFirst, beq_eq_false_iff_ne]
  · rw [length_splitClauses, length_separators]

/-- A comma before a selector, one inside of it, and one behind it. -/
example : separators "a,  \x7bb, c\x7d, d".toList = [1, 10] ∧
    splitClauses "a,  \x7bb, c\x7d, d".toList =
      ["a".toList, "\x7bb, c\x7d".toList, "d".toList] := by decide +kernel

end Collate

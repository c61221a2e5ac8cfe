import Collate.Proofs.RuleText.Grammar

/-!
# Reading keys

A written key is read as the key it stands for, without a repair
(`readKey_of_writesKey`).  The converse holds up to one omission of the reader
(`exists_writesKey_of_readKey`): an expression that needs no repair is a written key,
but an opening brace and all that follows it may stand behind the key.

Whatever an expression holds, its key is one that a rule can have, unless the
expression begins with the mark of a direction (`legal_readKey`, `readKey_of_mark`).
-/

namespace Collate

open Text

/-! ## Segments between dots -/

theorem splitDots_ne_nil (text : List Char) : splitDots text ≠ [] := by
  cases text with
  | nil => simp [splitDots]
  | cons c rest =>
      rw [splitDots]
      split
      · simp
      · obtain ⟨head, tail, h⟩ : ∃ head tail, splitDots rest = head :: tail :=
          List.exists_cons_of_ne_nil (splitDots_ne_nil rest)
        rw [h]
        simp

theorem splitDots_of_not_mem {segment : List Char} (h : '.' ∉ segment) :
    splitDots segment = [segment] := by
  induction segment with
  | nil => rfl
  | cons c rest ih =>
      rw [List.mem_cons, not_or] at h
      rw [splitDots, if_neg (Ne.symm h.1), ih h.2]
      rfl

theorem splitDots_append_dot {segment : List Char} (h : '.' ∉ segment) (rest : List Char) :
    splitDots (segment ++ '.' :: rest) = segment :: splitDots rest := by
  induction segment with
  | nil => rw [List.nil_append, splitDots, if_pos rfl]
  | cons c tail ih =>
      rw [List.mem_cons, not_or] at h
      rw [List.cons_append, splitDots, if_neg (Ne.symm h.1), ih h.2]
      rfl

/-- Segments without dots are found again between the dots. -/
theorem splitDots_flatMap {segment : List Char} {others : List (List Char)}
    (h : ∀ s ∈ segment :: others, '.' ∉ s) :
    splitDots (segment ++ others.flatMap ('.' :: ·)) = segment :: others := by
  induction others generalizing segment with
  | nil => simpa using splitDots_of_not_mem (h segment (List.mem_cons_self ..))
  | cons next more ih =>
      rw [List.flatMap_cons, List.cons_append,
        splitDots_append_dot (h segment (List.mem_cons_self ..)),
        ih fun s hs => h s (List.mem_cons_of_mem _ hs)]

/-- Nothing is lost between the dots. -/
theorem flatMap_splitDots (text : List Char) :
    (splitDots text).flatMap ('.' :: ·) = '.' :: text := by
  induction text with
  | nil => rfl
  | cons c rest ih =>
      obtain ⟨head, tail, hrest⟩ := List.exists_cons_of_ne_nil (splitDots_ne_nil rest)
      rw [hrest, List.flatMap_cons, List.cons_append, List.cons.injEq] at ih
      rw [splitDots, hrest, List.modifyHead_cons]
      split
      · next hc => simp [hc, ih.2]
      · simp [ih.2]

theorem not_mem_of_mem_splitDots {text segment : List Char} (h : segment ∈ splitDots text) :
    '.' ∉ segment := by
  induction text generalizing segment with
  | nil =>
      rw [splitDots, List.mem_singleton] at h
      simp [h]
  | cons c rest ih =>
      obtain ⟨head, tail, hrest⟩ := List.exists_cons_of_ne_nil (splitDots_ne_nil rest)
      rw [hrest] at ih
      rw [splitDots, hrest, List.modifyHead_cons] at h
      split at h
      · rcases List.mem_cons.mp h with rfl | h
        · simp
        · exact ih h
      · next hc =>
        rcases List.mem_cons.mp h with rfl | h
        · rw [List.mem_cons, not_or]
          exact ⟨Ne.symm hc, ih (List.mem_cons_self ..)⟩
        · exact ih (List.mem_cons_of_mem _ h)

theorem mem_of_mem_splitDots {text segment : List Char} (h : segment ∈ splitDots text) {c : Char}
    (hc : c ∈ segment) : c ∈ text := by
  have hmem : c ∈ (splitDots text).flatMap ('.' :: ·) :=
    List.mem_flatMap.mpr ⟨segment, h, List.mem_cons_of_mem _ hc⟩
  rw [flatMap_splitDots] at hmem
  rcases List.mem_cons.mp hmem with rfl | hmem
  · exact absurd hc (not_mem_of_mem_splitDots h)
  · exact hmem

/-! ## Written keys are read -/

theorem readPlainKey_of_writesKey {key : Key} {written : List Char} (h : WritesKey key written) :
    readPlainKey written = (key, []) := by
  cases h with
  | omitted => rfl
  | name hname =>
      obtain ⟨hne, hdot, -, -⟩ := hname
      cases written with
      | nil => exact absurd rfl hne
      | cons c rest =>
          have hc : c ≠ '.' := by simpa using hdot
          rw [readPlainKey]
          · simp
          · intro dotted hdotted
            exact hc (List.cons.inj hdotted).1
  | @path segments hne hsegments =>
      obtain ⟨segment, others, rfl⟩ := List.exists_cons_of_ne_nil hne
      have hdots : ∀ s ∈ segment :: others, '.' ∉ s := fun s hs => (hsegments s hs).2.1
      have hfilter : (segment :: others).filter (· ≠ []) = segment :: others := by
        rw [List.filter_eq_self]
        exact fun s hs => by simpa using (hsegments s hs).1
      rw [List.flatMap_cons, List.cons_append]
      simp only [readPlainKey, splitDots_flatMap hdots, hfilter]
      simp

/-- A written key is read without a repair. -/
theorem readKey_of_writesKey {key : Key} {written : List Char} (h : WritesKey key written) :
    readKey written = (key, []) := by
  by_cases hnil : written = []
  · cases h with
    | omitted => rfl
    | name hname => exact absurd hnil hname.1
    | @path segments hne hsegments =>
        obtain ⟨segment, others, rfl⟩ := List.exists_cons_of_ne_nil hne
        simp at hnil
  · have hplain := h.forall_isReserved
    -- a written key has no reserved character, so it is read as a whole
    have htake : written.takeWhile (!isReserved ·) = written := by
      rw [List.takeWhile_eq_self_iff]
      exact fun c hc => by simpa using hplain c hc
    have hclose : closeBrace ∉ written := fun hmem => absurd (hplain _ hmem) (by decide)
    have hblank : written.any isBlank = false := by
      rw [List.any_eq_false]
      exact fun c hc => by simpa using isBlank_eq_false_of_isReserved (hplain c hc)
    rw [readKey, if_neg hnil, htake, readPlainKey_of_writesKey h]
    simp [hclose, hblank]

/-! ## What is read is a key -/

/-- A plain expression that needs no repair is a written key. -/
theorem writesKey_of_readPlainKey {key : Key} {plain : List Char}
    (hplain : ∀ c ∈ plain, isReserved c = false) (hmark : plain.head? ≠ some '>')
    (h : readPlainKey plain = (key, [])) : WritesKey key plain := by
  have hany : ∀ text : List Char, (∀ c ∈ text, c ∈ plain) → text.any isReserved = false := by
    intro text hsub
    rw [List.any_eq_false]
    exact fun c hc => by simpa using hplain c (hsub c hc)
  unfold readPlainKey at h
  split at h
  · rw [Prod.mk.injEq] at h
    exact h.1 ▸ .omitted
  · next dotted =>
    simp only [Prod.mk.injEq, ite_eq_left_iff, List.cons_ne_nil, imp_false, not_not] at h
    obtain ⟨hkey, hlength⟩ := h
    -- no segment is left out, as that would be a repair
    have hused : (splitDots dotted).filter (· ≠ []) = splitDots dotted :=
      List.filter_sublist.eq_of_length hlength
    rw [hused, if_neg (splitDots_ne_nil dotted)] at hkey
    rw [← hkey, ← flatMap_splitDots dotted]
    refine .path (splitDots_ne_nil dotted) fun segment hsegment => ⟨?_, ?_, ?_⟩
    · rw [← hused] at hsegment
      simpa using (List.mem_filter.mp hsegment).2
    · exact not_mem_of_mem_splitDots hsegment
    · exact hany segment fun c hc =>
        List.mem_cons_of_mem _ (mem_of_mem_splitDots hsegment hc)
  · next hne hdot =>
    rw [Prod.mk.injEq] at h
    rw [← h.1]
    refine .name ⟨hne, ?_, hmark, hany plain fun _ hc => hc⟩
    intro hhead
    obtain ⟨rest, hrest⟩ := List.head?_eq_some_iff.mp hhead
    exact hdot rest hrest

/-- The plain beginning of an expression begins as the expression does. -/
theorem head?_takeWhile_ne {expression : List Char} {p : Char → Bool} {c : Char}
    (h : expression.head? ≠ some c) : (expression.takeWhile p).head? ≠ some c := by
  rw [List.head?_takeWhile, ne_eq, Option.filter_eq_some_iff, not_and]
  exact fun hhead => absurd hhead h

theorem isReserved_of_mem_head?_dropWhile {expression : List Char} {c : Char}
    (h : c ∈ (expression.dropWhile (!isReserved ·)).head?) : isReserved c = true := by
  have hhead := List.head?_dropWhile_not (!isReserved ·) expression
  rw [Option.mem_def.mp h] at hhead
  simpa using hhead

/-- The key ends at a reserved character, and every kind but one needs a repair. -/
theorem eq_openBrace_of_not_repaired {expression : List Char} {c : Char}
    (hcomma : ',' ∈ expression → closeBrace ∈ expression) (hclose : closeBrace ∉ expression)
    (hblank : expression.any isBlank = false) (hmem : c ∈ expression)
    (hreserved : isReserved c = true) : c = openBrace := by
  have hnot : isBlank c = false := by
    rw [List.any_eq_false] at hblank
    simpa using hblank c hmem
  simp only [isReserved, hnot, isBrace, Bool.false_or, Bool.or_eq_true, beq_iff_eq] at hreserved
  rcases hreserved with rfl | rfl | rfl
  · exact absurd (hcomma hmem) hclose
  · rfl
  · exact absurd hmem hclose

/-- An expression that needs no repair is a written key, apart from what the reader
passes over: an opening brace, and all that follows it. -/
theorem exists_writesKey_of_readKey {key : Key} {expression : List Char}
    (hcomma : ',' ∈ expression → closeBrace ∈ expression)
    (hmark : expression.head? ≠ some '>') (h : readKey expression = (key, [])) :
    ∃ written passed, expression = written ++ passed ∧ WritesKey key written ∧
      (passed = [] ∨ passed.head? = some openBrace) := by
  by_cases hnil : expression = []
  · rw [readKey, if_pos hnil, Prod.mk.injEq] at h
    exact ⟨[], [], hnil, h.1 ▸ .omitted, .inl rfl⟩
  rw [readKey, if_neg hnil] at h
  simp only [Prod.mk.injEq, List.append_eq_nil_iff, ite_eq_right_iff, List.cons_ne_nil,
    imp_false, Bool.not_eq_true] at h
  obtain ⟨hkey, ⟨hclose, hblank⟩, hrepairs⟩ := h
  have hplain : ∀ c ∈ expression.takeWhile (!isReserved ·), isReserved c = false := by
    intro c hc
    simpa using List.mem_takeWhile_imp hc
  refine ⟨expression.takeWhile (!isReserved ·), expression.dropWhile (!isReserved ·),
    List.takeWhile_append_dropWhile.symm,
    writesKey_of_readPlainKey hplain (head?_takeWhile_ne hmark) (Prod.ext hkey hrepairs), ?_⟩
  -- what is left behind the plain beginning starts with a reserved character
  cases hpassed : (expression.dropWhile (!isReserved ·)).head? with
  | none => exact .inl (List.head?_eq_none_iff.mp hpassed)
  | some c =>
      have hmem : c ∈ expression :=
        (List.dropWhile_suffix (!isReserved ·)).subset (List.mem_of_mem_head? hpassed)
      right
      rw [eq_openBrace_of_not_repaired hcomma hclose hblank hmem
        (isReserved_of_mem_head?_dropWhile hpassed)]

/-! ## Keys of any expression -/

theorem readKey_of_ne_nil {expression : List Char} (h : expression ≠ []) :
    (readKey expression).1 = (readPlainKey (expression.takeWhile (!isReserved ·))).1 := by
  rw [readKey, if_neg h]

/-- After the mark of a direction the reader finds an attribute name that begins with
it. -/
theorem readKey_of_mark (rest : List Char) :
    (readKey ('>' :: rest)).1 =
      .named (String.ofList ('>' :: rest.takeWhile (!isReserved ·))) := by
  rw [readKey_of_ne_nil (List.cons_ne_nil _ _), List.takeWhile_cons_of_pos (by decide)]
  rfl

/-- However it is repaired, an expression yields a key that a rule can have, unless it
begins with the mark of a direction. -/
theorem legal_readKey {expression : List Char} (h : expression.head? ≠ some '>') :
    (readKey expression).1.Legal := by
  by_cases hnil : expression = []
  · rw [readKey, if_pos hnil]
    exact Key.fallback_legal
  rw [readKey_of_ne_nil hnil]
  have hplain : ∀ c ∈ expression.takeWhile (!isReserved ·), isReserved c = false := by
    intro c hc
    simpa using List.mem_takeWhile_imp hc
  have hmark := head?_takeWhile_ne (p := (!isReserved ·)) h
  generalize expression.takeWhile (!isReserved ·) = plain at hplain hmark
  unfold readPlainKey
  split
  · exact Key.fallback_legal
  · next dotted =>
    dsimp only
    split
    · exact Key.fallback_legal
    · next hne =>
      refine ⟨by simpa using hne, fun segment hsegment => ?_⟩
      obtain ⟨chars, hchars, rfl⟩ := List.mem_map.mp hsegment
      obtain ⟨hmem, hused⟩ := List.mem_filter.mp hchars
      rw [Key.LegalSegment, String.toList_ofList, List.any_eq_false]
      refine ⟨by simpa using hused, not_mem_of_mem_splitDots hmem, fun c hc => ?_⟩
      simpa using hplain c (List.mem_cons_of_mem _ (mem_of_mem_splitDots hmem hc))
  · next hne hdot =>
    show Key.LegalName (String.ofList plain).toList
    rw [Key.LegalName, String.toList_ofList, List.any_eq_false]
    refine ⟨hne, fun hhead => ?_, hmark, fun c hc => by simpa using hplain c hc⟩
    obtain ⟨rest, hrest⟩ := List.head?_eq_some_iff.mp hhead
    exact hdot rest hrest

end Collate

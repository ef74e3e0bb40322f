import GeoRaster.Text.Blank

/-! Trimming and words. Trimming is idempotent and changes no word, joined words are trimmed,
and the words of joined texts are the words of one text after those of the other. -/
namespace GeoRaster.Text

/-! ### Trimming -/

theorem leadingWord_trimEnd (s : List Char) : leadingWord (trimEnd s) = leadingWord s := by
  induction s with
  | nil => rfl
  | cons c s ih =>
    simp only [trimEnd]
    cases blank : isBlank c with
    | false => simp [leadingWord_cons blank, ih]
    | true =>
      split
      · rename_i empty
        simp only [Bool.and_true, decide_eq_true_eq] at empty
        simp [leadingWord, blank, ← ih, empty]
      · simp [leadingWord, blank, ih]

theorem words_trimEnd (s : List Char) : words (trimEnd s) = words s := by
  simp only [words, leadingWord_trimEnd]

theorem words_dropWhile_isBlank (s : List Char) : words (s.dropWhile isBlank) = words s := by
  induction s with
  | nil => rfl
  | cons c s ih =>
    cases blank : isBlank c with
    | false => rw [List.dropWhile_cons_of_neg (by simp [blank])]
    | true => rw [List.dropWhile_cons_of_pos blank, ih, words_cons_blank blank]

theorem words_trim (s : List Char) : words (trim s) = words s := by
  rw [trim, words_trimEnd, words_dropWhile_isBlank]

theorem trimEnd_trimEnd (s : List Char) : trimEnd (trimEnd s) = trimEnd s := by
  induction s with
  | nil => rfl
  | cons c s ih =>
    simp only [trimEnd]
    split
    · rfl
    · rename_i kept
      simp only [trimEnd, ih, kept]
      rfl

theorem dropWhile_isBlank_cons {c : Char} (letter : isBlank c = false) (s : List Char) :
    (c :: s).dropWhile isBlank = c :: s :=
  List.dropWhile_cons_of_neg (by simp [letter])

theorem dropWhile_isBlank_trimEnd {s : List Char} (start : s.dropWhile isBlank = s) :
    (trimEnd s).dropWhile isBlank = trimEnd s := by
  cases s with
  | nil => rfl
  | cons c s =>
    cases blank : isBlank c with
    | false =>
      simp only [trimEnd, blank, Bool.and_false, Bool.false_eq_true, if_false]
      exact dropWhile_isBlank_cons blank _
    | true =>
      rw [List.dropWhile_cons_of_pos blank] at start
      have shorter := (List.dropWhile_sublist (l := s) isBlank).length_le
      rw [start, List.length_cons] at shorter
      omega

theorem dropWhile_isBlank_idem (s : List Char) :
    (s.dropWhile isBlank).dropWhile isBlank = s.dropWhile isBlank := by
  induction s with
  | nil => rfl
  | cons c s ih =>
    cases blank : isBlank c with
    | false => rw [dropWhile_isBlank_cons blank, dropWhile_isBlank_cons blank]
    | true => rw [List.dropWhile_cons_of_pos blank, ih]

theorem trim_trim (s : List Char) : trim (trim s) = trim s := by
  rw [trim, trim, dropWhile_isBlank_trimEnd (dropWhile_isBlank_idem s), trimEnd_trimEnd]

theorem trimmed_trimmed (s : String) : trimmed (trimmed s) = trimmed s := by
  simp only [trimmed, String.toList_ofList, trim_trim]

/-! ### Joining -/

theorem trimEnd_append {s t : List Char} (kept : trimEnd t ≠ []) :
    trimEnd (s ++ t) = s ++ trimEnd t := by
  induction s with
  | nil => rfl
  | cons c s ih => simp [trimEnd, ih, kept]

theorem trimEnd_of_word {w : List Char} (letters : ∀ c ∈ w, isBlank c = false) : trimEnd w = w := by
  induction w with
  | nil => rfl
  | cons c w ih =>
    have first := letters c (by simp)
    simp [trimEnd, first, ih fun d hd => letters d (by simp [hd])]

theorem unwords_ne_nil {ws : List (List Char)} (some : ws ≠ []) (full : ∀ w ∈ ws, w ≠ []) :
    unwords ws ≠ [] := by
  match ws with
  | [w] => exact full w (by simp)
  | w :: v :: ws => simp [unwords]

/-- Joined words neither start nor end with a blank. -/
theorem trim_unwords {ws : List (List Char)}
    (proper : ∀ w ∈ ws, w ≠ [] ∧ ∀ c ∈ w, isBlank c = false) : trim (unwords ws) = unwords ws := by
  have ended : trimEnd (unwords ws) = unwords ws := by
    induction ws with
    | nil => rfl
    | cons w ws ih =>
      have word := proper w (by simp)
      have rest := fun v (hv : v ∈ ws) => proper v (List.mem_cons_of_mem _ hv)
      cases ws with
      | nil => exact trimEnd_of_word word.2
      | cons v ws =>
        have kept : unwords (v :: ws) ≠ [] := unwords_ne_nil (by simp) fun u hu => (rest u hu).1
        have tail : trimEnd (' ' :: unwords (v :: ws)) = ' ' :: unwords (v :: ws) := by
          simp [trimEnd, ih rest, kept]
        rw [unwords, trimEnd_append (by simp [tail]), tail]
  have started : (unwords ws).dropWhile isBlank = unwords ws := by
    cases ws with
    | nil => rfl
    | cons w ws =>
      obtain ⟨full, letters⟩ := proper w (by simp)
      obtain ⟨c, w, rfl⟩ := List.exists_cons_of_ne_nil full
      cases ws <;> exact dropWhile_isBlank_cons (letters c (by simp)) _
  rw [trim, started, ended]

theorem trim_of_word {w : List Char} (full : w ≠ []) (letters : ∀ c ∈ w, isBlank c = false) :
    trim w = w :=
  trim_unwords (List.forall_mem_singleton.mpr ⟨full, letters⟩)

/-- The words of joined texts, blanks in them or not, are the words of each in turn. -/
theorem words_unwords_flatMap (parts : List (List Char)) :
    words (unwords parts) = parts.flatMap words := by
  match parts with
  | [] => rfl
  | [part] => simp [unwords]
  | part :: next :: parts =>
    rw [unwords, words_append_blank (by decide), words_unwords_flatMap (next :: parts)]
    rfl

/-- Empty texts have no words. -/
theorem flatMap_words_filter (parts : List (List Char)) :
    (parts.filter (· ≠ [])).flatMap words = parts.flatMap words := by
  induction parts with
  | nil => rfl
  | cons part parts ih =>
    by_cases empty : part = []
    · subst empty
      rw [List.filter_cons_of_neg (by simp), ih, List.flatMap_cons, words_nil, List.nil_append]
    · rw [List.filter_cons_of_pos (by simpa using empty), List.flatMap_cons, List.flatMap_cons, ih]

/-! ### Words as parts of a text -/

theorem leadingWord_starts (s : List Char) : (leadingWord s).1 <+: s := by
  induction s with
  | nil => exact List.prefix_rfl
  | cons c s ih =>
    cases blank : isBlank c with
    | false => simpa [leadingWord_cons blank] using ih
    | true => simp [leadingWord, blank]

theorem words_eq_cons_or (s : List Char) :
    words s = (leadingWord s).2 ∨ words s = (leadingWord s).1 :: (leadingWord s).2 := by
  simp only [words]
  split
  · exact Or.inl rfl
  · exact Or.inr rfl

/-- A word of a text stands in it in one piece. -/
theorem infix_of_mem_words {w s : List Char} (member : w ∈ words s) : w <:+: s := by
  have later : w ∈ (leadingWord s).2 → w <:+: s := by
    clear member
    induction s with
    | nil => simp [leadingWord]
    | cons c s ih =>
      intro member
      cases blank : isBlank c with
      | false =>
        rw [leadingWord_cons blank] at member
        exact (ih member).trans (List.suffix_cons c s).isInfix
      | true =>
        have inside : w ∈ words s := by
          simpa only [leadingWord, blank, if_true, words] using member
        have found : w <:+: s := by
          rcases words_eq_cons_or s with same | same
          · exact ih (same ▸ inside)
          · rcases List.mem_cons.mp (same ▸ inside) with rfl | rest
            · exact (leadingWord_starts s).isInfix
            · exact ih rest
        exact found.trans (List.suffix_cons c s).isInfix
  rcases words_eq_cons_or s with same | same
  · exact later (same ▸ member)
  · rcases List.mem_cons.mp (same ▸ member) with rfl | rest
    · exact (leadingWord_starts s).isInfix
    · exact later rest

end GeoRaster.Text

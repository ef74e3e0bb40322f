/-! Blank characters, trimming and words. Texts are lists of characters here, so that
every operation is a plain recursion on the text; the token strings of map projections
are read through this module. The main facts are that the words of a text are never
empty and hold no blank, that a blank between two texts separates their words, and that
a word is its own list of words. -/
namespace GeoRaster.Text

/-- The characters that separate words: ASCII white space, the four ASCII information
separators, and the space, line and paragraph separators of Unicode. -/
def isBlank (c : Char) : Bool :=
  let n := c.toNat
  (0x09 ≤ n && n ≤ 0x0D) || (0x1C ≤ n && n ≤ 0x20) || n == 0x85 || n == 0xA0 || n == 0x1680 ||
    (0x2000 ≤ n && n ≤ 0x200A) || n == 0x2028 || n == 0x2029 || n == 0x202F || n == 0x205F ||
    n == 0x3000

/-- The word that a text starts with, empty before a blank, and the words after it. -/
def leadingWord : List Char → List Char × List (List Char)
  | [] => ([], [])
  | c :: s =>
    let (w, ws) := leadingWord s
    if isBlank c then ([], if w = [] then ws else w :: ws) else (c :: w, ws)

/-- The maximal runs of characters without a blank, in order. -/
def words (s : List Char) : List (List Char) :=
  let (w, ws) := leadingWord s
  if w = [] then ws else w :: ws

def unwords : List (List Char) → List Char
  | [] => []
  | [w] => w
  | w :: v :: ws => w ++ ' ' :: unwords (v :: ws)

theorem words_nil : words [] = [] :=
  rfl

theorem words_cons_blank {c : Char} (h : isBlank c = true) (s : List Char) :
    words (c :: s) = words s := by
  simp [words, leadingWord, h]

theorem leadingWord_cons {c : Char} (h : isBlank c = false) (s : List Char) :
    leadingWord (c :: s) = (c :: (leadingWord s).1, (leadingWord s).2) := by
  simp [leadingWord, h]

/-- Up to a blank, the leading word of a text does not depend on what follows; the words after
it are followed by those after the blank. -/
theorem leadingWord_append_blank {c : Char} (h : isBlank c = true) (s t : List Char) :
    leadingWord (s ++ c :: t) = ((leadingWord s).1, (leadingWord s).2 ++ words t) := by
  induction s with
  | nil => simp [leadingWord, h, words]
  | cons d s ih =>
    cases hd : isBlank d with
    | false => simp [leadingWord_cons hd, ih]
    | true =>
      simp only [List.cons_append, leadingWord, hd, ih, if_true]
      split <;> simp

theorem words_append_blank {c : Char} (h : isBlank c = true) (s t : List Char) :
    words (s ++ c :: t) = words s ++ words t := by
  simp only [words, leadingWord_append_blank h]
  split <;> rfl

theorem leadingWord_sound (s : List Char) :
    (∀ c ∈ (leadingWord s).1, isBlank c = false) ∧
      ∀ w ∈ (leadingWord s).2, w ≠ [] ∧ ∀ c ∈ w, isBlank c = false := by
  induction s with
  | nil => simp [leadingWord]
  | cons d s ih =>
    cases hd : isBlank d with
    | false =>
      rw [leadingWord_cons hd]
      exact ⟨by simpa [hd] using ih.1, ih.2⟩
    | true =>
      refine ⟨by simp [leadingWord, hd], ?_⟩
      simp only [leadingWord, hd, if_true]
      split
      · exact ih.2
      · rename_i hne
        simpa using ⟨⟨hne, ih.1⟩, fun w hw => ih.2 w hw⟩

theorem mem_words {s w : List Char} (h : w ∈ words s) :
    w ≠ [] ∧ ∀ c ∈ w, isBlank c = false := by
  have sound := leadingWord_sound s
  simp only [words] at h
  split at h
  · exact sound.2 w h
  · rename_i hne
    rcases List.mem_cons.1 h with rfl | h
    · exact ⟨hne, sound.1⟩
    · exact sound.2 w h

theorem leadingWord_of_word {w : List Char} (h : ∀ c ∈ w, isBlank c = false) :
    leadingWord w = (w, []) := by
  induction w with
  | nil => rfl
  | cons c w ih =>
    rw [leadingWord_cons (h c (by simp)), ih fun d hd => h d (by simp [hd])]

theorem words_of_word {w : List Char} (hne : w ≠ []) (h : ∀ c ∈ w, isBlank c = false) :
    words w = [w] := by
  simp [words, leadingWord_of_word h, hne]

theorem words_unwords {ws : List (List Char)}
    (h : ∀ w ∈ ws, w ≠ [] ∧ ∀ c ∈ w, isBlank c = false) : words (unwords ws) = ws := by
  match ws with
  | [] => rfl
  | [w] =>
    have hw := h w (by simp)
    exact words_of_word hw.1 hw.2
  | w :: v :: ws =>
    have hw := h w (by simp)
    have rest : words (unwords (v :: ws)) = v :: ws :=
      words_unwords fun u hu => h u (List.mem_cons_of_mem _ hu)
    rw [unwords, words_append_blank (by decide), words_of_word hw.1 hw.2, rest]
    rfl

def trimEnd : List Char → List Char
  | [] => []
  | c :: s =>
    let rest := trimEnd s
    if rest = [] && isBlank c then [] else c :: rest

def trim (s : List Char) : List Char :=
  trimEnd (s.dropWhile isBlank)

def trimmed (s : String) : String :=
  String.ofList (trim s.toList)

end GeoRaster.Text

import Mathlib.Data.List.TakeWhile
import TypedSearch.Text.Blank

/-!
# Words of a text

A text is cut into pieces at some of its characters (`pieces_eq_splitOnP`), and into words at its
white space. `Worded` says what the words of a text are without cutting it: rows of characters that
are not white space, each of which goes up to the next white space or to the end, with any white
space before the first and behind the last. Every text has words in this sense, and `words` finds
them (`words_eq_iff`).
-/

namespace TypedSearch.Text

variable {p : Char → Bool} {gap w rest cs : List Char} {ws : List (List Char)} {c : Char}

/-! ## Pieces -/

/-- The pieces of a text are those that a split at its breaks gives. -/
theorem pieces_eq_splitOnP (p : Char → Bool) (cs : List Char) : pieces p cs = cs.splitOnP p := by
  induction cs with
  | nil => rfl
  | cons c cs ih =>
    rw [pieces, List.splitOnP_cons_eq_if_modifyHead, ih]
    cases h : cs.splitOnP p with
    | nil => exact absurd h (List.splitOnP_ne_nil p cs)
    | cons w ws => rfl

/-- None of the characters at which a text is cut stands in a piece of it. -/
theorem eq_false_of_mem_pieces (hw : w ∈ pieces p cs) (hc : c ∈ w) : p c = false := by
  induction cs generalizing w with
  | nil =>
    rw [pieces, List.mem_singleton] at hw
    rw [hw] at hc
    cases hc
  | cons d cs ih =>
    unfold pieces at hw
    split at hw
    · rcases List.mem_cons.1 hw with rfl | hw
      · cases hc
      · exact ih hw hc
    · rename_i hd
      split at hw
      · rename_i hnil
        exact absurd hnil (pieces_ne_nil p cs)
      · rename_i v vs hcons
        rw [hcons] at ih
        rcases List.mem_cons.1 hw with rfl | hw
        · rcases List.mem_cons.1 hc with rfl | hc
          · exact eq_false_of_ne_true hd
          · exact ih List.mem_cons_self hc
        · exact ih (List.mem_cons_of_mem _ hw) hc

/-! ## Words -/

structure IsWord (w : List Char) : Prop where
  ne_nil : w ≠ []
  not_blank : ∀ c ∈ w, isBlank c = false

/-- Does the text hold the given words, with white space between them and any white space around
them? -/
inductive Worded : List Char → List (List Char) → Prop
  | blank {gap : List Char} (h : ∀ c ∈ gap, isBlank c = true) : Worded gap []
  | word {gap w rest : List Char} {ws : List (List Char)} (before : ∀ c ∈ gap, isBlank c = true)
      (word : IsWord w)
      (behind : ∀ c ∈ rest.head?, isBlank c = true)
      (more : Worded rest ws) : Worded (gap ++ w ++ rest) (w :: ws)

theorem words_append_of_blank (h : ∀ c ∈ gap, isBlank c = true) (cs : List Char) :
    words (gap ++ cs) = words cs := by
  induction gap with
  | nil => rfl
  | cons c gap ih =>
    obtain ⟨hc, hgap⟩ := List.forall_mem_cons.1 h
    rw [← ih hgap, List.cons_append]
    simp [words, pieces, hc]

theorem words_append_of_isWord (hw : IsWord w) (h : ∀ c ∈ rest.head?, isBlank c = true) :
    words (w ++ rest) = w :: words rest := by
  cases rest with
  | nil =>
    rw [words, List.append_nil, pieces_eq_splitOnP, List.splitOnP_eq_singleton hw.not_blank]
    simp [words, pieces, hw.ne_nil]
  | cons c rest =>
    have hc : isBlank c = true := h c rfl
    rw [words, pieces_eq_splitOnP, List.splitOnP_append_cons_of_forall_mem hw.not_blank c hc,
      ← pieces_eq_splitOnP]
    simp [words, pieces, hc, hw.ne_nil]

theorem Worded.words_eq (h : Worded cs ws) : words cs = ws := by
  induction h with
  | @blank gap h =>
    have hgap := words_append_of_blank h []
    rwa [List.append_nil] at hgap
  | word before word behind _ ih =>
    rw [List.append_assoc, words_append_of_blank before, words_append_of_isWord word behind, ih]

/-- A text that is not blank begins with a word, apart from the white space before it. -/
theorem exists_first_word {cs : List Char} (h : ¬ ∀ c ∈ cs, isBlank c = true) :
    ∃ gap w rest, gap ++ w ++ rest = cs ∧ (∀ c ∈ gap, isBlank c = true) ∧ IsWord w ∧
      ∀ c ∈ rest.head?, isBlank c = true := by
  have hgap : ∀ c ∈ cs.takeWhile isBlank, isBlank c = true := fun c ↦ List.mem_takeWhile_imp
  cases hcs : cs.dropWhile isBlank with
  | nil =>
    refine absurd ?_ h
    rwa [← List.takeWhile_append_dropWhile (p := isBlank) (l := cs), hcs, List.append_nil]
  | cons d ds =>
    have hd : isBlank d = false := by
      have hnot := List.head?_dropWhile_not isBlank cs
      rwa [hcs] at hnot
    refine ⟨_, (d :: ds).takeWhile (!isBlank ·), (d :: ds).dropWhile (!isBlank ·), ?_, hgap,
      ⟨?_, ?_⟩, ?_⟩
    · rw [List.append_assoc, List.takeWhile_append_dropWhile, ← hcs,
        List.takeWhile_append_dropWhile]
    · simp [hd]
    · exact fun c hc ↦ by simpa using List.mem_takeWhile_imp hc
    · intro c hc
      have hnot := List.head?_dropWhile_not (!isBlank ·) (d :: ds)
      rw [Option.mem_def.1 hc] at hnot
      simpa using hnot

/-- Every text has words. -/
theorem exists_worded (cs : List Char) : ∃ ws, Worded cs ws := by
  by_cases h : ∀ c ∈ cs, isBlank c = true
  · exact ⟨[], .blank h⟩
  · obtain ⟨gap, w, rest, hcs, hgap, hw, hbehind⟩ := exists_first_word h
    have hlt : rest.length < cs.length := by
      have hpos := List.length_pos_iff.2 hw.ne_nil
      rw [← hcs]
      simp only [List.length_append]
      omega
    obtain ⟨ws, hws⟩ := exists_worded rest
    exact ⟨w :: ws, hcs ▸ .word hgap hw hbehind hws⟩
termination_by cs.length

/-- The words of a text are the ones that it is worded of. -/
theorem words_eq_iff : words cs = ws ↔ Worded cs ws := by
  refine ⟨?_, Worded.words_eq⟩
  rintro rfl
  obtain ⟨ws, hws⟩ := exists_worded cs
  rwa [hws.words_eq]

theorem Worded.isWord_of_mem (h : Worded cs ws) (hw : w ∈ ws) : IsWord w ∧ ∀ c ∈ w, c ∈ cs := by
  induction h with
  | blank => cases hw
  | @word gap v rest ws before word behind more ih =>
    rcases List.mem_cons.1 hw with rfl | hw
    · exact ⟨word, fun c hc ↦ by simp [hc]⟩
    · obtain ⟨hword, hmem⟩ := ih hw
      exact ⟨hword, fun c hc ↦ by simp [hmem c hc]⟩

/-- A text is blank if there are no words in it. -/
theorem words_eq_nil_iff : words cs = [] ↔ cs.all isBlank = true := by
  rw [words_eq_iff, List.all_eq_true]
  refine ⟨?_, .blank⟩
  rintro ⟨h⟩
  exact h

end TypedSearch.Text

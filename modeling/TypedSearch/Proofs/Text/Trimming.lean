import TypedSearch.Text.Blank
import Mathlib.Data.List.TakeWhile

/-!
# White space around a text

Every text is its trimmed form in white space (`surrounds_trim`), and that form can be told from any
other that stands in white space by its ends: neither of them is blank (`Surrounds.trim_eq`).
-/

namespace TypedSearch.Text

variable {core cs : List Char} {p : Char → Bool}

/-- Is the text the core, with nothing but white space around it? -/
def Surrounds (core cs : List Char) : Prop :=
  ∃ before after, (∀ c ∈ before, isBlank c = true) ∧ (∀ c ∈ after, isBlank c = true) ∧
    cs = before ++ core ++ after

theorem surrounds_self (cs : List Char) : Surrounds cs cs := ⟨[], [], by simp, by simp, by simp⟩

theorem surrounds_trim (cs : List Char) : Surrounds (trim cs) cs := by
  have hend := List.takeWhile_append_dropWhile (p := isBlank) (l := (cs.dropWhile isBlank).reverse)
  refine ⟨cs.takeWhile isBlank, ((cs.dropWhile isBlank).reverse.takeWhile isBlank).reverse,
    fun c ↦ List.mem_takeWhile_imp, fun c hc ↦ List.mem_takeWhile_imp (List.mem_reverse.1 hc), ?_⟩
  rw [trim, strip, stripEnd, List.append_assoc, ← List.reverse_append, hend, List.reverse_reverse,
    List.takeWhile_append_dropWhile]

theorem dropWhile_eq_self (h : ∀ c ∈ cs.head?, p c = false) : cs.dropWhile p = cs := by
  cases cs with
  | nil => rfl
  | cons c cs => exact List.dropWhile_cons_of_neg (by simp [h c rfl])

/-- What is dropped around a text is not dropped inside it. -/
theorem strip_append {before after : List Char} (hbefore : ∀ c ∈ before, p c = true)
    (hafter : ∀ c ∈ after, p c = true) (head : ∀ c ∈ core.head?, p c = false)
    (last : ∀ c ∈ core.getLast?, p c = false) :
    strip p (before ++ core ++ after) = core := by
  have hrev : ∀ c ∈ core.reverse.head?, p c = false := by
    rwa [List.head?_reverse]
  rw [strip, stripEnd, List.append_assoc, List.dropWhile_append_of_pos hbefore]
  cases core with
  | nil =>
    have hnil : after.dropWhile p = [] := List.dropWhile_eq_nil_iff.2 hafter
    rw [List.nil_append, hnil]
    rfl
  | cons c core =>
    have hdrop : (c :: core ++ after).dropWhile p = c :: core ++ after := dropWhile_eq_self head
    rw [hdrop, List.reverse_append, List.dropWhile_append_of_pos fun c hc ↦
      hafter c (List.mem_reverse.1 hc), dropWhile_eq_self hrev, List.reverse_reverse]

theorem strip_eq_self (head : ∀ c ∈ cs.head?, p c = false) (last : ∀ c ∈ cs.getLast?, p c = false) :
    strip p cs = cs := by
  have hnone : ∀ c ∈ ([] : List Char), p c = true := by simp
  have hstrip := strip_append hnone hnone head last
  rwa [List.nil_append, List.append_nil] at hstrip

/-- Trimming leaves the text that stands between blanks. -/
theorem Surrounds.trim_eq (h : Surrounds core cs) (head : ∀ c ∈ core.head?, isBlank c = false)
    (last : ∀ c ∈ core.getLast?, isBlank c = false) : trim cs = core := by
  obtain ⟨before, after, hbefore, hafter, rfl⟩ := h
  exact strip_append hbefore hafter head last

/-- A text without white space stays as it is. -/
theorem trim_eq_self (h : ∀ c ∈ cs, isBlank c = false) : trim cs = cs :=
  (surrounds_self cs).trim_eq (fun c hc ↦ h c (List.mem_of_mem_head? hc)) fun c hc ↦
    h c (List.mem_of_mem_getLast? hc)

end TypedSearch.Text

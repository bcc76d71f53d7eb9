/-!
# White space

Which characters are white space, and the operations every reader of this library starts with:
dropping the white space around a text (`trim`) and cutting a text into its words (`words`).
-/

namespace TypedSearch.Text

/-- White space of the Unicode standard, the four ASCII information separators included. -/
def isBlank (c : Char) : Bool :=
  let n := c.toNat
  (9 ≤ n && n ≤ 13) || (28 ≤ n && n ≤ 32) || n == 0x85 || n == 0xA0 || n == 0x1680 ||
    (0x2000 ≤ n && n ≤ 0x200A) || n == 0x2028 || n == 0x2029 || n == 0x202F || n == 0x205F ||
    n == 0x3000

/-! ## Cutting at the ends -/

/-- Drops the longest run at the end of a text whose characters all satisfy `p`. -/
def stripEnd (p : Char → Bool) (cs : List Char) : List Char :=
  (cs.reverse.dropWhile p).reverse

/-- Drops the longest runs at both ends of a text whose characters all satisfy `p`. -/
def strip (p : Char → Bool) (cs : List Char) : List Char :=
  stripEnd p (cs.dropWhile p)

def trim (cs : List Char) : List Char := strip isBlank cs

@[simp] theorem stripEnd_nil (p : Char → Bool) : stripEnd p [] = [] := rfl

@[simp] theorem strip_nil (p : Char → Bool) : strip p [] = [] := rfl

@[simp] theorem trim_nil : trim [] = [] := rfl

/-! ## Cutting into pieces -/

/-- The stretches of a text between the characters that satisfy `p`, the empty ones included. -/
def pieces (p : Char → Bool) : List Char → List (List Char)
  | [] => [[]]
  | c :: cs =>
    if p c then [] :: pieces p cs
    else match pieces p cs with
      | [] => [[c]]
      | w :: ws => (c :: w) :: ws

/-- The words of a text: what stands between runs of white space. -/
def words (cs : List Char) : List (List Char) :=
  (pieces isBlank cs).filter fun w ↦ !w.isEmpty

theorem pieces_ne_nil (p : Char → Bool) (cs : List Char) : pieces p cs ≠ [] := by
  cases cs with
  | nil => simp [pieces]
  | cons c cs =>
    unfold pieces
    split
    · simp
    · split <;> simp

/-- The text before the first character equal to `c`, and the text after it if there is one. -/
def cut (c : Char) (cs : List Char) : List Char × Option (List Char) :=
  match cs.dropWhile (· != c) with
  | [] => (cs, none)
  | _ :: rest => (cs.takeWhile (· != c), some rest)

/-- A text is cut at the first mark. -/
theorem cut_append {mark : Char} {cs : List Char} (h : mark ∉ cs) (rest : List Char) :
    cut mark (cs ++ mark :: rest) = (cs, some rest) := by
  have hne : ∀ c ∈ cs, (c != mark) = true := fun c hc ↦ bne_iff_ne.2 fun hcm ↦ h (hcm ▸ hc)
  rw [cut, List.dropWhile_append_of_pos hne, List.takeWhile_append_of_pos hne]
  simp

/-- Without a mark it is not cut. -/
theorem cut_of_not_mem {mark : Char} {cs : List Char} (h : mark ∉ cs) :
    cut mark cs = (cs, none) := by
  have hne : ∀ c ∈ cs, (c != mark) = true := fun c hc ↦ bne_iff_ne.2 fun hcm ↦ h (hcm ▸ hc)
  have hdrop : (cs ++ []).dropWhile (· != mark) = [] := List.dropWhile_append_of_pos hne
  rw [List.append_nil] at hdrop
  rw [cut, hdrop]

/-! ## The same for strings -/

/-- `trim` on strings. -/
def trimmed (s : String) : String := .ofList (trim s.toList)

/-- A string that holds nothing but white space. -/
def isBlankText (s : String) : Bool := s.toList.all isBlank

end TypedSearch.Text

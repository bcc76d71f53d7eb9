import TypedSearch.Proofs.Json.Numbers

/-!
# Printed values are JSON texts

A value printed on several lines is a JSON text that says what the value holds, if its numbers are
finite (`spells_block`). If one of them is not, its name stands outside of quotes, and what is
printed is no JSON text (`walk_block`).
-/

namespace TypedSearch.Json

open Text Binary64

/-! ## What a printed value says -/

/-- The UTF-16 units of a text. -/
def textUnits (s : String) : List Nat := s.toList.flatMap units

mutual

def tree : Json → Tree
  | .null => .null
  | .bool b => .bool b
  | .int n => .number (Whole.write n)
  | .float x => .number x.write
  | .text s => .text (textUnits s)
  | .array xs => .array (trees xs)
  | .object ms => .object (memberTrees ms)

def trees : List Json → List Tree
  | [] => []
  | x :: xs => tree x :: trees xs

def memberTrees : List (String × Json) → List (List Nat × Tree)
  | [] => []
  | (k, x) :: ms => (textUnits k, tree x) :: memberTrees ms

end

mutual

def floats : Json → List Binary64
  | .float x => [x]
  | .array xs => floatsOfAll xs
  | .object ms => floatsOfMembers ms
  | _ => []

/-- The binary numbers inside a row of values. -/
def floatsOfAll : List Json → List Binary64
  | [] => []
  | x :: xs => floats x ++ floatsOfAll xs

/-- The binary numbers inside the members of an object. -/
def floatsOfMembers : List (String × Json) → List Binary64
  | [] => []
  | (_, x) :: ms => floats x ++ floatsOfMembers ms

end

variable {us : List Nat} {cs : List Char} {c : Char} {n w : Nat}

/-! ## Texts -/

/-- A character of the basic plane is one unit. -/
theorem units_of_lt (h : c.toNat < 0x10000) : units c = [c.toNat] := if_pos h

/-- The digits of an escape, from the last one on. -/
theorem hexadecimal_succ (hw : 0 < w) :
    hexadecimal (w + 1) n = hexadecimal w (n / 16) ++ [(n % 16).digitChar] := by
  rcases Nat.lt_or_ge n 16 with h | h
  · obtain ⟨v, rfl⟩ := Nat.exists_eq_succ_of_ne_zero (Nat.ne_of_gt hw)
    simp [hexadecimal, Nat.toDigits_of_lt_base h, Nat.div_eq_of_lt h, Nat.mod_eq_of_lt h,
      List.replicate_succ']
  · simp [hexadecimal, Nat.toDigits_of_base_le (by decide) h]

theorem hexValue?_digitChar : ∀ n < 16, hexValue? n.digitChar = some n := by decide

/-- The escape of a unit stands for the unit. -/
theorem spellsUnits_unitEscape (hn : n < 0x10000) (h : SpellsUnits us cs) :
    SpellsUnits (n :: us) (unitEscape n ++ cs) := by
  have hdigits : hexadecimal 4 n = [(n / 16 / 16 / 16).digitChar, (n / 16 / 16 % 16).digitChar,
      (n / 16 % 16).digitChar, (n % 16).digitChar] := by
    rw [hexadecimal_succ (by decide), hexadecimal_succ (by decide), hexadecimal_succ (by decide)]
    simp [hexadecimal, Nat.toDigits_of_lt_base (b := 16) (n := n / 16 / 16 / 16) (by omega)]
  have hvalue : n = 4096 * (n / 16 / 16 / 16) + 256 * (n / 16 / 16 % 16) + 16 * (n / 16 % 16) +
    n % 16 := by omega
  rw [unitEscape, hdigits]
  nth_rewrite 1 [hvalue]
  exact .unit (hexValue?_digitChar _ (by omega)) (hexValue?_digitChar _ (by omega))
    (hexValue?_digitChar _ (by omega)) (hexValue?_digitChar _ (by omega)) h

theorem toNat_lt (c : Char) : c.toNat < 0x110000 := by
  have hvalid : c.toNat.isValidChar := c.valid
  unfold Nat.isValidChar at hvalid
  omega

/-- What is printed of a character stands for its units. -/
theorem spellsUnits_textChar (c : Char) (h : SpellsUnits us cs) :
    SpellsUnits (units c ++ us) (textChar c ++ cs) := by
  have hshort {d : Char} {n : Nat} (hn : c.toNat = n) (hlt : n < 0x10000)
      (hd : (d, n) ∈ shortEscapes) :
        SpellsUnits (units c ++ us) ('\\' :: d :: cs) := by
    rw [units_of_lt (hn ▸ hlt), hn]
    exact .short hd h
  unfold textChar
  simp only [beq_iff_eq, Bool.or_eq_true, Bool.and_eq_true, decide_eq_true_eq]
  split_ifs with hsame hline hreturn htab hfeed hback hbare hlow
  · rcases hsame with rfl | rfl <;> exact hshort rfl (by decide) (by decide)
  · subst hline
    exact hshort rfl (by decide) (by decide)
  · subst hreturn
    exact hshort rfl (by decide) (by decide)
  · subst htab
    exact hshort rfl (by decide) (by decide)
  · exact hshort hfeed (by decide) (by decide)
  · exact hshort hback (by decide) (by decide)
  · exact .bare hbare.1 (fun hc ↦ hsame (.inl hc)) (fun hc ↦ hsame (.inr hc)) h
  · rw [units_of_lt hlow]
    exact spellsUnits_unitEscape hlow h
  · have hlt := toNat_lt c
    rw [units, if_neg hlow, List.append_assoc]
    exact spellsUnits_unitEscape (by omega) (spellsUnits_unitEscape (by omega) h)

/-- A printed text spells its units, whatever its characters. -/
theorem spells_textChars (s : String) : Spells (.value (.text (textUnits s))) (textChars s) := by
  refine .text ?_
  unfold textUnits
  induction s.toList with
  | nil => exact .nil
  | cons c cs ih => exact spellsUnits_textChar c ih

/-! ## Values -/

theorem isSpace_newLine (depth : Nat) : IsSpace (newLine depth) := by
  intro c hc
  rcases List.mem_cons.1 hc with rfl | hc
  · decide
  · rw [List.eq_of_mem_replicate hc]
    decide

theorem isSpace_nil : IsSpace [] := nofun

theorem isSpace_singleton : IsSpace [' '] :=
  fun _ hc ↦ List.mem_cons.2 (.inl (List.mem_singleton.1 hc))

theorem floatChars_of_isFinite {x : Binary64} (h : x.IsFinite) : floatChars x = x.write := by
  cases h
  rfl

/-- A name, in the white space of a new line and before a value. -/
theorem spells_name (k : String) (depth : Nat) :
    Spells (.padded (.text (textUnits k))) (newLine depth ++ (textChars k ++ [])) :=
  .padded (isSpace_newLine depth) (spells_textChars k) isSpace_nil

mutual

/-- A value whose numbers are finite is printed as a JSON text. -/
theorem spells_block (depth : Nat) : ∀ {v : Json}, (∀ x ∈ v.floats, x.IsFinite) →
    Spells (.value v.tree) (v.block depth)
  | .null, _ => by
    simp only [block, line]
    exact .null
  | .bool b, _ => by
    simp only [block, line]
    exact .bool b
  | .int n, _ => by
    simp only [block, line]
    exact .number (isNumber_whole n)
  | .float x, h => by
    have hx : x.IsFinite := h x (by simp [floats])
    simp only [block, line, floatChars_of_isFinite hx]
    exact .number hx.isNumber_write
  | .text s, _ => by
    simp only [block, line]
    exact spells_textChars s
  | .array [], _ => by
    simp only [block]
    exact .emptyArray isSpace_nil
  | .array (x :: xs), h => by
    simp only [block]
    exact .array (spells_blockItems depth (List.cons_ne_nil x xs) h)
  | .object [], _ => by
    simp only [block]
    exact .emptyObject isSpace_nil
  | .object (m :: ms), h => by
    simp only [block]
    exact .object (spells_blockMembers depth (List.cons_ne_nil m ms) h)

theorem spells_blockItems (depth : Nat) :
    ∀ {xs : List Json}, xs ≠ [] → (∀ x ∈ floatsOfAll xs, x.IsFinite) →
    Spells (.items (trees xs)) (blockItems (depth + 1) xs ++ newLine depth)
  | [], hne, _ => absurd rfl hne
  | [x], _, h => by
    have hx := spells_block (depth + 1) (List.forall_mem_append.1 h).1
    have hlast := Spells.lastItem (.padded (isSpace_newLine (depth + 1)) hx (isSpace_newLine depth))
    simpa [blockItems, trees] using hlast
  | x :: y :: ys, _, h => by
    have hx := spells_block (depth + 1) (List.forall_mem_append.1 h).1
    have hitem := Spells.item (.padded (isSpace_newLine (depth + 1)) hx isSpace_nil)
      (spells_blockItems depth (List.cons_ne_nil y ys) (List.forall_mem_append.1 h).2)
    simpa [blockItems, trees] using hitem

theorem spells_blockMembers (depth : Nat) : ∀ {ms : List (String × Json)}, ms ≠ [] →
    (∀ x ∈ floatsOfMembers ms, x.IsFinite) →
    Spells (.members (memberTrees ms)) (blockMembers (depth + 1) ms ++ newLine depth)
  | [], hne, _ => absurd rfl hne
  | [(k, x)], _, h => by
    have hx := spells_block (depth + 1) (List.forall_mem_append.1 h).1
    have hlast := Spells.lastMember (spells_name k (depth + 1))
      (.padded isSpace_singleton hx (isSpace_newLine depth))
    simpa [blockMembers, memberTrees] using hlast
  | (k, x) :: m :: ms, _, h => by
    have hx := spells_block (depth + 1) (List.forall_mem_append.1 h).1
    have hmember := Spells.member (spells_name k (depth + 1))
      (.padded isSpace_singleton hx isSpace_nil)
      (spells_blockMembers depth (List.cons_ne_nil m ms) (List.forall_mem_append.1 h).2)
    simpa [blockMembers, memberTrees] using hmember

end

/-! ## Names of special numbers -/

theorem isPlain_place {ds : List Char} (h : AllDigits ds) (point : Int) :
    ∀ c ∈ layout.place ds point, IsPlain c := by
  have hzeros (k : Nat) := isPlain_of_allDigits (allDigits_replicate_zero k)
  have hdigits := isPlain_of_allDigits h
  unfold Layout.place
  split
  · split
    · simp only [List.forall_mem_cons, List.forall_mem_append]
      exact ⟨by decide, by decide, hzeros _, hdigits⟩
    · simp only [List.forall_mem_cons, List.forall_mem_append]
      refine ⟨⟨fun c hc ↦ hdigits c (List.mem_of_mem_take hc), hzeros _⟩, by decide, ?_⟩
      split
      · exact hzeros 1
      · exact fun c hc ↦ hdigits c (List.mem_of_mem_drop hc)
  · refine List.forall_mem_append.2 ⟨?_, (isPower_power _).isPlain⟩
    split
    · simp only [List.forall_mem_cons] at hdigits ⊢
      exact ⟨hdigits.1, by decide, hdigits.2⟩
    · exact hdigits

def isSpecial : Binary64 → Bool
  | .finite .. => false
  | _ => true

theorem isPlain_write (s : Bool) (m : Nat) (e : Int) :
    ∀ c ∈ (Binary64.finite s m e).write, IsPlain c := by
  refine List.forall_mem_append.2 ⟨?_, ?_⟩
  · cases s <;> simp [IsPlain]
  · split
    · simp [IsPlain]
    · exact isPlain_place (allDigits_shortest m e) _

/-- A walk stops at the numbers that are no JSON and passes all others. -/
theorem walk_floatChars (x : Binary64) :
    walk .outside (floatChars x) = if isSpecial x then none else some .outside := by
  cases x with
  | finite s m e => exact walk_of_isPlain (isPlain_write s m e)
  | infinite s => cases s <;> rfl
  | nan => rfl

/-- It passes every printed text. -/
theorem walk_textChars (s : String) : walk .outside (textChars s) = some .outside :=
  walk_of_spells (spells_textChars s)

theorem walk_newLine (depth : Nat) : walk .outside (newLine depth) = some .outside :=
  walk_of_isPlain (isSpace_newLine depth).isPlain

mutual

/-- The name of a special number stands outside of quotes. -/
theorem walk_block (depth : Nat) : ∀ v : Json,
    walk .outside (v.block depth) = if v.floats.any isSpecial then none else some .outside
  | .null => by simp [block, line, floats, Place.next?]
  | .bool b => by cases b <;> simp [block, line, floats, Place.next?]
  | .int n => by simp [block, line, floats, walk_of_isPlain (isNumber_whole n).isPlain]
  | .float x => by simp [block, line, floats, walk_floatChars]
  | .text s => by simp [block, line, floats, walk_textChars]
  | .array [] => by simp [block, floats, floatsOfAll, Place.next?]
  | .array (x :: xs) => by
    have hxs := walk_blockItems (depth + 1) (x :: xs)
    rw [floats]
    generalize (floatsOfAll (x :: xs)).any isSpecial = special at hxs ⊢
    cases special <;> simp [block, Place.next?, hxs, walk_newLine]
  | .object [] => by simp [block, floats, floatsOfMembers, Place.next?]
  | .object (m :: ms) => by
    have hms := walk_blockMembers (depth + 1) (m :: ms)
    rw [floats]
    generalize (floatsOfMembers (m :: ms)).any isSpecial = special at hms ⊢
    cases special <;> simp [block, Place.next?, hms, walk_newLine]

theorem walk_blockItems (depth : Nat) : ∀ xs : List Json,
    walk .outside (blockItems depth xs) = if (floatsOfAll xs).any isSpecial then none
    else some .outside
  | [] => rfl
  | [x] => by simp [blockItems, floatsOfAll, walk_newLine, walk_block depth x]
  | x :: y :: ys => by
    have hx := walk_block depth x
    have hys := walk_blockItems depth (y :: ys)
    rw [floatsOfAll, List.any_append]
    generalize x.floats.any isSpecial = special at hx ⊢
    cases special with
    | false => simpa [blockItems, Place.next?, walk_newLine, hx] using hys
    | true => simp [blockItems, walk_newLine, hx]

theorem walk_blockMembers (depth : Nat) : ∀ ms : List (String × Json),
    walk .outside (blockMembers depth ms) = if (floatsOfMembers ms).any isSpecial then none
    else some .outside
  | [] => rfl
  | [(k, x)] => by
    simp [blockMembers, floatsOfMembers, walk_newLine, walk_textChars, Place.next?,
      walk_block depth x]
  | (k, x) :: m :: ms => by
    have hx := walk_block depth x
    have hms := walk_blockMembers depth (m :: ms)
    rw [floatsOfMembers, List.any_append]
    generalize x.floats.any isSpecial = special at hx ⊢
    cases special with
    | false => simpa [blockMembers, Place.next?, walk_newLine, walk_textChars, hx] using hms
    | true => simp [blockMembers, Place.next?, walk_newLine, walk_textChars, hx]

end

/-! ## Printed texts -/

/-- The text of a value with finite numbers says what the value holds. -/
theorem spells_renderBlock {v : Json} {after : List Char} (h : ∀ x ∈ v.floats, x.IsFinite)
    (hafter : IsSpace after) :
    Spells (.padded v.tree) (v.renderBlock.toList ++ after) := by
  rw [renderBlock, String.toList_ofList]
  exact .padded isSpace_nil (spells_block 0 h) hafter

/-- The text of a value with a special number is no JSON text, whatever stands behind it. -/
theorem not_isText_renderBlock {v : Json} {x : Binary64} (hx : x ∈ v.floats)
    (h : isSpecial x = true) (after : List Char) : ¬ IsText (v.renderBlock.toList ++ after) := by
  rintro ⟨tree, htext⟩
  have hwalk := walk_of_spells htext
  have hspecial : v.floats.any isSpecial = true := List.any_eq_true.2 ⟨x, hx, h⟩
  rw [renderBlock, String.toList_ofList, walk_append, walk_block, if_pos hspecial] at hwalk
  cases hwalk

end TypedSearch.Json

import Mathlib.Data.List.TakeWhile
import TypedSearch.Annotation.Resolution
import TypedSearch.Proofs.Number.Numeral
import TypedSearch.Proofs.Outcome

/-!
# Annotations that are names

Most annotations are names. A name is cut into one word (`lexemes_of_isIdentifier`), which the
grammar passes through all its levels (`parseAll_name`), so it is read as itself, with its variant
letters replaced (`Expr.parse?_of_isIdentifier`). What it stands for is looked up, and a text in
place of a type comes to the same as the name without quotes (`run_resolve_name`).
-/

namespace TypedSearch

open Text Outcome
open Declared (Building)

namespace Annotation

variable {c d : Char} {cs : List Char} {s : String} {fuel : Nat}

/-! ## Words -/

theorem isIdentifierChar_of_start (h : isIdentifierStart c = true) : isIdentifierChar c = true := by
  by_cases hc : c.toNat < 128
  · have hstart : (c.isAlpha || c == '_') = true := by
      rwa [isIdentifierStart, if_pos hc] at h
    rw [isIdentifierChar, if_pos hc, Char.isAlphanum]
    rcases Bool.or_eq_true_iff.1 hstart with ha | ha <;> simp [ha]
  · simp [isIdentifierChar, if_neg hc, h]

/-- What may stand in an identifier separates no words. -/
theorem ne_of_isIdentifierChar (h : isIdentifierChar c = true) (hd : isIdentifierChar d = false) :
    c ≠ d := by
  rintro rfl
  cases h.symm.trans hd

theorem ne_of_isIdentifierStart (h : isIdentifierStart c = true)
    (hd : isIdentifierStart d = false) :
    c ≠ d := by
  rintro rfl
  cases h.symm.trans hd

theorem toNat_of_isAlpha (h : c.isAlpha = true) :
    65 ≤ c.toNat ∧ c.toNat ≤ 90 ∨ 97 ≤ c.toNat ∧ c.toNat ≤ 122 := by
  rcases Bool.or_eq_true_iff.1 h with h | h
  · exact .inl (of_decide_eq_true h)
  · exact .inr ((Bool.and_eq_true_iff.1 h).imp of_decide_eq_true of_decide_eq_true)

/-- No identifier begins with a digit. -/
theorem isDigit_of_start (h : isIdentifierStart c = true) : c.isDigit = false := by
  by_contra hd
  obtain ⟨hlow, hhigh⟩ := toNat_of_isDigit (Bool.eq_true_of_not_eq_false hd)
  rw [isIdentifierStart, if_pos (by omega)] at h
  rcases Bool.or_eq_true_iff.1 h with h | h
  · have hletter := toNat_of_isAlpha h
    omega
  · rw [beq_iff_eq.1 h] at hhigh
    exact absurd hhigh (by decide)

/-- A text without carriage returns keeps its line breaks. -/
theorem joinLineBreaks_eq (h : ∀ c ∈ cs, c ≠ '\r') : joinLineBreaks cs = cs := by
  induction cs with
  | nil => rfl
  | cons c cs ih =>
    obtain ⟨hc, hcs⟩ := List.forall_mem_cons.1 h
    rw [joinLineBreaks, ih hcs]
    · rintro cs rfl
      exact absurd rfl hc
    · exact hc

/-- An identifier at the start of a text is not indented. -/
theorem skipLines_of_start (h : isIdentifierStart c = true) :
    skipLines (c :: cs) 0 0 = some (c :: cs) := by
  rw [skipLines]
  case x_7 => exact fun _ _ hc ↦ absurd hc (ne_of_isIdentifierStart h (by decide))
  all_goals first | rfl | exact ne_of_isIdentifierStart h (by decide)

theorem all_of_isIdentifier (h : isIdentifier cs = true) : ∀ c ∈ cs, isIdentifierChar c = true := by
  cases cs with
  | nil => cases h
  | cons c cs =>
    obtain ⟨hc, hcs⟩ := Bool.and_eq_true_iff.1 h
    exact List.forall_mem_cons.2 ⟨isIdentifierChar_of_start hc, List.all_eq_true.1 hcs⟩

/-- An identifier is a single word. -/
theorem lexemes_of_isIdentifier (h : isIdentifier cs = true) :
    Lexeme.all? cs = some [.name (plainIdentifier cs)] := by
  cases cs with
  | nil => cases h
  | cons c cs =>
    have hc : isIdentifierStart c = true := (Bool.and_eq_true_iff.1 h).1
    have hall := all_of_isIdentifier h
    have hbreaks : ∀ d ∈ c :: cs, d ≠ '\r' := fun d hd ↦ ne_of_isIdentifierChar (hall d hd)
      (by decide)
    have htake : (c :: cs).takeWhile isIdentifierChar = c :: cs := List.takeWhile_eq_self_iff.2 hall
    have hdrop : (c :: cs).dropWhile isIdentifierChar = [] := List.dropWhile_eq_nil_iff.2 hall
    have hne : ∀ d, isIdentifierStart d = false → (c == d) = false :=
      fun d hd ↦ beq_false_of_ne (ne_of_isIdentifierStart hc hd)
    have hgap : isGap c = false := by
      simp [isGap, hne ' ' (by decide), hne '\t' (by decide), hne '\x0c' (by decide)]
    rw [Lexeme.all?, joinLineBreaks_eq hbreaks, skipLines_of_start hc]
    change lexemesWithin (cs.length + 1) 0 (c :: cs) = _
    rw [lexemesWithin]
    · simp [hgap, hne '#' (by decide), hne '\n' (by decide), hne '\'' (by decide),
        hne '"' (by decide), hne '.' (by decide), hc, isDigit_of_start hc, htake, hdrop,
        lexemesWithin]
    · exact fun _ _ hc' ↦ absurd hc' (ne_of_isIdentifierStart hc (by decide))

/-! ## The levels of the grammar -/

/-- A name that is no keyword differs from every keyword. -/
theorem ne_of_not_reserved {t : String} (h : reservedWords.contains s = false)
    (ht : reservedWords.contains t = true) : s ≠ t := by
  rintro rfl
  cases h.symm.trans ht

/-- A name on its own is an atom, and the words behind it are left. -/
theorem parseAtom_name (h : reservedWords.contains s = false) (fuel : Nat) (ws : List Lexeme) :
    parseAtom (fuel + 1) (.name s :: ws) = some (.name s, ws) := by
  rw [parseAtom]
  · exact if_neg (by rw [h]; decide)
  all_goals exact ne_of_not_reserved h (by decide)

/-- An expression with a closing mark behind it is passed through levels of operators as it is. -/
theorem parseBinary_close {levels : List (List (String × BinaryOp))} {w : Lexeme} {ws : List Lexeme}
    {e : Expr} (hw : parseSigned fuel (w :: ws) = some (e, [.mark ")"]))
    (h : ∀ level ∈ levels, level.lookup ")" = none) :
    parseBinary (fuel + levels.length + 1) levels (w :: ws) = some (e, [.mark ")"]) := by
  induction levels with
  | nil =>
    rw [parseBinary]
    exact hw
  | cons level levels ih =>
    obtain ⟨hlevel, hlevels⟩ := List.forall_mem_cons.1 h
    rw [List.length_cons, ← Nat.add_assoc, parseBinary, ih hlevels]
    change parseOperands (fuel + levels.length + 1) level levels e [.mark ")"] = _
    rw [parseOperands, hlevel]

section

variable (h : reservedWords.contains s = false)
include h

theorem parseSigned_name (fuel : Nat) :
    parseSigned (fuel + 3) [.name s, .mark ")"] = some (.name s, [.mark ")"]) := by
  rw [parseSigned, parsePower, parseAtom_name h]
  · change (parseAttached (fuel + 1) (.name s) [.mark ")"] >>= _) = _
    rw [parseAttached]
    · rfl
    all_goals simp
  · simp

theorem parseNot_name (fuel : Nat) :
    parseNot (fuel + 11) [.name s, .mark ")"] = some (.name s, [.mark ")"]) := by
  have hbinary : parseBinary (fuel + 3 + binaryLevels.length + 1) binaryLevels
      [.name s, .mark ")"] = some (.name s, [.mark ")"]) :=
    parseBinary_close (parseSigned_name h fuel) (by decide)
  rw [parseNot]
  · change (parseBinary (fuel + 3 + binaryLevels.length + 1) binaryLevels _ >>= _) = _
    rw [hbinary]
    rfl
  · simpa using ne_of_not_reserved h (t := "not") (by decide)

/-- Through the whole ladder of operators a name stays a name. -/
theorem parseExpr_name (fuel : Nat) :
    parseExpr (fuel + 14) [.name s, .mark ")"] = some (.name s, [.mark ")"]) := by
  rw [parseExpr, parseEither, parseBoth, parseNot_name h]
  · rfl
  · simpa using ne_of_not_reserved h (t := "lambda") (by decide)

theorem parseAll_name (fuel : Nat) : parseAll (fuel + 16) [.name s] = some (.name s) := by
  have hitem : parseItem (fuel + 15) .plain [.name s, .mark ")"] = some (.name s, [.mark ")"]) := by
    rw [parseItem]
    · exact parseExpr_name h fuel
    all_goals simp
  have hitems : parseItems (fuel + 16) .plain ")" [.name s, .mark ")"] =
      some (.single (.name s), []) := by
    rw [parseItems, if_neg (by simp), hitem]
    rfl
  rw [parseAll, List.singleton_append, hitems]
  rfl

end

/-! ## Names -/

/-- An identifier is read as the name that it is, unless that is a word with a meaning of its
own. -/
theorem Expr.parse?_of_isIdentifier (h : isIdentifier s.toList = true)
    (hr : reservedWords.contains (plainIdentifier s.toList) = false) :
    Expr.parse? s = some (.name (plainIdentifier s.toList)) := by
  have hstar : (s.toList.head? == some '*') = false := by
    cases hs : s.toList with
    | nil => rfl
    | cons c cs =>
      rw [hs] at h
      have hc := ne_of_isIdentifierStart (d := '*') (Bool.and_eq_true_iff.1 h).1 (by decide)
      simpa using hc
  simp only [Expr.parse?, hstar, lexemes_of_isIdentifier h, Bool.false_eq_true, if_false,
    Option.bind_eq_bind, Option.bind_some]
  exact parseAll_name hr (20 * s.toList.length + 24)

/-- A text that is an identifier and no keyword is read as that name. -/
theorem Expr.parse_of_isIdentifier (h : isIdentifier s.toList = true)
    (hr : reservedWords.contains (plainIdentifier s.toList) = false) :
    Expr.parse s = .ok (.name (plainIdentifier s.toList)) := by
  have hempty : ¬ s.isEmpty = true := by
    intro hs
    rw [String.isEmpty_iff.1 hs] at h
    cases h
  have hnull : ¬ s.toList.contains '\x00' = true := by
    intro hs
    exact ne_of_isIdentifierChar (all_of_isIdentifier h _ (List.contains_iff_mem.1 hs)) (by decide)
      rfl
  rw [Expr.parse, if_neg hempty, if_neg hnull, Expr.parse?_of_isIdentifier h hr]

/-- A text that is a name comes to what the name stands for, if that may be a type and no text in it
is to be looked up. -/
theorem run_resolve_name {scope : Scope} {t : Declared} {m : Memory}
    (h : isIdentifier s.toList = true)
    (hr : reservedWords.contains (plainIdentifier s.toList) = false)
    (hfound : (Building.lookUp scope (plainIdentifier s.toList)).run m = .ok (t, m))
    (hconverted : Declared.convertArgument t = .ok t)
    (hchecked : Declared.checkArgument textWording true t = .ok t) (hsettled : t.isSettled = true) :
    (resolve scope (.constant (.text s))).run m = .ok (t, m) := by
  have hread := Expr.parse_of_isIdentifier h hr
  have hfound : (Expr.meaning scope (.name (plainIdentifier s.toList))).run m = .ok (t, m) := hfound
  obtain ⟨depth, hdepth⟩ : ∃ depth, maxDepth = depth + 1 := ⟨_, rfl⟩
  have hkept : (replaceWith (meaning scope false depth [s]) t).run m = .ok (t, m) := by
    rw [replaceWith_of_isSettled _ hsettled]
    rfl
  have hresolve : resolve scope (.constant (.text s)) = meaning scope true maxDepth [] s := by
    rw [resolve, hread]
    rfl
  rw [hresolve, hdepth, meaning, if_neg (by simp), hread]
  simp only [StateT.run_bind, StateT.run_monadLift, monadLift_self, liftM, bind_pure_comp]
  refine bind_eq_ok.2 ⟨_, rfl, bind_eq_ok.2 ⟨_, hfound, ?_⟩⟩
  rw [hconverted]
  refine bind_eq_ok.2 ⟨_, rfl, ?_⟩
  rw [hchecked]
  exact bind_eq_ok.2 ⟨_, rfl, hkept⟩

/-! ## Looking names up -/

/-- At the top of an annotation a name of the module stands for what it does there. -/
theorem run_lookUp_names {scope : Scope} {t : Declared} {m : Memory} (htop : scope.frames = [])
    (hgiven : ∀ names, m.frames[scope.outer]? = some names → names.lookup s = none)
    (h : scope.names.lookup s = some t) (hbound : t.failure? = none) :
    (Building.lookUp scope s).run m = .ok (t, m) := by
  have hnear : ((m.frames[scope.outer]?).bind fun names ↦ names.lookup s) = none := by
    cases hf : m.frames[scope.outer]? with
    | none => rfl
    | some names => exact hgiven names hf
  unfold Building.lookUp
  simp [htop, hnear, h, hbound]
  rfl

end Annotation

end TypedSearch

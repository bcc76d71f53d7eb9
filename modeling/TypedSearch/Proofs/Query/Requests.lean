import TypedSearch.Query.Request
import TypedSearch.Proofs.Outcome

/-!
# Requests

Which requests are refused, and which parameters the others have. Only the bounds of a page can get
a request refused (`Request.make_eq_ok_iff`), and among integers only those below zero do. The
parameters of a request can be written as soon as its values can (`Request.exists_params`).
-/

namespace TypedSearch

open Outcome Query

/-! ## Values as bounds -/

namespace Value

variable {v : Value} {t : String}

/-- The integer that a value is; truth values and members of enumerations of integers are integers
as well. -/
def integer? : Value → Option Int
  | .int n => some n
  | .bool b => some (if b then 1 else 0)
  | .symbol _ _ (.int n) true => some n
  | _ => none

/-- Integers compare with zero as usual. -/
theorem isNegative_of_integer? {n : Int} (h : v.integer? = some n) :
    v.isNegative = .ok (decide (n < 0)) := by
  have hcompare (m : Int) : ((some (compare m 0) : Option Ordering) == some .lt) =
      decide (m < 0) := by
    rw [Bool.eq_iff_iff]
    simp [Int.compare_eq_lt]
  unfold integer? at h
  split at h
  · cases h
    exact congrArg Except.ok (hcompare n)
  · cases h
    rename_i b
    cases b <;> rfl
  · cases h
    exact congrArg Except.ok (hcompare n)
  · cases h

theorem display?_of_fits (h : v.fits = true) : v.display? = .ok v.display := by
  unfold display?
  split
  · rename_i value whole
    have hvalue : value.fits = true := h
    rw [if_neg (by simp [hvalue])]
  · rw [if_pos h]

/-- An integer with too many digits has no text of its own. -/
theorem display?_of_not_fits {n : Int} (hn : v.integer? = some n) (h : ¬v.fits = true) :
    v.display? = .error .tooManyDigits := by
  unfold integer? at hn
  split at hn
  · exact if_neg h
  · exact absurd rfl h
  · rename_i m
    have hm : ¬Value.fits (.int m) = true := h
    exact if_pos (by simp [hm])
  · cases hn

/-- The only text that a value can have of its own. -/
theorem display?_eq_ok (h : v.display? = .ok t) : v.display? = .ok v.display := by
  unfold display? at h ⊢
  split at h
  · split at h
    · cases h
    · rename_i hw
      exact if_neg hw
  · split at h
    · rename_i hw
      exact if_pos hw
    · cases h

/-- What compares with zero and has a literal has a text of its own as well. -/
theorem display?_of_literal (hn : v.isNegative = .ok false) (h : v.literal = .ok t) :
    v.display? = .ok v.display := by
  cases v with
  | bool b => rfl
  | decimal d => rfl
  | moment m => cases hn
  | symbol family name value whole =>
    -- of the members of enumerations only those that are integers compare with zero
    cases value with
    | int n =>
      cases whole with
      | true =>
        apply display?_of_fits
        by_contra hw
        cases (if_neg hw : (Value.int n).display? = .error .tooManyDigits).symm.trans h
      | false => rfl
    | _ => cases hn
  | _ => exact display?_eq_ok h

end Value

def Query.Clause.values : Clause → List Value
  | .equality _ v => [v]
  | .range _ lower upper _ => [lower, upper]
  | .raw _ => []

/-- A clause has a text if its values have one. -/
theorem Query.Clause.exists_render {c : Clause} (h : ∀ v ∈ c.values, ∃ t, v.literal = .ok t) :
    ∃ t, c.render = .ok t := by
  cases c with
  | equality n v =>
    obtain ⟨t, ht⟩ := h v List.mem_cons_self
    exact ⟨_, bind_eq_ok.2 ⟨t, ht, rfl⟩⟩
  | range n lower upper inclusive =>
    obtain ⟨t, ht⟩ := h lower List.mem_cons_self
    obtain ⟨u, hu⟩ := h upper (List.mem_cons_of_mem _ List.mem_cons_self)
    exact ⟨_, bind_eq_ok.2 ⟨t, ht, bind_eq_ok.2 ⟨u, hu, rfl⟩⟩⟩
  | raw text => exact ⟨text, rfl⟩

namespace Query.Request

variable {q : Expression} {sort : Sorting} {start rows v : Option Value} {name : String} {e : Fault}
  {r : Request}

/-! ## Requests that are made -/

/-- The first document that a request asks for, and how many. -/
def page (r : Request) : Option Value × Option Value := (r.start, r.rows)

/-- A bound passes iff it is absent or not negative. -/
theorem checkBound_eq_ok_iff : checkBound name v = .ok () ↔ ∀ w ∈ v, w.isNegative = .ok false := by
  cases v with
  | none => simp [checkBound]
  | some w =>
    simp only [checkBound, bind_eq_ok, Option.mem_some, forall_eq']
    constructor
    · rintro ⟨negative, hw, h⟩
      cases negative with
      | false => exact hw
      | true =>
        obtain ⟨_, -, h⟩ := bind_eq_ok.1 h
        cases h
    · intro h
      exact ⟨false, h, rfl⟩

/-- A request may be made iff no bound of its page is below zero. -/
theorem make_eq_ok_iff : make q sort start rows = .ok r ↔ (∀ v ∈ start, v.isNegative = .ok false) ∧
    (∀ v ∈ rows, v.isNegative = .ok false) ∧ r = ⟨q, sort, start, rows⟩ := by
  simp only [make, bind_eq_ok]
  constructor
  · rintro ⟨_, hs, _, hr, h⟩
    exact ⟨checkBound_eq_ok_iff.1 hs, checkBound_eq_ok_iff.1 hr, (Except.ok.inj h).symm⟩
  · rintro ⟨hs, hr, rfl⟩
    exact ⟨_, checkBound_eq_ok_iff.2 hs, _, checkBound_eq_ok_iff.2 hr, rfl⟩

/-! ## Requests that are refused -/

/-- A negative integer is refused as a bound, by the query builder as long as it can be written into
the message. -/
theorem checkBound_of_negative {w : Value} {n : Int} (hw : w.integer? = some n) (hn : n < 0)
    (name : String) :
    checkBound name (some w) =
      .error (if w.fits then .request (.negative name w.display) else .tooManyDigits) := by
  have hnegative : w.isNegative = .ok true := by
    rw [Value.isNegative_of_integer? hw, decide_eq_true hn]
  have hrefused : checkBound name (some w) =
      w.display? >>= fun text ↦ .error (.request (.negative name text)) := by
    rw [checkBound, hnegative]
    rfl
  rw [hrefused]
  by_cases hfits : w.fits = true
  · rw [Value.display?_of_fits hfits, if_pos hfits]
    rfl
  · rw [Value.display?_of_not_fits hw hfits, if_neg hfits]
    rfl

/-- The first negative bound of a page is what a request is refused for. -/
theorem exists_make_of_negative {w : Value} {n : Int} (hw : w.integer? = some n) (hn : n < 0)
    (h : start = some w ∨ (∀ v ∈ start, v.isNegative = .ok false) ∧ rows = some w) :
    ∃ e, make q sort start rows = .error e ∧
      e.kind = if w.fits then "QueryBuilderError" else "ValueError" := by
  have hkind : ∀ name, (if w.fits then .request (.negative name w.display)
      else .tooManyDigits : Fault).kind =
        if w.fits then "QueryBuilderError" else "ValueError" := by
    intro name
    split <;> rfl
  rcases h with rfl | ⟨hs, rfl⟩
  · refine ⟨_, ?_, hkind "start"⟩
    rw [make, checkBound_of_negative hw hn]
    rfl
  · refine ⟨_, ?_, hkind "rows"⟩
    rw [make, checkBound_eq_ok_iff.2 hs, checkBound_of_negative hw hn]
    rfl

/-! ## Parameters -/

def values (r : Request) : List Value :=
  r.query.clauses.flatMap Clause.values ++ (r.start.toList ++ r.rows.toList)

/-- A bound that passes is written as it is shown. -/
theorem boundParam_eq (hn : ∀ w ∈ v, w.isNegative = .ok false)
    (h : ∀ w ∈ v, ∃ t, w.literal = .ok t) :
    boundParam name v = .ok (v.map fun w ↦ (name, w.display)).toList := by
  cases v with
  | none => rfl
  | some w =>
    obtain ⟨t, ht⟩ := h w rfl
    simp only [boundParam, Value.display?_of_literal (hn w rfl) ht]
    rfl

/-- The parameters of a request whose values have texts. -/
theorem exists_params (hs : ∀ v ∈ r.start, v.isNegative = .ok false)
    (hr : ∀ v ∈ r.rows, v.isNegative = .ok false) (hv : ∀ v ∈ r.values, ∃ t, v.literal = .ok t) :
    ∃ texts, r.query.clauses.mapM Clause.render = .ok texts ∧
      r.params = .ok (("q", " ".intercalate texts) :: sortParam r.sort ++
        (r.start.map fun v ↦ ("start", v.display)).toList ++
        (r.rows.map fun v ↦ ("rows", v.display)).toList) := by
  simp only [values, List.mem_append, List.mem_flatMap, Option.mem_toList] at hv
  obtain ⟨texts, ht⟩ : ∃ texts, r.query.clauses.mapM Clause.render = .ok texts :=
    exists_mapM_eq_ok_iff.2 fun c hc ↦ Clause.exists_render fun v hvc ↦ hv v (.inl ⟨c, hc, hvc⟩)
  have hstart : boundParam "start" r.start = _ := boundParam_eq hs fun v h ↦ hv v (.inr (.inl h))
  have hrows : boundParam "rows" r.rows = _ := boundParam_eq hr fun v h ↦ hv v (.inr (.inr h))
  refine ⟨texts, ht, ?_⟩
  simp only [params, Expression.render, Expression.texts, ht, hstart, hrows]
  rfl

end Query.Request

end TypedSearch

import TypedSearch.Annotation.Runner

/-!
# Resolving annotations

A declared type may hold texts in place of types. Each text is read as an annotation and replaced by
the type that it stands for, in which texts are replaced in turn; a text that comes to mention
itself stays as it is.

## What is covered

`resolve` says which types the members of a class have, as the construction of a schema asks for
them. Texts that name other texts are followed for `maxDepth` steps, about as far as the stack of
the interpreter goes; beyond that resolving fails. A type that is written out resolves to itself
(`resolve_of_isWrittenOut`).
-/

namespace TypedSearch.Annotation

open Declared (Building)

/-- The texts among the arguments of a class, each as a type to be looked up. -/
def forwardTexts (ts : List Declared) : Except Fault (List Declared) :=
  ts.mapM fun t ↦ match t with
    | .constant (.text s) | .constant (.code _ s _) => (Expr.parse s).map fun _ ↦ .forward s
    | t => .ok t

def barAll : List Declared → Building Declared
  | [] => return .rest
  | t :: ts => ts.foldlM Declared.bar t

mutual

/-- Replaces the texts inside a declared type by what `meaning` says they stand for. -/
def replaceWith (meaning : String → Building Declared) : Declared → Building Declared
  | .forward s => meaning s
  | .applied f .plain args => do
    checkTexts args
    return .applied f .plain (← replaceTexts meaning args)
  | .appliedOther c args => do
    checkTexts args
    return .appliedOther c (← replaceTexts meaning args)
  | .applied f .alias args => do
    let ts ← replaceAll meaning args
    return .applied f .alias (if Declared.alikeAll ts args then args else ts)
  | .classVar t => do return .classVar (← replaceWith meaning t)
  | .unpacked t => do return .unpacked (← replaceWith meaning t)
  | .union style members => do
    let ts ← replaceAll meaning members
    if Declared.alikeAll ts members then return .union style members
    else match style with
      | .brackets => Declared.bracketUnion (Declared.rowOf .tuple ts)
      | .bars => barAll ts
  | t => return t
where
  /-- Fails if a text among the arguments of a class is no annotation. -/
  checkTexts (args : List Declared) : Building Unit := do
    let _ ← (forwardTexts args : Except Fault (List Declared))

def replaceAll (meaning : String → Building Declared) : List Declared → Building (List Declared)
  | [] => return []
  | t :: ts => do
    let t ← replaceWith meaning t
    return t :: (← replaceAll meaning ts)

/-- Replaces the texts inside a row of types, the plain ones included. -/
def replaceTexts (meaning : String → Building Declared) : List Declared → Building (List Declared)
  | [] => return []
  | .constant (.text s) :: ts | .constant (.code _ s _) :: ts => do
    let t ← meaning s
    return t :: (← replaceTexts meaning ts)
  | t :: ts => do
    let t ← replaceWith meaning t
    return t :: (← replaceTexts meaning ts)

end

/-! ## Types that hold no text -/

theorem forwardTexts_of_all {ts : List Declared} (h : ts.all (!·.isText) = true) :
    forwardTexts ts = .ok ts := by
  induction ts with
  | nil => rfl
  | cons t ts ih =>
    obtain ⟨ht, hts⟩ := Bool.and_eq_true_iff.1 h
    have hrest := ih hts
    rw [forwardTexts] at hrest ⊢
    rw [List.mapM_cons, hrest]
    cases t with
    | constant v => cases v <;> first | rfl | cases ht
    | _ => rfl

theorem checkTexts_of_all {ts : List Declared} (h : ts.all (!·.isText) = true) :
    replaceWith.checkTexts ts = pure () := by
  rw [replaceWith.checkTexts, forwardTexts_of_all h]
  rfl

/-- A type that is no text is replaced by itself, whatever stands for the texts beside it. -/
theorem replaceTexts_cons {meaning : String → Building Declared} {t : Declared} {ts : List Declared}
    (h : t.isText = false) : replaceTexts meaning (t :: ts) =
      (do return (← replaceWith meaning t) :: (← replaceTexts meaning ts)) := by
  cases t with
  | constant v => cases v <;> first | rfl | cases h
  | _ => rfl

mutual

/-- A type that is settled stands for itself, whatever texts stand for. -/
theorem replaceWith_of_isSettled (meaning : String → Building Declared) :
    ∀ {t : Declared}, t.isSettled = true → replaceWith meaning t = pure t
  | .forward _, h => by cases h
  | .applied f .plain args, h | .appliedOther c args, h => by
    obtain ⟨htexts, hargs⟩ := Bool.and_eq_true_iff.1 h
    rw [replaceWith, checkTexts_of_all htexts, pure_bind,
      replaceTexts_of_allSettled meaning htexts hargs, pure_bind]
  | .applied f .alias args, h => by
    rw [replaceWith, replaceAll_of_allSettled meaning h, pure_bind, ite_self]
  | .classVar t, h | .unpacked t, h => by
    have ht : t.isSettled = true := h
    rw [replaceWith, replaceWith_of_isSettled meaning ht, pure_bind]
  | .union style members, h => by
    -- the members stay as they are, so the union is not put together again
    obtain ⟨halike, hmembers⟩ := Bool.and_eq_true_iff.1 h
    rw [replaceWith, replaceAll_of_allSettled meaning hmembers, pure_bind, if_pos halike]
  | .base _, _ | .rest, _ | .container .., _ | .enumeration _, _ | .textual _, _ | .reader _, _
  | .document _, _ | .other _, _ | .special _, _ | .literal _, _ | .constant _, _ | .row .., _ =>
    rfl

theorem replaceAll_of_allSettled (meaning : String → Building Declared) :
    ∀ {ts : List Declared}, Declared.allSettled ts = true → replaceAll meaning ts = pure ts
  | [], _ => rfl
  | t :: ts, h => by
    obtain ⟨ht, hts⟩ := Bool.and_eq_true_iff.1 h
    rw [replaceAll, replaceWith_of_isSettled meaning ht, pure_bind,
      replaceAll_of_allSettled meaning hts, pure_bind]

theorem replaceTexts_of_allSettled (meaning : String → Building Declared) :
    ∀ {ts : List Declared}, ts.all (!·.isText) = true → Declared.allSettled ts = true →
      replaceTexts meaning ts = pure ts
  | [], _, _ => rfl
  | t :: ts, htexts, h => by
    obtain ⟨htext, htexts⟩ := Bool.and_eq_true_iff.1 htexts
    obtain ⟨ht, hts⟩ := Bool.and_eq_true_iff.1 h
    have htext : t.isText = false := by simpa using htext
    rw [replaceTexts_cons htext, replaceWith_of_isSettled meaning ht, pure_bind,
      replaceTexts_of_allSettled meaning htexts hts, pure_bind]

end

/-! ## Texts -/

def textWording : String := "Forward references must evaluate to types."

/-- The type that a text stands for; a text it mentions is looked up in turn, at most `fuel` texts
deep, unless it is one of those that are being looked up. -/
def meaning (scope : Scope) (atTop : Bool) : Nat → List String → String → Building Declared
  | 0, _, _ => throw Runner.tooDeep
  | fuel + 1, pending, s =>
    if pending.contains s then return .forward s
    else do
      let e ← (Expr.parse s : Except Fault Expr)
      let t ← e.meaning scope
      let t ← (Declared.convertArgument t : Except Fault Declared)
      let t ← (Declared.checkArgument textWording atTop t : Except Fault Declared)
      replaceWith (meaning scope false fuel (s :: pending)) t

/-- How deep texts may mention texts before the interpreter gives up. The scope is no bound, since a
text may be put together by the one that mentions it. -/
def maxDepth : Nat := 490

/-- The type that a member is declared with: a text is looked up, the null value stands for its
class, and texts inside another type are replaced. -/
def resolve (scope : Scope) : Declared → Building Declared
  | .constant .null => return Declared.null
  | .constant (.text s) | .constant (.code _ s _) => do
    let _ ← (Expr.parse s : Except Fault Expr)
    meaning scope true maxDepth [] s
  | t => replaceWith (meaning scope false maxDepth []) t

/-- A type that is written out stands for itself. -/
theorem resolve_of_isWrittenOut {scope : Scope} {t : Declared} (h : t.isWrittenOut = true) :
    resolve scope t = pure t := by
  obtain ⟨⟨hsettled, htext⟩, hnull⟩ : (t.isSettled = true ∧ t.isText = false) ∧
      t ≠ .constant .null := by
    simpa [Declared.isWrittenOut] using h
  have hresolve : resolve scope t = replaceWith (meaning scope false maxDepth []) t := by
    cases t with
    | constant v =>
      cases v with
      | null => exact absurd rfl hnull
      | text | code => cases htext
      | _ => rfl
    | _ => rfl
  rw [hresolve, replaceWith_of_isSettled _ hsettled]

end TypedSearch.Annotation

import Mathlib.Data.List.TakeDrop
import TypedSearch.Proofs.Query.Stages

/-!
# Escaped values in a query

A query is read from left to right, and a backslash makes the character behind it an ordinary one
(`Letter.read`). Read in that way, the values that were given with escapes hold nothing that means
anything to a query: between the bare spaces of a query stands one clause after the other, the first
bare colon of a clause ends its field, and the value behind it is the text that was asked for
(`Stage.render_reads_back`).

Reading does not depend on what stands before a text, except for a backslash at the very end of
that. The texts that a query is made of end in none, so they are read one by one (`Letter.Reads`).
-/

namespace TypedSearch.Query

open Outcome Text

/-- A character of a query as it is read; with a backslash before it, it is an ordinary one. -/
structure Letter where
  char : Char
  isEscaped : Bool
deriving DecidableEq

namespace Letter

def bare (c : Char) : Letter := ⟨c, false⟩

/-- The character as it is escaped: with a backslash if it is reserved. -/
def quote (c : Char) : Letter := ⟨c, isReserved c⟩

def space : Letter := bare ' '

def colon : Letter := bare ':'

/-- Reads a text from left to right. A backslash with nothing behind it stands for itself. -/
def read : List Char → List Letter
  | '\\' :: c :: cs => ⟨c, true⟩ :: read cs
  | c :: cs => bare c :: read cs
  | [] => []

def write (as : List Letter) : List Char :=
  as.flatMap fun a ↦ if a.isEscaped then ['\\', a.char] else [a.char]

/-- The letters between the bare spaces of a text; a text without any letters holds none. -/
def tokens (cs : List Char) : List (List Letter) :=
  if cs.isEmpty then [] else (read cs).splitOn space

theorem read_cons {c : Char} (h : c ≠ '\\') (cs : List Char) :
    read (c :: cs) = bare c :: read cs := by
  rw [read]
  rintro _ _ rfl
  exact absurd rfl h

/-- Nothing is lost when a text is read. -/
theorem write_read (cs : List Char) : write (read cs) = cs := by
  fun_induction read cs with
  | case1 c cs ih => exact congrArg ('\\' :: c :: ·) ih
  | case2 c cs _ ih => exact congrArg (c :: ·) ih
  | case3 => rfl

/-! ## Texts that are read one by one -/

variable {cs ds : List Char} {as bs : List Letter}

/-- Is a text read as the letters, whatever stands behind it? -/
def Reads (cs : List Char) (as : List Letter) : Prop := ∀ ds, read (cs ++ ds) = as ++ read ds

theorem Reads.read_eq (h : Reads cs as) : read cs = as := by
  simpa [read] using h []

/-- Texts that are read letter by letter may stand in a row. -/
theorem Reads.append (h : Reads cs as) (h' : Reads ds bs) : Reads (cs ++ ds) (as ++ bs) := by
  intro es
  rw [List.append_assoc, h, h', List.append_assoc]

/-- Without a backslash, every character is read by itself. -/
theorem reads_bare (h : '\\' ∉ cs) : Reads cs (cs.map bare) := by
  intro ds
  induction cs with
  | nil => rfl
  | cons c cs ih =>
    obtain ⟨hc, h⟩ := not_or.1 (List.mem_cons.not.1 h)
    rw [List.cons_append, read_cons (Ne.symm hc), ih h]
    rfl

/-- A text with escapes is read as its characters, and those that are reserved as ordinary ones. -/
theorem reads_escape (cs : List Char) : Reads (escape cs) (cs.map quote) := by
  intro ds
  induction cs with
  | nil => rfl
  | cons c cs ih =>
    unfold escape
    split
    · rename_i hc
      simp only [List.cons_append, read, ih, List.map_cons, quote, hc]
    · rename_i hc
      -- a backslash is reserved, so this character is none
      have hne : c ≠ '\\' := by
        rintro rfl
        exact hc rfl
      simp only [List.cons_append, read_cons hne, ih, List.map_cons, quote, bare,
        eq_false_of_ne_true hc]

/-- And with a text between any two of them. -/
theorem Reads.intercalate {sep : List Char} {x : List Letter} (hsep : Reads sep x)
    {css : List (List Char)} {ass : List (List Letter)} (h : List.Forall₂ Reads css ass) :
    Reads (sep.intercalate css) (x.intercalate ass) := by
  induction h with
  | nil => exact fun _ ↦ rfl
  | @cons cs as css ass hcs h ih =>
    cases h with
    | nil => simpa using hcs
    | cons hds h =>
      rw [List.intercalate_cons_cons, List.intercalate_cons_cons]
      exact (hcs.append hsep).append ih

end Letter

open Letter

/-! ## Clauses with escapes -/

/-- The names of fields that a reader of queries takes for one word. -/
structure IsPlain (name : String) : Prop where
  not_blank : ∀ c ∈ name.toList, isBlank c = false
  no_colon : ':' ∉ name.toList
  no_backslash : '\\' ∉ name.toList

/-- The letters of the clause that asks for a text in a field. -/
def clauseLetters (name text : String) : List Letter :=
  name.toList.map bare ++ colon :: text.toList.map quote

variable {name : String} (text : String)

/-- A clause is read as its field, the colon and its escaped value. -/
theorem reads_clause (h : IsPlain name) :
    Reads (name ++ ":" ++ escaped text).toList (clauseLetters name text) := by
  have hcolon : Reads ":".toList [colon] := fun _ ↦ rfl
  have hclause := ((reads_bare h.no_backslash).append hcolon).append (reads_escape text.toList)
  simpa [escaped, clauseLetters] using hclause

/-- The space between clauses stands in none of them. -/
theorem space_not_mem_clauseLetters (h : IsPlain name) : space ∉ clauseLetters name text := by
  intro hm
  rcases List.mem_append.1 hm with hm | hm
  · obtain ⟨c, hc, hs⟩ := List.mem_map.1 hm
    cases hs
    exact absurd (h.not_blank ' ' hc) (by decide)
  · rcases List.mem_cons.1 hm with hm | hm
    · cases hm
    · obtain ⟨c, -, hs⟩ := List.mem_map.1 hm
      cases hs

/-- The first bare colon of a clause ends its field. -/
theorem span_clauseLetters (h : IsPlain name) : (clauseLetters name text).span (· != colon) =
    (name.toList.map bare, colon :: text.toList.map quote) := by
  have hname : ∀ a ∈ name.toList.map bare, (a != colon) = true := by
    intro a ha
    obtain ⟨c, hc, rfl⟩ := List.mem_map.1 ha
    refine bne_iff_ne.2 fun hs ↦ ?_
    cases hs
    exact h.no_colon hc
  rw [List.span_eq_takeWhile_dropWhile, clauseLetters, List.takeWhile_append_of_pos hname,
    List.dropWhile_append_of_pos hname]
  simp

/-- Between the bare spaces of a row of clauses stands one clause after the other. -/
theorem tokens_clauses {α : Type} {xs : List α} {name text : α → String}
    (h : ∀ x ∈ xs, IsPlain (name x)) :
    tokens (" ".intercalate (xs.map fun x ↦ name x ++ ":" ++ escaped (text x))).toList =
      xs.map fun x ↦ clauseLetters (name x) (text x) := by
  rcases eq_or_ne xs [] with rfl | hne
  · rfl
  have hreads : Reads (" ".intercalate (xs.map fun x ↦ name x ++ ":" ++ escaped (text x))).toList
      ([space].intercalate (xs.map fun x ↦ clauseLetters (name x) (text x))) := by
    rw [String.toList_intercalate, List.map_map]
    refine Reads.intercalate (fun _ ↦ rfl) ?_
    rw [List.forall₂_map_left_iff, List.forall₂_map_right_iff, List.forall₂_same]
    exact fun x hx ↦ reads_clause (text x) (h x hx)
  have hsplit : ([space].intercalate (xs.map fun x ↦ clauseLetters (name x) (text x))).splitOn
      space =
        xs.map fun x ↦ clauseLetters (name x) (text x) := by
    refine List.splitOn_intercalate _ (fun as has ↦ ?_) (by simpa using hne)
    obtain ⟨x, hx, rfl⟩ := List.mem_map.1 has
    exact space_not_mem_clauseLetters (text x) (h x hx)
  rw [tokens, hreads.read_eq, hsplit, if_neg]
  -- a text without letters would hold a single clause without any
  intro hempty
  rw [← hreads.read_eq, List.isEmpty_iff.1 hempty] at hsplit
  have hmem : [] ∈ xs.map fun x ↦ clauseLetters (name x) (text x) :=
    hsplit ▸ List.mem_singleton.2 rfl
  obtain ⟨x, -, hx⟩ := List.mem_map.1 hmem
  exact absurd hx (List.append_ne_nil_of_right_ne_nil _ (List.cons_ne_nil _ _))

/-! ## Main statement -/

namespace Stage

def escapedSteps (p : String × Value) : List Step := [.field p.1, .equals p.2 true]

/-- Values that are given with escapes stay values. The query that asks for a value in each of some
fields holds one clause for each of them, in their order, between its bare spaces. The first bare
colon of a clause stands behind its field; what follows is the text of the value with its escapes,
in which every reserved character is escaped, and which is read as that text. -/
theorem render_reads_back {pairs : List (String × Value)} (hn : ∀ p ∈ pairs, IsPlain p.1)
    (hv : ∀ p ∈ pairs, ∃ t, p.2.literal = .ok t) (l : Ledger) :
    ∃ b q, ((builder .start).takeAll (pairs.flatMap escapedSteps)).run.run l =
      (.ok (.builder b), l) ∧
      b.request.query.render = .ok q ∧
      List.Forall₂ (fun p token ↦ ∃ text field value, p.2.literal = .ok text ∧
        token.span (· != colon) = (field, colon :: value) ∧
        write field = p.1.toList ∧ write value = escape text.toList ∧
        (∀ a ∈ value, isReserved a.char = true → a.isEscaped = true) ∧
        value.map Letter.char = text.toList) pairs (tokens q.toList) := by
  choose! text htext using hv
  have hadds : ∀ p ∈ pairs, Adds (escapedSteps p) (.equality p.1 (.text (escaped (text p)))) :=
    fun p hp ↦ adds_equals (map_eq_ok.2 ⟨_, htext p hp, rfl⟩)
  have hrender :
      (Expression.mk (pairs.map fun p ↦ Clause.equality p.1 (.text (escaped (text p))))).render =
        .ok (" ".intercalate (pairs.map fun p ↦ p.1 ++ ":" ++ escaped (text p))) := by
    refine map_eq_ok.2 ⟨_, mapM_eq_ok_iff.2 ?_, rfl⟩
    rw [List.forall₂_map_right_iff, List.forall₂_map_left_iff, List.forall₂_same]
    exact fun p _ ↦ rfl
  refine ⟨_, _, congrArg (·.run.run l) (takeAll_flatMap hadds .start), Eq.trans ?_ hrender, ?_⟩
  · rw [Builder.request_addClauses]
    rfl
  rw [tokens_clauses hn, List.forall₂_map_right_iff, List.forall₂_same]
  intro p hp
  have hfield := reads_bare (hn p hp).no_backslash
  have hvalue := reads_escape (text p).toList
  refine ⟨text p, _, _, htext p hp, span_clauseLetters (text p) (hn p hp), ?_, ?_, ?_, ?_⟩
  · rw [← hfield.read_eq, write_read]
  · rw [← hvalue.read_eq, write_read]
  · intro a ha hr
    obtain ⟨c, -, rfl⟩ := List.mem_map.1 ha
    exact hr
  · rw [List.map_map]
    exact List.map_id _

/-- A value that looks like two clauses, one that ends in a backslash, and one without any text. -/
def trickyPairs : List (String × Value) :=
  [("title", .text "a id:1"), ("path", .text "c:\\"), ("note", .text "")]

theorem render_reads_back_trickyPairs : ∃ b q token rest,
    ((builder .start).takeAll (trickyPairs.flatMap escapedSteps)).run.run ⟨.empty, []⟩ =
      (.ok (.builder b), ⟨.empty, []⟩) ∧
      b.request.query.render = .ok q ∧ tokens q.toList = token :: rest ∧ rest.length = 2 ∧
      ∃ field value, token.span (· != colon) = (field, colon :: value) ∧
        write field = "title".toList ∧
        value.map Letter.char = "a id:1".toList := by
  have hn : ∀ p ∈ trickyPairs, IsPlain p.1 := by
    have hplain : ∀ p ∈ trickyPairs, (∀ c ∈ p.1.toList, isBlank c = false) ∧ ':' ∉ p.1.toList ∧
        '\\' ∉ p.1.toList := by
      simp [trickyPairs, isBlank]
    exact fun p hp ↦ ⟨(hplain p hp).1, (hplain p hp).2.1, (hplain p hp).2.2⟩
  have hv : ∀ p ∈ trickyPairs, ∃ t, p.2.literal = .ok t := by
    simp [trickyPairs]
  obtain ⟨b, q, hrun, hq, htokens⟩ := render_reads_back hn hv ⟨.empty, []⟩
  obtain ⟨token, rest, ⟨text, field, value, ht, hspan, hfield, -, -, hvalue⟩, hrest, hall⟩ :=
    List.forall₂_cons_left_iff.1 htokens
  cases ht
  exact ⟨b, q, token, rest, hrun, hq, hall, hrest.length_eq.symm, field, value, hspan, hfield,
    hvalue⟩

end Stage

end TypedSearch.Query

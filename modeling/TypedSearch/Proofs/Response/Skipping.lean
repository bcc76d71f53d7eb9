import TypedSearch.Response
import TypedSearch.Proofs.Document.Faults
import TypedSearch.Proofs.Journal

/-!
# Skipping records

A reader either ends at the first record that fails, or skips it. There are three ways in which the
element of a record can fare with a mapper: it maps (`Mapper.Maps`), it is refused
(`Mapper.Refuses`), or it fails in a way that no reader passes over (`Mapper.Breaks`): a field
without a name, or a fault that is not about the record.

What a reader makes of one element does not depend on the others (`ResponseReader.keep`), so both
ways of reading are the same run over a row, and only differ in what becomes of the elements that
are refused.
-/

namespace TypedSearch

open Outcome Markup

/-! ## Warnings -/

@[simp] theorem Traced.result_attempt {α : Type} (x : Traced α) :
    x.attempt.result = .ok x.result := rfl

@[simp] theorem Traced.warnings_attempt {α : Type} (x : Traced α) :
    x.attempt.warnings = x.warnings := rfl

/-- A mapper does not warn. -/
theorem Mapper.warnings_map (m : Mapper) (r : Record) : (m.map r).warnings = [] := by
  refine Traced.warnings_bind_eq_nil rfl (Traced.warnings_foldlM_eq_nil (fun d e ↦ ?_) _)
  unfold step
  split
  · exact Traced.warnings_bind_eq_nil (Traced.warnings_tell_map_ofPrinted _) fun _ ↦
      Traced.warnings_bind_eq_nil rfl fun _ ↦ rfl
  · split <;> rfl

/-! ## The fate of one element -/

def Markup.Element.NamesFields (e : Element) : Prop := ∀ c ∈ e.children, c.attribute? "name" ≠ none

instance (e : Element) : Decidable e.NamesFields :=
  inferInstanceAs (Decidable (∀ c ∈ e.children, _ ≠ _))

theorem Entry.ofElement_eq_error_iff {c : Element} {f : Fault} :
    Entry.ofElement c = .error f ↔ c.attribute? "name" = none ∧
      f = .response (.unnamedField c.tag) := by
  unfold ofElement
  cases c.attribute? "name" <;> simp [eq_comm]

theorem Entry.exists_ofElement_iff {c : Element} :
    (∃ x, Entry.ofElement c = .ok x) ↔ c.attribute? "name" ≠ none := by
  unfold ofElement
  cases c.attribute? "name" <;> simp

/-- An element stands for a record iff all its fields have names. -/
theorem Record.exists_ofElement_iff {e : Element} :
    (∃ r, Record.ofElement e = .ok r) ↔ e.NamesFields := by
  simp only [Element.NamesFields, ← Entry.exists_ofElement_iff, ← exists_mapM_eq_ok_iff, ofElement,
    map_eq_ok]
  constructor
  · rintro ⟨_, es, hes, -⟩
    exact ⟨es, hes⟩
  · rintro ⟨es, hes⟩
    exact ⟨⟨es⟩, es, hes, rfl⟩

namespace Mapper

variable {m : Mapper} {e : Element} {d : Document} {f : Fault} {r : Record}

/-- The element stands for a record, and the record maps. -/
def Maps (m : Mapper) (e : Element) (d : Document) : Prop :=
  ∃ r, Record.ofElement e = .ok r ∧ (m.map r).result = .ok d

/-- The element stands for a record, and a fault about the record stands against mapping it. -/
def Refuses (m : Mapper) (e : Element) (f : Fault) : Prop :=
  ∃ r, Record.ofElement e = .ok r ∧ (m.map r).result = .error f ∧ f.isDomain = true

/-- The failures of an element that end the reading in any case. -/
inductive Breaks (m : Mapper) (e : Element) : Fault → Prop
  /-- A field has no name, and it is the first one. -/
  | unnamed (before : List Element) (c : Element) (after : List Element)
      (split : e.children = before ++ c :: after) (named : ∀ x ∈ before, x.attribute? "name" ≠ none)
      (nameless : c.attribute? "name" = none) : Breaks m e (.response (.unnamedField c.tag))
  /-- The fault is not about the record. -/
  | escaped (r : Record) (f : Fault) (record : Record.ofElement e = .ok r)
      (failure : (m.map r).result = .error f) (foreign : f.isDomain = false) : Breaks m e f

/-- The document that the element of a record maps to, or the fault that stands against it. -/
def outcome (m : Mapper) (e : Element) : Except Fault Document := do
  (m.map (← Record.ofElement e)).result

/-- The warning that the element with an index does not map, if it does not. -/
def warning? (m : Mapper) (e : Element × Nat) : Option Journal.Note :=
  match m.outcome e.1 with
  | .ok _ => none
  | .error f => some (ResponseReader.skippedNote e.2 f)

/-- A record comes to the document that it maps to. -/
theorem outcome_eq_ok_iff : m.outcome e = .ok d ↔ m.Maps e d := bind_eq_ok

theorem outcome_of_record (h : Record.ofElement e = .ok r) : m.outcome e = (m.map r).result := by
  rw [outcome, h]
  rfl

theorem breaks_of_ofElement (h : Record.ofElement e = .error f) : m.Breaks e f := by
  obtain ⟨before, c, after, hc, hb, hf⟩ := mapM_eq_error_iff.1 (map_eq_error.1 h)
  obtain ⟨hn, rfl⟩ := Entry.ofElement_eq_error_iff.1 hf
  exact .unnamed before c after hc (fun x hx ↦ Entry.exists_ofElement_iff.1 (hb x hx)) hn

/-- An element breaks the reading iff it stands for no record, or for one that fails with a fault
not about it. -/
theorem breaks_iff : m.Breaks e f ↔ Record.ofElement e = .error f ∨
    ∃ r, Record.ofElement e = .ok r ∧ (m.map r).result = .error f ∧ f.isDomain = false := by
  constructor
  · intro h
    cases h with
    | unnamed before c after hc hb hn =>
      refine .inl (map_eq_error.2 (mapM_eq_error_iff.2 ⟨before, c, after, hc, fun x hx ↦ ?_, ?_⟩))
      · exact Entry.exists_ofElement_iff.2 (hb x hx)
      · exact Entry.ofElement_eq_error_iff.2 ⟨hn, rfl⟩
    | escaped r f hr hf hd => exact .inr ⟨r, hr, hf, hd⟩
  · rintro (h | ⟨r, hr, hf, hd⟩)
    · exact breaks_of_ofElement h
    · exact .escaped r f hr hf hd

end Mapper

/-! ## What a reader makes of a row of elements -/

namespace ResponseReader

variable {r : ResponseReader} {e : Element} {es : List Element} {d : Document} {f : Fault}

/-- What becomes of the outcome of a mapping: a reader may pass over a fault about the record. -/
def settle (r : ResponseReader) : Except Fault Document → Except Fault (Option Document)
  | .ok d => .ok (some d)
  | .error f => if r.skipInvalid && f.isDomain then .ok none else .error f

/-- What a reader makes of the element of a record: a document, or nothing if it skips the
record. -/
def keep (r : ResponseReader) (e : Element) : Except Fault (Option Document) := do
  r.settle (r.mapper.map (← Record.ofElement e)).result

/-- A document is kept as it is. -/
theorem settle_eq_some_iff {x : Except Fault Document} : r.settle x = .ok (some d) ↔ x = .ok d := by
  unfold settle
  split
  · simp
  · split <;> simp

/-- A record is passed over iff skipping is on and the fault is of this library. -/
theorem settle_eq_none_iff {x : Except Fault Document} :
    r.settle x = .ok none ↔ r.skipInvalid = true ∧ ∃ f, x = .error f ∧ f.isDomain = true := by
  unfold settle
  split <;> simp

/-- Any other fault ends the response. -/
theorem settle_eq_error_iff {x : Except Fault Document} : r.settle x = .error f ↔
    x = .error f ∧ (r.skipInvalid = false ∨ f.isDomain = false) := by
  rw [← Bool.and_eq_false_iff]
  cases x with
  | ok d => simp [settle]
  | error g =>
    rw [settle, Except.error.injEq]
    cases hs : r.skipInvalid && g.isDomain with
    | true =>
      constructor
      · intro h
        cases h
      · rintro ⟨rfl, hs'⟩
        cases hs.symm.trans hs'
    | false =>
      constructor
      · intro h
        obtain rfl : g = f := Except.error.inj h
        exact ⟨rfl, hs⟩
      · rintro ⟨rfl, -⟩
        rfl

theorem keep_eq_some_iff : r.keep e = .ok (some d) ↔ r.mapper.Maps e d := by
  simp only [keep, bind_eq_ok, settle_eq_some_iff, Mapper.Maps]

/-- A reader passes over an element iff it is told to, and the mapper refuses it. -/
theorem keep_eq_none_iff : r.keep e = .ok none ↔ r.skipInvalid = true ∧
    ∃ f, r.mapper.Refuses e f := by
  simp only [keep, bind_eq_ok, settle_eq_none_iff, Mapper.Refuses]
  constructor
  · rintro ⟨record, hr, hs, f, hf⟩
    exact ⟨hs, f, record, hr, hf⟩
  · rintro ⟨hs, f, record, hr, hf⟩
    exact ⟨record, hr, hs, f, hf⟩

/-- A reader ends at an element that breaks the reading, and at one that is refused unless it skips
it. -/
theorem keep_eq_error_iff : r.keep e = .error f ↔
    r.mapper.Breaks e f ∨ r.skipInvalid = false ∧ r.mapper.Refuses e f := by
  simp only [keep, bind_eq_error, settle_eq_error_iff, Mapper.breaks_iff, Mapper.Refuses, or_assoc]
  refine or_congr_right ⟨?_, ?_⟩
  · rintro ⟨record, hr, hf, hs⟩
    cases hd : f.isDomain with
    | false => exact .inl ⟨record, hr, hf, rfl⟩
    | true => exact .inr ⟨hs.resolve_right (by simp [hd]), record, hr, hf, rfl⟩
  · rintro (⟨record, hr, hf, hd⟩ | ⟨hs, record, hr, hf, -⟩)
    · exact ⟨record, hr, hf, .inr hd⟩
    · exact ⟨record, hr, hf, .inl hs⟩

/-- What a reader keeps of an element is the document that it maps to, if it maps. -/
theorem toOption_outcome_of_keep {o : Option Document} (h : r.keep e = .ok o) :
    (r.mapper.outcome e).toOption = o := by
  cases o with
  | some d => rw [Mapper.outcome_eq_ok_iff.2 (keep_eq_some_iff.1 h), Except.toOption]
  | none =>
    obtain ⟨-, f, record, hr, hf, -⟩ := keep_eq_none_iff.1 h
    rw [Mapper.outcome_of_record hr, hf, Except.toOption]

/-! ## Notes along the row -/

/-- Goes on after the outcome of a mapping, with a warning where the record is skipped. -/
def goOn (r : ResponseReader) (i : Nat) : Except Fault Document → Traced (Option Document)
  | .ok d => pure (some d)
  | .error f =>
    if r.skipInvalid && f.isDomain then do
      Traced.note (skippedNote i f)
      return none
    else .fail f

/-- What a reader does at the element with index `i`. -/
def readOne (r : ResponseReader) (i : Nat) (e : Element) : Traced (Option Document) := do
  let record ← Traced.ofExcept (Record.ofElement e)
  r.goOn i (← (r.mapper.map record).attempt)

/-- A response is read from its first record on. -/
theorem collect_cons (r : ResponseReader) (i : Nat) (e : Element) (es : List Element) :
    r.collect i (e :: es) = do
      let d ← r.readOne i e
      let ds ← r.collect (i + 1) es
      return d.toList ++ ds := by
  -- both sides are one computation up to the way in which its steps are bracketed
  simp only [collect, readOne, bind_assoc]
  refine congrArg _ (funext fun record ↦ congrArg _ (funext fun outcome ↦ ?_))
  cases outcome with
  | ok d => simp [goOn]
  | error f =>
    by_cases hs : (r.skipInvalid && f.isDomain) = true
    · simp [goOn, hs]
    · simp only [goOn, hs]
      rfl

theorem result_goOn (r : ResponseReader) (i : Nat) (x : Except Fault Document) :
    (r.goOn i x).result = r.settle x := by
  unfold goOn settle
  split
  · rfl
  · split <;> rfl

theorem result_readOne (r : ResponseReader) (i : Nat) (e : Element) :
    (r.readOne i e).result = r.keep e := by
  simp only [readOne, keep, Traced.result_bind, Traced.result_ofExcept, Traced.result_attempt,
    result_goOn]
  rfl

theorem warnings_readOne {i : Nat} {o : Option Document} (h : r.keep e = .ok o) :
    (r.readOne i e).warnings = (r.mapper.warning? (e, i)).toList := by
  obtain ⟨record, hr, ho⟩ := bind_eq_ok.1 h
  rw [readOne, Traced.warnings_bind_of_ok hr, Traced.warnings_bind_of_ok (Traced.result_attempt _),
    Traced.warnings_attempt, Mapper.warnings_map, Mapper.warning?, Mapper.outcome_of_record hr]
  cases hm : (r.mapper.map record).result with
  | ok d => rfl
  | error f =>
    rw [hm] at ho
    by_cases hs : (r.skipInvalid && f.isDomain) = true
    · simp only [goOn, hs]
      rfl
    · simp [settle, hs] at ho

/-! ## The whole row -/

/-- The documents of a row are what the reader makes of each of its elements. -/
theorem result_collect (r : ResponseReader) (i : Nat) (es : List Element) :
    (r.collect i es).result = (es.mapM r.keep).map List.reduceOption := by
  induction es generalizing i with
  | nil => rfl
  | cons e es ih =>
    simp only [collect_cons, Traced.result_bind, result_readOne, ih, List.mapM_cons]
    cases r.keep e with
    | error _ => rfl
    | ok d =>
      cases es.mapM r.keep with
      | error _ => rfl
      | ok ds => cases d <;> rfl

theorem collect_eq_ok_iff {i : Nat} {ds : List Document} : (r.collect i es).result = .ok ds ↔
    (∀ e ∈ es, ∃ d, r.keep e = .ok d) ∧
      ds = es.filterMap fun e ↦ (r.mapper.outcome e).toOption := by
  rw [result_collect, map_eq_ok, ← exists_mapM_eq_ok_iff]
  constructor
  · rintro ⟨os, hos, rfl⟩
    exact ⟨⟨os, hos⟩, reduceOption_of_mapM (fun _ _ ↦ toOption_outcome_of_keep) hos⟩
  · rintro ⟨⟨os, hos⟩, rfl⟩
    exact ⟨os, hos, reduceOption_of_mapM (fun _ _ ↦ toOption_outcome_of_keep) hos⟩

/-- A row fails with the fault of the first element that the reader ends with. -/
theorem collect_eq_error_iff {i : Nat} : (r.collect i es).result = .error f ↔
    ∃ before e after, es = before ++ e :: after ∧ (∀ x ∈ before, ∃ d, r.keep x = .ok d) ∧
      r.keep e = .error f := by
  rw [result_collect, map_eq_error, mapM_eq_error_iff]

/-- A reader that gets through a row warns about each element that does not map, by its index. -/
theorem warnings_collect {i : Nat} (h : ∀ e ∈ es, ∃ o, r.keep e = .ok o) :
    (r.collect i es).warnings = (es.zipIdx i).filterMap r.mapper.warning? := by
  induction es generalizing i with
  | nil => rfl
  | cons e es ih =>
    obtain ⟨⟨o, ho⟩, hes⟩ := List.forall_mem_cons.1 h
    -- the warnings behind a step only count if the step succeeds, and so does the rest
    obtain ⟨ds, hds⟩ : ∃ ds, (r.collect (i + 1) es).result = .ok ds :=
      ⟨_, collect_eq_ok_iff.2 ⟨hes, rfl⟩⟩
    rw [collect_cons, Traced.warnings_bind_of_ok ((result_readOne r i e).trans ho),
      Traced.warnings_bind_of_ok hds, Traced.warnings_pure, List.append_nil, warnings_readOne ho,
      ih hes,
      List.zipIdx_cons, List.filterMap_cons]
    cases r.mapper.warning? (e, i) <;> rfl

end ResponseReader

/-! ## Whole responses -/

/-- Does a source hold a response that tells a number of matches and has these elements for its
records? -/
def Markup.Source.HoldsResponse (s : Source) (total : Int) (records : List Element) : Prop :=
  ∃ root result count, s.read = .ok root ∧ root.tag = "response" ∧
    root.child? "result" = some result ∧
    result.attribute? "numFound" = some count ∧ Whole.readPadded count = some total ∧
    result.childrenNamed "doc" = records

namespace ResponseReader

variable {r : ResponseReader} {m : Mapper} {s : Source} {total : Int} {records : List Element}
  {e : Element} {f : Fault} {rs : ResultSet}

theorem read_of_holdsResponse (h : s.HoldsResponse total records) (r : ResponseReader) :
    r.read s = do
      let documents ← r.collect 0 records
      return ⟨total, documents⟩ := by
  obtain ⟨root, result, count, hs, htag, hresult, hcount, htotal, rfl⟩ := h
  have hr : resultOf root = .ok result := by simp [resultOf, htag, hresult]
  have hn : countOf result = .ok total := by simp [countOf, hcount, htotal]
  simp only [read, readElement, hs, hr, hn, Traced.ofExcept_ok_bind]

/-- A response is read iff each of its records is kept or passed over. -/
theorem read_eq_ok_iff (h : s.HoldsResponse total records) : (r.read s).result = .ok rs ↔
    (∀ e ∈ records, ∃ o, r.keep e = .ok o) ∧
      rs = ⟨total, records.filterMap fun e ↦ (r.mapper.outcome e).toOption⟩ := by
  rw [read_of_holdsResponse h, Traced.result_bind, bind_eq_ok]
  constructor
  · rintro ⟨ds, hds, hrs⟩
    obtain ⟨hkeep, rfl⟩ := collect_eq_ok_iff.1 hds
    exact ⟨hkeep, (Except.ok.inj hrs).symm⟩
  · rintro ⟨hkeep, rfl⟩
    exact ⟨_, collect_eq_ok_iff.2 ⟨hkeep, rfl⟩, rfl⟩

/-- It fails with what its first record that is neither says. -/
theorem read_eq_error_iff (h : s.HoldsResponse total records) : (r.read s).result = .error f ↔
    ∃ before e after, records = before ++ e :: after ∧ (∀ x ∈ before, ∃ o, r.keep x = .ok o) ∧
      r.keep e = .error f := by
  rw [read_of_holdsResponse h, Traced.result_bind, bind_eq_error, collect_eq_error_iff]
  constructor
  · rintro (hf | ⟨_, -, hf⟩)
    · exact hf
    · cases hf
  · exact .inl

/-- The warnings are those of the records passed over, in their order. -/
theorem warnings_read (h : s.HoldsResponse total records)
    (hk : ∀ e ∈ records, ∃ o, r.keep e = .ok o) :
    (r.read s).warnings = records.zipIdx.filterMap r.mapper.warning? := by
  rw [read_of_holdsResponse h, Traced.warnings_bind_of_ok (collect_eq_ok_iff.2 ⟨hk, rfl⟩),
    Traced.warnings_pure, List.append_nil, warnings_collect hk]

abbrev ending (m : Mapper) : ResponseReader := ⟨m, false⟩

abbrev skipping (m : Mapper) : ResponseReader := ⟨m, true⟩

/-- A reader that does not skip gets past an element iff it maps. -/
theorem exists_keep_ending_iff : (∃ o, (ending m).keep e = .ok o) ↔ ∃ d, m.Maps e d := by
  constructor
  · rintro ⟨o, ho⟩
    cases o with
    | some d => exact ⟨d, keep_eq_some_iff.1 ho⟩
    | none => exact absurd (keep_eq_none_iff.1 ho).1 Bool.false_ne_true
  · rintro ⟨d, hd⟩
    exact ⟨some d, keep_eq_some_iff.2 hd⟩

/-- Without skipping, a record ends the response by any fault. -/
theorem keep_ending_eq_error_iff :
    (ending m).keep e = .error f ↔ m.Breaks e f ∨ m.Refuses e f := by
  simp [keep_eq_error_iff]

/-- With skipping, only by one that is not of this library. -/
theorem keep_skipping_eq_error_iff : (skipping m).keep e = .error f ↔ m.Breaks e f := by
  simp [keep_eq_error_iff]

/-- A reader that skips gets past an element iff it does not break the reading. -/
theorem exists_keep_skipping_iff : (∃ o, (skipping m).keep e = .ok o) ↔ ∀ f, ¬ m.Breaks e f := by
  simp only [exists_eq_ok_iff, ne_eq, keep_skipping_eq_error_iff]

/-- Where every element maps, the documents are those that the elements map to. -/
theorem filterMap_outcome_iff {ds : List Document} :
    (∀ e ∈ records, ∃ d, m.Maps e d) ∧ ds = records.filterMap (fun e ↦ (m.outcome e).toOption) ↔
      List.Forall₂ m.Maps records ds := by
  induction records generalizing ds with
  | nil => simp
  | cons e es ih =>
    rw [List.forall_mem_cons, List.filterMap_cons, List.forall₂_cons_left_iff]
    constructor
    · rintro ⟨⟨⟨d, hd⟩, hes⟩, rfl⟩
      refine ⟨d, _, hd, ih.1 ⟨hes, rfl⟩, ?_⟩
      rw [Mapper.outcome_eq_ok_iff.2 hd]
      rfl
    · rintro ⟨d, ds, hd, hds, rfl⟩
      obtain ⟨hes, rfl⟩ := ih.2 hds
      refine ⟨⟨⟨d, hd⟩, hes⟩, ?_⟩
      rw [Mapper.outcome_eq_ok_iff.2 hd]
      rfl

/-- Where every element maps, there is nothing to warn about. -/
theorem filterMap_warning?_eq_nil {i : Nat} (h : ∀ e ∈ records, ∃ d, m.Maps e d) :
    (records.zipIdx i).filterMap m.warning? = [] := by
  refine List.filterMap_eq_nil_iff.2 fun x hx ↦ ?_
  obtain ⟨d, hd⟩ := h x.1 (List.fst_mem_of_mem_zipIdx hx)
  rw [Mapper.warning?, Mapper.outcome_eq_ok_iff.2 hd]

/-- A record that maps does not break the reading. -/
theorem not_breaks_of_maps {d : Document} (h : m.Maps e d) : ¬ m.Breaks e f := by
  rw [Mapper.breaks_iff]
  obtain ⟨record, hr, hd⟩ := h
  simp [hr, hd]

/-- Nor does one that is refused. -/
theorem not_breaks_of_refuses {g : Fault} (h : m.Refuses e g) : ¬ m.Breaks e f := by
  rw [Mapper.breaks_iff]
  obtain ⟨record, hr, hg, hd⟩ := h
  simp only [hr, hg, reduceCtorEq, Except.ok.injEq, exists_eq_left', Except.error.injEq, false_or]
  rintro ⟨rfl, hf⟩
  exact Bool.false_ne_true (hf.symm.trans hd)

theorem exists_ending_iff (h : s.HoldsResponse total records) :
    (∃ rs, ((ending m).read s).result = .ok rs) ↔ ∀ e ∈ records, e.NamesFields ∧
      ∃ d, m.Maps e d := by
  have hmaps : ∀ e, (∃ o, (ending m).keep e = .ok o) ↔ e.NamesFields ∧ ∃ d, m.Maps e d := by
    intro e
    rw [exists_keep_ending_iff, ← Record.exists_ofElement_iff]
    constructor
    · rintro ⟨d, record, hr, hd⟩
      exact ⟨⟨record, hr⟩, d, record, hr, hd⟩
    · exact And.right
  simp only [read_eq_ok_iff h, exists_and_left, exists_eq, and_true, hmaps]

theorem ending_eq_ok_iff (h : s.HoldsResponse total records) : ((ending m).read s).result = .ok rs ↔
    rs.totalFound = total ∧ List.Forall₂ m.Maps records rs.documents := by
  obtain ⟨n, ds⟩ := rs
  rw [read_eq_ok_iff h, ← filterMap_outcome_iff, ResultSet.mk.injEq]
  simp only [exists_keep_ending_iff]
  exact and_left_comm

theorem ending_eq_error_iff (h : s.HoldsResponse total records) :
    ((ending m).read s).result = .error f ↔ ∃ before e after, records = before ++ e :: after ∧
      (∀ x ∈ before, ∃ d, m.Maps x d) ∧ (m.Breaks e f ∨ m.Refuses e f) := by
  simp only [read_eq_error_iff h, exists_keep_ending_iff, keep_ending_eq_error_iff]

theorem skipping_eq_ok_iff (h : s.HoldsResponse total records) :
    ((skipping m).read s).result = .ok rs ↔
    rs.totalFound = total ∧ (∀ e ∈ records, ∀ f, ¬ m.Breaks e f) ∧
      rs.documents = records.filterMap fun e ↦ (m.outcome e).toOption := by
  obtain ⟨n, ds⟩ := rs
  rw [read_eq_ok_iff h, ResultSet.mk.injEq]
  simp only [exists_keep_skipping_iff]
  exact and_left_comm

theorem skipping_eq_error_iff (h : s.HoldsResponse total records) :
    ((skipping m).read s).result = .error f ↔ ∃ before e after, records = before ++ e :: after ∧
      (∀ x ∈ before, ∀ g, ¬ m.Breaks x g) ∧ m.Breaks e f := by
  simp only [read_eq_error_iff h, exists_keep_skipping_iff, keep_skipping_eq_error_iff]

theorem warnings_skipping (h : s.HoldsResponse total records)
    (hs : ((skipping m).read s).result = .ok rs) :
    ((skipping m).read s).warnings = records.zipIdx.filterMap m.warning? :=
  warnings_read h ((read_eq_ok_iff h).1 hs).1

/-- Where ending at failures succeeds, skipping them does so as well and has nothing to skip. -/
theorem skipping_of_ending (h : s.HoldsResponse total records)
    (he : ((ending m).read s).result = .ok rs) :
    ((skipping m).read s).result = .ok rs ∧ ((skipping m).read s).warnings = [] := by
  obtain ⟨htotal, hds⟩ := (ending_eq_ok_iff h).1 he
  obtain ⟨hmaps, hds⟩ := filterMap_outcome_iff.2 hds
  have hs : ((skipping m).read s).result = .ok rs := by
    refine (skipping_eq_ok_iff h).2 ⟨htotal, fun e he f ↦ ?_, hds⟩
    obtain ⟨d, hd⟩ := hmaps e he
    exact not_breaks_of_maps hd
  exact ⟨hs, by rw [warnings_skipping h hs, filterMap_warning?_eq_nil hmaps]⟩

/-! ## Main statements -/

/-- The element of a record with a name that is none of a book's. -/
def numbered : Element := .mk "doc" [] "" [.mk "str" [("name", "isbn")] "" []]

def titled : Element := .mk "doc" [] "" [.mk "str" [("name", "title")] "a" []]

def shelf : Source := .text ("<response><result numFound=\"7\"><doc><str name=\"isbn\"/></doc>" ++
  "<doc><str name=\"title\">a</str></doc></result></response>")

theorem holdsResponse_shelf : shelf.HoldsResponse 7 [numbered, titled] := by
  have hread : shelf.read =
      .ok (.mk "response" [] "" [.mk "result" [("numFound", "7")] "" [numbered, titled]]) :=
    eq_ok_of_toOption (by decide +kernel)
  exact ⟨_, _, "7", hread, rfl, rfl, rfl, by decide, rfl⟩

/-- If no type is called to read a text, and the constructor makes a document, a record maps or
fails with a fault about it (a text that does not convert, a container that cannot be assembled, or
a name without a member), or it reaches a member that does not let itself be set. If all members let
themselves be set, no record ends a reading that skips, as long as all fields have names. -/
theorem no_record_ends_skipping {t : DocumentType} {m : Mapper} {d₀ : Document}
    (h : Schema.build t = .ok m.schema) (hd : m.newDocument = .ok d₀)
    (hc : ∀ f ∈ m.schema.fields, ¬ f.content.CallsType) :
    (∀ r, (∃ d, (m.map r).result = .ok d) ∨ ∃ f, (m.map r).result = .error f ∧
      (f.IsOfRecord ∨ ∃ e ∈ r.entries, ∃ g, m.schema.lookup e.wireName = some g ∧
        t.refusal? g.member = some f)) ∧
    ((∀ f ∈ m.schema.fields, t.refusal? f.member = none) →
      (∀ r, (∃ d, (m.map r).result = .ok d) ∨ ∃ f, (m.map r).result = .error f ∧ f.IsOfRecord) ∧
      ∀ (s : Source) (total : Int) (records : List Element), s.HoldsResponse total records →
        (∀ e ∈ records, e.NamesFields) →
        ∃ rs, ((skipping m).read s).result = .ok rs ∧ rs.totalFound = total) := by
  obtain ⟨hs, rfl⟩ := Schema.sound_of_build h
  have hmap := Mapper.map_ok_or_isOfRecord hs hd hc
  refine ⟨hmap, fun hset ↦ ?_⟩
  have hsettable : ∀ r, (∃ d, (m.map r).result = .ok d) ∨ ∃ f, (m.map r).result = .error f ∧
      f.IsOfRecord := by
    intro r
    refine (hmap r).imp_right fun ⟨f, hf, hcause⟩ ↦ ⟨f, hf, hcause.resolve_right ?_⟩
    rintro ⟨e, -, g, hg, hrefusal⟩
    cases (hset g (Schema.mem_of_lookup hg)).symm.trans hrefusal
  refine ⟨hsettable, fun s total records hs hnamed ↦ ?_⟩
  have hbreaks : ∀ e ∈ records, ∀ f, ¬ m.Breaks e f := by
    intro e he f
    obtain ⟨r, hr⟩ := Record.exists_ofElement_iff.2 (hnamed e he)
    rcases hsettable r with ⟨d, hd⟩ | ⟨g, hg, hgr⟩
    · exact not_breaks_of_maps ⟨r, hr, hd⟩
    · exact not_breaks_of_refuses ⟨r, hr, hg, hgr.isDomain⟩
  exact ⟨⟨total, _⟩, (skipping_eq_ok_iff hs).2 ⟨rfl, hbreaks, rfl⟩, rfl⟩

theorem not_callsType_of_mem_bookSchema : ∀ f ∈ bookSchema.fields, ¬ f.content.CallsType := by
  have htext : (Declared.base .text).kind? = .ok (some .string) := rfl
  simp [bookSchema, Content.CallsType, htext]

theorem no_record_ends_skipping_shelf : Schema.build bookType = .ok bookSchema ∧
    (∀ f ∈ bookSchema.fields, ¬ f.content.CallsType) ∧ shelf.HoldsResponse 7 [numbered, titled] ∧
    ∃ rs, ((skipping ⟨bookSchema, true⟩).read shelf).result = .ok rs ∧ rs.totalFound = 7 := by
  have hc := not_callsType_of_mem_bookSchema
  obtain ⟨-, hskips⟩ := no_record_ends_skipping (m := ⟨bookSchema, true⟩) build_bookType rfl hc
  exact ⟨build_bookType, hc, holdsResponse_shelf,
    (hskips fun _ _ ↦ rfl).2 _ _ _ holdsResponse_shelf (by decide)⟩

/-- A record with a title ends a reading that skips, where the titles of documents cannot be set. -/
theorem ticket_ends_skipping : Schema.build ticketType = .ok ticketSchema ∧
    (∃ d₀, (⟨ticketSchema, false⟩ : Mapper).newDocument = .ok d₀) ∧
    (∀ f ∈ ticketSchema.fields, ¬ f.content.CallsType) ∧ shelf.HoldsResponse 7 [numbered, titled] ∧
    (∀ e ∈ [numbered, titled], e.NamesFields) ∧
    ((skipping ⟨ticketSchema, false⟩).read shelf).result =
      .error (.noAttribute "can't set attribute") ∧
    ¬ (Fault.noAttribute "can't set attribute").IsOfRecord := by
  refine ⟨build_ticketType, ⟨_, rfl⟩, by simp [ticketSchema, Content.CallsType],
    holdsResponse_shelf, by decide,
    ?_, nofun⟩
  refine (skipping_eq_error_iff holdsResponse_shelf).2 ⟨[numbered], titled, [], rfl, ?_, ?_⟩
  · refine List.forall_mem_singleton.2 fun f ↦ not_breaks_of_maps ⟨⟨[⟨"isbn", "str", "", []⟩]⟩, rfl,
      rfl⟩
  · exact .escaped ⟨[⟨"title", "str", "a", []⟩]⟩ _ rfl rfl rfl

end ResponseReader

end TypedSearch

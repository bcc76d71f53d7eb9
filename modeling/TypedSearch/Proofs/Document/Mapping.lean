import TypedSearch.Document.Mapping
import TypedSearch.Proofs.Document.Lookup

/-!
# What a mapping leaves behind

A mapper takes over the entries of a record one after the other. What an entry sets does not depend
on the document that is there so far, so the run comes apart: every entry is turned into what it
sets (`Mapper.write?`), which succeeds or fails on its own, and then all of it is set
(`Document.setAll`). `Mapper.map_eq_ok_iff` and `Mapper.map_eq_error_iff` say so for the whole run.

From there the state of the document after the run can be read off: a member holds what the last
entry that reaches it sets, or what it held in the new document, whatever the order of the entries
that reach other members. A run fails where an entry does not convert, or converts for a member that
does not let itself be set (`DocumentType.Fails`).
-/

namespace TypedSearch

open Outcome

namespace Document

/-! ## Setting members -/

@[simp] theorem type_set (d : Document) (n : String) (v : Value) : (d.set n v).type = d.type := rfl

/-- A member that is set holds the value, and all others hold what they held. -/
theorem get?_set (d : Document) (n : String) (v : Value) (k : String) :
    (d.set n v).get? k = if k = n then some v else d.get? k := by
  simp only [get?, set, lookup_putNamed]
  split <;> rfl

/-- The document with members set one after the other. -/
def setAll (d : Document) (ws : List (String × Value)) : Document :=
  ws.foldl (fun d w ↦ d.set w.1 w.2) d

@[simp] theorem setAll_nil (d : Document) : d.setAll [] = d := rfl

@[simp] theorem setAll_cons (d : Document) (w : String × Value) (ws : List (String × Value)) :
    d.setAll (w :: ws) = (d.set w.1 w.2).setAll ws := rfl

@[simp] theorem type_setAll (d : Document) (ws : List (String × Value)) :
    (d.setAll ws).type = d.type := by
  induction ws generalizing d with
  | nil => rfl
  | cons w ws ih => simp [ih]

/-- The last value set for a member is the one it holds. -/
theorem get?_setAll (d : Document) (ws : List (String × Value)) (k : String) :
    (d.setAll ws).get? k = (ws.reverse.lookup k).or (d.get? k) := by
  induction ws generalizing d with
  | nil => rfl
  | cons w ws ih =>
    obtain ⟨n, v⟩ := w
    rw [setAll_cons, ih, get?_set, List.reverse_cons, List.lookup_append, lookup_cons_eq_ite]
    cases ws.reverse.lookup k <;> split <;> simp

/-- Do two documents of one type hold the same for every member? -/
def Alike (d d' : Document) : Prop := d.type = d'.type ∧ ∀ n, d.get? n = d'.get? n

end Document

namespace DocumentType

variable {t : DocumentType} {f : Field} {e : Entry} {fault : Fault}

/-- Does a field take an entry over, with a value? The entry converts, and the member lets itself be
set. -/
def Takes (t : DocumentType) (f : Field) (e : Entry) (v : Value) : Prop :=
  f.convert t.call e = .ok v ∧ t.refusal? f.member = none

/-- What a field fails with at an entry. -/
inductive Fails (t : DocumentType) (f : Field) (e : Entry) : Fault → Prop
  | unread {fault : Fault} (failure : f.convert t.call e = .error fault) : Fails t f e fault
  /-- The entry converts, but the member does not let itself be set. -/
  | unset {fault : Fault} {v : Value} (converts : f.convert t.call e = .ok v)
      (refusal : t.refusal? f.member = some fault) : Fails t f e fault

/-- An entry fails at its conversion, or at its member where it converts. -/
theorem fails_iff : t.Fails f e fault ↔ f.convert t.call e = .error fault ∨
    (∃ v, f.convert t.call e = .ok v) ∧ t.refusal? f.member = some fault := by
  constructor
  · rintro (h | ⟨hv, h⟩)
    · exact .inl h
    · exact .inr ⟨⟨_, hv⟩, h⟩
  · rintro (h | ⟨⟨_, hv⟩, h⟩)
    · exact .unread h
    · exact .unset hv h

/-- A field takes an entry over or fails at it. -/
theorem exists_takes_iff : (∃ v, t.Takes f e v) ↔ ∀ fault, ¬ t.Fails f e fault := by
  simp only [Takes, fails_iff]
  cases f.convert t.call e <;> cases t.refusal? f.member <;> simp

/-- A document made by the constructor of a type is one of that type. -/
theorem type_of_new {d : Document} (h : Document.new t = .ok d) : d.type = t := by
  obtain ⟨_, -, rfl⟩ := map_eq_ok.1 h
  rfl

end DocumentType

namespace Mapper

variable {m : Mapper} {r : Record} {d : Document} {e : Entry} {f : Field} {fault : Fault}

/-! ## One entry -/

/-- The member and the value that an entry sets; a lenient mapper passes over an entry that reaches
no member. -/
def write? (m : Mapper) (e : Entry) : Except Fault (Option (String × Value)) :=
  match m.schema.lookup e.wireName with
  | some f => do
    let v ← f.convert m.schema.type.call e
    match m.schema.type.refusal? f.member with
    | none => .ok (some (f.member, v))
    | some fault => .error fault
  | none => if m.strict then .error (.unmapped e.wireName m.schema.type.name) else .ok none

/-- What an entry sets, if it is taken over and sets something. -/
def written? (m : Mapper) (e : Entry) : Option (String × Value) := (m.write? e).toOption.join

/-- Taking over an entry sets what the entry sets, whatever is in the document. -/
theorem result_step (m : Mapper) {d : Document} (hd : d.type = m.schema.type) (e : Entry) :
    (m.step d e).result = (m.write? e).map fun w ↦ d.setAll w.toList := by
  unfold step write?
  cases m.schema.lookup e.wireName with
  | some f =>
    simp only [Traced.result_bind, Traced.result_tell, Traced.result_ofExcept, Document.assign, hd]
    cases f.convert m.schema.type.call e with
    | error _ => rfl
    | ok v => cases m.schema.type.refusal? f.member <;> rfl
  | none => cases m.strict <;> rfl

/-- An entry with a field writes what the field takes of it. -/
theorem write?_eq_some_iff (h : m.schema.lookup e.wireName = some f) {w : Option (String × Value)} :
    m.write? e = .ok w ↔ ∃ v, m.schema.type.Takes f e v ∧ w = some (f.member, v) := by
  simp only [write?, DocumentType.Takes, h]
  cases f.convert m.schema.type.call e with
  | error _ => simp [bind, Except.bind]
  | ok v => cases m.schema.type.refusal? f.member <;> simp [bind, Except.bind, eq_comm]

theorem written?_of_takes {v : Value} (h : m.schema.lookup e.wireName = some f)
    (hv : m.schema.type.Takes f e v) : m.written? e = some (f.member, v) := by
  rw [written?, (write?_eq_some_iff h).2 ⟨v, hv, rfl⟩]
  rfl

/-- What an entry sets is the member that it reaches. -/
theorem exists_lookup_of_written? {w : String × Value} (h : m.written? e = some w) :
    ∃ f, m.schema.lookup e.wireName = some f ∧ f.member = w.1 := by
  obtain ⟨o, ho, rfl⟩ : ∃ o, m.write? e = .ok o ∧ o = some w := by
    unfold written? at h
    cases hw : m.write? e with
    | ok o => exact ⟨o, rfl, by simpa [hw, Except.toOption] using h⟩
    | error _ => simp [hw, Except.toOption] at h
  cases hf : m.schema.lookup e.wireName with
  | some f =>
    obtain ⟨v, -, hw⟩ := (write?_eq_some_iff hf).1 ho
    exact ⟨f, rfl, by simp [Option.some.inj hw]⟩
  | none =>
    rw [write?, hf] at ho
    cases hs : m.strict <;> rw [hs] at ho <;> cases ho

/-- An entry fails if the member it reaches does not take it, or if a strict mapper finds that it
reaches none. -/
theorem write?_eq_error_iff : m.write? e = .error fault ↔
    (∃ f, m.schema.lookup e.wireName = some f ∧ m.schema.type.Fails f e fault) ∨
      m.schema.lookup e.wireName = none ∧ m.strict = true ∧
        fault = .unmapped e.wireName m.schema.type.name := by
  unfold write?
  cases m.schema.lookup e.wireName with
  | some f =>
    simp only [Option.some.injEq, exists_eq_left', reduceCtorEq, false_and, or_false,
      DocumentType.fails_iff]
    cases f.convert m.schema.type.call e with
    | error _ => simp [bind, Except.bind]
    | ok v => cases m.schema.type.refusal? f.member <;> simp [bind, Except.bind]
  | none => cases m.strict <;> simp [eq_comm]

/-! ## The whole record -/

/-- Taking over a row of entries turns each of them into what it sets, and then sets all of it. -/
theorem result_foldlM_step (m : Mapper) (es : List Entry) {d : Document}
    (hd : d.type = m.schema.type) :
    (es.foldlM m.step d).result = do
      let ws ← es.mapM m.write?
      return d.setAll ws.reduceOption := by
  -- the document so far varies along the run, so it stays general in the induction
  induction es generalizing d with
  | nil => rfl
  | cons e es ih =>
    rw [List.foldlM_cons, Traced.result_bind, result_step m hd, List.mapM_cons]
    cases m.write? e with
    | error _ => rfl
    | ok w =>
      change (es.foldlM m.step (d.setAll w.toList)).result = _
      rw [ih (by simp [hd])]
      cases es.mapM m.write? with
      | error _ => rfl
      | ok ws => cases w <;> rfl

/-- A record is mapped by the writes of its entries, done to a new document. -/
theorem result_map (m : Mapper) (r : Record) :
    (m.map r).result = do
      let d ← m.newDocument
      let ws ← r.entries.mapM m.write?
      return d.setAll ws.reduceOption := by
  simp only [map, Traced.result_bind, Traced.result_ofExcept]
  cases hd : m.newDocument with
  | error _ => rfl
  | ok d => exact result_foldlM_step m r.entries (DocumentType.type_of_new hd)

theorem written?_of_write? {w : Option (String × Value)} (h : m.write? e = .ok w) :
    m.written? e = w := by
  rw [written?, h]
  cases w <;> rfl

/-- A mapping succeeds iff a document can be made and every entry is taken over; the document then
holds what the entries set, in their order, and apart from that what it held when it was made. -/
theorem map_eq_ok_iff : (m.map r).result = .ok d ↔
    ∃ d₀, m.newDocument = .ok d₀ ∧ (∀ e ∈ r.entries, ∃ w, m.write? e = .ok w) ∧
      d = d₀.setAll (r.entries.filterMap m.written?) := by
  rw [result_map]
  simp only [bind_eq_ok, ← exists_mapM_eq_ok_iff]
  constructor
  · rintro ⟨d₀, hd₀, ws, hws, h⟩
    exact ⟨d₀, hd₀, ⟨ws, hws⟩, reduceOption_of_mapM (fun _ _ ↦ written?_of_write?) hws ▸
      (Except.ok.inj h).symm⟩
  · rintro ⟨d₀, hd₀, ⟨ws, hws⟩, rfl⟩
    exact ⟨d₀, hd₀, ws, hws, by rw [reduceOption_of_mapM (fun _ _ ↦ written?_of_write?) hws]; rfl⟩

/-- A mapping that has made a document fails with the fault of the first entry that is not taken
over. -/
theorem map_eq_error_iff {d₀ : Document} (h : m.newDocument = .ok d₀) :
    (m.map r).result = .error fault ↔ ∃ before e after, r.entries = before ++ e :: after ∧
      (∀ x ∈ before, ∃ w, m.write? x = .ok w) ∧ m.write? e = .error fault := by
  rw [result_map, h, ← mapM_eq_error_iff]
  change (r.entries.mapM m.write? >>= fun ws ↦ pure (d₀.setAll ws.reduceOption)) = _ ↔ _
  rw [bind_eq_error]
  constructor
  · rintro (h | ⟨_, _, h⟩)
    · exact h
    · cases h
  · exact .inl

/-- A mapping fails with what the constructor fails with. -/
theorem map_of_newDocument (h : m.newDocument = .error fault) (r : Record) :
    (m.map r).result = .error fault := by
  rw [result_map, h]
  rfl

/-! ## The state afterwards -/

/-- The value that a row of entries leaves for a member, if one of them sets it. -/
def lastValue? (m : Mapper) (es : List Entry) (n : String) : Option Value :=
  (es.reverse.filterMap m.written?).lookup n

/-- A member reads the last value written to it, or what it had. -/
theorem get?_setAll_written? (d : Document) (es : List Entry) (n : String) :
    (d.setAll (es.filterMap m.written?)).get? n = (m.lastValue? es n).or (d.get? n) := by
  rw [Document.get?_setAll, lastValue?, List.filterMap_reverse]

/-- Entries that do not reach a member have no say in what it holds. -/
theorem lookup_filterMap_filter {p : Entry → Bool} {es : List Entry} {n : String}
    (h : ∀ e ∈ es, ∀ f, m.schema.lookup e.wireName = some f → f.member = n → p e = true) :
    (es.filterMap m.written?).lookup n = ((es.filter p).filterMap m.written?).lookup n := by
  induction es with
  | nil => rfl
  | cons e es ih =>
    have ih := ih fun x hx ↦ h x (List.mem_cons_of_mem _ hx)
    cases hw : m.written? e with
    | none => cases hp : p e <;> simp [hw, hp, ih]
    | some w =>
      obtain ⟨f, hf, hfw⟩ := exists_lookup_of_written? hw
      obtain ⟨k, v⟩ := w
      by_cases hn : n = k
      · have hp : p e = true := h e List.mem_cons_self f hf (hfw.trans hn.symm)
        simp [hw, hp, hn]
      · cases hp : p e <;> simp [hw, hp, hn, lookup_cons_eq_ite, ih]

theorem lastValue?_filter {p : Entry → Bool} {es : List Entry} {n : String}
    (h : ∀ e ∈ es, ∀ f, m.schema.lookup e.wireName = some f → f.member = n → p e = true) :
    m.lastValue? es n = m.lastValue? (es.filter p) n := by
  unfold lastValue?
  rw [lookup_filterMap_filter (p := p) (fun e he ↦ h e (List.mem_reverse.1 he)),
    List.filter_reverse]

/-- Where no entry reaches a member, none leaves a value for it. -/
theorem lastValue?_eq_none {es : List Entry} {n : String}
    (h : ∀ e ∈ es, ∀ f, m.schema.lookup e.wireName = some f → f.member ≠ n) :
    m.lastValue? es n = none := by
  rw [lastValue?_filter (p := fun _ ↦ false) fun e he f hf hn ↦ absurd hn (h e he f hf)]
  simp [lastValue?]

/-- The last entry that reaches a member leaves its value there. -/
theorem lastValue?_of_last {before after : List Entry} {v : Value} (hs : m.schema.Sound)
    (hf : m.schema.lookup e.wireName = some f) (hv : m.schema.type.Takes f e v)
    (h : ∀ x ∈ after, m.schema.lookup x.wireName ≠ some f) :
    m.lastValue? (before ++ e :: after) f.member = some v := by
  have hafter : m.lastValue? after f.member = none := by
    refine lastValue?_eq_none fun x hx g hg hgf ↦ h x hx ?_
    rw [hg, List.inj_on_of_nodup_map hs.nodup_members (Schema.mem_of_lookup hg)
      (Schema.mem_of_lookup hf) hgf]
  simp only [lastValue?, List.filterMap_reverse] at hafter ⊢
  simp [List.lookup_append, hafter, written?_of_takes hf hv]

/-- Entries that reach one member in the same order leave the same values, wherever the others
stand. -/
theorem lastValue?_congr {es es' : List Entry} (hs : m.schema.Sound)
    (h : ∀ f ∈ m.schema.fields, es'.filter (fun e ↦ m.schema.lookup e.wireName = some f) =
      es.filter fun e ↦ m.schema.lookup e.wireName = some f) (n : String) :
    m.lastValue? es' n = m.lastValue? es n := by
  -- the entries that matter for a name are those that reach the one field with that member
  by_cases hn : ∃ f ∈ m.schema.fields, f.member = n
  · obtain ⟨f, hf, rfl⟩ := hn
    have hreach : ∀ w g, m.schema.lookup w = some g → g.member = f.member →
        decide (m.schema.lookup w = some f) = true := by
      intro w g hg hgf
      rw [hg, List.inj_on_of_nodup_map hs.nodup_members (Schema.mem_of_lookup hg) hf hgf]
      simp
    rw [lastValue?_filter fun e _ g ↦ hreach e.wireName g, h f hf,
      ← lastValue?_filter fun e _ g ↦ hreach e.wireName g]
  · have hnone : ∀ w g, m.schema.lookup w = some g → g.member ≠ n :=
      fun w g hg hgn ↦ hn ⟨g, Schema.mem_of_lookup hg, hgn⟩
    rw [lastValue?_eq_none fun e _ g ↦ hnone e.wireName g,
      lastValue?_eq_none fun e _ g ↦ hnone e.wireName g]

/-! ## Documents made of records -/

/-- So a mapped document shows the last values over those of a new one. -/
theorem get?_of_map_eq_ok (h : (m.map r).result = .ok d) : ∃ d₀, m.newDocument = .ok d₀ ∧
    ∀ n, d.get? n = (m.lastValue? r.entries n).or (d₀.get? n) := by
  obtain ⟨d₀, hd₀, -, rfl⟩ := map_eq_ok_iff.1 h
  exact ⟨d₀, hd₀, get?_setAll_written? d₀ r.entries⟩

/-- In a record that maps, every member takes the entries that reach it. -/
theorem exists_takes_of_map_eq_ok (h : (m.map r).result = .ok d) (he : e ∈ r.entries)
    (hf : m.schema.lookup e.wireName = some f) : ∃ v, m.schema.type.Takes f e v := by
  obtain ⟨_, -, hw, -⟩ := map_eq_ok_iff.1 h
  obtain ⟨w, hw⟩ := hw e he
  obtain ⟨v, hv, -⟩ := (write?_eq_some_iff hf).1 hw
  exact ⟨v, hv⟩

/-- In a record that maps every entry with a field converts. -/
theorem exists_convert_of_map_eq_ok (h : (m.map r).result = .ok d) (he : e ∈ r.entries)
    (hf : m.schema.lookup e.wireName = some f) : ∃ v, f.convert m.schema.type.call e = .ok v := by
  obtain ⟨v, hv, -⟩ := exists_takes_of_map_eq_ok h he hf
  exact ⟨v, hv⟩

/-- A record maps to the same in every order that keeps the entries of each member in theirs. -/
theorem exists_map_of_perm {r' : Record} (hs : m.schema.Sound) (hp : r'.entries.Perm r.entries)
    (h : ∀ f ∈ m.schema.fields, r'.entries.filter (fun e ↦ m.schema.lookup e.wireName = some f) =
      r.entries.filter fun e ↦ m.schema.lookup e.wireName = some f)
    (hd : (m.map r).result = .ok d) : ∃ d', (m.map r').result = .ok d' ∧ d'.Alike d := by
  obtain ⟨d₀, hd₀, hw, rfl⟩ := map_eq_ok_iff.1 hd
  refine ⟨_, map_eq_ok_iff.2 ⟨d₀, hd₀, fun e he ↦ hw e (hp.mem_iff.1 he), rfl⟩, by simp, fun n ↦ ?_⟩
  rw [get?_setAll_written?, get?_setAll_written?, lastValue?_congr hs h]

/-- A mapper takes the entries over that their members take, and passes over the others if it is
lenient. -/
theorem exists_write?_of_takes (h : m.strict = false ∨ (m.schema.lookup e.wireName).isSome)
    (ht : ∀ g, m.schema.lookup e.wireName = some g → ∃ v, m.schema.type.Takes g e v) :
    ∃ w, m.write? e = .ok w := by
  cases hg : m.schema.lookup e.wireName with
  | some g =>
    obtain ⟨v, hv⟩ := ht g hg
    exact ⟨_, (write?_eq_some_iff hg).2 ⟨v, hv, rfl⟩⟩
  | none =>
    have hl : m.strict = false := h.resolve_right (by simp [hg])
    exact ⟨none, by simp [write?, hg, hl]⟩

/-- A lenient mapper fails with the fault of the first entry that its member does not take. -/
theorem map_eq_error_of_first {d₀ : Document} {before after : List Entry}
    (hd : m.newDocument = .ok d₀) (hl : m.strict = false) (hr : r.entries = before ++ e :: after)
    (hb : ∀ x ∈ before, ∀ g, m.schema.lookup x.wireName = some g → ∃ v, m.schema.type.Takes g x v)
    (hf : m.schema.lookup e.wireName = some f) (he : m.schema.type.Fails f e fault) :
    (m.map r).result = .error fault :=
  (map_eq_error_iff hd).2 ⟨before, e, after, hr, fun x hx ↦ exists_write?_of_takes (.inl hl)
    (hb x hx), write?_eq_error_iff.2 (.inl ⟨f, hf, he⟩)⟩

/-! ## Main statement -/

/-- A record that maps leaves in each member what the last entry that reaches it sets, and all else
as it was in a new document. It maps to the same in every order that keeps the entries of each
member in theirs. A mapping fails with what the constructor fails with. Where there is a new
document, and without strictness, it fails with the first entry that reaches a member and does not
convert for it, or converts and reaches a member that does not let itself be set. A member that is
declared as a wire field is reached by its wire name and by its own name, as far as no other one is
declared under them. -/
theorem map_final_state {t : DocumentType} {m : Mapper} (h : Schema.build t = .ok m.schema)
    (r : Record) :
    (∀ d, (m.map r).result = .ok d → ∃ d₀, m.newDocument = .ok d₀ ∧
      (∀ f ∈ m.schema.fields,
        (∀ before e after, r.entries = before ++ e :: after →
          m.schema.lookup e.wireName = some f →
          (∀ x ∈ after, m.schema.lookup x.wireName ≠ some f) →
          ∃ v, f.convert t.call e = .ok v ∧ d.get? f.member = some v) ∧
        ((∀ e ∈ r.entries, m.schema.lookup e.wireName ≠ some f) →
          d.get? f.member = d₀.get? f.member)) ∧
      ∀ n, (∀ f ∈ m.schema.fields, f.member ≠ n) → d.get? n = d₀.get? n) ∧
    (∀ r' : Record, r'.entries.Perm r.entries →
      (∀ f ∈ m.schema.fields, r'.entries.filter (fun e ↦ m.schema.lookup e.wireName = some f) =
        r.entries.filter fun e ↦ m.schema.lookup e.wireName = some f) →
      ∀ d, (m.map r).result = .ok d → ∃ d', (m.map r').result = .ok d' ∧ d'.Alike d) ∧
    (∀ fault, m.newDocument = .error fault → (m.map r).result = .error fault) ∧
    (∀ d₀, m.newDocument = .ok d₀ → m.strict = false →
      ∀ before e after f fault, r.entries = before ++ e :: after →
        (∀ x ∈ before, ∀ g, m.schema.lookup x.wireName = some g → ∃ v, t.Takes g x v) →
        m.schema.lookup e.wireName = some f → t.Fails f e fault → (m.map r).result = .error fault) ∧
    (∀ f ∈ m.schema.fields, f.isExplicit = true →
      (∀ g ∈ m.schema.fields, g.isExplicit = true → g ≠ f →
        g.wireName ≠ f.wireName ∧ g.wireName ≠ f.member) →
      m.schema.lookup f.wireName = some f ∧ m.schema.lookup f.member = some f) := by
  obtain ⟨hs, rfl⟩ := Schema.sound_of_build h
  refine ⟨fun d hd ↦ ?_, fun r' hp hr' d ↦ exists_map_of_perm hs hp hr',
    fun _ hd ↦ map_of_newDocument hd r, fun d₀ hd hl before e after f fault ↦ map_eq_error_of_first
    hd hl, fun f hf hfe hg ↦ ⟨?_, ?_⟩⟩
  · obtain ⟨d₀, hd₀, hget⟩ := get?_of_map_eq_ok hd
    refine ⟨d₀, hd₀, fun f hf ↦ ⟨fun before e after hr hfe hafter ↦ ?_, fun hnone ↦ ?_⟩,
      fun n hn ↦ ?_⟩
    · obtain ⟨v, hv⟩ := exists_takes_of_map_eq_ok hd (e := e) (by simp [hr]) hfe
      exact ⟨v, hv.1, by rw [hget, hr, lastValue?_of_last hs hfe hv hafter, Option.some_or]⟩
    · rw [hget, lastValue?_eq_none, Option.none_or]
      intro e he g hg hgf
      refine hnone e he ?_
      rw [hg, List.inj_on_of_nodup_map hs.nodup_members (Schema.mem_of_lookup hg) hf hgf]
    · rw [hget, lastValue?_eq_none fun e _ g hg ↦ hn g (Schema.mem_of_lookup hg), Option.none_or]
  · refine Schema.lookup_of_isExplicit hf hfe rfl fun g hgm hge hgw ↦ ?_
    by_contra hne
    exact (hg g hgm hge hne).1 hgw
  · refine hs.lookup_member hf fun g hgm hge hgw ↦ ?_
    by_contra hne
    exact (hg g hgm hge hne).2 hgw

/-- A record with a title under either of its names, and a name between them that reaches
nothing. -/
def twiceTitled : Record :=
  ⟨[⟨"title", "str", "first", []⟩, ⟨"note", "str", "", []⟩, ⟨"title_t", "str", "last", []⟩]⟩

theorem map_final_state_twiceTitled : Schema.build bookType = .ok bookSchema ∧
    ∃ d, ((⟨bookSchema, false⟩ : Mapper).map twiceTitled).result = .ok d ∧
      d.get? "title" = some (.text "last") := by
  refine ⟨build_bookType, _, rfl, ?_⟩
  obtain ⟨d₀, -, hf, -⟩ :=
    (map_final_state (m := ⟨bookSchema, false⟩) build_bookType twiceTitled).1 _ rfl
  obtain ⟨v, hv, hget⟩ := (hf ⟨"title_t", "title", .base .text, .scalar .string, true⟩
    (by simp [bookSchema])).1 (twiceTitled.entries.take 2) ⟨"title_t", "str", "last", []⟩ [] rfl rfl
      (by simp)
  obtain rfl : .text "last" = v := Except.ok.inj hv
  exact hget

/-! ## Members that cannot be set -/

/-- A record with a title, and a price that is no number. -/
def unpriced : Record := ⟨[⟨"title", "str", "a", []⟩, ⟨"price", "int", "b", []⟩]⟩

/-- The only entry that does not convert is the second one, but the mapping fails at the first one,
since its member cannot be set. -/
theorem map_unpriced_ticket : Schema.build ticketType = .ok ticketSchema ∧
    (∃ d₀, (⟨ticketSchema, false⟩ : Mapper).newDocument = .ok d₀) ∧
    (∀ f, ticketSchema.lookup "title" = some f →
      f.convert ticketType.call ⟨"title", "str", "a", []⟩ = .ok (.text "a")) ∧
    (∀ f, ticketSchema.lookup "price" = some f →
      f.convert ticketType.call ⟨"price", "int", "b", []⟩ =
        .error (.unreadable "b" "int" (some .badText))) ∧
    ((⟨ticketSchema, false⟩ : Mapper).map unpriced).result =
      .error (.noAttribute "can't set attribute") := by
  refine ⟨build_ticketType, ⟨_, rfl⟩, ?_, ?_, rfl⟩
  · rintro f ⟨⟩
    rfl
  · rintro f ⟨⟩
    rfl

end Mapper

end TypedSearch

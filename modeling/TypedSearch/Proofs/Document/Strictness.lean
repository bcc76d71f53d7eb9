import TypedSearch.Proofs.Document.Mapping

/-!
# Strict and lenient mappings

A strict mapper and a lenient one take over the entries that reach a member in the same way. They
part at the first entry that reaches none (`Schema.knows`): the lenient one passes over it, as if it
were not there, and the strict one fails. So whatever a strict mapper makes of a record, a lenient
one makes of it as well, and the two fail alike as long as something else fails before such an entry
(`Mapper.strict_refines_lenient`).
-/

namespace TypedSearch

open Outcome

def Schema.knows (s : Schema) (e : Entry) : Bool := (s.lookup e.wireName).isSome

/-- The record without the entries that reach no member. -/
def Record.knownTo (s : Schema) (r : Record) : Record := ⟨r.entries.filter s.knows⟩

/-- The mapper that passes over entries without a member. -/
abbrev Schema.lenientMapper (s : Schema) : Mapper := ⟨s, false⟩

/-- The mapper that refuses entries without a member. -/
abbrev Schema.strictMapper (s : Schema) : Mapper := ⟨s, true⟩

namespace Mapper

variable {s : Schema} {r : Record} {d : Document} {e : Entry} {es before after : List Entry}
  {fault : Fault}

/-! ## One entry -/

/-- Strict and lenient mappers treat known names alike. -/
theorem write?_strict_of_knows (h : s.knows e = true) :
    s.strictMapper.write? e = s.lenientMapper.write? e := by
  obtain ⟨f, hf⟩ := Option.isSome_iff_exists.1 h
  simp only [write?, hf]

theorem lookup_of_not_knows (h : s.knows e = false) : s.lookup e.wireName = none := by
  simpa [Schema.knows] using h

/-- A lenient mapper passes an unknown name over. -/
theorem write?_lenient_of_not_knows (h : s.knows e = false) :
    s.lenientMapper.write? e = .ok none := by
  simp [write?, lookup_of_not_knows h]

/-- A strict one refuses it. -/
theorem write?_strict_of_not_knows (h : s.knows e = false) :
    s.strictMapper.write? e = .error (.unmapped e.wireName s.type.name) := by
  simp [write?, lookup_of_not_knows h]

/-- An entry that reaches a member is taken over iff that member takes it. -/
theorem exists_write?_iff_of_knows {m : Mapper} (h : m.schema.knows e = true) :
    (∃ w, m.write? e = .ok w) ↔
    ∀ f, m.schema.lookup e.wireName = some f → ∃ v, m.schema.type.Takes f e v := by
  obtain ⟨f, hf⟩ := Option.isSome_iff_exists.1 h
  simp only [write?_eq_some_iff hf, hf, Option.some.injEq, forall_eq']
  exact ⟨fun ⟨_, v, hv, _⟩ ↦ ⟨v, hv⟩, fun ⟨v, hv⟩ ↦ ⟨_, v, hv, rfl⟩⟩

/-! ## Rows of entries -/

def writes (m : Mapper) (es : List Entry) : Except Fault (List (String × Value)) :=
  (es.mapM m.write?).map List.reduceOption

/-- A mapping makes a document and sets in it what the entries set. -/
theorem result_map_eq_writes (m : Mapper) (r : Record) :
    (m.map r).result = m.newDocument >>= fun d ↦ (m.writes r.entries).map d.setAll := by
  rw [result_map]
  refine bind_congr fun d ↦ ?_
  unfold writes
  cases r.entries.mapM m.write? <;> rfl

/-- Without strictness it makes no difference whether the entries without a member are there. -/
theorem writes_lenient_filter (s : Schema) (es : List Entry) :
    s.lenientMapper.writes (es.filter s.knows) = s.lenientMapper.writes es :=
  map_reduceOption_mapM_filter fun _ _ ↦ write?_lenient_of_not_knows

/-- As long as every entry reaches a member, strictness makes no difference. -/
theorem writes_strict_of_knows (h : ∀ e ∈ es, s.knows e = true) :
    s.strictMapper.writes es = s.lenientMapper.writes es := by
  unfold writes
  rw [mapM_congr fun e he ↦ write?_strict_of_knows (h e he)]

/-! ## Whole records -/

/-- Where all names are known the mappers agree on the record. -/
theorem result_strict_of_knows (h : ∀ e ∈ r.entries, s.knows e = true) :
    (s.strictMapper.map r).result = (s.lenientMapper.map r).result := by
  rw [result_map_eq_writes, result_map_eq_writes, writes_strict_of_knows h]
  rfl

/-- A strict mapper makes no document of a record with an entry that reaches no member. -/
theorem knows_of_strict_eq_ok (h : (s.strictMapper.map r).result = .ok d) :
    ∀ e ∈ r.entries, s.knows e = true := by
  obtain ⟨_, -, hw, -⟩ := map_eq_ok_iff.1 h
  intro e he
  by_contra hk
  obtain ⟨w, hw⟩ := hw e he
  rw [write?_strict_of_not_knows (eq_false_of_ne_true hk)] at hw
  cases hw

/-- Where all entries in front are taken, a strict mapper fails with the first entry that reaches no
member. -/
theorem strict_eq_unmapped {d₀ : Document} (hd : s.strictMapper.newDocument = .ok d₀)
    (hr : r.entries = before ++ e :: after) (he : s.knows e = false)
    (hb : ∀ x ∈ before, s.knows x = true) (hc : ∀ x ∈ before, ∀ f, s.lookup x.wireName = some f →
      ∃ v, s.type.Takes f x v) :
    (s.strictMapper.map r).result = .error (.unmapped e.wireName s.type.name) := by
  refine (map_eq_error_iff hd).2 ⟨before, e, after, hr, fun x hx ↦ ?_,
    write?_strict_of_not_knows he⟩
  exact (exists_write?_iff_of_knows (hb x hx)).2 (hc x hx)

/-- An entry that is not taken makes both mappers fail alike if all entries up to it reach
members. -/
theorem exists_eq_error_of_fails {d₀ : Document} {x : Entry} {f : Field}
    (hd : s.strictMapper.newDocument = .ok d₀) (hr : r.entries = before ++ after)
    (hb : ∀ y ∈ before, s.knows y = true) (hx : x ∈ before) (hf : s.lookup x.wireName = some f)
    (hc : s.type.Fails f x fault) :
    ∃ fault, (s.strictMapper.map r).result = .error fault ∧ (s.lenientMapper.map r).result =
      .error fault := by
  cases hw : before.mapM s.strictMapper.write? with
  | ok ws =>
    obtain ⟨w, hw⟩ := exists_mapM_eq_ok_iff.1 ⟨ws, hw⟩ x hx
    have htaken := (exists_write?_iff_of_knows (m := s.strictMapper) (hb x hx)).1 ⟨w, hw⟩ f hf
    exact absurd hc (DocumentType.exists_takes_iff.1 htaken fault)
  | error g =>
    -- the entry that fails first may stand before the one that is given
    obtain ⟨front, y, rest, rfl, hfront, hy⟩ := mapM_eq_error_iff.1 hw
    have hknows : ∀ z ∈ front, s.knows z = true := fun z hz ↦ hb z (List.mem_append_left _ hz)
    have hentries : r.entries = front ++ y :: (rest ++ after) := by
      rw [hr, List.append_assoc, List.cons_append]
    refine ⟨g, (map_eq_error_iff hd).2 ⟨front, y, _, hentries, hfront, hy⟩,
      (map_eq_error_iff (m := s.lenientMapper) hd).2 ⟨front, y, _, hentries, fun z hz ↦ ?_, ?_⟩⟩
    · rw [← write?_strict_of_knows (hknows z hz)]
      exact hfront z hz
    · rw [← write?_strict_of_knows (hb y (by simp))]
      exact hy

/-! ## Main statement -/

/-- Without strictness a record maps to the same as what is left of it without the entries that
reach no member. If there are none of these, strictness makes no difference. If there are, a strict
mapper gives no document. Where there is a new document, it fails with the first of them, unless an
entry in front does not convert or reaches a member that does not let itself be set, and then both
mappers fail alike. So a lenient mapper gives every document that a strict one gives. -/
theorem strict_refines_lenient {t : DocumentType} {s : Schema} (h : Schema.build t = .ok s)
    (r : Record) :
    (s.lenientMapper.map r).result = (s.lenientMapper.map (r.knownTo s)).result ∧
    ((∀ e ∈ r.entries, s.knows e = true) → (s.strictMapper.map r).result =
      (s.lenientMapper.map r).result) ∧
    ((∃ e ∈ r.entries, s.knows e = false) → ∀ d, (s.strictMapper.map r).result ≠ .ok d) ∧
    (∀ d₀, Document.new t = .ok d₀ →
      ∀ before e after, r.entries = before ++ e :: after → (∀ x ∈ before, s.knows x = true) →
      s.knows e = false →
      ((∀ x ∈ before, ∀ f, s.lookup x.wireName = some f → ∃ v, t.Takes f x v) →
        (s.strictMapper.map r).result = .error (.unmapped e.wireName t.name)) ∧
      ((∃ x ∈ before, ∃ f fault, s.lookup x.wireName = some f ∧ t.Fails f x fault) →
        ∃ fault, (s.strictMapper.map r).result = .error fault ∧ (s.lenientMapper.map r).result =
          .error fault)) ∧
    (∀ d, (s.strictMapper.map r).result = .ok d → (s.lenientMapper.map r).result = .ok d) := by
  obtain ⟨-, rfl⟩ := Schema.sound_of_build h
  refine ⟨?_, result_strict_of_knows, ?_,
    fun d₀ hd before e after hr hb he ↦ ⟨strict_eq_unmapped hd hr he hb, ?_⟩, fun d hd ↦ ?_⟩
  · rw [result_map_eq_writes, result_map_eq_writes, Record.knownTo, writes_lenient_filter]
  · rintro ⟨e, he, hk⟩ d hd
    cases hk.symm.trans (knows_of_strict_eq_ok hd e he)
  · rintro ⟨x, hx, f, fault, hf, hc⟩
    exact exists_eq_error_of_fails hd hr hb hx hf hc
  · rw [← result_strict_of_knows (knows_of_strict_eq_ok hd)]
    exact hd

theorem strict_refines_lenient_twiceTitled : Schema.build bookType = .ok bookSchema ∧
    (bookSchema.strictMapper.map twiceTitled).result = .error (.unmapped "note" "Book") ∧
    ∃ d, (bookSchema.lenientMapper.map twiceTitled).result = .ok d ∧
      (bookSchema.lenientMapper.map (twiceTitled.knownTo bookSchema)).result = .ok d := by
  obtain ⟨hsame, -, -, hfirst, -⟩ := strict_refines_lenient build_bookType twiceTitled
  refine ⟨build_bookType, ?_, _, rfl, hsame.symm⟩
  obtain ⟨hunmapped, -⟩ := hfirst _ rfl (twiceTitled.entries.take 1) ⟨"note", "str", "", []⟩
    [⟨"title_t", "str", "last", []⟩] rfl (by decide) rfl
  refine hunmapped fun x hx f hf ↦ ?_
  obtain rfl := List.mem_singleton.1 hx
  cases hf
  exact ⟨.text "first", rfl, rfl⟩

/-- A record with a title and a name that reaches nothing. -/
def annotatedTicket : Record := ⟨[⟨"title", "str", "a", []⟩, ⟨"note", "str", "", []⟩]⟩

/-- Only the second entry reaches no member, and the first one converts, but a strict mapper fails
with the first one, since its member cannot be set. -/
theorem strict_annotatedTicket : Schema.build ticketType = .ok ticketSchema ∧
    (∃ d₀, Document.new ticketType = .ok d₀) ∧ ticketSchema.lookup "note" = none ∧
    (∀ f, ticketSchema.lookup "title" = some f →
      f.convert ticketType.call ⟨"title", "str", "a", []⟩ = .ok (.text "a")) ∧
    (ticketSchema.strictMapper.map annotatedTicket).result =
      .error (.noAttribute "can't set attribute") := by
  refine ⟨build_ticketType, ⟨_, rfl⟩, rfl, ?_, rfl⟩
  rintro f ⟨⟩
  rfl

end Mapper

end TypedSearch

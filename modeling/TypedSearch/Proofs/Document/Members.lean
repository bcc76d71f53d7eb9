import TypedSearch.Proofs.Document.Lookup

/-!
# Which members have fields

A schema has at most one field for a member. Which members have one depends on whether there is a
dataclass among the layers of the document type. If there is none, all of them do, except for those
of the class and those with an underscore in front. If there is one, only what the dataclasses among
the layers declare counts, the highest one first (`dataRole?`), and members that other layers add
are passed over.
-/

namespace TypedSearch

open Annotation (resolve)
open Outcome

/-! ## Fields of dataclasses -/

/-- What a name is by the highest dataclass that declares it, among some layers, the highest first.
Of several members of one layer with the name, the last one counts. -/
def dataRole? (layers : List Layer) (n : String) : Option Role :=
  layers.findSome? fun l ↦
    if l.form.isDataclass then (l.members.reverse.find? (·.name == n)).map l.role else none

variable {l : Layer} {layers : List Layer} {n : String}

theorem find?_map_field (l : Layer) (below : List Layer) (ms : List Member) (n : String) :
    (ms.map (l.field below)).find? (·.name == n) = (ms.find? (·.name == n)).map (l.field below) :=
  List.find?_map ..

/-- What dataclasses know of a name is what the highest of them says that declares it. -/
theorem find?_dataMembers (layers : List Layer) (n : String) :
    ((dataMembers layers).find? (·.name == n)).map DataField.role = dataRole? layers n := by
  induction layers with
  | nil => rfl
  | cons l below ih =>
    rw [dataRole?, List.findSome?_cons, ← dataRole?, ← ih, dataMembers]
    split
    · rw [← List.foldl_map (f := l.field below) (g := fun fs f ↦ putNamed DataField.name f fs),
        find?_foldl_putNamed, ← List.map_reverse, find?_map_field]
      cases l.members.reverse.find? (·.name == n) <;> rfl
    · rfl

/-- The fields of a dataclass are the members whose last role is that of a field. -/
theorem mem_dataFields_iff : n ∈ (dataFields layers).map DataField.name ↔
    dataRole? layers n = some .field := by
  rw [← find?_dataMembers]
  have hn := nodup_dataMembers layers
  simp only [dataFields, List.mem_map, List.mem_filter, Option.map_eq_some_iff, beq_iff_eq]
  constructor
  · rintro ⟨f, ⟨hf, hrole⟩, rfl⟩
    refine ⟨f, ?_, hrole⟩
    obtain ⟨g, hg⟩ : ∃ g, (dataMembers layers).find? (·.name == f.name) = some g :=
      Option.isSome_iff_exists.1 (List.find?_isSome.2 ⟨f, hf, beq_self_eq_true f.name⟩)
    have hgf : g.name = f.name := by simpa using List.find?_some hg
    rw [hg, List.inj_on_of_nodup_map hn (List.mem_of_find?_eq_some hg) hf hgf]
  · rintro ⟨f, hf, hrole⟩
    exact ⟨f, ⟨List.mem_of_find?_eq_some hf, hrole⟩, by simpa using List.find?_some hf⟩

/-- A name that only dataclasses declare, and only as a field, is a field of theirs. -/
theorem dataRole?_of_forall (hl : l ∈ layers) (hn : n ∈ l.members.map Member.name)
    (h : ∀ l ∈ layers, ∀ m ∈ l.members, m.name = n → l.form.isDataclass = true ∧
      l.role m = .field) :
    dataRole? layers n = some .field := by
  induction layers with
  | nil => cases hl
  | cons top below ih =>
    obtain ⟨htop, hbelow⟩ := List.forall_mem_cons.1 h
    rw [dataRole?, List.findSome?_cons, ← dataRole?]
    cases hm : top.members.reverse.find? (·.name == n) with
    | some m =>
      obtain ⟨hdata, hrole⟩ := htop m (List.mem_reverse.1 (List.mem_of_find?_eq_some hm))
        (by simpa using List.find?_some hm)
      simp [hdata, hrole]
    | none =>
      have hnot : n ∉ top.members.map Member.name := by simpa using hm
      have hmem : l ∈ below := (List.mem_cons.1 hl).resolve_left fun hlt ↦ hnot (hlt ▸ hn)
      simpa using ih hmem hbelow

/-- A name that no dataclass declares has no field. -/
theorem dataRole?_eq_none
    (h : ∀ l ∈ layers, n ∈ l.members.map Member.name → l.form.isDataclass = false) :
    dataRole? layers n = none := by
  refine List.findSome?_eq_none_iff.2 fun l hl ↦ ?_
  cases hdata : l.form.isDataclass with
  | false => rfl
  | true =>
    have hnot : n ∉ l.members.map Member.name := fun hn ↦ by cases hdata.symm.trans (h l hl hn)
    simpa using hnot

/-! ## Types of members -/

namespace Schema

variable {scope : Annotation.Scope} {hs hs' : List (String × Declared)} {st st' : Annotation.Memory}
  {ms : List Member}

def addHint (scope : Annotation.Scope) (hints : List (String × Declared)) (m : Member) :
    Declared.Building (List (String × Declared)) := do
  return putNamed Prod.fst (m.name, ← resolve scope m.type) hints

/-- The types of members stay, and each member that is gone through gets one. -/
theorem exists_lookup_of_addHint (h : (ms.foldlM (addHint scope) hs).run st = .ok (hs', st'))
    (hn : n ∈ ms.map Member.name ∨ ∃ t, hs.lookup n = some t) : ∃ t, hs'.lookup n = some t := by
  induction ms generalizing hs st with
  | nil =>
    rw [List.foldlM_nil, StateT.run_pure] at h
    cases h
    simpa using hn
  | cons m ms ih =>
    simp only [List.foldlM_cons, addHint, StateT.run_bind, bind_eq_ok, StateT.run_pure] at h
    obtain ⟨⟨hs₁, st₁⟩, ⟨⟨t, _⟩, -, hput⟩, h⟩ := h
    obtain ⟨rfl, rfl⟩ := Prod.mk.inj (Except.ok.inj hput)
    refine ih h ?_
    by_cases hm : n = m.name
    · exact .inr ⟨t, by rw [lookup_putNamed, if_pos hm]⟩
    · rw [lookup_putNamed, if_neg hm]
      exact hn.imp_left fun hn ↦ (List.mem_cons.1 hn).resolve_left hm

/-- Every member that a layer declares has a type. -/
theorem exists_lookup_of_declared
    (h : (layers.foldlM (layerHints scope) hs).run st = .ok (hs', st'))
    (hn : (∃ l ∈ layers, n ∈ l.members.map Member.name) ∨ ∃ t, hs.lookup n = some t) :
    ∃ t, hs'.lookup n = some t := by
  induction layers generalizing hs st with
  | nil =>
    rw [List.foldlM_nil, StateT.run_pure] at h
    cases h
    simpa using hn
  | cons l layers ih =>
    simp only [List.foldlM_cons, layerHints, StateT.run_bind, bind_eq_ok] at h
    obtain ⟨⟨hs₁, st₁⟩, ⟨⟨frame, st₂⟩, -, hlayer⟩, h⟩ := h
    refine ih h ?_
    rw [List.exists_mem_cons_iff, or_assoc] at hn
    obtain hn | hn | hn := hn
    · exact .inr (exists_lookup_of_addHint hlayer (.inl hn))
    · exact .inl hn
    · exact .inr (exists_lookup_of_addHint hlayer (.inr hn))

/-- The types that a layer declares its members with, put in place of those of the layers below. -/
def writtenHints (hints : List (String × Declared)) (l : Layer) : List (String × Declared) :=
  l.members.foldl (fun hints m ↦ putNamed Prod.fst (m.name, m.type) hints) hints

theorem foldlM_addHint_of_isWrittenOut (h : ∀ m ∈ ms, m.type.isWrittenOut = true) :
    ms.foldlM (addHint scope) hs =
      pure (ms.foldl (fun hs m ↦ putNamed Prod.fst (m.name, m.type) hs) hs) := by
  induction ms generalizing hs with
  | nil => rfl
  | cons m ms ih =>
    obtain ⟨hm, hms⟩ := List.forall_mem_cons.1 h
    rw [List.foldlM_cons, addHint, Annotation.resolve_of_isWrittenOut hm, pure_bind, pure_bind,
      ih hms, List.foldl_cons]

/-- A class whose members are written out gives them their types as they stand. -/
theorem exists_run_layerHints (scope : Annotation.Scope) (hs : List (String × Declared))
    (st : Annotation.Memory) (h : ∀ m ∈ l.members, m.type.isWrittenOut = true) :
    ∃ st', (layerHints scope hs l).run st = .ok (writtenHints hs l, st') := by
  obtain ⟨frame, st', hframe⟩ : ∃ frame st', (Declared.Building.newFrame []).run st =
    .ok (frame, st') := ⟨_, _, rfl⟩
  refine ⟨st', ?_⟩
  rw [layerHints, StateT.run_bind]
  refine bind_eq_ok.2 ⟨_, hframe, ?_⟩
  change (l.members.foldlM (addHint _) hs).run st' = _
  rw [foldlM_addHint_of_isWrittenOut h]
  rfl

/-- Where the types of all members are written out, nothing is looked up: each member has the type
that the highest layer declares it with. -/
theorem hints_of_isWrittenOut {d : DocumentType}
    (h : ∀ l ∈ d.layers, ∀ m ∈ l.members, m.type.isWrittenOut = true) :
    hints d = .ok (d.layers.foldl writtenHints []) := by
  have hlayers : ∀ layers : List Layer, (∀ l ∈ layers, ∀ m ∈ l.members, m.type.isWrittenOut =
      true) →
        ∀ hs st, ∃ st', (layers.foldlM (layerHints d.scope) hs).run st =
          .ok (layers.foldl writtenHints hs, st') := by
    intro layers
    induction layers with
    | nil => exact fun _ hs st ↦ ⟨st, rfl⟩
    | cons l layers ih =>
      intro h hs st
      obtain ⟨hl, hlayers⟩ := List.forall_mem_cons.1 h
      obtain ⟨st₁, hst₁⟩ := exists_run_layerHints d.scope hs st hl
      obtain ⟨st₂, hst₂⟩ := ih hlayers (writtenHints hs l) st₁
      exact ⟨st₂, by rw [List.foldlM_cons]; exact bind_eq_ok.2 ⟨_, hst₁, hst₂⟩⟩
  obtain ⟨st, hst⟩ := hlayers d.layers h [] (.ofBuilt d.scope.built)
  have hof : hintsOf d.scope d.layers = .ok (d.layers.foldl writtenHints []) := by
    rw [hintsOf, StateT.run'_eq, hst]
    rfl
  rw [hints, hof]

/-! ## Members and fields of a schema -/

variable {s : Schema} {d : DocumentType}

/-- The members that have a field: the fields of the dataclasses, if there is one among the layers,
or else all members that are not of the class and have no underscore in front. -/
theorem exists_map_member_of_build (h : build d = .ok s) : ∃ hs, hints d = .ok hs ∧
    s.fields.map Field.member =
      if d.isDataclass then (dataFields d.fromTop).map DataField.name
      else (hs.filter fun h ↦ !(h.1.toList.head? == some '_' || isClassType h.2)).map Prod.fst := by
  obtain ⟨-, -, hs, hhs, hfs⟩ := described_of_build h
  refine ⟨hs, hhs, ?_⟩
  split at hfs
  case isTrue hdata =>
    rw [if_pos hdata]
    exact map_member_of_forall₂ (mapM_eq_ok_iff.1 hfs)
  case isFalse hdata =>
    rw [if_neg hdata]
    exact map_member_of_forall₂ (mapM_eq_ok_iff.1 hfs)

/-- The wire name of a field reaches that field or another one. -/
theorem Sound.exists_lookup_wireName {f : Field} (hs : s.Sound) (hf : f ∈ s.fields) :
    ∃ g, s.lookup f.wireName = some g := by
  rw [← Option.isSome_iff_exists, ← Option.ne_none_iff_isSome]
  intro hnone
  obtain ⟨hdeclared, hmember⟩ := lookup_eq_none_iff.1 hnone f hf
  cases he : f.isExplicit with
  | true => exact hdeclared ⟨he, rfl⟩
  | false => exact hmember (hs.wireName_eq f hf he).symm

end Schema

/-! ## A plain class on a dataclass -/

/-- A plain class with a member of its own, on top of a dataclass with another one. -/
def slipType : DocumentType where
  className := ⟨"docs", "Slip"⟩
  layers := [{ form := .dataclass, members := [⟨"a", .base .int, some (.int 0), none⟩] },
    { form := .plain, members := [⟨"b", .base .text, some (.text ""), none⟩] }]
  scope := .empty

def slipSchema : Schema := ⟨slipType, [⟨"a", "a", .base .int, .scalar .integer, false⟩]⟩

theorem build_slipType : Schema.build slipType = .ok slipSchema :=
  Outcome.eq_ok_of_toOption (by decide +kernel)

theorem hints_slipType : Schema.hints slipType = .ok [("a", .base .int), ("b", .base .text)] :=
  Outcome.eq_ok_of_toOption (by decide +kernel)

end TypedSearch

import TypedSearch.Document.Schema
import TypedSearch.Proofs.Named
import TypedSearch.Proofs.Outcome

/-!
# Fields of a schema

What can be relied on in every schema that was built: its members have names of their own, a member
that is not declared as a wire field travels under its own name, each is read in the way that its
declared type says, and the constructor of the document type wants no argument. `Schema.Sound`
states this, and `Schema.sound_of_build` proves it.
-/

namespace TypedSearch

open Outcome

/-! ## Descriptions of members -/

/-- A field is described iff its type has a content, and by that content. -/
theorem Field.describe_eq_ok_iff {member wireName : String} {type : Declared} {isExplicit : Bool}
    {f : Field} : Field.describe member type wireName isExplicit = .ok f ↔
      ∃ c, type.content = .ok c ∧ f = ⟨wireName, member, type, c, isExplicit⟩ := by
  simp only [Field.describe, bind_eq_ok]
  exact exists_congr fun c ↦ and_congr_right fun _ ↦ ⟨fun h ↦ (Except.ok.inj h).symm, fun h ↦ h ▸
    rfl⟩

/-- Names of dataclass members are all different, however often a layer declares one again. -/
theorem nodup_dataMembers (layers : List Layer) :
    ((dataMembers layers).map DataField.name).Nodup := by
  induction layers with
  | nil => simp [dataMembers]
  | cons l below ih =>
    unfold dataMembers
    split
    · exact nodup_foldl_putNamed (l.field below) ih
    · exact ih

/-- A dataclass lists no field twice. -/
theorem nodup_dataFields (layers : List Layer) : ((dataFields layers).map DataField.name).Nodup :=
  (nodup_dataMembers layers).sublist (List.filter_sublist.map _)

namespace Schema

/-- The types of one layer's members are put beside those of the layers below under their names. -/
theorem nodup_layerHints {scope : Annotation.Scope} {hints hints' : List (String × Declared)}
    {l : Layer} {m m' : Annotation.Memory} (h : (hints.map Prod.fst).Nodup)
    (hl : (layerHints scope hints l).run m = .ok (hints', m')) : (hints'.map Prod.fst).Nodup := by
  simp only [layerHints, StateT.run_bind, bind_eq_ok] at hl
  obtain ⟨⟨i, m₁⟩, -, hl⟩ := hl
  refine foldlM_invariant (P := fun hs ↦ (hs.map Prod.fst).Nodup) ?_ h hl
  intro hs mem s hs' s' hn hstep
  simp only [StateT.run_bind, bind_eq_ok, StateT.run_pure] at hstep
  obtain ⟨⟨t, s₁⟩, -, hstep⟩ := hstep
  cases hstep
  exact nodup_putNamed _ hn

/-- The types of all members come of a run over the layers. -/
theorem exists_run_of_hints {t : DocumentType} {hs : List (String × Declared)}
    (h : hints t = .ok hs) :
    ∃ m m', (t.layers.foldlM (layerHints t.scope) []).run m = .ok (hs, m') := by
  have hof : hintsOf t.scope t.layers = .ok hs := by
    unfold hints at h
    split at h <;> simp_all
  simp only [hintsOf, StateT.run'_eq] at hof
  obtain ⟨⟨hs', m⟩, hrun, rfl⟩ := map_eq_ok.1 hof
  exact ⟨_, m, hrun⟩

/-- Members have one type each. -/
theorem nodup_hints {t : DocumentType} {hs : List (String × Declared)} (h : hints t = .ok hs) :
    (hs.map Prod.fst).Nodup := by
  obtain ⟨m, m', hrun⟩ := exists_run_of_hints h
  exact foldlM_invariant (P := fun hs ↦ (hs.map Prod.fst).Nodup)
    (fun _ _ _ _ _ hn hl ↦ nodup_layerHints hn hl) (by simp) hrun

/-- What every schema that is built keeps to. -/
structure Sound (s : Schema) : Prop where
  /-- No two fields set the same member. -/
  nodup_members : (s.fields.map Field.member).Nodup
  /-- A member that is not declared as a wire field travels under its own name. -/
  wireName_eq : ∀ f ∈ s.fields, f.isExplicit = false → f.wireName = f.member
  /-- Each member is read as its declared type says. -/
  content_eq : ∀ f ∈ s.fields, f.type.content = .ok f.content
  /-- A document can be made without arguments. -/
  required_eq : s.type.constructor.required = []

section Described

variable {α : Type} {nameOf : α → String} {type : α → Declared} {wireName : α → String}
  {isExplicit : α → Bool} {xs : List α} {fs : List Field}

/-- Fields that are described one by one, each from a part of its own, take over the parts'
names. -/
theorem map_member_of_forall₂
    (h : List.Forall₂ (fun x f ↦ Field.describe (nameOf x) (type x) (wireName x) (isExplicit x) =
      .ok f) xs fs) : fs.map Field.member = xs.map nameOf := by
  induction h with
  | nil => rfl
  | cons hd _ ih =>
    obtain ⟨c, -, rfl⟩ := Field.describe_eq_ok_iff.1 hd
    simp [ih]

/-- Fields that are described from parts with different names make a schema to rely on. -/
theorem sound_of_forall₂ {t : DocumentType}
    (h : List.Forall₂ (fun x f ↦ Field.describe (nameOf x) (type x) (wireName x) (isExplicit x) =
      .ok f) xs fs) (hn : (xs.map nameOf).Nodup) (hw : ∀ x, isExplicit x = false →
        wireName x = nameOf x)
    (hreq : t.constructor.required = []) : Sound ⟨t, fs⟩ where
  nodup_members := (map_member_of_forall₂ h).symm ▸ hn
  wireName_eq := by
    refine forall_mem_of_forall₂ h fun x _ f hf hx ↦ ?_
    obtain ⟨c, -, rfl⟩ := Field.describe_eq_ok_iff.1 hf
    exact hw x hx
  content_eq := by
    refine forall_mem_of_forall₂ h fun x _ f hf ↦ ?_
    obtain ⟨c, hc, rfl⟩ := Field.describe_eq_ok_iff.1 hf
    exact hc
  required_eq := hreq

end Described

/-! ## Schemas that were built -/

/-- What a schema that was built is described from. -/
theorem described_of_build {t : DocumentType} {s : Schema} (h : build t = .ok s) :
    s.type = t ∧ t.constructor.required = [] ∧ ∃ hs, hints t = .ok hs ∧
      (if t.isDataclass then describeData hs (dataFields t.fromTop) else describePlain hs) =
        .ok s.fields := by
  obtain ⟨fs, hfs, rfl⟩ := map_eq_ok.1 h
  unfold describeAll at hfs
  split at hfs
  · cases hfs
  · simp only at hfs
    split at hfs
    · cases hfs
    · rename_i hreq
      obtain ⟨hs, hhs, hfs⟩ := bind_eq_ok.1 hfs
      exact ⟨rfl, by simpa using hreq, hs, hhs, hfs⟩

/-- A schema that was built keeps to what is asked of it, and belongs to the type it was built
from. -/
theorem sound_of_build {t : DocumentType} {s : Schema} (h : build t = .ok s) :
    s.Sound ∧ s.type = t := by
  obtain ⟨rfl, hreq, hs, hhs, hfs⟩ := described_of_build h
  refine ⟨?_, rfl⟩
  split at hfs
  · refine sound_of_forall₂ (mapM_eq_ok_iff.1 hfs) (nodup_dataFields _) (fun x hx ↦ ?_) hreq
    have hwire : x.wire = none := by simpa using hx
    simp [hwire]
  · refine sound_of_forall₂ (mapM_eq_ok_iff.1 hfs) ?_ (fun _ _ ↦ rfl) hreq
    exact (nodup_hints hhs).sublist (List.filter_sublist.map _)

end Schema

/-! ## Document types to look at -/

/-- A dataclass with a wire field, members of several kinds and a container. -/
def bookType : DocumentType where
  className := ⟨"docs", "Book"⟩
  layers := [{ form := .dataclass, members := [
    ⟨"title", .base .text, some (.text ""), some "title_t"⟩,
    ⟨"year", .base .int, some .null, none⟩,
    ⟨"price", .base .decimal, some .null, none⟩,
    ⟨"seen", .union .brackets [.base .moment, .base .null], some .null, none⟩,
    ⟨"tags", .applied .list .alias [.base .text], some (.list []), none⟩] }]
  scope := .empty

def bookSchema : Schema := ⟨bookType, [
  ⟨"title_t", "title", .base .text, .scalar .string, true⟩,
  ⟨"year", "year", .base .int, .scalar .integer, false⟩,
  ⟨"price", "price", .base .decimal, .scalar .decimal, false⟩,
  ⟨"seen", "seen", .union .brackets [.base .moment, .base .null], .scalar .optionalTimestamp,
  false⟩,
  ⟨"tags", "tags", .applied .list .alias [.base .text], .container (.homogeneous (.base .text)),
  false⟩]⟩

theorem build_bookType : Schema.build bookType = .ok bookSchema :=
  Outcome.eq_ok_of_toOption (by decide +kernel)

/-- A class of tuples with a title and a price. Its objects are made without arguments, and none of
their members can be set. -/
def ticketType : DocumentType where
  className := ⟨"docs", "Ticket"⟩
  layers := [{
    form := .plain
    members := [⟨"title", .base .text, some (.text ""), none⟩, ⟨"price", .base .int, some (.int 0),
      none⟩]
    constructor :=
      some ⟨[⟨"title", .positional, some (.text "")⟩, ⟨"price", .positional, some (.int 0)⟩], [],
        .sets []⟩
    refused := [("title", .noAttribute "can't set attribute"),
      ("price", .noAttribute "can't set attribute")] }]
  scope := .empty

def ticketSchema : Schema := ⟨ticketType, [
  ⟨"title", "title", .base .text, .scalar .string, false⟩,
  ⟨"price", "price", .base .int, .scalar .integer, false⟩]⟩

theorem build_ticketType : Schema.build ticketType = .ok ticketSchema :=
  Outcome.eq_ok_of_toOption (by decide +kernel)

end TypedSearch

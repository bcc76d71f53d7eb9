import TypedSearch.Proofs.Declared.Content
import TypedSearch.Proofs.Document.Mapping

/-!
# What a mapping may fail with

Apart from the constructor and from members that do not let themselves be set, only a type that is
called to read a text can fail in ways of its own. As long as no member and no item of a container
is read so, every other failure of a mapping is one that this library raises about the record: a
text that does not convert, a container that cannot be assembled, or a name that a strict mapper
does not know.

The readers of all other kinds refuse a text or take it; assembling wraps what its items fail with,
unknown tags included; and an array for a single value, or a single value for a container, is
refused as such.
-/

namespace TypedSearch

open Outcome Conversion

/-- Is the fault one about the record that is mapped? -/
inductive Fault.IsOfRecord : Fault → Prop
  | unreadable (text target : String) (reason : Option Reason) :
      IsOfRecord (.unreadable text target reason)
  | collection (declared : String) (cause : Option ElementFault) :
      IsOfRecord (.collection declared cause)
  | unmapped (wireName typeName : String) : IsOfRecord (.unmapped wireName typeName)

/-- What a record can do wrong is a fault of this library. -/
theorem Fault.IsOfRecord.isDomain {f : Fault} (h : f.IsOfRecord) : f.isDomain = true := by
  cases h <;> rfl

/-- Is a type called to read what the wire sends, the one of the member or the one of its items? -/
def Content.CallsType : Content → Prop
  | .scalar k => k = .generic
  | .container (.homogeneous t) | .container (.array t) => t.kind? = .ok (some .generic)
  | .container .untyped => False

variable {call : Caller} {k : Kind} {t : Declared} {text : String} {fault : Fault}

/-! ## Single values -/

theorem Conversion.orRefuse_eq_error {α : Type} {g : α → Value} {x : Option α} {b : Setback}
    (h : orRefuse g x = .error b) : b = .refused .badText := by
  cases x <;> cases h
  rfl

/-- A reader that does not call a type refuses the texts that it does not take. -/
theorem Conversion.readAs_eq_error (hk : k ≠ .generic) {b : Setback}
    (h : readAs call k t text = .error b) :
    b = .refused .badText := by
  cases k with
  | generic => exact absurd rfl hk
  | string => cases h
  | optionalTimestamp =>
    change (if Text.isBlankText text then _ else _) = Except.error b at h
    split at h
    · cases h
    · exact orRefuse_eq_error h
  | integer => exact orRefuse_eq_error h
  | boolean => exact orRefuse_eq_error h
  | float => exact orRefuse_eq_error h
  | decimal => exact orRefuse_eq_error h
  | timestamp => exact orRefuse_eq_error h

/-- A kind that calls no class refuses a text in one way only. -/
theorem Conversion.convertAsBy_eq_error (hk : k ≠ .generic)
    (h : convertAsBy call k t text = .error fault) :
    fault = .unreadable text t.name (some .badText) := by
  obtain ⟨b, hb, rfl⟩ := mapError_eq_error.1 h
  rw [readAs_eq_error hk hb]
  rfl

/-! ## Containers -/

namespace Assembly

/-- The tags that stand for types stand for such that are not called. -/
theorem kind?_of_typeOfTag? {tag : String} (h : typeOfTag? tag = some t) :
    ∃ k, t.kind? = .ok (some k) ∧ k ≠ .generic := by
  unfold typeOfTag? at h
  split at h <;> cases h
  · exact ⟨.integer, rfl, by simp⟩
  · exact ⟨.integer, rfl, by simp⟩
  · exact ⟨.string, rfl, by simp⟩
  · exact ⟨.boolean, rfl, by simp⟩
  · exact ⟨.timestamp, rfl, by simp⟩
  · exact ⟨.float, rfl, by simp⟩
  · exact ⟨.float, rfl, by simp⟩

/-- An item that is not read by calling a type fails with a fault of its own. -/
theorem convertItem_eq_error {s : Shape} {i : Item} (hs : t.shape? = .ok (some s))
    (hc : ¬ (Content.container s).CallsType) (h : convertItem call s i = .error fault) :
    ∃ e, fault = .element e := by
  have hof : ∀ e, s.element? = some e → ¬ e.kind? = .ok (some .generic) →
      convertBy call e i.text = .error fault → ∃ e, fault = .element e := by
    intro e he hg hconv
    obtain ⟨k, hk⟩ := Declared.exists_kind?_of_shape? hs he
    rw [convertBy_of_kind? hk] at hconv
    exact ⟨_, convertAsBy_eq_error (fun hkg ↦ hg (hkg ▸ hk)) hconv⟩
  cases s with
  | homogeneous e => exact hof e rfl hc h
  | array e => exact hof e rfl hc h
  | untyped =>
    change convertTagged i = .error fault at h
    unfold convertTagged at h
    split at h
    · rename_i e he
      obtain ⟨k, hk, hkg⟩ := kind?_of_typeOfTag? he
      rw [convert, convertBy_of_kind? hk] at h
      exact ⟨_, convertAsBy_eq_error hkg h⟩
    · cases h
      exact ⟨_, rfl⟩

/-- What fails on the items of a container is wrapped as a failure of the container. -/
theorem assembleBy_eq_error {items : List Item} {s : Shape} (hs : t.shape? = .ok (some s))
    (hc : ¬ (Content.container s).CallsType) (h : assembleBy call t items = .error fault) :
    ∃ e, fault = .collection t.name (some e) := by
  rw [assembleBy_of_shape? hs] at h
  obtain ⟨f, hf, rfl⟩ := mapError_eq_error.1 h
  obtain ⟨_, i, _, -, -, hi⟩ := mapM_eq_error_iff.1 (map_eq_error.1 hf)
  obtain ⟨e, rfl⟩ := convertItem_eq_error hs hc hi
  exact ⟨e, rfl⟩

end Assembly

/-! ## Members and records -/

/-- A member that is read without calling a type refuses what does not convert for it. -/
theorem Field.convert_eq_error {f : Field} {e : Entry} (ht : f.type.content = .ok f.content)
    (hc : ¬ f.content.CallsType) (h : f.convert call e = .error fault) : fault.IsOfRecord := by
  unfold convert at h
  cases hf : f.content with
  | scalar k =>
    rw [hf] at ht hc
    split at h
    · obtain ⟨hk, hs⟩ := Declared.kind?_of_content_scalar ht
      rw [Assembly.assembleBy_of_shape?_none hs,
        Declared.naming_of_fits (Declared.fits_of_kind? hk)] at h
      cases h
      exact .collection ..
    · rw [hf] at h
      rw [convertAsBy_eq_error hc h]
      exact .unreadable ..
  | container s =>
    rw [hf] at ht hc
    split at h
    · obtain ⟨_, rfl⟩ := Assembly.assembleBy_eq_error (Declared.shape?_of_content_container ht) hc h
      exact .collection ..
    · rw [hf] at h
      cases h
      exact .unreadable ..

/-- Where there is a new document, a record maps, or fails with a fault about it, or reaches a
member that does not let itself be set. -/
theorem Mapper.map_ok_or_isOfRecord {m : Mapper} {d₀ : Document} (hs : m.schema.Sound)
    (hd : m.newDocument = .ok d₀) (hc : ∀ f ∈ m.schema.fields, ¬ f.content.CallsType) (r : Record) :
    (∃ d, (m.map r).result = .ok d) ∨ ∃ fault, (m.map r).result = .error fault ∧
      (fault.IsOfRecord ∨ ∃ e ∈ r.entries, ∃ f, m.schema.lookup e.wireName = some f ∧
        m.schema.type.refusal? f.member = some fault) := by
  cases h : (m.map r).result with
  | ok d => exact .inl ⟨d, rfl⟩
  | error fault =>
    obtain ⟨before, e, after, hr, -, he⟩ := (map_eq_error_iff hd).1 h
    refine .inr ⟨fault, rfl, ?_⟩
    obtain ⟨f, hf, hfe⟩ | ⟨-, -, rfl⟩ := write?_eq_error_iff.1 he
    · have hmem := Schema.mem_of_lookup hf
      cases hfe with
      | unread hconvert =>
        exact .inl (Field.convert_eq_error (hs.content_eq f hmem) (hc f hmem) hconvert)
      | unset _ hrefusal => exact .inr ⟨e, by simp [hr], f, hf, hrefusal⟩
    · exact .inl (.unmapped ..)

end TypedSearch

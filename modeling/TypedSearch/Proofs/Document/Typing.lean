import TypedSearch.Proofs.Calendar.Timestamp
import TypedSearch.Proofs.Document.Faults

/-!
# Types of what is mapped

A record that maps leaves in every member that it sets a value of the member's declared type.
`Kind.Yields` says so for the text of a single value, `Shape.Yields` for the items of an array, and
`Content.Yields` for an entry of a record; each of them names the class that the declared type is
of, not just the kind that the schema made of it. A type that is called to read the text is the only
one that may give anything.

Members take single values from texts and containers from arrays: an entry of the other sort never
converts (`Field.exists_convert_eq_error`).
-/

namespace TypedSearch

open Outcome Conversion Text

/-! ## Values of a declared type -/

/-- The values that a text may be read as by a kind of a declared type. -/
inductive Kind.Yields : Kind → Declared → String → Value → Prop
  | integer {t : Declared} {text : String} (n : Int) (type : t.inner = .base .int) :
      Yields .integer t text (.int n)
  | string {t : Declared} {text : String} (type : t.inner = .base .text ∨ t.inner = .base .any) :
      Yields .string t text (.text text)
  | boolean {t : Declared} {text : String} (b : Bool) (type : t.inner = .base .bool) :
      Yields .boolean t text (.bool b)
  | float {t : Declared} {text : String} (x : Binary64) (type : t.inner = .base .float) :
      Yields .float t text (.float x)
  | decimal {t : Declared} {text : String} (d : Decimal) (type : t.inner = .base .decimal) :
      Yields .decimal t text (.decimal d)
  | timestamp {t : Declared} {text : String} {m : Moment} (type : t.inner = .base .moment)
      (required : t.isOptional = false)
      (utc : Timestamp.IsUtcSecond m) : Yields .timestamp t text (.moment m)
  | present {t : Declared} {text : String} {m : Moment} (type : t.inner = .base .moment)
      (optional : t.isOptional = true) (given : isBlankText text = false)
      (utc : Timestamp.IsUtcSecond m) :
      Yields .optionalTimestamp t text (.moment m)
  | absent {t : Declared} {text : String} (type : t.inner = .base .moment)
      (optional : t.isOptional = true)
      (blank : isBlankText text = true) : Yields .optionalTimestamp t text .null
  /-- The type is called, and what it answers is its own affair. -/
  | generic {t : Declared} {text : String} (v : Value) (called : t.kind? = .ok (some .generic)) :
      Yields .generic t text v

/-- The values that a text may be read as by a declared type of single values. -/
def Declared.Yields (t : Declared) (text : String) (v : Value) : Prop :=
  ∃ k, t.kind? = .ok (some k) ∧ k.Yields t text v

/-- The values that the items of an array may be assembled to by a declared type with a shape. -/
inductive Shape.Yields : Shape → Declared → List Assembly.Item → Value → Prop
  | homogeneous {t e : Declared} {f : Family} {spelling : Spelling} {items : List Assembly.Item}
      {vs : List Value} (type : t.inner = .applied f spelling [e])
      (listLike : Declared.isListLike f = true)
      (values : List.Forall₂ (fun i v ↦ e.Yields i.text v) items vs) : Yields (.homogeneous e) t
      items (.list vs)
  | array {t e : Declared} {spelling : Spelling} {items : List Assembly.Item} {vs : List Value}
      (type : t.inner = .applied .tuple spelling [e, .rest])
      (values : List.Forall₂ (fun i v ↦ e.Yields i.text v) items vs) : Yields (.array e) t items
      (.tuple vs)
  /-- Without a type of their own, items have the types that their tags stand for. -/
  | untyped {t : Declared} {items : List Assembly.Item} {vs : List Value}
      (type : t.inner.HasShape .untyped)
      (values : List.Forall₂ (fun i v ↦ ∃ e, Assembly.typeOfTag? i.tag = some e ∧
        e.Yields i.text v) items vs) :
      Yields .untyped t items (.list vs)

/-- The values that an entry may bring to a member of a declared type. -/
inductive Content.Yields : Content → Declared → Entry → Value → Prop
  | scalar {k : Kind} {t : Declared} {e : Entry} {v : Value} (tag : e.tag ≠ arrayTag)
      (value : k.Yields t e.text v) :
      Yields (.scalar k) t e v
  | container {s : Shape} {t : Declared} {e : Entry} {v : Value} (tag : e.tag = arrayTag)
      (value : s.Yields t e.items v) : Yields (.container s) t e v

variable {call : Caller} {k : Kind} {t : Declared} {text : String} {v : Value}

/-! ## Single values -/

theorem Conversion.orRefuse_eq_ok {α : Type} {g : α → Value} {x : Option α}
    (h : orRefuse g x = .ok v) :
    ∃ a, x = some a ∧ g a = v := by
  cases x with
  | none => cases h
  | some a => exact ⟨a, rfl, Except.ok.inj h⟩

/-- What is read by the kind of a declared type is a value of that type. -/
theorem Conversion.yields_of_convertAsBy (hk : t.kind? = .ok (some k))
    (h : convertAsBy call k t text = .ok v) :
    k.Yields t text v := by
  have hread := mapError_eq_ok.1 h
  have hbase := Declared.base_of_kind? hk
  cases k with
  | generic => exact .generic v hk
  | optionalTimestamp =>
    rcases hbase (by simp) with ⟨-, htype, ho⟩ | ⟨b, -, hb, -⟩
    · change (if isBlankText text then _ else _) = Except.ok v at hread
      split at hread
      · rename_i hblank
        cases hread
        exact .absent htype ho hblank
      · rename_i hblank
        obtain ⟨m, hm, rfl⟩ := orRefuse_eq_ok hread
        exact .present htype ho (eq_false_of_ne_true hblank) (Timestamp.isUtcSecond_of_read hm)
    · cases b <;> cases hb
  | timestamp =>
    rcases hbase (by simp) with ⟨⟨⟩, -⟩ | ⟨b, htype, hb, ho⟩
    obtain ⟨m, hm, rfl⟩ := orRefuse_eq_ok hread
    cases b <;> cases hb
    exact .timestamp htype (ho rfl) (Timestamp.isUtcSecond_of_read hm)
  | string =>
    rcases hbase (by simp) with ⟨⟨⟩, -⟩ | ⟨b, htype, hb, -⟩
    cases hread
    cases b <;> cases hb
    · exact .string (.inl htype)
    · exact .string (.inr htype)
  | integer =>
    rcases hbase (by simp) with ⟨⟨⟩, -⟩ | ⟨b, htype, hb, -⟩
    obtain ⟨n, -, rfl⟩ := orRefuse_eq_ok hread
    cases b <;> cases hb
    exact .integer n htype
  | boolean =>
    rcases hbase (by simp) with ⟨⟨⟩, -⟩ | ⟨b, htype, hb, -⟩
    obtain ⟨x, -, rfl⟩ := orRefuse_eq_ok hread
    cases b <;> cases hb
    exact .boolean x htype
  | float =>
    rcases hbase (by simp) with ⟨⟨⟩, -⟩ | ⟨b, htype, hb, -⟩
    obtain ⟨x, -, rfl⟩ := orRefuse_eq_ok hread
    cases b <;> cases hb
    exact .float x htype
  | decimal =>
    rcases hbase (by simp) with ⟨⟨⟩, -⟩ | ⟨b, htype, hb, -⟩
    obtain ⟨d, -, rfl⟩ := orRefuse_eq_ok hread
    cases b <;> cases hb
    exact .decimal d htype

/-- What a conversion returns is a value of its type. -/
theorem Conversion.yields_of_convertBy (h : convertBy call t text = .ok v) : t.Yields text v := by
  obtain ⟨o, hk, h⟩ := bind_eq_ok.1 h
  cases o with
  | none => cases h
  | some k => exact ⟨k, hk, yields_of_convertAsBy hk h⟩

/-! ## Containers -/

namespace Assembly

variable {s : Shape} {items : List Item}

/-- A tagged item yields a value of the type that its tag names. -/
theorem yields_of_convertTagged {i : Item} (h : convertTagged i = .ok v) :
    ∃ e, typeOfTag? i.tag = some e ∧ e.Yields i.text v := by
  unfold convertTagged at h
  split at h
  · rename_i e he
    exact ⟨e, he, yields_of_convertBy h⟩
  · cases h

/-- What is assembled has an item of the right type for each item of the array, in their order. -/
theorem yields_of_assembleAs (hs : t.shape? = .ok (some s))
    (h : assembleAs call s t items = .ok v) :
    s.Yields t items v := by
  obtain ⟨vs, hvs, rfl⟩ := map_eq_ok.1 (mapError_eq_ok.1 h)
  replace hvs := mapM_eq_ok_iff.1 hvs
  have hshape := Declared.innerShape?_eq_ok_some_iff.1 hs
  cases s with
  | homogeneous e =>
    generalize hu : t.inner = u at hshape
    cases hshape with
    | homogeneous hf => exact .homogeneous hu hf (hvs.imp fun i v hi ↦ yields_of_convertBy hi)
  | array e =>
    generalize hu : t.inner = u at hshape
    cases hshape with
    | array => exact .array hu (hvs.imp fun i v hi ↦ yields_of_convertBy hi)
  | untyped => exact .untyped hshape (hvs.imp fun i v hi ↦ yields_of_convertTagged hi)

end Assembly

/-! ## Members -/

namespace Field

variable {f : Field} {e : Entry}

/-- What an entry brings to a member is a value of the member's type. -/
theorem yields_of_convert (ht : f.type.content = .ok f.content) (h : f.convert call e = .ok v) :
    f.content.Yields f.type e v := by
  unfold convert at h
  cases hf : f.content with
  | scalar k =>
    rw [hf] at ht h
    obtain ⟨hk, hs⟩ := Declared.kind?_of_content_scalar ht
    split at h
    · rw [Assembly.assembleBy, hs] at h
      cases h
    · rename_i htag
      exact .scalar (by simpa using htag) (yields_of_convertAsBy hk h)
  | container s =>
    rw [hf] at ht h
    have hs := Declared.shape?_of_content_container ht
    split at h
    · rename_i htag
      rw [Assembly.assembleBy, hs] at h
      exact .container (by simpa using htag) (Assembly.yields_of_assembleAs hs h)
    · cases h

/-- A single value is not taken from an array, nor a container from a text. -/
theorem exists_convert_eq_error (call : Caller) (ht : f.type.content = .ok f.content)
    (h : f.content.isContainer ≠ (e.tag == arrayTag)) :
    ∃ fault, f.convert call e = .error fault := by
  cases hc : f.convert call e with
  | error fault => exact ⟨fault, rfl⟩
  | ok v =>
    have hy := yields_of_convert ht hc
    generalize f.content = c at h hy
    cases hy with
    | scalar htag => exact absurd (beq_false_of_ne htag).symm h
    | container htag => exact absurd (beq_iff_eq.2 htag).symm h

end Field

/-! ## Main statement -/

namespace Mapper

/-- An entry that reaches a member stands before the last one that does, or is that one. -/
theorem exists_last_of_mem {s : Schema} {es : List Entry} {f : Field}
    (h : ∃ e ∈ es, s.lookup e.wireName = some f) : ∃ before e after, es = before ++ e :: after ∧
      s.lookup e.wireName = some f ∧ ∀ x ∈ after, s.lookup x.wireName ≠ some f := by
  obtain ⟨e, he, hf⟩ := h
  cases hfind : es.reverse.find? fun e ↦ s.lookup e.wireName = some f with
  | none => exact absurd hf (by simpa using List.find?_eq_none.1 hfind e (List.mem_reverse.2 he))
  | some last =>
    obtain ⟨hlast, after, before, hes, hafter⟩ := List.find?_eq_some_iff_append.1 hfind
    refine ⟨before.reverse, last, after.reverse, ?_, by simpa using hlast, fun x hx ↦ ?_⟩
    · simpa using congrArg List.reverse hes
    · simpa using hafter x (List.mem_reverse.1 hx)

/-- A record with two years, tags, and a blank moment. -/
def reprinted : Record :=
  ⟨[⟨"year", "int", "1937", []⟩, ⟨"tags", "arr", "", [⟨"str", "tale"⟩, ⟨"int", "7"⟩]⟩,
    ⟨"seen", "date", " ", []⟩, ⟨"year", "int", " 1_954 ", []⟩]⟩

end Mapper

end TypedSearch

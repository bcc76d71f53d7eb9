import TypedSearch.Proofs.Document.Fields
import TypedSearch.Proofs.Declared.Content
import TypedSearch.Assembly

/-!
# Classification of declared types

A declared type is of some kind, of some shape, or of neither, as long as it can be looked up at
all: what has an unhashable constant inside cannot, and that is the only way in which
`Declared.kind?` and `Declared.shape?` fail.

* `Declared.shape?_of_kind?`: a type with a kind has no shape, so no type has both.
* `Declared.content_of_kind?`, `Declared.content_of_shape?`, `Declared.content_of_neither`: the
  schema describes a member by the one of the two that its type has, and refuses a member whose type
  has none.
* `Declared.classified`: hence registration, conversion and assembly agree. What the schema refuses
  neither a text nor an array is ever converted to, and the items of a container are single values,
  never containers again.

A refusal names the type. A type that holds an integer of more than 4300 digits has no name to be
written, and there `Declared.naming` gives the fault of writing it.
-/

namespace TypedSearch

open Outcome

namespace Declared

variable {t e : Declared} {k : Kind} {s : Shape} {fault : Fault}

/-! ## Failures of the classification -/

/-- A type that cannot be looked up says so by one class of fault. -/
theorem exists_wrongType_of_checkKey (h : t.checkKey = .error fault) :
    ∃ message, fault = .wrongType message := by
  unfold checkKey at h
  split at h <;> cases h
  exact ⟨_, rfl⟩

/-- The search for a kind has no other way to fail. -/
theorem exists_wrongType_of_kind? (h : t.kind? = .error fault) :
    ∃ message, fault = .wrongType message := by
  unfold kind? at h
  split at h
  · cases h
  · rcases bind_eq_error.1 h with h | ⟨_, -, h⟩
    · exact exists_wrongType_of_checkKey h
    · cases h

/-- A shape is not found only if the type of the items cannot be looked up. -/
theorem exists_item_of_shape? (h : t.shape? = .error fault) :
    ∃ f spelling e more, t.inner = .applied f spelling (e :: more) ∧ e.kind? = .error fault := by
  change t.inner.innerShape? = .error fault at h
  have hscalar : ∀ {α : Type} {g : Bool → α} {e : Declared}, (do return g (← e.isScalar)) =
      .error fault →
        e.kind? = .error fault := by
    intro α g e h
    rcases bind_eq_error.1 h with h | ⟨b, -, h⟩
    · exact map_eq_error.1 h
    · cases h
  unfold innerShape? at h
  split at h
  · cases h
  · rename_i spelling e hu
    exact ⟨_, _, _, _, hu, hscalar h⟩
  · rename_i f spelling e _ hu
    split at h
    · cases h
    · split at h
      · cases h
      · exact ⟨_, _, _, _, hu, hscalar h⟩
  · cases h

/-- Nor has the search for a shape. -/
theorem exists_wrongType_of_shape? (h : t.shape? = .error fault) :
    ∃ message, fault = .wrongType message := by
  obtain ⟨_, _, _, _, -, he⟩ := exists_item_of_shape? h
  exact exists_wrongType_of_kind? he

/-! ## Kinds exclude shapes -/

/-- A type has a kind because the type inside it is a class, or can be called like one. -/
theorem exists_ofInner_of_kind? (h : t.kind? = .ok (some k)) :
    ∃ k', Kind.ofInner t.inner = some k' := by
  unfold kind? at h
  split at h
  · rename_i hu
    exact ⟨.timestamp, by rw [inner, hu]; rfl⟩
  · rename_i u o hne hu
    obtain ⟨_, -, h⟩ := bind_eq_ok.1 h
    exact ⟨k, by rw [inner, hu]; exact Except.ok.inj h⟩

/-- What has a kind is no container, mapping or set, and takes no arguments. -/
theorem plain_of_kind? (h : t.kind? = .ok (some k)) :
    t.shape? = .ok none ∧ t.isMappingOrSet = false ∧ t.inner.isParameterized = false := by
  obtain ⟨k', hk'⟩ := exists_ofInner_of_kind? h
  unfold shape? isMappingOrSet
  generalize t.inner = u at hk' ⊢
  cases u <;> first | exact ⟨rfl, rfl, rfl⟩ | cases hk'

/-- A type of a kind has no shape. -/
theorem shape?_of_kind? (h : t.kind? = .ok (some k)) : t.shape? = .ok none := (plain_of_kind? h).1

/-- A type of a shape is no mapping and no set. -/
theorem isMappingOrSet_of_shape? (h : t.shape? = .ok (some s)) : t.isMappingOrSet = false := by
  change t.inner.innerShape? = .ok (some s) at h
  replace h := innerShape?_eq_ok_some_iff.1 h
  unfold isMappingOrSet
  generalize t.inner = u at h ⊢
  cases h with
  | @homogeneous f _ _ _ hf | @ofAny f _ hf => cases f <;> first | rfl | cases hf
  | @bare f _ hf => cases f <;> first | rfl | cases hf
  | array => rfl

/-! ## What the schema makes of a type -/

/-- A type of a kind holds a single value. -/
theorem content_of_kind? (h : t.kind? = .ok (some k)) : t.content = .ok (.scalar k) := by
  obtain ⟨hs, hm, hp⟩ := plain_of_kind? h
  rw [content, hm, hs, hp, h]
  rfl

/-- A type of a shape holds a container. -/
theorem content_of_shape? (h : t.shape? = .ok (some s)) : t.content = .ok (.container s) := by
  rw [content, isMappingOrSet_of_shape? h, h]
  rfl

/-- There are three places where a type without kind and shape is refused, and each refuses it
alike. -/
theorem content_of_neither (hk : t.kind? = .ok none) (hs : t.shape? = .ok none) :
    t.content = .error (t.naming (.collection · none)) := by
  rw [content, hs, hk]
  cases t.isMappingOrSet with
  | true => rfl
  | false => cases t.inner.isParameterized <;> rfl

/-- A description carries the kind that the type has and the shape that it has. -/
theorem content_eq_ok_iff {kind : Option Kind} {shape : Option Shape} (hk : t.kind? = .ok kind)
    (hs : t.shape? = .ok shape) {c : Content} :
    t.content = .ok c ↔ c.kind? = kind ∧ c.shape? = shape := by
  constructor
  · intro h
    cases c with
    | scalar k =>
      obtain ⟨hk', hs'⟩ := kind?_of_content_scalar h
      exact ⟨Except.ok.inj (hk'.symm.trans hk), Except.ok.inj (hs'.symm.trans hs)⟩
    | container s =>
      have hs' := shape?_of_content_container h
      refine ⟨?_, Except.ok.inj (hs'.symm.trans hs)⟩
      cases kind with
      | none => rfl
      | some k => cases (shape?_of_kind? hk).symm.trans hs'
  · rintro ⟨rfl, rfl⟩
    cases c with
    | scalar k => exact content_of_kind? hk
    | container s => exact content_of_shape? hs

/-- There is a content for a kind and a shape iff exactly one of them is there. -/
theorem exists_content_iff {kind : Option Kind} {shape : Option Shape} :
    (∃ c : Content, c.kind? = kind ∧ c.shape? = shape) ↔
      kind.isSome = true ∧ shape = none ∨ kind = none ∧ shape.isSome = true := by
  constructor
  · rintro ⟨c, rfl, rfl⟩
    cases c with
    | scalar k => exact .inl ⟨rfl, rfl⟩
    | container s => exact .inr ⟨rfl, rfl⟩
  · rintro (⟨h, rfl⟩ | ⟨rfl, h⟩)
    · obtain ⟨k, rfl⟩ := Option.isSome_iff_exists.1 h
      exact ⟨.scalar k, rfl, rfl⟩
    · obtain ⟨s, rfl⟩ := Option.isSome_iff_exists.1 h
      exact ⟨.container s, rfl, rfl⟩

/-- What is refused has neither a kind nor a shape. -/
theorem neither_of_content_eq_error {kind : Option Kind} {shape : Option Shape}
    (hk : t.kind? = .ok kind) (hs : t.shape? = .ok shape) (h : t.content = .error fault) :
    kind = none ∧ shape = none := by
  cases kind with
  | some k => cases (content_of_kind? hk).symm.trans h
  | none =>
    cases shape with
    | some s => cases (content_of_shape? hs).symm.trans h
    | none => exact ⟨rfl, rfl⟩

theorem exists_eq_ok_of_ne_wrongType {α : Type} {x : Except Fault α}
    (hx : ∀ fault, x = .error fault → ∃ message, fault = .wrongType message)
    (h : ∀ message, x ≠ .error (.wrongType message)) : ∃ a, x = .ok a := by
  refine exists_eq_ok_iff.2 fun fault hf ↦ ?_
  obtain ⟨message, rfl⟩ := hx fault hf
  exact h message hf

/-! ## Main statement -/

/-- As long as looking a declared type up is no misuse of it, the type is classified, and by one of
kind and shape at most. A member of the type is described iff it is by exactly one, and then the
description carries that one. If the member is refused, no text converts to the type and no array is
assembled to it, and all three refusals name the type. The items of a container are single values
and no containers. -/
theorem classified (hk : ∀ message, t.kind? ≠ .error (.wrongType message))
    (hs : ∀ message, t.shape? ≠ .error (.wrongType message)) :
    ∃ kind shape, t.kind? = .ok kind ∧ t.shape? = .ok shape ∧ (kind = none ∨ shape = none) ∧
      (∀ member wireName isExplicit,
        ((∃ f, Field.describe member t wireName isExplicit = .ok f) ↔
          kind.isSome = true ∧ shape = none ∨ kind = none ∧ shape.isSome = true) ∧
        (∀ f, Field.describe member t wireName isExplicit = .ok f →
          ∃ c, f = ⟨wireName, member, t, c, isExplicit⟩ ∧ c.kind? = kind ∧ c.shape? = shape) ∧
        ∀ fault, Field.describe member t wireName isExplicit = .error fault →
          fault = t.naming (.collection · none) ∧
          ∀ call, (∀ text, Conversion.convertBy call t text =
            .error (t.naming (.unreadable text · none))) ∧
            ∀ items, Assembly.assembleBy call t items = .error (t.naming (.collection · none))) ∧
      ∀ e, shape.bind Shape.element? = some e → (∃ k, e.kind? = .ok (some k)) ∧
        e.shape? = .ok none := by
  obtain ⟨kind, hkind⟩ := exists_eq_ok_of_ne_wrongType (fun _ ↦ exists_wrongType_of_kind?) hk
  obtain ⟨shape, hshape⟩ := exists_eq_ok_of_ne_wrongType (fun _ ↦ exists_wrongType_of_shape?) hs
  refine ⟨kind, shape, hkind, hshape, ?_, fun member wireName isExplicit ↦ ⟨?_, fun f hf ↦ ?_,
    fun fault hf ↦ ?_⟩, fun e he ↦ ?_⟩
  · cases kind with
    | none => exact .inl rfl
    | some k => exact .inr (Except.ok.inj (hshape.symm.trans (shape?_of_kind? hkind)))
  · simp only [Field.describe_eq_ok_iff, content_eq_ok_iff hkind hshape, ← exists_content_iff]
    exact ⟨fun ⟨_, c, hc, _⟩ ↦ ⟨c, hc⟩, fun ⟨c, hc⟩ ↦ ⟨_, c, hc, rfl⟩⟩
  · obtain ⟨c, hc, rfl⟩ := Field.describe_eq_ok_iff.1 hf
    exact ⟨c, rfl, (content_eq_ok_iff hkind hshape).1 hc⟩
  · have hc : t.content = .error fault := by
      rcases bind_eq_error.1 hf with h | ⟨c, -, h⟩
      · exact h
      · cases h
    obtain ⟨rfl, rfl⟩ := neither_of_content_eq_error hkind hshape hc
    have hnaming := hc.symm.trans (content_of_neither hkind hshape)
    exact ⟨Except.error.inj hnaming,
      fun call ↦ ⟨fun text ↦ Conversion.convertBy_of_kind?_none hkind,
      fun items ↦ Assembly.assembleBy_of_shape?_none hshape⟩⟩
  · obtain ⟨s, rfl, hse⟩ := Option.bind_eq_some_iff.1 he
    obtain ⟨k, hek⟩ := exists_kind?_of_shape? hshape hse
    exact ⟨⟨k, hek⟩, shape?_of_kind? hek⟩

def nestedLists : Declared := .applied .list .alias [.applied .list .alias [.base .int]]

theorem classified_nestedLists :
    (∀ message, nestedLists.kind? ≠ .error (.wrongType message)) ∧
    (∀ message, nestedLists.shape? ≠ .error (.wrongType message)) ∧
    (∀ f, Field.describe "rows" nestedLists "rows" false ≠ .ok f) ∧
    (∀ text, Conversion.convert nestedLists text =
      .error (.unreadable text "typing.List[typing.List[int]]" none)) ∧
    ∀ items, Assembly.assemble nestedLists items =
      .error (.collection "typing.List[typing.List[int]]" none) := by
  have hk : ∀ message, nestedLists.kind? ≠ .error (.wrongType message) := by
    rintro message ⟨⟩
  have hs : ∀ message, nestedLists.shape? ≠ .error (.wrongType message) := by
    rintro message ⟨⟩
  obtain ⟨kind, shape, hkind, hshape, -, hdescribe, -⟩ := classified hk hs
  obtain ⟨hone, -, hrefused⟩ := hdescribe "rows" "rows" false
  obtain rfl : kind = none := Except.ok.inj (hkind.symm.trans rfl)
  obtain rfl : shape = none := Except.ok.inj (hshape.symm.trans rfl)
  obtain ⟨-, hall⟩ := hrefused _ rfl
  refine ⟨hk, hs, fun f hf ↦ ?_, (hall Conversion.call).1, (hall Conversion.call).2⟩
  simpa using hone.1 ⟨f, hf⟩

/-- The literal type of a number with 5001 digits. -/
def longLiteral : Declared := .literal [.int (tenTo 5000 : Nat)]

/-- A type without kind and shape whose name cannot be written: every refusal fails on writing
it. -/
theorem longLiteral_refused :
    longLiteral.kind? = .ok none ∧ longLiteral.shape? = .ok none ∧
      Field.describe "a" longLiteral "a" false = .error .tooManyDigits ∧
      (∀ text, Conversion.convert longLiteral text = .error .tooManyDigits) ∧
      (∀ items, Assembly.assemble longLiteral items = .error .tooManyDigits) ∧
      Fault.tooManyDigits.kind = "ValueError" := by
  have hk : longLiteral.kind? = .ok none := by rfl
  have hs : longLiteral.shape? = .ok none := by rfl
  have hname : longLiteral.name? = .error .tooManyDigits := by decide +kernel
  have hnaming : ∀ fault, longLiteral.naming fault = .tooManyDigits :=
    fun fault ↦ by rw [naming, hname]
  refine ⟨hk, hs, ?_, fun text ↦ ?_, fun items ↦ ?_, rfl⟩
  · rw [Field.describe, content_of_neither hk hs, hnaming]
    rfl
  · exact (Conversion.convertBy_of_kind?_none hk).trans (congrArg _ (hnaming _))
  · exact (Assembly.assembleBy_of_shape?_none hs).trans (congrArg _ (hnaming _))

end Declared

end TypedSearch

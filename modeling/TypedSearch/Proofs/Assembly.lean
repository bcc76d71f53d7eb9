import TypedSearch.Proofs.Declared.Classification

/-!
# Assembly item by item

A container is assembled from the items of an array one by one and in their order.
`assembleAs_eq_ok_iff` and `assembleAs_eq_error_iff` say so for a given shape: every item converts,
and the container holds what they convert to, or the first item that does not convert decides what
the assembly fails with. From these two follows what becomes of two arrays one behind the other.

The fault of an item is kept as the cause if it is a failed conversion or an unknown key, and is
passed on otherwise (`wrap`). Two things stand out. A type whose items cannot be looked up is
refused as a misuse of it, not as a container that is not supported; and a reader that runs out of
elements fails in its own way for a list, but in another for a tuple.
-/

namespace TypedSearch

open Outcome

/-- Nothing about a fault is lost when it is kept as a cause. -/
theorem Fault.asElement?_eq_some {fault : Fault} {e : ElementFault}
    (h : fault.asElement? = some e) :
    e.kind = fault.kind ∧ e.message = fault.message := by
  cases fault with
  | element _ | unknownKey _ =>
    cases h
    exact ⟨rfl, rfl⟩
  | _ => cases h

namespace Assembly

variable {call : Conversion.Caller} {t : Declared} {s : Shape} {items more : List Item} {v : Value}
  {vs ws : List Value} {fault : Fault}

/-! ## The fault of an item -/

/-- A fault that is an item's own stands as the reason under the container's. -/
theorem wrap_of_asElement? {e : ElementFault} (h : fault.asElement? = some e) :
    wrap s t fault = .collection t.name (some e) := by
  unfold wrap
  rw [h]

/-- Any other fault comes out as it is. -/
theorem wrap_of_passed (h : fault.asElement? = none)
    (hs : ∀ e, s = .array e → fault.kind ≠ "StopIteration") :
    wrap s t fault = fault := by
  unfold wrap
  rw [h]
  cases s with
  | array e => exact if_neg (by simpa using hs e rfl)
  | homogeneous | untyped => rfl

/-- But the end of an iteration inside an array does not pass as an end. -/
theorem wrap_of_ended {e : Declared} (h : fault.asElement? = none)
    (hkind : fault.kind = "StopIteration") :
    wrap (.array e) t fault = .failed "generator raised StopIteration" := by
  unfold wrap
  rw [h]
  exact if_pos (by simpa using hkind)

/-! ## One shape -/

/-- A container says which items it was built of. -/
theorem build_inj (h : build s vs = build s ws) : vs = ws := by
  cases s <;> cases h <;> rfl

/-- A container comes of items that all convert, and of nothing else. -/
theorem assembleAs_eq_ok_iff : assembleAs call s t items = .ok v ↔
    ∃ vs, List.Forall₂ (fun i w ↦ convertItem call s i = .ok w) items vs ∧ build s vs = v := by
  simp only [assembleAs, mapError_eq_ok, map_eq_ok, mapM_eq_ok_iff]

theorem assembleAs_build_iff : assembleAs call s t items = .ok (build s vs) ↔
    List.Forall₂ (fun i w ↦ convertItem call s i = .ok w) items vs := by
  rw [assembleAs_eq_ok_iff]
  exact ⟨fun ⟨_, h, hb⟩ ↦ build_inj hb ▸ h, fun h ↦ ⟨vs, h, rfl⟩⟩

/-- Some container comes out iff every item converts. -/
theorem exists_assembleAs_iff :
    (∃ v, assembleAs call s t items = .ok v) ↔ ∀ i ∈ items, ∃ w, convertItem call s i = .ok w := by
  simp only [assembleAs, mapError_eq_ok, map_eq_ok, ← exists_mapM_eq_ok_iff]
  exact ⟨fun ⟨_, vs, hvs, _⟩ ↦ ⟨vs, hvs⟩, fun ⟨vs, hvs⟩ ↦ ⟨_, vs, hvs, rfl⟩⟩

/-- Assembling fails with what the first item that does not convert says. -/
theorem assembleAs_eq_error_iff : assembleAs call s t items = .error fault ↔
    ∃ before i after f, items = before ++ i :: after ∧
      (∀ j ∈ before, ∃ w, convertItem call s j = .ok w) ∧
      convertItem call s i = .error f ∧ wrap s t f = fault := by
  simp only [assembleAs, mapError_eq_error, map_eq_error, mapM_eq_error_iff]
  constructor
  · rintro ⟨f, ⟨before, i, after, hitems, hbefore, hi⟩, hf⟩
    exact ⟨before, i, after, f, hitems, hbefore, hi, hf⟩
  · rintro ⟨before, i, after, f, hitems, hbefore, hi, hf⟩
    exact ⟨f, ⟨before, i, after, hitems, hbefore, hi⟩, hf⟩

/-! ## Two arrays -/

/-- The items of two containers, one behind the other, make the two containers joined. -/
theorem assembleAs_append (h : assembleAs call s t items = .ok (build s vs))
    (h' : assembleAs call s t more = .ok (build s ws)) :
    assembleAs call s t (items ++ more) = .ok (build s (vs ++ ws)) := by
  rw [assembleAs_build_iff] at *
  exact List.rel_append h h'

/-- No item behind a failure changes it. -/
theorem assembleAs_append_of_error (h : assembleAs call s t items = .error fault) :
    assembleAs call s t (items ++ more) = .error fault := by
  obtain ⟨before, i, after, f, rfl, hbefore, hi, hf⟩ := assembleAs_eq_error_iff.1 h
  exact assembleAs_eq_error_iff.2 ⟨before, i, after ++ more, f, by simp, hbefore, hi, hf⟩

/-- What an array fails with, it fails with whatever stands behind it; also if the type is
refused. -/
theorem assembleBy_append_of_error (h : assembleBy call t items = .error fault) :
    assembleBy call t (items ++ more) = .error fault := by
  cases hs : t.shape? with
  | error f =>
    rw [assembleBy, hs] at h ⊢
    exact h
  | ok shape =>
    cases shape with
    | none =>
      rw [assembleBy_of_shape?_none hs] at h ⊢
      exact h
    | some s =>
      rw [assembleBy_of_shape? hs] at h ⊢
      exact assembleAs_append_of_error h

/-! ## Main statement -/

/-- What a declared type makes of an array. A type of no shape refuses it; one that has a shape
takes it iff every item converts on its own, and gives what the items convert to, in their order;
and the first item that does not convert decides what the array fails with. Of two arrays one behind
the other, the parts are what the two give, and the first to fail decides.

A type whose items cannot be looked up refuses the array for that, whatever is in it. -/
theorem assembled_item_by_item (call : Conversion.Caller) (t : Declared) (items more : List Item) :
    (∀ fault, t.shape? = .error fault →
      assembleBy call t items = .error fault ∧ (∃ message, fault = .wrongType message) ∧
        ∃ f spelling e es, t.inner = .applied f spelling (e :: es) ∧ e.kind? = .error fault) ∧
    (t.shape? = .ok none → assembleBy call t items = .error (t.naming (.collection · none))) ∧
    (∀ s, t.shape? = .ok (some s) →
      ((∃ v, assembleBy call t items = .ok v) ↔ ∀ i ∈ items, ∃ w, convertItem call s i = .ok w) ∧
      (∀ v, assembleBy call t items = .ok v →
        ∃ vs, v = build s vs ∧ List.Forall₂ (fun i w ↦ convertItem call s i = .ok w) items vs) ∧
      (∀ before i after fault, items = before ++ i :: after →
        (∀ j ∈ before, ∃ w, convertItem call s j = .ok w) → convertItem call s i = .error fault →
        (∀ e, fault.asElement? = some e → e.kind = fault.kind ∧ e.message = fault.message ∧
          assembleBy call t items = .error (.collection t.name (some e))) ∧
        (fault.asElement? = none → (∀ e, s = .array e → fault.kind ≠ "StopIteration") →
          assembleBy call t items = .error fault) ∧
        (fault.asElement? = none → ∀ e, s = .array e → fault.kind = "StopIteration" →
          assembleBy call t items = .error (.failed "generator raised StopIteration"))) ∧
      ∀ vs ws, assembleBy call t items = .ok (build s vs) →
        assembleBy call t more = .ok (build s ws) →
        assembleBy call t (items ++ more) = .ok (build s (vs ++ ws))) ∧
    ∀ fault, assembleBy call t items = .error fault → assembleBy call t (items ++ more) =
      .error fault := by
  refine ⟨fun fault hs ↦ ⟨?_, Declared.exists_wrongType_of_shape? hs,
    Declared.exists_item_of_shape? hs⟩, assembleBy_of_shape?_none, fun s hs ↦ ?_,
    fun fault ↦ assembleBy_append_of_error⟩
  · rw [assembleBy, hs]
    rfl
  · simp only [assembleBy_of_shape? hs]
    refine ⟨exists_assembleAs_iff, fun v hv ↦ ?_, fun before i after fault hitems hbefore hi ↦ ?_,
      fun vs ws ↦ assembleAs_append⟩
    · obtain ⟨vs, hvs, rfl⟩ := assembleAs_eq_ok_iff.1 hv
      exact ⟨vs, rfl, hvs⟩
    · have hwrap : assembleAs call s t items = .error (wrap s t fault) :=
        assembleAs_eq_error_iff.2 ⟨before, i, after, fault, hitems, hbefore, hi, rfl⟩
      refine ⟨fun e he ↦ ?_, fun hnone hs' ↦ ?_, fun hnone e hs' hstop ↦ ?_⟩
      · obtain ⟨hkind, hmessage⟩ := Fault.asElement?_eq_some he
        exact ⟨hkind, hmessage, hwrap.trans (congrArg _ (wrap_of_asElement? he))⟩
      · exact hwrap.trans (congrArg _ (wrap_of_passed hnone hs'))
      · subst hs'
        exact hwrap.trans (congrArg _ (wrap_of_ended hnone hstop))

/-- An array whose third item has a tag that stands for no type. -/
def mixedItems : List Item := [⟨"bool", "TRUE"⟩, ⟨"int", " 1937 "⟩, ⟨"lst", "1938"⟩, ⟨"int", "x"⟩]

theorem assembled_item_by_item_mixedItems :
    (Declared.container .list .plain).shape? = .ok (some .untyped) ∧
    assemble (.container .list .plain) (mixedItems.take 2) = .ok (.list [.bool true, .int 1937]) ∧
    assemble (.container .list .plain) (mixedItems.take 2 ++ mixedItems.take 1) =
      .ok (.list [.bool true, .int 1937, .bool true]) ∧
    assemble (.container .list .plain) mixedItems =
      .error (.collection "list" (some (.unknownKey "'lst'"))) := by
  have hs : (Declared.container .list .plain).shape? = .ok (some .untyped) := rfl
  have htwo : assemble (.container .list .plain) (mixedItems.take 2) =
      .ok (build .untyped [.bool true, .int 1937]) := rfl
  have hone : assemble (.container .list .plain) (mixedItems.take 1) =
    .ok (build .untyped [.bool true]) := rfl
  obtain ⟨-, -, hshape, -⟩ :=
    assembled_item_by_item Conversion.call (.container .list .plain) (mixedItems.take 2)
      (mixedItems.take 1)
  obtain ⟨-, -, hmixed, -⟩ :=
    assembled_item_by_item Conversion.call (.container .list .plain) mixedItems []
  obtain ⟨hreturns, -, -, happend⟩ := hshape _ hs
  obtain ⟨-, -, hfirst, -⟩ := hmixed _ hs
  obtain ⟨hwrapped, -⟩ := hfirst (mixedItems.take 2) ⟨"lst", "1938"⟩ [⟨"int", "x"⟩] _ rfl
    (hreturns.1 ⟨_, htwo⟩) rfl
  exact ⟨hs, htwo, happend _ _ htwo hone, (hwrapped _ rfl).2.2⟩

/-- Lists whose items are declared by a literal type of a list. -/
def listsOfLists : Declared := .applied .list .plain [.literal [.list [.int 1]]]

/-- A type of items that cannot be looked up is not refused as a container that is not supported,
not even for an empty array. -/
theorem assemble_listsOfLists :
    assemble listsOfLists [] = .error (.wrongType "unhashable type: 'list'") ∧
    (Fault.wrongType "unhashable type: 'list'").kind ≠ "CollectionTypeNotSupportedError" :=
  ⟨rfl, by decide⟩

end Assembly

end TypedSearch

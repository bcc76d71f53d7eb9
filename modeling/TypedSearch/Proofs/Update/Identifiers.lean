import TypedSearch.Proofs.Markup.Reading
import TypedSearch.Proofs.Update.Bodies

/-!
# The identifiers that a server reads

A command to delete documents is read with the identifiers that were given, except for two sorts of
characters: carriage returns are read as line feeds, and characters that no document may hold make
the command unreadable.
-/

namespace TypedSearch.Update

open Markup Outcome

theorem normalized_deleteElement (ids : List String) :
    (deleteElement ids).normalized = deleteElement (ids.map normalizedText) := by
  have hids : allNormalized (ids.map (textElement "id" [])) = (ids.map normalizedText).map
      (textElement "id" []) := by
    induction ids with
    | nil => rfl
    | cons id ids ih =>
      rw [List.map_cons, allNormalized, ih]
      rfl
  rw [deleteElement, parentElement, Element.normalized, hids]
  rfl

theorem isLegal_deleteElement (ids : List String) :
    (deleteElement ids).isLegal = ids.all isLegalText := by
  have hids : allLegal (ids.map (textElement "id" [])) = ids.all isLegalText := by
    induction ids with
    | nil => rfl
    | cons id ids ih =>
      rw [List.map_cons, allLegal, ih]
      simp [textElement, Element.isLegal, allLegal]
  rw [deleteElement, parentElement, Element.isLegal, hids]
  rfl

/-- A text comes back as it was iff it has no return. -/
theorem normalizedText_eq_self_iff {s : String} : normalizedText s = s ↔ '\r' ∉ s.toList := by
  rw [← normalizeLines_eq_self_iff, ← String.toList_inj, normalizedText, String.toList_ofList]

theorem map_normalizedText_eq_self_iff {ids : List String} :
    ids.map normalizedText = ids ↔ ∀ id ∈ ids, '\r' ∉ id.toList := by
  have hmap := List.map_inj_left (l := ids) (f := normalizedText) (g := id)
  rw [List.map_id] at hmap
  rw [hmap]
  exact forall₂_congr fun id _ ↦ normalizedText_eq_self_iff

/-- The command to delete some identifiers is read with their line ends normalized, or not at
all. -/
theorem read_deleteElement (ids : List String) : (Source.text (body (deleteElement ids))).read =
    if ids.all isLegalText then .ok (deleteElement (ids.map normalizedText))
      else .error malformed := by
  rw [body, Source.read_print (named_deleteElement ids), isLegal_deleteElement,
    normalized_deleteElement]

/-- A server that reads the command to delete some identifiers, given as texts, finds a root and in
it, one after the other, the identifiers with their line ends normalized; but it finds nothing if a
character is in them that no document may hold. So it finds the identifiers that were given iff all
their characters may stand in a document, and none of them is a carriage return. -/
theorem deleted_identifiers_read (ids : List String) : ∃ e, deleteByIds (ids.map .text) = .ok e ∧
    (Source.text (body e)).read =
      (if ids.all isLegalText then
        .ok (.mk "delete" [] "" (ids.map fun id ↦ .mk "id" [] (normalizedText id) []))
      else .error malformed) ∧
    ((Source.text (body e)).read = .ok (.mk "delete" [] "" (ids.map fun id ↦ .mk "id" [] id [])) ↔
      ∀ id ∈ ids, ∀ c ∈ id.toList, isChar c = true ∧ c ≠ '\r') := by
  refine ⟨deleteElement ids, deleteByIds_texts ids, ?_, ?_⟩
  · rw [read_deleteElement, deleteElement, List.map_map]
    rfl
  · have hgiven : Element.mk "delete" [] "" (ids.map fun id ↦ .mk "id" [] id []) =
      deleteElement ids := rfl
    rw [hgiven, read_deleteElement]
    constructor
    · intro h
      split at h
      case isTrue hlegal =>
        have hids := map_normalizedText_eq_self_iff.1 (deleteElement_injective (Except.ok.inj h))
        intro id hid c hc
        have hall := List.all_eq_true.1 hlegal id hid
        exact ⟨List.all_eq_true.1 hall c hc, fun hreturn ↦ hids id hid (hreturn ▸ hc)⟩
      case isFalse => cases h
    · intro h
      have hlegal : ids.all isLegalText = true :=
        List.all_eq_true.2 fun id hid ↦ List.all_eq_true.2 fun c hc ↦ (h id hid c hc).1
      have hids : ids.map normalizedText = ids :=
        map_normalizedText_eq_self_iff.2 fun id hid hreturn ↦ (h id hid '\r' hreturn).2 rfl
      rw [if_pos hlegal, hids]

/-- A carriage return in an identifier is sent as it is, and read as a line feed. With another
control character in an identifier, the command is no document at all. -/
theorem deleted_identifiers_altered :
    (∃ e, deleteByIds [.text "a\rb"] = .ok e ∧ body e = "<delete><id>a\rb</id></delete>" ∧
      (Source.text (body e)).read = .ok (.mk "delete" [] "" [.mk "id" [] "a\nb" []]) ∧
      (Source.text (body e)).read ≠ .ok (.mk "delete" [] "" [.mk "id" [] "a\rb" []])) ∧
    ∃ e, deleteByIds [.text "a\x01b"] = .ok e ∧ (Source.text (body e)).read = .error malformed := by
  have hreturn : (Source.text (body (deleteElement ["a\rb"]))).read =
      .ok (.mk "delete" [] "" [.mk "id" [] "a\nb" []]) := by
    rw [read_deleteElement]
    decide +kernel
  have hcontrol : (Source.text (body (deleteElement ["a\x01b"]))).read = .error malformed := by
    rw [read_deleteElement]
    decide +kernel
  refine ⟨⟨_, deleteByIds_texts ["a\rb"], by decide +kernel, hreturn, ?_⟩, _,
    deleteByIds_texts ["a\x01b"], hcontrol⟩
  rw [hreturn]
  decide +kernel

end TypedSearch.Update

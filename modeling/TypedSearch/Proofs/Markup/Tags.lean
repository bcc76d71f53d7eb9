import Mathlib.Data.List.Nodup
import TypedSearch.Markup.Namespace
import TypedSearch.Proofs.Markup.Printing
import TypedSearch.Proofs.Outcome

/-!
# Names, values and tags read back

The readers of names, values and tags take what is printed off the front of a text, whatever comes
after it. A value with a character that no document may hold is refused, even though everything that
marks its end is escaped.

Printed names have no prefixes, so that the names of elements and attributes are what they are
written as.
-/

namespace TypedSearch.Markup

open Outcome Text

variable {c d : Char} {n w r : List Char}

def isLegalText (s : String) : Bool := s.toList.all isChar

/-! ## Characters -/

theorem isChar_of_isReferenceChar (h : isReferenceChar c = true) : isChar c = true := by
  have hrange : 32 ≤ c.toNat ∧ c.toNat < 128 := by
    change (decide (65 ≤ c.val ∧ c.val ≤ 90) || (decide (97 ≤ c.val) && decide (c.val ≤ 122)) ||
      (decide (48 ≤ c.val) && decide (c.val ≤ 57)) || c == '#' || c == ';') = true at h
    simp only [UInt32.le_iff_toNat_le, Bool.or_eq_true, Bool.and_eq_true, decide_eq_true_eq,
      beq_iff_eq] at h
    change ((((65 ≤ c.toNat ∧ c.toNat ≤ 90) ∨ (97 ≤ c.toNat ∧ c.toNat ≤ 122)) ∨
      (48 ≤ c.toNat ∧ c.toNat ≤ 57)) ∨ c = '#') ∨ c = ';' at h
    rcases h with (h | rfl) | rfl
    · omega
    all_goals decide
  simp only [isChar, Bool.or_eq_true, Bool.and_eq_true, decide_eq_true_eq, bne_iff_ne]
  exact Or.inr ⟨⟨hrange.1, by omega⟩, by omega⟩

/-- A character is printed as nothing but legal characters, unless it is none itself. -/
theorem Spells.all_isChar {bare : Char → Bool} (h : Spells bare c w) : w.all isChar = isChar c := by
  cases h with
  | itself => simp
  | reference _ _ legal marks =>
    have hw : ∀ d ∈ _, isChar d = true := fun d hd ↦ isChar_of_isReferenceChar
      (List.all_eq_true.1 marks d hd)
    rw [legal, List.all_cons, List.all_eq_true.2 hw]
    rfl

theorem all_isChar_printValue (cs : List Char) : (printValue cs).all isChar = cs.all isChar := by
  induction cs with
  | nil => rfl
  | cons c cs ih =>
    rw [printValue, List.flatMap_cons, List.all_append, (spells_printValueChar c).all_isChar,
      List.all_cons]
    exact congrArg _ ih

/-- Quotes are escaped in values. -/
theorem quote_not_mem_printValue (cs : List Char) : '"' ∉ printValue cs := by
  intro h
  obtain ⟨c, -, hc⟩ := List.mem_flatMap.1 h
  exact (spells_printValueChar c).not_mem rfl rfl (by decide) hc

/-! ## Names and values -/

/-- A name ends before the first character that no name holds. -/
theorem takeName_append (hn : isName n = true) (hd : isNameChar .plain d = false) (r : List Char) :
    takeName .plain (n ++ d :: r) = some (n, d :: r) := by
  obtain ⟨c, cs, rfl, hc, hall⟩ := exists_of_isName hn
  have hcs := (List.forall_mem_cons.1 hall).2
  rw [List.cons_append, takeName, if_pos hc, List.takeWhile_append_of_pos hcs,
    List.dropWhile_append_of_pos hcs, List.takeWhile_cons_of_neg (by simp [hd]),
    List.dropWhile_cons_of_neg (by simp [hd]), List.append_nil]

theorem takeQualified_append (hn : isName n = true) (hd : isNameChar .plain d = false)
    (hcolon : d ≠ ':') (r : List Char) : takeQualified .plain (n ++ d :: r) = some (n, d :: r) := by
  simp only [takeQualified, takeName_append hn hd, Option.bind_eq_bind, Option.bind_some]
  split
  · rename_i hcons
    exact absurd (List.cons.inj hcons).1 hcolon
  · rfl

/-- A quoted value is read up to its quote, where its characters are legal. -/
theorem takeLiteral_printValue (cs r : List Char) :
    takeLiteral ('"' :: (printValue cs ++ '"' :: r)) = if cs.all isChar then some (printValue cs, r)
      else none := by
  simp only [takeLiteral, beq_self_eq_true, Bool.true_or, if_true,
    cut_append (quote_not_mem_printValue cs), all_isChar_printValue]

/-- A value is read as what it was before it was printed. -/
theorem attributeWith_printValue {cs : List Char} (h : cs.all isChar = true)
    (expand : List Char → Option (List Char)) {fuel : Nat} (hfuel : (printValue cs).length ≤ fuel) :
    attributeWith .plain expand fuel (printValue cs) = some cs := by
  induction cs generalizing fuel with
  | nil => rw [printValue, List.flatMap_nil, attributeWith]
  | cons c cs ih =>
    obtain ⟨hc, hcs⟩ := Bool.and_eq_true_iff.1 h
    have hprint : printValue (c :: cs) = printValueChar c ++ printValue cs := rfl
    rw [hprint] at hfuel ⊢
    have hspells := spells_printValueChar c
    generalize printValueChar c = w at hfuel hspells
    obtain _ | fuel := fuel
    · cases hspells <;> simp at hfuel
    rw [List.length_append] at hfuel
    cases hspells with
    | itself fine =>
      have hrest : attributeWith .plain expand fuel (printValue cs) = some cs :=
        ih hcs (by rw [List.length_singleton] at hfuel; omega)
      simp [isBareInValue, isBareInText] at fine
      have hspace : (if isSpace c then ' ' else c) = c := by
        simp only [isSpace]
        grind
      simp [attributeWith, fine, hc, hrest, hspace]
    | reference taken meant =>
      have hrest : attributeWith .plain expand fuel (printValue cs) = some cs :=
        ih hcs (by rw [List.length_cons] at hfuel; omega)
      rw [List.cons_append, attributeWith]
      cases ‹Reference› with
      | char => simp [taken, Option.some.inj meant, hrest]
      | entity name => simp [taken, show predefined? name = some c from meant, hrest]

/-! ## Tags -/

theorem isSpace_of_isNameStart (h : isNameStart .plain c = true) : isSpace c = false := by
  rw [← Bool.not_eq_true]
  intro hspace
  simp only [isSpace, Bool.or_eq_true, beq_iff_eq] at hspace
  rcases hspace with ((rfl | rfl) | rfl) | rfl <;> cases h

def writtenAttributes (as : List (String × String)) : List (List Char × List Char) :=
  as.map fun a ↦ (a.1.toList, printValue a.2.toList)

/-- A printed attribute is read back, where its value is legal. -/
theorem takeAttribute_append {a : String × String} (ha : isName a.1.toList = true) (r : List Char) :
    takeAttribute .plain (a.1.toList ++ '=' :: '"' :: (printValue a.2.toList ++ '"' :: r)) =
      if isLegalText a.2 then some ((a.1.toList, printValue a.2.toList), r) else none := by
  rw [takeAttribute, takeQualified_append ha rfl (by decide)]
  change (takeLiteral ('"' :: (printValue a.2.toList ++ '"' :: r))).bind
    (fun x ↦ some ((a.1.toList, x.1), x.2)) = _
  rw [takeLiteral_printValue, isLegalText]
  cases a.2.toList.all isChar <;> rfl

/-- The attributes of a start tag and its end are taken in, unless a value has a character that no
document may hold. -/
theorem takeAttributes_append {as : List (String × String)}
    (has : ∀ a ∈ as, isName a.1.toList = true) (isEmpty : Bool) (r : List Char) {fuel : Nat}
    (hfuel : as.length < fuel) :
    takeAttributes .plain fuel (as.flatMap printAttribute ++ (tagEnd isEmpty ++ r)) =
      if as.all (isLegalText ·.2) then some (writtenAttributes as, isEmpty, r) else none := by
  induction as generalizing fuel with
  | nil =>
    obtain _ | fuel := fuel
    · cases hfuel
    cases isEmpty <;> rfl
  | cons a as ih =>
    obtain _ | fuel := fuel
    · cases hfuel
    obtain ⟨ha, has⟩ := List.forall_mem_cons.1 has
    have htake := takeAttribute_append ha (as.flatMap printAttribute ++ (tagEnd isEmpty ++ r))
    have hrest := ih has (Nat.lt_of_succ_lt_succ hfuel)
    have hprint : (a :: as).flatMap printAttribute ++ (tagEnd isEmpty ++ r) = ' ' :: (a.1.toList ++
        '=' :: '"' :: (printValue a.2.toList ++ '"' :: (as.flatMap printAttribute ++
          (tagEnd isEmpty ++ r)))) := by
      simp [printAttribute]
    obtain ⟨c, cs, hn, hc, -⟩ := exists_of_isName ha
    rw [hprint, takeAttributes]
    have hskip (x : List Char) : skipSpace (' ' :: (a.1.toList ++ x)) = a.1.toList ++ x := by
      rw [hn, skipSpace, List.dropWhile_cons_of_pos rfl]
      exact List.dropWhile_cons_of_neg (ne_true_of_eq_false (isSpace_of_isNameStart hc))
    rw [hskip]
    split
    case h_1 heq =>
      rw [hn] at heq
      obtain rfl := (List.cons.inj heq).1
      cases hc
    case h_2 heq =>
      rw [hn] at heq
      obtain rfl := (List.cons.inj heq).1
      cases hc
    case h_3 =>
      have hspace : (List.head? (' ' :: (a.1.toList ++ '=' :: '"' :: (printValue a.2.toList ++
          '"' :: (as.flatMap printAttribute ++ (tagEnd isEmpty ++ r)))))).any isSpace = true := rfl
      rw [if_pos hspace, htake, List.all_cons]
      cases isLegalText a.2 with
      | false => rfl
      | true =>
        simp only [if_true, Option.bind_eq_bind, Option.bind_some, hrest, Bool.true_and]
        cases as.all (isLegalText ·.2) <;> rfl

/-- So is a printed tag, by induction over its attributes. -/
theorem takeStartTag_append {tag : String} {as : List (String × String)}
    (htag : isName tag.toList = true) (has : ∀ a ∈ as, isName a.1.toList = true) (isEmpty : Bool)
    (r : List Char) {fuel : Nat} (hfuel : as.length < fuel) :
    takeStartTag .plain fuel (tag.toList ++ (as.flatMap printAttribute ++ (tagEnd isEmpty ++ r))) =
      if as.all (isLegalText ·.2) then some (⟨tag.toList, writtenAttributes as, isEmpty⟩, r)
        else none := by
  obtain ⟨c, cs, hcs, hc, hcolon⟩ := exists_attributes_append as isEmpty r
  have hattributes := takeAttributes_append has isEmpty r hfuel
  rw [hcs] at hattributes ⊢
  rw [takeStartTag, takeQualified_append htag hc hcolon]
  simp only [Option.bind_eq_bind, Option.bind_some, hattributes]
  cases as.all (isLegalText ·.2) <;> rfl

/-- A closing tag closes the element of its name. -/
theorem skipEndTag_append {tag : String} (htag : isName tag.toList = true) (r : List Char) :
    skipEndTag .plain tag.toList ('<' :: '/' :: (tag.toList ++ '>' :: r)) = some r := by
  have hafter : after? ['<', '/'] ('<' :: '/' :: (tag.toList ++ '>' :: r)) =
    some (tag.toList ++ '>' :: r) := rfl
  rw [skipEndTag, hafter, Option.bind_eq_bind, Option.bind_some,
    takeQualified_append htag rfl (by decide)]
  simp [skipSpace, isSpace]

/-! ## Names without prefixes -/

theorem distinct_iff {α : Type} [BEq α] [LawfulBEq α] (xs : List α) :
    distinct xs = true ↔ xs.Nodup := by
  induction xs with
  | nil => simp [distinct]
  | cons x xs ih => simp [distinct, ih]

/-- The names that this library prints have no prefix. -/
theorem splitName_of_isName (hn : isName n = true) : splitName n = ([], n) := by
  obtain ⟨c, cs, rfl, -, hall⟩ := exists_of_isName hn
  have hcolon : ':' ∉ c :: cs := fun h ↦ by cases hall _ h
  rw [splitName, cut_of_not_mem hcolon]

theorem bindingPrefix?_of_isName {s : String} (hn : isName s.toList = true) (hs : s ≠ "xmlns") :
    bindingPrefix? s.toList = none := by
  have hne : (s.toList == "xmlns".toList) = false := by
    rw [beq_eq_false_iff_ne]
    exact fun h ↦ hs (String.toList_inj.1 h)
  rw [bindingPrefix?, hne, splitName_of_isName hn]
  rfl

variable {tag : String} {as : List (String × String)} {d : Declarations} {b : Bindings}

theorem elementName_of_isName (htag : isName tag.toList = true) (hb : b.lookup [] = none) :
    elementName b tag.toList = some tag := by
  simp [elementName, splitName_of_isName htag, hb, braced]

/-- Without declarations, the attributes of an element are those that were printed. -/
theorem allAttributes_writtenAttributes (hattributes : d.attributes = [])
    (hn : (as.map Prod.fst).Nodup) (hlegal : as.all (isLegalText ·.2) = true)
    (element : List Char) :
    allAttributes d .plain element (writtenAttributes as) =
      some (as.map fun a ↦ (a.1.toList, a.2.toList)) := by
  have hnames : distinct ((writtenAttributes as).map Prod.fst) = true := by
    have hmap : (writtenAttributes as).map Prod.fst = (as.map Prod.fst).map String.toList := by
      simp [writtenAttributes]
    rw [distinct_iff, hmap]
    exact hn.map fun _ _ ↦ String.toList_inj.1
  have hvalues : (writtenAttributes as).mapM (ruledValue d .plain element) =
      some (as.map fun a ↦ (a.1.toList, a.2.toList)) := by
    rw [writtenAttributes, List.mapM_map]
    refine mapM_eq_some fun a ha ↦ ?_
    have hvalue := attributeWith_printValue (List.all_eq_true.1 hlegal a ha)
      (entityInAttribute d (d.entities.length + 1)) (Nat.le_refl _)
    simp [ruledValue, attributeValue, hvalue, hattributes]
  simp [allAttributes, hnames, hvalues, hattributes]

/-- Attributes without prefixes bind nothing. -/
theorem bindAll_of_isName (has : ∀ a ∈ as, isName a.1.toList = true ∧ a.1 ≠ "xmlns") :
    bindAll b (as.map fun a ↦ (a.1.toList, a.2.toList)) = some b := by
  induction as with
  | nil => rfl
  | cons a as ih =>
    obtain ⟨⟨ha, hne⟩, has⟩ := List.forall_mem_cons.1 has
    rw [List.map_cons, bindAll, List.foldlM_cons, bindingPrefix?_of_isName ha hne]
    exact ih has

theorem namedAttributes_of_isName (has : ∀ a ∈ as, isName a.1.toList = true ∧ a.1 ≠ "xmlns")
    (hn : (as.map Prod.fst).Nodup) :
    namedAttributes b (as.map fun a ↦ (a.1.toList, a.2.toList)) = some as := by
  have hall : ∀ a ∈ as.map (fun a ↦ (a.1.toList, a.2.toList)), (bindingPrefix? a.1).isNone =
      true := by
    intro x hx
    obtain ⟨a, ha, rfl⟩ := List.mem_map.1 hx
    rw [bindingPrefix?_of_isName (has a ha).1 (has a ha).2]
    rfl
  have hvalues : (as.map fun a ↦ (a.1.toList, a.2.toList)).mapM (fun a ↦
      (attributeName b a.1).map fun n ↦ (n, String.ofList a.2)) = some as := by
    rw [List.mapM_map]
    refine (mapM_eq_some (g := id) fun a ha ↦ ?_).trans (by rw [List.map_id])
    simp [attributeName, splitName_of_isName (has a ha).1, braced]
  rw [namedAttributes, List.filter_eq_self.2 hall, hvalues, Option.bind_eq_bind, Option.bind_some,
    if_pos]
  exact (distinct_iff _).2 hn

end TypedSearch.Markup

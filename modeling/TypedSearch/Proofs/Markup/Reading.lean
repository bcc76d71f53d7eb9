import TypedSearch.Markup.Encoding
import TypedSearch.Proofs.Markup.Content

/-!
# Printed elements as documents

A printed element is a document, which is read as the element with its line ends normalized
(`Source.read_print`). The document cannot be read if a character is in it that no document may
hold.
-/

namespace TypedSearch.Markup

open Text

variable {c : Char} {cs r w : List Char}

/-! ## Line ends -/

/-- A string with its line ends as line feeds. -/
def normalizedText (s : String) : String := .ofList (normalizeLines s.toList)

mutual

/-- An element with the line ends in its texts as line feeds. -/
def Element.normalized : Element → Element
  | .mk tag as text es => .mk tag as (normalizedText text) (allNormalized es)

/-- Elements with the line ends in their texts as line feeds. -/
def allNormalized : List Element → List Element
  | [] => []
  | e :: es => e.normalized :: allNormalized es

end

theorem normalizeLines_cons (hc : c ≠ '\r') (cs : List Char) :
    normalizeLines (c :: cs) = c :: normalizeLines cs := by
  rw [normalizeLines, if_neg (by simpa using hc)]
  rintro ds rfl
  exact absurd rfl hc

/-- A text without returns is kept in front of any other. -/
theorem normalizeLines_append (hw : '\r' ∉ w) (r : List Char) :
    normalizeLines (w ++ r) = w ++ normalizeLines r := by
  induction w with
  | nil => rfl
  | cons c cs ih =>
    obtain ⟨hc, hcs⟩ := List.ne_and_not_mem_of_not_mem_cons hw
    rw [List.cons_append, normalizeLines_cons hc.symm, ih hcs, List.cons_append]

theorem return_not_mem_normalizeLines (cs : List Char) : '\r' ∉ normalizeLines cs := by
  fun_induction normalizeLines cs with
  | case1 => exact List.not_mem_nil
  | case2 cs ih => exact List.not_mem_cons_of_ne_of_not_mem (by decide) ih
  | case3 c cs _ ih =>
    refine List.not_mem_cons_of_ne_of_not_mem ?_ ih
    split
    case isTrue => decide
    case isFalse hc => exact fun h ↦ hc (beq_iff_eq.2 h.symm)

/-- Line ends are kept iff none of them is a return. -/
theorem normalizeLines_eq_self_iff : normalizeLines cs = cs ↔ '\r' ∉ cs := by
  constructor
  · intro h
    rw [← h]
    exact return_not_mem_normalizeLines cs
  · intro h
    simpa [normalizeLines] using normalizeLines_append h []

/-- Characters stay legal as line ends are made even. -/
theorem all_isChar_normalizeLines (cs : List Char) :
    (normalizeLines cs).all isChar = cs.all isChar := by
  fun_induction normalizeLines cs with
  | case1 => rfl
  | case2 cs ih => exact ih
  | case3 c cs _ ih =>
    rw [List.all_cons, List.all_cons, ih]
    split
    case isTrue hc =>
      obtain rfl := beq_iff_eq.1 hc
      rfl
    case isFalse => rfl

/-! ### Printed elements with their line ends -/

theorem return_not_mem_printTextChar (hc : c ≠ '\r') : '\r' ∉ printTextChar c := by
  have hspells := spells_printTextChar c
  generalize printTextChar c = w at hspells
  cases hspells with
  | itself => exact fun h ↦ hc (List.mem_singleton.1 h).symm
  | reference _ _ _ marks =>
    refine List.not_mem_cons_of_ne_of_not_mem (by decide) fun h ↦ ?_
    cases List.all_eq_true.1 marks _ h

/-- Only a line feed is printed as one, so no pair of a return and a feed is made anew. -/
theorem feed_ne_printText (hc : c ≠ '\n') (cs r s : List Char) :
    printText (c :: cs) ++ r ≠ '\n' :: s := by
  intro h
  have hspells := spells_printTextChar c
  rw [printText, List.flatMap_cons] at h
  generalize printTextChar c = w at h hspells
  cases hspells with
  | itself => exact hc (List.cons.inj h).1
  | reference => cases (List.cons.inj h).1

/-- The line ends of a printed text are those of the text, unless a line feed comes after it. -/
theorem normalizeLines_printText (cs : List Char) (hr : ∀ s, r ≠ '\n' :: s) :
    normalizeLines (printText cs ++ r) = printText (normalizeLines cs) ++ normalizeLines r := by
  fun_induction normalizeLines cs with
  | case1 => rfl
  | case2 cs ih =>
    change normalizeLines ('\r' :: '\n' :: (printText cs ++ r)) = _
    rw [normalizeLines, ih]
    rfl
  | case3 c cs hpair ih =>
    by_cases hc : c = '\r'
    · subst hc
      have hfeed (s : List Char) : printText cs ++ r ≠ '\n' :: s := by
        cases cs with
        | nil => exact hr s
        | cons d ds => exact feed_ne_printText (fun hd ↦ hpair ds rfl (by rw [hd])) ds r s
      change normalizeLines ('\r' :: (printText cs ++ r)) = _
      rw [normalizeLines, ih]
      · rfl
      · exact fun s _ ↦ hfeed s
    · have hprint (ds : List Char) : printText (c :: ds) = printTextChar c ++ printText ds := rfl
      rw [if_neg (by simpa using hc), hprint, hprint, List.append_assoc,
        normalizeLines_append (return_not_mem_printTextChar hc), ih, List.append_assoc]

theorem return_not_mem_of_isName {n : List Char} (hn : isName n = true) : '\r' ∉ n := by
  obtain ⟨c, cs, rfl, -, hall⟩ := exists_of_isName hn
  exact fun h ↦ by cases hall _ h

theorem return_not_mem_printAttribute {a : String × String} (ha : isName a.1.toList = true) :
    '\r' ∉ printAttribute a := by
  have hvalue : '\r' ∉ printValue a.2.toList := by
    intro h
    obtain ⟨c, -, hc⟩ := List.mem_flatMap.1 h
    exact (spells_printValueChar c).not_mem rfl rfl (by decide) hc
  simp [printAttribute, return_not_mem_of_isName ha, hvalue]

theorem normalizeLines_eq_nil_iff : normalizeLines cs = [] ↔ cs = [] := by
  fun_cases normalizeLines cs <;> simp

theorem isEmpty_normalizedText (s : String) : (normalizedText s).isEmpty = s.isEmpty := by
  rw [Bool.eq_iff_iff, String.isEmpty_iff, String.isEmpty_iff, ← String.toList_inj,
    ← String.toList_inj, normalizedText, String.toList_ofList]
  exact normalizeLines_eq_nil_iff

theorem isEmpty_allNormalized (es : List Element) : (allNormalized es).isEmpty = es.isEmpty := by
  cases es <;> rfl

/-- The names and escaped values of a tag hold no return. -/
theorem normalizeLines_opening {tag : String} {as : List (String × String)}
    (htag : isName tag.toList = true) (has : ∀ a ∈ as, isName a.1.toList = true) (isEmpty : Bool)
    (r : List Char) :
    normalizeLines ('<' :: (tag.toList ++ (as.flatMap printAttribute ++ (tagEnd isEmpty ++ r)))) =
      '<' :: (tag.toList ++
        (as.flatMap printAttribute ++ (tagEnd isEmpty ++ normalizeLines r))) := by
  have has' : '\r' ∉ as.flatMap printAttribute := by
    intro h
    obtain ⟨a, ha, hmem⟩ := List.mem_flatMap.1 h
    exact return_not_mem_printAttribute (has a ha) hmem
  have hend : '\r' ∉ tagEnd isEmpty := by cases isEmpty <;> decide
  rw [normalizeLines_cons (by decide), normalizeLines_append (return_not_mem_of_isName htag),
    normalizeLines_append has', normalizeLines_append hend]

mutual

/-- A printed element with its line ends normalized is the element with its line ends normalized, as
it is printed. -/
theorem Element.normalizeLines_print : ∀ {e : Element}, e.Named → ∀ r,
    normalizeLines (e.print ++ r) = e.normalized.print ++ normalizeLines r
  | .mk tag as text es, ⟨htag, has, hn, hes⟩, r => by
    rw [Element.normalized, print_append, print_append, normalizeLines_opening htag fun a ha ↦
      (has a ha).1, isEmpty_normalizedText, isEmpty_allNormalized]
    congr 4
    cases hempty : text.isEmpty && es.isEmpty with
    | true =>
      have hempty' : ((normalizedText text).isEmpty && (allNormalized es).isEmpty) = true := by
        rw [isEmpty_normalizedText, isEmpty_allNormalized, hempty]
      simp [printInside, hempty, hempty']
    | false =>
      have hempty' : ((normalizedText text).isEmpty && (allNormalized es).isEmpty) = false := by
        rw [isEmpty_normalizedText, isEmpty_allNormalized, hempty]
      have hfeed (s : List Char) : printAll es ++ '<' :: '/' :: (tag.toList ++ '>' :: r) ≠
          '\n' :: s := by
        obtain ⟨cs, hcs⟩ := exists_printAll_append es ('/' :: (tag.toList ++ '>' :: r))
        rw [hcs]
        exact fun h ↦ by cases (List.cons.inj h).1
      rw [printInside_append hempty, printInside_append hempty', normalizeLines_printText _ hfeed,
        normalizeLines_printAll hes, normalizedText, String.toList_ofList,
        normalizeLines_cons (by decide),
        normalizeLines_cons (by decide), normalizeLines_append (return_not_mem_of_isName htag),
        normalizeLines_cons (by decide)]

/-- The line ends of printed elements are those in the texts of the elements. -/
theorem normalizeLines_printAll : ∀ {es : List Element}, AllNamed es → ∀ r,
    normalizeLines (printAll es ++ r) = printAll (allNormalized es) ++ normalizeLines r
  | [], _, _ => rfl
  | e :: es, ⟨he, hes⟩, r => by
    rw [allNormalized, printAll_cons_append, printAll_cons_append, e.normalizeLines_print he,
      normalizeLines_printAll hes]

end

mutual

theorem Element.Named.normalized : ∀ {e : Element}, e.Named → e.normalized.Named
  | .mk _ _ _ _, ⟨htag, has, hn, hes⟩ => ⟨htag, has, hn, AllNamed.normalized hes⟩

theorem AllNamed.normalized : ∀ {es : List Element}, AllNamed es → AllNamed (allNormalized es)
  | [], _ => trivial
  | _ :: _, ⟨he, hes⟩ => ⟨he.normalized, AllNamed.normalized hes⟩

end

mutual

/-- An element is as legal as its normal form. -/
theorem Element.isLegal_normalized : ∀ e : Element, e.normalized.isLegal = e.isLegal
  | .mk tag as text es => by
    rw [Element.normalized, Element.isLegal, Element.isLegal, allLegal_allNormalized, isLegalText,
      isLegalText, normalizedText, String.toList_ofList, all_isChar_normalizeLines]

theorem allLegal_allNormalized : ∀ es : List Element, allLegal (allNormalized es) = allLegal es
  | [] => rfl
  | e :: es => by
    rw [allNormalized, allLegal, allLegal, e.isLegal_normalized, allLegal_allNormalized]

end

/-! ## Documents -/

/-- A body has no declaration in front. -/
theorem takeHeading_print {e : Element} (he : e.Named) :
    takeHeading e.print = some (⟨none, false⟩, e.print) := by
  obtain ⟨c, cs, hprint, hc⟩ := exists_print_append he []
  rw [List.append_nil] at hprint
  have hmark : ('?' == c) = false := by
    rw [beq_eq_false_iff_ne]
    rintro rfl
    cases hc
  simp [hprint, takeHeading, after?, hmark]

/-- Nor has it anything else before its element. -/
theorem takeProlog_name (hc : isNameStart .plain c = true) (fuel : Nat) (d : Declarations)
    (cs : List Char) :
    takeProlog (fuel + 1) false d ('<' :: c :: cs) = some (d, c :: cs) := by
  have hmark {m : Char} (hm : isNameStart .plain m = false) : c ≠ m := by
    rintro rfl
    cases hm.symm.trans hc
  have hskip : skipSpace ('<' :: c :: cs) = '<' :: c :: cs := rfl
  rw [takeProlog, hskip]
  simp [hmark (m := '!') rfl, hmark (m := '?') rfl]

/-- The element that makes up a document is the one that was printed. -/
theorem takeRoot_print {d : Declarations} (hletters : d.letters = .plain)
    (hentities : d.entities = []) (hattributes : d.attributes = []) {e : Element} (he : e.Named)
    (hcs : e.print = '<' :: cs) :
    ∃ n, (e.isLegal = true → Stands d n e) ∧ takeRoot d cs = if e.isLegal then some (n, [])
      else none := by
  obtain ⟨content, hfills, hholds⟩ := e.exists_content (entityContent d (d.entities.length + 1))
    hattributes he
  refine ⟨e.node content, fun h ↦ (hholds (Element.allLegal_children h)).stands hattributes he h,
    ?_⟩
  obtain ⟨tag, as, text, es⟩ := e
  obtain ⟨htag, has, -, -⟩ := he
  simp only [Element.text, Element.children] at hfills
  have hprint := print_append tag as text es []
  rw [List.append_nil, hcs] at hprint
  obtain rfl := (List.cons.inj hprint).2
  have hspend (w : Demand) : d.spend w = some d := by simp [Declarations.spend, hentities]
  have hlength : as.length < (tag.toList ++
      (as.flatMap printAttribute ++ (tagEnd (text.isEmpty && es.isEmpty) ++
        (printInside tag text es ++ [])))).length := by
    have hopening := length_opening_lt as (text.isEmpty && es.isEmpty) (printInside tag text es ++
      [])
    rw [List.length_append]
    omega
  rw [takeRoot, hspend, Option.bind_eq_bind, Option.bind_some, hletters,
    takeStartTag_append htag (fun a ha ↦ (has a ha).1) _ _ hlength, Element.isLegal]
  cases as.all (isLegalText ·.2) with
  | false => rfl
  | true =>
    simp only [if_true, Option.bind_eq_bind, Option.bind_some, Bool.true_and]
    cases hempty : text.isEmpty && es.isEmpty with
    | true =>
      obtain rfl := hfills.eq_nil hempty
      obtain ⟨htext, hes⟩ := Bool.and_eq_true_iff.1 hempty
      obtain rfl := String.isEmpty_iff.1 htext
      obtain rfl := List.isEmpty_iff.1 hes
      rfl
    | false =>
      rw [hfills.reads hempty tag [] _ (Nat.le_refl _)]
      cases isLegalText text && allLegal es with
      | false => rfl
      | true =>
        simp only [if_true, Bool.false_eq_true, if_false, Option.bind_some, skipEndTag_append htag]
        rfl

theorem isEpilog_nil (letters : Alphabet) (fuel : Nat) :
    isEpilog letters (fuel + 1) [] = true := rfl

/-- A printed element is read as the element with its line ends normalized. -/
theorem read_print {e : Element} (he : e.Named) (octets : Nat) :
    read .plain octets e.print = if e.isLegal then some e.normalized else none := by
  have hlines := e.normalizeLines_print he []
  rw [List.append_nil, normalizeLines, List.append_nil] at hlines
  rw [← e.isLegal_normalized, read, hlines, takeHeading_print he.normalized]
  obtain ⟨c, cs, hprint, hc⟩ := exists_print_append he.normalized []
  rw [List.append_nil] at hprint
  obtain ⟨n, hstands, hroot⟩ := takeRoot_print (d := .empty .plain octets false) rfl rfl rfl
    he.normalized hprint
  simp only [Option.bind_eq_bind, Option.bind_some]
  rw [hprint, List.length_cons, takeProlog_name hc, Option.bind_some, hroot]
  cases hlegal : e.normalized.isLegal with
  | false => rfl
  | true =>
    have hresolve := hstands hlegal initialBindings rfl
    simp [hresolve, isEpilog_nil]

/-! ## Texts as documents -/

theorem toList_loop (bs : ByteArray) (i : Nat) (r : List UInt8) :
    ByteArray.toList.loop bs i r = r.reverse ++ bs.data.toList.drop i := by
  induction i, r using ByteArray.toList.loop.induct bs with
  | case1 i r h ih =>
    have hget : bs.get! i = bs.data.toList[i] := by
      change bs.data[i]! = _
      rw [getElem!_pos bs.data i h]
      rfl
    rw [ByteArray.toList.loop, if_pos h, ih, List.reverse_cons, List.append_assoc,
      List.drop_eq_getElem_cons h, hget]
    rfl
  | case2 i r h =>
    rw [ByteArray.toList.loop, if_neg h, List.drop_of_length_le (Nat.le_of_not_lt h),
      List.append_nil]

theorem toList_toUTF8 (cs : List Char) :
    (String.ofList cs).toUTF8.toList = cs.flatMap String.utf8EncodeChar := by
  rw [ByteArray.toList, toList_loop, String.toUTF8, String.toByteArray_ofList, List.utf8Encode,
    List.data_toByteArray]
  simp

/-- A character that is not zero is encoded without a zero in front. -/
theorem exists_utf8EncodeChar (hc : c ≠ '\x00') : ∃ b bs, String.utf8EncodeChar c = b :: bs ∧
    b ≠ 0 := by
  have hv : c.val.toNat ≠ 0 := fun h ↦ hc (Char.ext (UInt32.toNat_inj.1 h))
  have hbyte {n : Nat} (hn : 0 < n) (hlt : n < 256) : UInt8.ofNat n ≠ 0 := by
    intro h
    have hnat := congrArg UInt8.toNat h
    rw [UInt8.toNat_ofNat_of_lt' hlt] at hnat
    exact Nat.ne_of_gt hn hnat
  fun_cases String.utf8EncodeChar c
  all_goals exact ⟨_, _, rfl, hbyte (by omega) (by omega)⟩

/-- A text that begins with an angle and a character other than the first one of all is not taken
for UTF-16. -/
theorem decodeText_angle (hc : c ≠ '\x00') (cs : List Char) :
    decodeText (.ofList ('<' :: c :: cs)) = some ⟨.plain, '<' :: c :: cs⟩ := by
  obtain ⟨b, bs, hb, hne⟩ := exists_utf8EncodeChar hc
  have hoctets :
      (String.ofList ('<' :: c :: cs)).toUTF8.toList =
        60 :: b :: (bs ++ cs.flatMap String.utf8EncodeChar) := by
    rw [toList_toUTF8, List.flatMap_cons, List.flatMap_cons, hb]
    rfl
  have hzero : (60 : UInt8) ≠ 0 := by decide
  simp only [decodeText, hoctets, String.toList_ofList]
  split
  case h_1 heq => exact absurd (List.cons.inj heq).1 hzero
  case h_2 heq => exact absurd (List.cons.inj (List.cons.inj heq).2).1 hne
  case h_3 => rfl

/-- A printed element that arrives as text is read as the element with its line ends normalized,
unless it has a character that no document may hold. -/
theorem Source.read_print {e : Element} (he : e.Named) :
    (Source.text (.ofList e.print)).read = if e.isLegal then .ok e.normalized
      else .error malformed := by
  obtain ⟨c, cs, hprint, hc⟩ := exists_print_append he []
  rw [List.append_nil] at hprint
  have hzero : c ≠ '\x00' := by
    rintro rfl
    cases hc
  have hdecode : decodeText (.ofList e.print) = some ⟨.plain, e.print⟩ := by
    rw [hprint, decodeText_angle hzero]
  rw [Source.read, hdecode, Option.bind_eq_bind, Option.bind_some, Script.read,
    Markup.read_print he]
  cases e.isLegal <;> rfl

end TypedSearch.Markup

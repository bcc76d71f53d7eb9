import TypedSearch.Markup.Lexeme
import TypedSearch.Markup.Printer

/-!
# What elements are printed as

A printed element says where it ends and what it holds, whatever characters stand in its texts and
values. So different elements are printed differently (`Element.print_append_inj`), as long as their
tags and attributes have proper names (`Element.Named`).

Every character is printed as itself or as a reference to it (`Spells`), and neither the angle that
ends a text nor the quote that ends a value comes up on the way.
-/

namespace TypedSearch.Markup

/-! ## Characters -/

def isBareInText (c : Char) : Bool := c != '&' && c != '<' && c != '>'

/-- Does the character appear in the value of an attribute as it is? -/
def isBareInValue (c : Char) : Bool :=
  isBareInText c && c != '"' && c != '\r' && c != '\n' && c != '\t'

/-- The character that a reference stands for wherever it is read. -/
def Reference.char? : Reference → Option Char
  | .char c => some c
  | .entity name => predefined? name

def isReferenceChar (c : Char) : Bool := c.isAlphanum || c == '#' || c == ';'

/-- Does a character appear as itself, where that is fine, or as a reference to it? -/
inductive Spells (bare : Char → Bool) (c : Char) : List Char → Prop
  | itself (fine : bare c = true) : Spells bare c [c]
  | reference {w : List Char} {r : Reference}
      (taken : ∀ cs, takeReference .plain (w ++ cs) = some (r, cs)) (meant : r.char? = some c)
      (legal : isChar c = true) (marks : w.all isReferenceChar = true) :
      Spells bare c ('&' :: w)

variable {bare : Char → Bool} {c d : Char} {v w r s : List Char}

theorem spells_printTextChar (c : Char) : Spells isBareInText c (printTextChar c) := by
  by_cases hamp : c = '&'
  · subst hamp
    exact .reference (r := .entity "amp".toList) (fun _ ↦ rfl) rfl rfl rfl
  by_cases hlt : c = '<'
  · subst hlt
    exact .reference (r := .entity "lt".toList) (fun _ ↦ rfl) rfl rfl rfl
  by_cases hgt : c = '>'
  · subst hgt
    exact .reference (r := .entity "gt".toList) (fun _ ↦ rfl) rfl rfl rfl
  have hself : printTextChar c = [c] := by simp [printTextChar, hamp, hlt, hgt]
  rw [hself]
  exact .itself (by simp [isBareInText, hamp, hlt, hgt])

theorem spells_printValueChar (c : Char) : Spells isBareInValue c (printValueChar c) := by
  by_cases hquote : c = '"'
  · subst hquote
    exact .reference (r := .entity "quot".toList) (fun _ ↦ rfl) rfl rfl rfl
  by_cases hreturn : c = '\r'
  · subst hreturn
    exact .reference (r := .char '\r') (fun _ ↦ rfl) rfl rfl rfl
  by_cases hfeed : c = '\n'
  · subst hfeed
    exact .reference (r := .char '\n') (fun _ ↦ rfl) rfl rfl rfl
  by_cases htab : c = '\t'
  · subst htab
    exact .reference (r := .char '\t') (fun _ ↦ rfl) rfl rfl rfl
  have htext : printValueChar c = printTextChar c := by
    simp [printValueChar, hquote, hreturn, hfeed, htab]
  rw [htext]
  have hspells := spells_printTextChar c
  generalize printTextChar c = w at hspells
  cases hspells with
  | itself fine => exact .itself (by simp [isBareInValue, fine, hquote, hreturn, hfeed, htab])
  | reference taken meant legal marks => exact .reference taken meant legal marks

namespace Spells

/-- What a character appears as tells the character, and where it ends. -/
theorem append_inj (hbare : bare '&' = false) (hv : Spells bare c v) (hw : Spells bare d w)
    (h : v ++ r = w ++ s) :
    c = d ∧ r = s := by
  cases hv with
  | itself hc =>
    cases hw with
    | itself => exact List.cons.inj h
    | reference =>
      obtain rfl := (List.cons.inj h).1
      cases hbare.symm.trans hc
  | reference hv hc =>
    cases hw with
    | itself hd =>
      obtain rfl := (List.cons.inj h).1
      cases hbare.symm.trans hd
    | reference hw hd =>
      have htail := (List.cons.inj h).2
      have htaken := (hv r).symm.trans ((congrArg _ htail).trans (hw s))
      obtain ⟨rfl, rfl⟩ := Prod.mk.inj (Option.some.inj htaken)
      exact ⟨Option.some.inj (hc.symm.trans hd), rfl⟩

/-- A character that is never bare stands in no word, unless references are made of it. -/
theorem not_mem (hd : bare d = false) (hmark : isReferenceChar d = false) (hamp : d ≠ '&')
    (h : Spells bare c w) :
    d ∉ w := by
  intro hmem
  cases h with
  | itself fine =>
    obtain rfl := List.mem_singleton.1 hmem
    cases hd.symm.trans fine
  | reference _ _ _ marks =>
    rcases List.mem_cons.1 hmem with hd' | hmem
    · exact hamp hd'
    · cases hmark.symm.trans (List.all_eq_true.1 marks d hmem)

end Spells

/-! ## Texts and values -/

section Rows

variable {code : Char → List Char} {cs ds : List Char}

/-- Texts that are spelled out, up to a character that is never bare, can be told apart. -/
theorem flatMap_append_inj (hcode : ∀ c, Spells bare c (code c)) (hamp : bare '&' = false)
    (hd : bare d = false) (hmark : isReferenceChar d = false) (hne : d ≠ '&')
    (h : cs.flatMap code ++ d :: r = ds.flatMap code ++ d :: s) : cs = ds ∧ r = s := by
  -- neither text can go on where the other one ends
  have hgoes (c : Char) (x y : List Char) : d :: x ≠ code c ++ y := by
    intro h
    cases hw : code c with
    | nil => cases hw ▸ hcode c
    | cons e w =>
      rw [hw] at h
      obtain rfl := (List.cons.inj h).1
      exact (hcode c).not_mem hd hmark hne (hw ▸ List.mem_cons_self)
  induction cs generalizing ds with
  | nil =>
    cases ds with
    | nil => exact ⟨rfl, (List.cons.inj h).2⟩
    | cons e ds => exact absurd (by simpa using h) (hgoes e r (ds.flatMap code ++ d :: s))
  | cons c cs ih =>
    cases ds with
    | nil => exact absurd (by simpa using h.symm) (hgoes c s (cs.flatMap code ++ d :: r))
    | cons e ds =>
      simp only [List.flatMap_cons, List.append_assoc] at h
      obtain ⟨rfl, hrest⟩ := (hcode c).append_inj hamp (hcode e) h
      obtain ⟨rfl, rfl⟩ := ih hrest
      exact ⟨rfl, rfl⟩

end Rows

/-- Escaped text ends at the first mark behind it, so it can be told from any rest. -/
theorem printText_append_inj {cs ds : List Char}
    (h : printText cs ++ '<' :: r = printText ds ++ '<' :: s) :
    cs = ds ∧ r = s :=
  flatMap_append_inj spells_printTextChar rfl rfl rfl (by decide) h

/-- So can an escaped value before its quote. -/
theorem printValue_append_inj {cs ds : List Char}
    (h : printValue cs ++ '"' :: r = printValue ds ++ '"' :: s) :
    cs = ds ∧ r = s :=
  flatMap_append_inj spells_printValueChar rfl rfl rfl (by decide) h

/-! ## Names -/

def isName : List Char → Bool
  | [] => false
  | c :: cs => isNameStart .plain c && cs.all (isNameChar .plain)

theorem isNameChar_of_isNameStart (h : isNameStart .plain c = true) :
    isNameChar .plain c = true := by
  simp [isNameChar, h]

theorem exists_of_isName {n : List Char} (h : isName n = true) :
    ∃ c cs, n = c :: cs ∧ isNameStart .plain c = true ∧
    ∀ d ∈ n, isNameChar .plain d = true := by
  cases n with
  | nil => cases h
  | cons c cs =>
    obtain ⟨hc, hcs⟩ := Bool.and_eq_true_iff.1 h
    exact ⟨c, cs, rfl, hc, List.forall_mem_cons.2 ⟨isNameChar_of_isNameStart hc,
      List.all_eq_true.1 hcs⟩⟩

/-- Names up to a character that stands in no name can be told apart. -/
theorem name_append_inj {m n : List Char} (hm : isName m = true) (hn : isName n = true)
    (hc : isNameChar .plain c = false) (hd : isNameChar .plain d = false)
    (h : m ++ c :: r = n ++ d :: s) :
    m = n ∧ c :: r = d :: s := by
  obtain ⟨-, -, -, -, hm⟩ := exists_of_isName hm
  obtain ⟨-, -, -, -, hn⟩ := exists_of_isName hn
  have hleft := congrArg (List.takeWhile (isNameChar .plain)) h
  have hright := congrArg (List.dropWhile (isNameChar .plain)) h
  rw [List.takeWhile_append_of_pos hm, List.takeWhile_append_of_pos hn,
    List.takeWhile_cons_of_neg (by simp [hc]), List.takeWhile_cons_of_neg (by simp [hd]),
    List.append_nil, List.append_nil] at hleft
  rw [List.dropWhile_append_of_pos hm, List.dropWhile_append_of_pos hn,
    List.dropWhile_cons_of_neg (by simp [hc]), List.dropWhile_cons_of_neg (by simp [hd])] at hright
  exact ⟨hleft, hright⟩

/-! ## Elements -/

mutual

/-- Do the tags and the attributes in an element have proper names, and the attributes of one
element different ones? -/
def Element.Named : Element → Prop
  | .mk tag attributes _ children =>
    isName tag.toList = true ∧ (∀ a ∈ attributes, isName a.1.toList = true ∧ a.1 ≠ "xmlns") ∧
      (attributes.map Prod.fst).Nodup ∧ AllNamed children

/-- Do the tags and the attributes in some elements have proper names? -/
def AllNamed : List Element → Prop
  | [] => True
  | e :: es => e.Named ∧ AllNamed es

end

def tagEnd (isEmpty : Bool) : List Char := if isEmpty then " />".toList else ['>']

/-- What an element is printed as after its start tag. -/
def printInside (tag text : String) (es : List Element) : List Char :=
  if text.isEmpty && es.isEmpty then []
    else printText text.toList ++ (printAll es ++ printClosing tag)

/-- The printed parts of an element, with any rest behind them. -/
theorem print_append (tag : String) (as : List (String × String)) (text : String)
    (es : List Element) (r : List Char) :
    (Element.mk tag as text es).print ++ r = '<' :: (tag.toList ++ (as.flatMap printAttribute ++
      (tagEnd (text.isEmpty && es.isEmpty) ++ (printInside tag text es ++ r)))) := by
  cases h : text.isEmpty && es.isEmpty <;>
    simp only [Element.print, printOpening, tagEnd, printInside, h, List.cons_append,
      List.append_assoc, if_true, if_false, Bool.false_eq_true, List.nil_append]

theorem printInside_append {text : String} {es : List Element}
    (h : (text.isEmpty && es.isEmpty) = false) (tag : String) (r : List Char) :
    printInside tag text es ++ r =
      printText text.toList ++ (printAll es ++ '<' :: '/' :: (tag.toList ++ '>' :: r)) := by
  simp [printInside, h, printClosing]

theorem printAll_cons_append (e : Element) (es : List Element) (r : List Char) :
    printAll (e :: es) ++ r = e.print ++ (printAll es ++ r) := by
  rw [printAll, List.append_assoc]

/-- The end of a start tag, and the first attribute if there is one, begins with a character that
stands in no name. -/
theorem exists_attributes_append (as : List (String × String)) (isEmpty : Bool) (r : List Char) :
    ∃ c cs, as.flatMap printAttribute ++ (tagEnd isEmpty ++ r) = c :: cs ∧
      isNameChar .plain c = false ∧ c ≠ ':' := by
  cases as with
  | nil =>
    cases isEmpty with
    | true => exact ⟨' ', _, rfl, rfl, by decide⟩
    | false => exact ⟨'>', _, rfl, rfl, by decide⟩
  | cons a as => exact ⟨' ', _, rfl, rfl, by decide⟩

/-- A printed element begins with its tag, so it is not taken for a closing one. -/
theorem exists_print_append {e : Element} (h : e.Named) (r : List Char) :
    ∃ c cs, e.print ++ r = '<' :: c :: cs ∧ isNameStart .plain c = true := by
  obtain ⟨tag, as, text, es⟩ := e
  obtain ⟨c, cs, htag, hc, -⟩ := exists_of_isName h.1
  rw [print_append, htag]
  exact ⟨c, _, rfl, hc⟩

/-- What follows the text of an element begins with an angle. -/
theorem exists_printAll_append (es : List Element) (r : List Char) :
    ∃ cs, printAll es ++ '<' :: r = '<' :: cs := by
  cases es with
  | nil => exact ⟨r, rfl⟩
  | cons e es =>
    obtain ⟨tag, as, text, children⟩ := e
    rw [printAll_cons_append, print_append]
    exact ⟨_, rfl⟩

/-- No element begins as an end tag does. -/
theorem print_ne_closing {e : Element} (h : e.Named) (r s : List Char) :
    e.print ++ r ≠ '<' :: '/' :: s := by
  obtain ⟨c, cs, hprint, hc⟩ := exists_print_append h r
  rw [hprint]
  intro h
  obtain rfl := (List.cons.inj (List.cons.inj h).2).1
  cases hc

/-- The end of a tag says whether the element is empty. -/
theorem tagEnd_append_inj {isEmpty isEmpty' : Bool}
    (h : tagEnd isEmpty ++ r = tagEnd isEmpty' ++ s) :
    isEmpty = isEmpty' ∧ r = s := by
  cases isEmpty <;> cases isEmpty' <;> simp_all [tagEnd]

/-- No attribute is printed as the end of a start tag. -/
theorem tagEnd_ne_printAttribute {a : String × String} (ha : isName a.1.toList = true)
    (isEmpty : Bool) (r s : List Char) : tagEnd isEmpty ++ r ≠ printAttribute a ++ s := by
  obtain ⟨c, cs, hn, hc, -⟩ := exists_of_isName ha
  intro h
  cases isEmpty with
  | false => simp [tagEnd, printAttribute] at h
  | true =>
    simp only [tagEnd, printAttribute, hn, if_true, List.cons_append, String.reduceToList,
      List.cons.injEq] at h
    obtain ⟨-, rfl, -⟩ := h
    cases hc

/-- Printed attributes tell what they are, and where the start tag ends. -/
theorem attributes_append_inj {as bs : List (String × String)} {isEmpty isEmpty' : Bool}
    (has : ∀ a ∈ as, isName a.1.toList = true) (hbs : ∀ b ∈ bs, isName b.1.toList = true)
    (h : as.flatMap printAttribute ++ (tagEnd isEmpty ++ r) = bs.flatMap printAttribute ++
      (tagEnd isEmpty' ++ s)) :
    as = bs ∧ isEmpty = isEmpty' ∧ r = s := by
  induction as generalizing bs with
  | nil =>
    cases bs with
    | nil => exact ⟨rfl, tagEnd_append_inj h⟩
    | cons b bs =>
      rw [List.flatMap_cons, List.append_assoc] at h
      exact absurd h (tagEnd_ne_printAttribute (hbs b List.mem_cons_self) isEmpty r _)
  | cons a as ih =>
    cases bs with
    | nil =>
      rw [List.flatMap_cons, List.append_assoc] at h
      exact absurd h.symm (tagEnd_ne_printAttribute (has a List.mem_cons_self) isEmpty' s _)
    | cons b bs =>
      obtain ⟨ha, has⟩ := List.forall_mem_cons.1 has
      obtain ⟨hb, hbs⟩ := List.forall_mem_cons.1 hbs
      simp only [List.flatMap_cons, printAttribute, List.cons_append, List.append_assoc,
        List.cons.injEq, true_and, List.nil_append] at h
      obtain ⟨hname, hrest⟩ := name_append_inj ha hb rfl rfl h
      obtain ⟨hvalue, hrest⟩ := printValue_append_inj (List.cons.inj (List.cons.inj hrest).2).2
      obtain ⟨rfl, hend⟩ := ih has hbs hrest
      exact ⟨congrArg (· :: as) (Prod.ext (String.toList_inj.1 hname) (String.toList_inj.1 hvalue)),
        hend⟩

/-- A printed start tag tells what it is and where it ends. -/
theorem opening_append_inj {tag tag' : String} {as bs : List (String × String)}
    {isEmpty isEmpty' : Bool} (htag : isName tag.toList = true) (htag' : isName tag'.toList = true)
    (has : ∀ a ∈ as, isName a.1.toList = true) (hbs : ∀ b ∈ bs, isName b.1.toList = true)
    (h : tag.toList ++ (as.flatMap printAttribute ++ (tagEnd isEmpty ++ r)) =
      tag'.toList ++ (bs.flatMap printAttribute ++ (tagEnd isEmpty' ++ s))) :
    tag = tag' ∧ as = bs ∧ isEmpty = isEmpty' ∧ r = s := by
  obtain ⟨c, cs, hc, hname, -⟩ := exists_attributes_append as isEmpty r
  obtain ⟨d, ds, hd, hname', -⟩ := exists_attributes_append bs isEmpty' s
  rw [hc, hd] at h
  obtain ⟨htags, hrest⟩ := name_append_inj htag htag' hname hname' h
  rw [← hc, ← hd] at hrest
  exact ⟨String.toList_inj.1 htags, attributes_append_inj has hbs hrest⟩

mutual

/-- A printed element tells what it is and where it ends. -/
theorem Element.print_append_inj : ∀ {e f : Element} {r s : List Char}, e.Named → f.Named →
    e.print ++ r = f.print ++ s → e = f ∧ r = s
  | .mk tag as text es, .mk tag' bs text' fs, r, s, ⟨htag, has, _, hes⟩,
      ⟨htag', hbs, _, hfs⟩, h => by
    rw [print_append, print_append] at h
    obtain ⟨rfl, rfl, hempty, hrest⟩ := opening_append_inj htag htag' (fun a ha ↦ (has a ha).1)
      (fun b hb ↦ (hbs b hb).1) (List.cons.inj h).2
    cases he : text.isEmpty && es.isEmpty with
    | true =>
      obtain ⟨htext, hes⟩ := Bool.and_eq_true_iff.1 he
      obtain ⟨htext', hfs⟩ := Bool.and_eq_true_iff.1 (hempty.symm.trans he)
      obtain rfl := String.isEmpty_iff.1 htext
      obtain rfl := String.isEmpty_iff.1 htext'
      obtain rfl := List.isEmpty_iff.1 hes
      obtain rfl := List.isEmpty_iff.1 hfs
      exact ⟨rfl, hrest⟩
    | false =>
      rw [printInside_append he, printInside_append (hempty.symm.trans he)] at hrest
      obtain ⟨cs, hcs⟩ := exists_printAll_append es ('/' :: (tag.toList ++ '>' :: r))
      obtain ⟨ds, hds⟩ := exists_printAll_append fs ('/' :: (tag.toList ++ '>' :: s))
      rw [hcs, hds] at hrest
      obtain ⟨htext, htail⟩ := printText_append_inj hrest
      obtain rfl := String.toList_inj.1 htext
      rw [htail, ← hds] at hcs
      obtain ⟨rfl, hclosing⟩ := printAll_append_inj hes hfs hcs
      exact ⟨rfl, (List.cons.inj (List.append_cancel_left hclosing)).2⟩

/-- Printed elements before an end tag tell what they are and where they end. -/
theorem printAll_append_inj : ∀ {es fs : List Element} {r s : List Char}, AllNamed es →
    AllNamed fs →
    printAll es ++ '<' :: '/' :: r = printAll fs ++ '<' :: '/' :: s → es = fs ∧ r = s
  | [], [], _, _, _, _, h => ⟨rfl, (List.cons.inj (List.cons.inj h).2).2⟩
  | [], f :: fs, r, s, _, hf, h => by
    rw [printAll_cons_append] at h
    exact absurd h.symm (print_ne_closing hf.1 _ r)
  | e :: es, [], r, s, he, _, h => by
    rw [printAll_cons_append] at h
    exact absurd h (print_ne_closing he.1 _ s)
  | e :: es, f :: fs, r, s, he, hf, h => by
    rw [printAll_cons_append, printAll_cons_append] at h
    obtain ⟨rfl, hrest⟩ := Element.print_append_inj he.1 hf.1 h
    obtain ⟨rfl, rfl⟩ := printAll_append_inj he.2 hf.2 hrest
    exact ⟨rfl, rfl⟩

end

end TypedSearch.Markup

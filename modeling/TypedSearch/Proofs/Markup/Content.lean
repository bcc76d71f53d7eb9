import TypedSearch.Markup.Content
import TypedSearch.Proofs.Markup.Tags

/-!
# Printed elements as content

Printed elements are taken in as nodes that stand for them (`exists_adds_printAll`), whatever comes
after them, unless a character is among them that no document may hold. Then nothing is taken in at
all.
-/

namespace TypedSearch.Markup

open Outcome Text

variable {expand : List Char → Option (List Node)} {fuel : Nat} {c : Char} {cs r w : List Char}
  {k : Option (List Node × List Char)}

/-! ## Steps through content -/

/-- Content with some nodes in front. -/
def behind (ns : List Node) (p : List Node × List Char) : List Node × List Char := (ns ++ p.1, p.2)

/-- Is a text taken in as content with this result, whatever fuel is left to spare? -/
def Reads (expand : List Char → Option (List Node)) (cs : List Char)
    (k : Option (List Node × List Char)) : Prop :=
  ∀ fuel, cs.length ≤ fuel → takeContent .plain expand fuel cs = k

theorem after?_eq_some : ∀ {marker cs rest : List Char}, after? marker cs = some rest →
    cs = marker ++ rest
  | [], _, _, h => Option.some.inj h
  | _ :: _, [], _, h => nomatch h
  | m :: marker, c :: cs, rest, h => by
    rw [after?] at h
    split at h
    case isTrue hmc =>
      obtain rfl := beq_iff_eq.1 hmc
      rw [after?_eq_some h, List.cons_append]
    case isFalse => cases h

/-- A marker is not found in a text that lacks one of its characters. -/
theorem splitAt?_of_not_mem {marker : List Char} (hc : c ∈ marker) (h : c ∉ cs) :
    splitAt? marker cs = none := by
  induction cs with
  | nil => cases marker with
    | nil => cases hc
    | cons m marker => rfl
  | cons d cs ih =>
    have hafter : after? marker (d :: cs) = none := by
      cases hsome : after? marker (d :: cs) with
      | none => rfl
      | some rest => exact absurd (after?_eq_some hsome ▸ List.mem_append_left rest hc) h
    rw [splitAt?, hafter, ih fun hcs ↦ h (List.mem_cons_of_mem d hcs)]
    rfl

theorem map_behind (ns : List Node) : k.map (behind ns) = k.bind fun p ↦ some (ns ++ p.1, p.2) := by
  cases k <;> rfl

/-- A run of plain characters is one node, as long as it holds no end of a section. -/
theorem takeContent_plain (hc : isPlainText c = true) :
    takeContent .plain expand (fuel + 1) (c :: cs) =
    if isTextRun ((c :: cs).takeWhile isPlainText) then
      (takeContent .plain expand fuel ((c :: cs).dropWhile isPlainText)).map
        (behind [.text ((c :: cs).takeWhile isPlainText)])
    else none := by
  rw [takeContent]
  · simp only [map_behind]
    cases isTextRun ((c :: cs).takeWhile isPlainText) <;> rfl
  · exact List.cons_ne_nil c cs
  · intro ds h
    obtain rfl := (List.cons.inj h).1
    cases hc
  · intro ds h
    obtain rfl := (List.cons.inj h).1
    cases hc

theorem takeContent_tag {n : List Char} (hn : isName n = true) (cs : List Char) :
    takeContent .plain expand (fuel + 1) ('<' :: (n ++ cs)) =
      (takeStartTag .plain fuel (n ++ cs)).bind fun (tag, rest) ↦
        if tag.isEmpty then
          (takeContent .plain expand fuel rest).map
            (behind [.element .plain tag.name tag.attributes []])
        else
          (takeContent .plain expand fuel rest).bind fun (inside, rest) ↦
            (skipEndTag .plain tag.name rest).bind fun rest ↦
              (takeContent .plain expand fuel rest).map
                (behind [.element .plain tag.name tag.attributes inside]) := by
  obtain ⟨c, n, rfl, hc, -⟩ := exists_of_isName hn
  have hmark {m : Char} (hm : isNameStart .plain m = false)
      (ds : List Char) : c :: n ++ cs ≠ m :: ds := by
    intro h
    obtain rfl := (List.cons.inj h).1
    cases hm.symm.trans hc
  rw [takeContent]
  · simp only [map_behind]
    rfl
  · exact hmark rfl
  · exact fun _ ↦ hmark rfl _
  · exact hmark rfl
  · exact hmark rfl

/-- Content ends before a closing tag. -/
theorem takeContent_closing (cs : List Char) :
    takeContent .plain expand (fuel + 1) ('<' :: '/' :: cs) = some ([], '<' :: '/' :: cs) := by
  rw [takeContent]

theorem takeContent_reference {ref : Reference} (taken : takeReference .plain cs = some (ref, r))
    (meant : ref.char? = some c) : takeContent .plain expand (fuel + 1) ('&' :: cs) =
      (takeContent .plain expand fuel r).map (behind [.text [c]]) := by
  rw [takeContent, map_behind, taken]
  cases ref with
  | char d =>
    obtain rfl := Option.some.inj meant
    rfl
  | entity name =>
    replace meant : predefined? name = some c := meant
    simp only [Option.bind_eq_bind, Option.bind_some, meant]
    rfl

/-! ## Content in front of other content -/

def Stops (cs : List Char) : Prop := ∀ c r, cs = c :: r → isPlainText c = false

/-- Does a text add some nodes to the content that is behind it, or make it unreadable if it is not
legal? -/
def Adds (expand : List Char → Option (List Node)) (cs : List Char) (ns : List Node)
    (legal : Bool) : Prop :=
  ∀ r k, Stops r → Reads expand r k → Reads expand (cs ++ r) (if legal then k.map (behind ns)
    else none)

theorem stops_cons (hc : isPlainText c = false) (r : List Char) : Stops (c :: r) := by
  intro d s h
  obtain rfl := (List.cons.inj h).1
  exact hc

theorem adds_nil : Adds expand [] [] true := by
  intro r k _ h
  have hbehind : behind [] = id := rfl
  simpa [hbehind] using h

/-- What two texts add is added by the two in a row. -/
theorem Adds.append {ds : List Char} {ns ms : List Node} {p q : Bool} (h : Adds expand cs ns p)
    (h' : Adds expand ds ms q) (hds : ∀ r, Stops r → Stops (ds ++ r)) :
    Adds expand (cs ++ ds) (ns ++ ms) (p && q) := by
  intro r k hr hk
  have hboth := h (ds ++ r) _ (hds r hr) (h' r k hr hk)
  rw [List.append_assoc]
  refine (congrArg (Reads expand _) ?_).mp hboth
  cases p <;> cases q <;> cases k <;> simp [behind]

/-- A reference adds the character that it means. -/
theorem Adds.reference {ds : List Char} {ns : List Node} {p : Bool} {ref : Reference}
    (h : Adds expand ds ns p) (taken : ∀ cs, takeReference .plain (w ++ cs) = some (ref, cs))
    (meant : ref.char? = some c) :
    Adds expand ('&' :: (w ++ ds)) (.text [c] :: ns) p := by
  intro r k hr hk fuel hfuel
  obtain _ | fuel := fuel
  · cases hfuel
  have hrest := h r k hr hk fuel (by
    simp only [List.cons_append, List.length_cons, List.length_append] at hfuel ⊢
    omega)
  rw [List.cons_append, List.append_assoc, takeContent_reference (taken (ds ++ r)) meant, hrest]
  cases p <;> cases k <;> rfl

/-! ## Text -/

theorem isPlainText_of_isBareInText (h : isBareInText c = true) : isPlainText c = true := by
  simp only [isBareInText, Bool.and_eq_true] at h
  rw [isPlainText, h.1.1, h.1.2]
  rfl

/-- The end of a marked section does not come up among characters that appear as they are. -/
theorem isTextRun_of_isBareInText {run : List Char} (hrun : ∀ c ∈ run, isBareInText c = true) :
    isTextRun run = run.all isChar := by
  have hangle : '>' ∉ run := fun h ↦ by cases hrun _ h
  rw [isTextRun, splitAt?_of_not_mem (by simp) hangle, Option.isNone_none, Bool.and_true]

/-- A run of characters that appear as they are goes up to the next markup. -/
theorem exists_adds_run {run : List Char} (hrun : ∀ c ∈ run, isBareInText c = true) :
    ∃ parts : List (List Char),
    parts.flatten = run ∧ Adds expand run (parts.map .text) (run.all isChar) := by
  obtain _ | ⟨c, cs⟩ := run
  · exact ⟨[], rfl, adds_nil⟩
  · refine ⟨[c :: cs], List.append_nil _, fun r k hr h fuel hfuel ↦ ?_⟩
    obtain _ | fuel := fuel
    · cases hfuel
    have hplain : ∀ d ∈ c :: cs, isPlainText d = true := fun d hd ↦ isPlainText_of_isBareInText
      (hrun d hd)
    have htake : r.takeWhile isPlainText = [] ∧ r.dropWhile isPlainText = r := by
      cases r with
      | nil => exact ⟨rfl, rfl⟩
      | cons m r =>
        have hm := ne_true_of_eq_false (hr m r rfl)
        exact ⟨List.takeWhile_cons_of_neg hm, List.dropWhile_cons_of_neg hm⟩
    have hrest :=
      h fuel (by simp only [List.cons_append, List.length_cons, List.length_append] at hfuel; omega)
    rw [List.cons_append, takeContent_plain (hplain c List.mem_cons_self), ← List.cons_append,
      List.takeWhile_append_of_pos hplain, List.dropWhile_append_of_pos hplain, htake.1, htake.2,
      List.append_nil,
      isTextRun_of_isBareInText hrun, hrest]
    rfl

/-- Printed text is taken in as parts that make up the text, runs and single characters. -/
theorem exists_adds_printText (expand : List Char → Option (List Node)) (cs run : List Char)
    (hrun : ∀ c ∈ run, isBareInText c = true) :
    ∃ parts : List (List Char), parts.flatten = run ++ cs ∧
      Adds expand (run ++ printText cs) (parts.map .text) ((run ++ cs).all isChar) := by
  induction cs generalizing run with
  | nil =>
    rw [printText, List.flatMap_nil, List.append_nil]
    exact exists_adds_run hrun
  | cons c cs ih =>
    have hprint : printText (c :: cs) = printTextChar c ++ printText cs := rfl
    have hspells := spells_printTextChar c
    generalize printTextChar c = w at hprint hspells
    rw [hprint]
    cases hspells with
    | itself fine =>
      -- the character goes on with the run
      obtain ⟨parts, hparts, hadds⟩ := ih (run ++ [c]) fun d hd ↦
        (List.mem_append.1 hd).elim (hrun d) fun hd ↦ List.mem_singleton.1 hd ▸ fine
      rw [List.append_assoc] at hparts hadds
      exact ⟨parts, hparts, by rwa [List.append_assoc] at hadds⟩
    | reference taken meant legal =>
      -- the run ends, and the character is a part of its own
      obtain ⟨before, hbefore, hrunadds⟩ := exists_adds_run hrun
      obtain ⟨parts, hparts, hadds⟩ := ih [] (List.forall_mem_nil _)
      refine ⟨before ++ [c] :: parts, by simp [hbefore, hparts], ?_⟩
      have hall := hrunadds.append (hadds.reference taken meant) fun r _ ↦ stops_cons rfl _
      simpa [legal] using hall

/-! ## Elements -/

mutual

def Element.isLegal : Element → Bool
  | .mk _ as text es => as.all (isLegalText ·.2) && (isLegalText text && allLegal es)

/-- May all characters in some elements stand in a document? -/
def allLegal : List Element → Bool
  | [] => true
  | e :: es => e.isLegal && allLegal es

end

variable {d : Declarations} {tag text : String} {as : List (String × String)} {es : List Element}

theorem Element.allLegal_children {e : Element} (h : e.isLegal = true) :
    allLegal e.children = true := by
  obtain ⟨tag, as, text, es⟩ := e
  simp only [Element.isLegal, Bool.and_eq_true] at h
  exact h.2.2

/-- Does a node stand for an element, wherever no namespace goes without a prefix? -/
def Stands (d : Declarations) (n : Node) (e : Element) : Prop :=
  ∀ b : Bindings, b.lookup [] = none → n.resolve d b = some (some e)

/-- Does some content hold a text and then elements? -/
structure Holds (d : Declarations) (content : List Node) (text : String) (es : List Element) :
    Prop where
  text_eq : leadingText content = text.toList
  elements_eq : ∀ b : Bindings, b.lookup [] = none → resolveAll d b content = some es

theorem holds_nil : Holds d [] "" [] := ⟨rfl, fun _ _ ↦ rfl⟩

theorem Holds.cons {n : Node} {e : Element} {ns : List Node} (hn : Stands d n e)
    (h : Holds d ns "" es) :
    Holds d (n :: ns) "" (e :: es) := by
  refine ⟨?_, fun b hb ↦ ?_⟩
  · cases n with
    | text cs => cases hn [] rfl
    | element => rfl
  · rw [resolveAll, hn b hb, h.elements_eq b hb]
    rfl

/-- Nodes of text in front add to the text of an element, however it is cut. -/
theorem Holds.append_text (parts : List (List Char)) {ns : List Node} (h : Holds d ns "" es) :
    Holds d (parts.map .text ++ ns) (.ofList parts.flatten) es := by
  induction parts with
  | nil => exact h
  | cons part parts ih =>
    refine ⟨?_, fun b hb ↦ ?_⟩
    · simp [leadingText, ih.text_eq]
    · rw [List.map_cons, List.cons_append, resolveAll, ih.elements_eq b hb, Node.resolve]
      rfl

def Element.node (e : Element) (content : List Node) : Node :=
  .element .plain e.tag.toList (writtenAttributes e.attributes) content

/-- A tag and its content stand for the element that they were printed from. -/
theorem Holds.stands {e : Element} {content : List Node} (h : Holds d content e.text e.children)
    (hd : d.attributes = []) (he : e.Named) (hlegal : e.isLegal = true) :
    Stands d (e.node content) e := by
  obtain ⟨tag, as, text, es⟩ := e
  obtain ⟨htag, has, hn, -⟩ := he
  rw [Element.isLegal, Bool.and_eq_true] at hlegal
  intro b hb
  rw [Element.node, Node.resolve, Element.attributes, allAttributes_writtenAttributes hd hn
    hlegal.1]
  simp [bindAll_of_isName has, Element.tag, elementName_of_isName htag hb,
    namedAttributes_of_isName has hn, h.text_eq, h.elements_eq b hb, Element.text, Element.children]

/-! ## Printed elements as content -/

theorem stops_printAll (es : List Element) {r : List Char} (hr : Stops r) :
    Stops (printAll es ++ r) := by
  cases es with
  | nil => exact hr
  | cons e es =>
    obtain ⟨tag, as, text, children⟩ := e
    rw [printAll_cons_append, print_append]
    exact stops_cons rfl _

/-- Is what is printed inside an element taken in as some content, up to the end tag? -/
structure Fills (expand : List Char → Option (List Node)) (text : String) (es : List Element)
    (content : List Node) :
    Prop where
  eq_nil : (text.isEmpty && es.isEmpty) = true → content = []
  reads : (text.isEmpty && es.isEmpty) = false → ∀ (tag : String) (r : List Char),
    Reads expand (printInside tag text es ++ r)
      (if isLegalText text && allLegal es then
        some (content, '<' :: '/' :: (tag.toList ++ '>' :: r)) else none)

/-- The text of an element and its children make up what it holds. -/
theorem exists_fills {ns : List Node} (text : String) (hns : allLegal es = true → Holds d ns "" es)
    (hadds : Adds expand (printAll es) ns (allLegal es)) :
    ∃ content, Fills expand text es content ∧ (allLegal es = true → Holds d content text es) := by
  obtain ⟨parts, hparts, htext⟩ := exists_adds_printText expand text.toList []
    (List.forall_mem_nil _)
  have hinside := htext.append hadds fun _ ↦ stops_printAll es
  cases hempty : text.isEmpty && es.isEmpty with
  | true =>
    obtain ⟨htext, hes⟩ := Bool.and_eq_true_iff.1 hempty
    obtain rfl := String.isEmpty_iff.1 htext
    obtain rfl := List.isEmpty_iff.1 hes
    exact ⟨[], ⟨fun _ ↦ rfl, fun h ↦ nomatch h⟩, fun _ ↦ holds_nil⟩
  | false =>
    refine ⟨parts.map .text ++ ns, ⟨fun h ↦ by simp [hempty] at h, fun _ tag r ↦ ?_⟩, fun h ↦ ?_⟩
    · have hclosing : Reads expand ('<' :: '/' :: (tag.toList ++ '>' :: r))
          (some ([], '<' :: '/' :: (tag.toList ++ '>' :: r))) := by
        rintro (_ | fuel) hfuel
        · cases hfuel
        · exact takeContent_closing _
      rw [printInside_append hempty, ← List.append_assoc]
      simpa [behind, isLegalText] using hinside _ _ (stops_cons rfl _) hclosing
    · have hholds := (hns h).append_text parts
      rwa [hparts, List.nil_append, String.ofList_toList] at hholds

/-- The attributes of an element and what comes after its start tag are shorter than the tag and
that together. -/
theorem length_opening_lt (as : List (String × String)) (isEmpty : Bool) (r : List Char) :
    as.length + r.length < (as.flatMap printAttribute ++ (tagEnd isEmpty ++ r)).length := by
  induction as with
  | nil =>
    have htag : 0 < (tagEnd isEmpty).length := by cases isEmpty <;> decide
    rw [List.flatMap_nil, List.nil_append, List.length_append, List.length_nil]
    omega
  | cons a as ih =>
    simp only [List.flatMap_cons, List.length_append, List.length_cons, printAttribute] at ih ⊢
    omega

/-- A printed element adds its node to what comes after it. -/
theorem Fills.adds_print {e : Element} {content : List Node}
    (h : Fills expand e.text e.children content) (he : e.Named) :
    Adds expand e.print [e.node content] e.isLegal := by
  obtain ⟨tag, as, text, es⟩ := e
  obtain ⟨htag, has, -, -⟩ := he
  simp only [Element.text, Element.children] at h
  intro r k hr hk fuel hfuel
  rw [print_append] at hfuel ⊢
  obtain _ | fuel := fuel
  · cases hfuel
  have hlength : as.length + (printInside tag text es ++ r).length < fuel := by
    have hopening := length_opening_lt as (text.isEmpty && es.isEmpty) (printInside tag text es ++
      r)
    obtain ⟨c, cs, hcs, -⟩ := exists_of_isName htag
    rw [hcs, List.length_cons, List.length_append, List.length_cons] at hfuel
    omega
  rw [takeContent_tag htag, takeStartTag_append htag (fun a ha ↦ (has a ha).1) _ _ (by omega),
    Element.isLegal]
  cases as.all (isLegalText ·.2) with
  | false => rfl
  | true =>
    simp only [if_true, Option.bind_some, Bool.true_and]
    cases hempty : text.isEmpty && es.isEmpty with
    | true =>
      obtain rfl := h.eq_nil hempty
      obtain ⟨htext, hes⟩ := Bool.and_eq_true_iff.1 hempty
      obtain rfl := String.isEmpty_iff.1 htext
      obtain rfl := List.isEmpty_iff.1 hes
      have hinside : printInside tag "" [] ++ r = r := rfl
      rw [hinside] at hlength ⊢
      simp only [if_true, hk fuel (by omega)]
      rfl
    | false =>
      rw [h.reads hempty tag r fuel (by omega)]
      cases isLegalText text && allLegal es with
      | false => rfl
      | true =>
        rw [List.length_append] at hlength
        simp only [if_true, Option.bind_some, skipEndTag_append htag, hk fuel (by omega)]
        rfl

mutual

/-- Some content fills a printed element and holds what the element does. -/
theorem Element.exists_content (expand : List Char → Option (List Node)) (hd : d.attributes = []) :
    ∀ {e : Element}, e.Named → ∃ content, Fills expand e.text e.children content ∧
      (allLegal e.children = true → Holds d content e.text e.children)
  | .mk tag as text es, ⟨htag, has, hn, hes⟩ => by
    obtain ⟨ns, hns, hadds⟩ := exists_adds_printAll expand hd hes
    exact exists_fills text hns hadds

/-- Printed elements are taken in as nodes that stand for them. -/
theorem exists_adds_printAll (expand : List Char → Option (List Node)) (hd : d.attributes = []) :
    ∀ {es : List Element}, AllNamed es →
      ∃ ns, (allLegal es = true → Holds d ns "" es) ∧ Adds expand (printAll es) ns (allLegal es)
  | [], _ => ⟨[], fun _ ↦ holds_nil, adds_nil⟩
  | e :: es, ⟨he, hes⟩ => by
    obtain ⟨content, hfills, hholds⟩ := e.exists_content expand hd he
    obtain ⟨ns, hns, hadds⟩ := exists_adds_printAll expand hd hes
    refine ⟨e.node content :: ns, fun h ↦ ?_, (hfills.adds_print he).append hadds fun _ ↦
      stops_printAll es⟩
    obtain ⟨hlegal, hlegals⟩ := Bool.and_eq_true_iff.1 h
    exact (hns hlegals).cons ((hholds (Element.allLegal_children hlegal)).stands hd he hlegal)

end

end TypedSearch.Markup

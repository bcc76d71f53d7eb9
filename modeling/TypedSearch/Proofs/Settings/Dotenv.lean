import TypedSearch.Settings.Dotenv
import TypedSearch.Proofs.Named
import TypedSearch.Proofs.Text.Trimming
import Mathlib.Data.List.Induction

/-!
# Files of variables, line by line

What a file of variables says is what its lines say, one after the other
(`Dotenv.read_line_by_line`): the variables of two texts with a line feed between them are those of
the first text, taken over by those of the second. A line that assigns a value to a key
(`Dotenv.Assigns`) says just that, in quotes or not and whatever blanks stand around its parts, and
a line that assigns nothing (`Dotenv.SaysNothing`) may be left out.
-/

namespace TypedSearch

/-! ## Lines of a text -/

namespace Text

variable {c : Char} {cs : List Char}

/-- A character that ends no line belongs to the first line of what follows. -/
theorem lines_cons_of_not_break (h : isLineBreak c = false) (cs : List Char) :
    lines (c :: cs) = match lines cs with
      | [] => [[c]]
      | l :: ls => (c :: l) :: ls := by
  have hc : c ≠ '\r' := by
    rintro rfl
    cases h
  rw [lines.eq_3 _ _ fun _ hr ↦ absurd hr hc, h]
  rfl

theorem lines_eq_nil_iff : lines cs = [] ↔ cs = [] := by
  fun_induction lines cs <;> simp

/-- A text without a break is a line. -/
theorem lines_of_not_break (hne : cs ≠ []) (h : ∀ c ∈ cs, isLineBreak c = false) :
    lines cs = [cs] := by
  induction cs with
  | nil => exact absurd rfl hne
  | cons c cs ih =>
    obtain ⟨hc, hcs⟩ := List.forall_mem_cons.1 h
    rw [lines_cons_of_not_break hc]
    rcases eq_or_ne cs [] with rfl | hcs'
    · rfl
    · rw [ih hcs' hcs]

/-- A line feed ends the last line of a text, or stands for an empty line if the last line has an
end. A carriage return at the very end of the text joins it. -/
theorem exists_lines_append (as bs : List Char) :
    ∃ gap, (gap = [] ∨ gap = [[]]) ∧ lines (as ++ '\n' :: bs) = lines as ++ (gap ++ lines bs) := by
  fun_induction lines as with
  | case1 => exact ⟨[[]], Or.inr rfl, rfl⟩
  | case2 as ih =>
    obtain ⟨gap, hgap, hlines⟩ := ih
    exact ⟨gap, hgap, congrArg ([] :: ·) hlines⟩
  | case3 c as hpair hc ih =>
    by_cases hstraddles : c = '\r' ∧ as = []
    · obtain ⟨rfl, rfl⟩ := hstraddles
      exact ⟨[], Or.inl rfl, rfl⟩
    · obtain ⟨gap, hgap, hlines⟩ := ih
      refine ⟨gap, hgap, ?_⟩
      have hpair' : ∀ rest, c = '\r' → as ++ '\n' :: bs = '\n' :: rest → False := by
        intro rest hr happ
        cases as with
        | nil => exact hstraddles ⟨hr, rfl⟩
        | cons d as => exact hpair as hr (by rw [(List.cons.inj happ).1])
      rw [List.cons_append, lines.eq_3 _ _ hpair', if_pos hc, hlines]
      rfl
  | case4 c as hpair hc hlast ih =>
    have hnil := lines_eq_nil_iff.1 hlast
    subst hnil
    refine ⟨[], Or.inl rfl, ?_⟩
    rw [List.cons_append, lines_cons_of_not_break (by simpa using hc)]
    rfl
  | case5 c as hpair hc l ls hrest ih =>
    obtain ⟨gap, hgap, hlines⟩ := ih
    refine ⟨gap, hgap, ?_⟩
    rw [List.cons_append, lines_cons_of_not_break (by simpa using hc), hlines, hrest]
    rfl

end Text

namespace Settings

open Text Dotenv

/-! ## Assignments on top of each other -/

variable {vs ws : Variables} {k l u v : String}

def Variables.keys (vs : Variables) : List String := vs.map Prod.fst

theorem Variables.keys_putNamed (a : String × String) (vs : Variables) :
    keys (putNamed Prod.fst a vs) = if a.1 ∈ vs.keys then vs.keys else vs.keys ++ [a.1] :=
  map_putNamed a vs

/-- Variables that take over all assignments of others. -/
def Variables.updated (vs ws : Variables) : Variables :=
  ws.foldl (fun vs a ↦ putNamed Prod.fst a vs) vs

theorem Variables.updated_cons (vs ws : Variables) (a : String × String) :
    vs.updated (a :: ws) = Variables.updated (putNamed Prod.fst a vs) ws := rfl

/-- Two updates in a row are one. -/
theorem Variables.updated_append (vs ws us : Variables) :
    vs.updated (ws ++ us) = (vs.updated ws).updated us :=
  List.foldl_append

theorem Variables.updated_concat (vs ws : Variables) (a : String × String) :
    vs.updated (ws ++ [a]) = putNamed Prod.fst a (vs.updated ws) := vs.updated_append ws [a]

namespace Variables

theorem putNamed_updated_of_mem (hk : k ∈ vs.keys) (hw : k ∉ ws.keys) (v : String) :
    putNamed Prod.fst (k, v) (vs.updated ws) = Variables.updated (putNamed Prod.fst (k, v) vs)
      ws := by
  induction ws generalizing vs with
  | nil => rfl
  | cons a ws ih =>
    obtain ⟨ha, hws⟩ := not_or.1 (List.mem_cons.not.1 hw)
    have hk' : k ∈ Variables.keys (putNamed Prod.fst a vs) := by
      rw [keys_putNamed]
      split
      · exact hk
      · exact List.mem_append_left _ hk
    rw [updated_cons, updated_cons, ih hk' hws, putNamed_comm_of_mem hk ha]

/-- Taking over variables with one more assignment is taking them over and then making the
assignment. -/
theorem updated_putNamed (hw : ws.keys.Nodup) (k v : String) (vs : Variables) :
    vs.updated (putNamed Prod.fst (k, v) ws) = putNamed Prod.fst (k, v) (vs.updated ws) := by
  induction ws generalizing vs with
  | nil => rfl
  | cons a ws ih =>
    obtain ⟨ha, hws⟩ := List.nodup_cons.1 hw
    by_cases h : a.1 = k
    · subst h
      have hmem : a.1 ∈ Variables.keys (putNamed Prod.fst a vs) :=
        List.mem_map_of_mem (mem_putNamed_self a vs)
      rw [putNamed, if_pos (by simp), updated_cons, updated_cons, putNamed_updated_of_mem hmem ha,
        putNamed_putNamed_self]
    · rw [putNamed, if_neg (by simpa using h), updated_cons, ih hws, updated_cons]

theorem nodup_keys_nil : (keys []).Nodup := List.nodup_nil

theorem nodup_updated (h : vs.keys.Nodup) (ws : Variables) : (vs.updated ws).keys.Nodup := by
  induction ws generalizing vs with
  | nil => exact h
  | cons a ws ih => exact ih (nodup_putNamed a h)

/-- Assignments can be gathered before they are taken over. -/
theorem updated_updated (vs ws : Variables) :
    vs.updated (Variables.updated [] ws) = vs.updated ws := by
  induction ws using List.reverseRecOn with
  | nil => rfl
  | append_singleton ws a ih =>
    rw [updated_concat, updated_putNamed (nodup_updated nodup_keys_nil ws), ih, updated_concat]

/-- The last assignment of a key counts. -/
theorem lookup_updated (vs ws : Variables) (k : String) :
    (vs.updated ws).lookup k = (ws.reverse.lookup k).or (vs.lookup k) := by
  induction ws using List.reverseRecOn with
  | nil => rfl
  | append_singleton ws a ih =>
    rw [updated_concat, lookup_putNamed, ih, List.reverse_append, List.reverse_singleton,
      List.singleton_append, lookup_cons_eq_ite]
    split <;> rfl

/-- Keys that are new stand behind the others. -/
theorem keys_updated (hw : ws.keys.Nodup) (vs : Variables) :
    (vs.updated ws).keys = vs.keys ++ ws.keys.filter (· ∉ vs.keys) := by
  induction ws using List.reverseRecOn with
  | nil => simp [updated, keys]
  | append_singleton ws a ih =>
    have happ : keys (ws ++ [a]) = keys ws ++ [a.1] := List.map_append
    rw [happ, List.nodup_append] at hw
    obtain ⟨hws, -, ha⟩ := hw
    have hnew : a.1 ∉ keys ws := fun h ↦ ha _ h _ (List.mem_singleton_self _) rfl
    rw [updated_concat, keys_putNamed, ih hws, happ]
    by_cases h : a.1 ∈ vs.keys <;> simp [h, hnew]

/-- Keys stand in the order of their first assignments. -/
theorem keys_updated_nil (ws : Variables) : (Variables.updated [] ws).keys = ws.keys.eraseDups := by
  induction ws using List.reverseRecOn with
  | nil => rfl
  | append_singleton ws a ih =>
    have happ : keys (ws ++ [a]) = keys ws ++ [a.1] := List.map_append
    rw [updated_concat, keys_putNamed, ih, happ, List.eraseDups_append]
    by_cases h : a.1 ∈ keys ws <;> simp [h, List.removeAll, List.eraseDups_cons]

end Variables

/-! ## Assignments of a text -/

namespace Dotenv

variable {as bs cs key value line : List Char}

def assignments (cs : List Char) : Variables := (lines cs).filterMap assignment?

theorem read_eq_updated (cs : List Char) : read cs = Variables.updated [] (assignments cs) := rfl

/-- A text is read line by line. -/
theorem assignments_append (as bs : List Char) :
    assignments (as ++ '\n' :: bs) = assignments as ++ assignments bs := by
  obtain ⟨gap, hgap, hlines⟩ := exists_lines_append as bs
  have hnothing : gap.filterMap assignment? = [] := by
    rcases hgap with rfl | rfl <;> rfl
  rw [assignments, hlines, List.filterMap_append, List.filterMap_append, hnothing]
  rfl

/-- Later lines update the variables of earlier ones. -/
theorem read_append (as bs : List Char) :
    read (as ++ '\n' :: bs) = (read as).updated (read bs) := by
  rw [read_eq_updated, read_eq_updated, read_eq_updated, assignments_append,
    Variables.updated_append, Variables.updated_updated]

theorem assignments_of_line (hne : line ≠ []) (h : ∀ c ∈ line, isLineBreak c = false) :
    assignments line = (assignment? line).toList := by
  rw [assignments, lines_of_not_break hne h]
  cases ha : assignment? line <;> simp [ha]

/-! ## Lines that assign a value -/

def isQuote (c : Char) : Bool := c == '"' || c == '\''

/-- Blanks that may stand around the parts of a line. -/
def IsGap (cs : List Char) : Prop := ∀ c ∈ cs, isBlank c = true ∧ isLineBreak c = false

/-- A key as it may stand on a line. -/
structure IsKey (key : List Char) : Prop where
  ne_nil : key ≠ []
  no_equals : '=' ∉ key
  no_break : ∀ c ∈ key, isLineBreak c = false
  head : ∀ c ∈ key.head?, isBlank c = false ∧ c ≠ '#'
  last : ∀ c ∈ key.getLast?, isBlank c = false

/-- A value as it may stand on a line, in quotes or not. -/
structure IsValue (value : List Char) : Prop where
  no_break : ∀ c ∈ value, isLineBreak c = false
  head : ∀ c ∈ value.head?, isBlank c = false ∧ isQuote c = false
  last : ∀ c ∈ value.getLast?, isBlank c = false ∧ isQuote c = false

def quotings : List (List Char) := [[], ['"'], ['\'']]

/-- A line that assigns a value to a key. -/
inductive Assigns (key value : List Char) : List Char → Prop
  | intro {quoting before behindKey beforeValue behind : List Char} (quotes : quoting ∈ quotings)
      (start : IsGap before) (left : IsGap behindKey) (right : IsGap beforeValue)
      (finish : IsGap behind) :
      Assigns key value
        (before ++ key ++ behindKey ++ '=' :: (beforeValue ++ (quoting ++ value ++ quoting) ++
          behind))

/-- A line that assigns nothing. -/
inductive SaysNothing : List Char → Prop
  | blank {line : List Char} (h : ∀ c ∈ line, isBlank c = true) : SaysNothing line
  | comment {gap : List Char} (h : ∀ c ∈ gap, isBlank c = true) (text : List Char) :
      SaysNothing (gap ++ '#' :: text)
  | bare {line : List Char} (h : '=' ∉ line) : SaysNothing line

/-! ## What lines assign -/

/-- Quotes of one sort come off a value. -/
theorem unquote_append {quoting : List Char} (hq : quoting ∈ quotings) (hv : IsValue value) :
    unquote (quoting ++ value ++ quoting) = value := by
  have hne : ∀ c, isQuote c = false → (c == '"') = false ∧
    (c == '\'') = false := fun c ↦ Bool.or_eq_false_iff.1
  have hdouble : ∀ quoting : List Char, (∀ c ∈ quoting, (c == '"') = true) →
      strip (· == '"') (quoting ++ value ++ quoting) = value :=
    fun quoting h ↦ strip_append h h (fun c hc ↦ (hne c (hv.head c hc).2).1) fun c hc ↦
      (hne c (hv.last c hc).2).1
  have hsingle : ∀ quoting : List Char, (∀ c ∈ quoting, (c == '\'') = true) →
      strip (· == '\'') (quoting ++ value ++ quoting) = value :=
    fun quoting h ↦ strip_append h h (fun c hc ↦ (hne c (hv.head c hc).2).2) fun c hc ↦
      (hne c (hv.last c hc).2).2
  have hbare : strip (· == '\'') value = value := by simpa using hsingle [] (by simp)
  simp only [quotings, List.mem_cons, List.not_mem_nil, or_false] at hq
  rcases hq with rfl | rfl | rfl
  · rw [unquote, hdouble [] (by simp), hbare]
  · rw [unquote, hdouble ['"'] (by simp), hbare]
  · have houter : strip (· == '"') (['\''] ++ value ++ ['\'']) = ['\''] ++ value ++ ['\''] := by
      refine strip_eq_self (by simp) ?_
      rw [List.getLast?_concat]
      simp
    rw [unquote, houter, hsingle ['\''] (by simp)]

/-- The ends of a value in quotes are not blank. -/
theorem ends_append {quoting : List Char} (hq : quoting ∈ quotings) (hv : IsValue value) :
    (∀ c ∈ (quoting ++ value ++ quoting).head?, isBlank c = false) ∧
      ∀ c ∈ (quoting ++ value ++ quoting).getLast?, isBlank c = false := by
  simp only [quotings, List.mem_cons, List.not_mem_nil, or_false] at hq
  rcases hq with rfl | rfl | rfl
  · simpa using ⟨fun c hc ↦ (hv.head c hc).1, fun c hc ↦ (hv.last c hc).1⟩
  all_goals
    rw [List.getLast?_concat]
    simp [isBlank]

/-- A line without the blanks around it is cut at its first equals sign; what stands behind that is
the value, perhaps with blanks around it. -/
theorem exists_trim_eq {before beforeValue core behind : List Char} (hk : IsKey key)
    (start : IsGap before) (behindKey : List Char) (right : IsGap beforeValue)
    (hends : (∀ c ∈ core.head?, isBlank c = false) ∧ ∀ c ∈ core.getLast?, isBlank c = false)
    (finish : IsGap behind) : ∃ rest,
      trim (before ++ key ++ behindKey ++ '=' :: (beforeValue ++ core ++ behind)) = key ++
      behindKey ++ '=' :: rest ∧
        trim rest = core := by
  have hhead : ∀ rest, ∀ c ∈ (key ++ behindKey ++ '=' :: rest).head?, isBlank c = false := by
    intro rest c hc
    rw [List.append_assoc, List.head?_append_of_ne_nil _ hk.ne_nil] at hc
    exact (hk.head c hc).1
  have hbefore : ∀ c ∈ before, isBlank c = true := fun c hc ↦ (start c hc).1
  have hbeforeValue : ∀ c ∈ beforeValue, isBlank c = true := fun c hc ↦ (right c hc).1
  have hbehind : ∀ c ∈ behind, isBlank c = true := fun c hc ↦ (finish c hc).1
  rcases eq_or_ne core [] with rfl | hcore
  · -- nothing stands behind the equals sign but blanks, and they go with those at the end of the
    -- line
    refine ⟨[], ?_, rfl⟩
    have hafter : ∀ c ∈ beforeValue ++ behind, isBlank c = true := fun c hc ↦
      (List.mem_append.1 hc).elim (hbeforeValue c) (hbehind c)
    have htrim := strip_append hbefore hafter (hhead []) (by simp [isBlank])
    simpa [trim] using htrim
  · refine ⟨beforeValue ++ core, ?_, ?_⟩
    · have hlast : ∀ c ∈ (key ++ behindKey ++ '=' :: (beforeValue ++ core)).getLast?, isBlank c =
          false := by
        intro c hc
        rw [List.getLast?_append_of_ne_nil _ (List.cons_ne_nil _ _), ← List.cons_append,
          List.getLast?_append_of_ne_nil _ hcore] at hc
        exact hends.2 c hc
      have htrim := strip_append hbefore hbehind (hhead _) hlast
      simpa [trim] using htrim
    · have htrim := strip_append hbeforeValue (by simp : ∀ c ∈ [], isBlank c = true) hends.1 hends.2
      simpa [trim] using htrim

/-- A line that assigns a value to a key is read so, quoted or not. -/
theorem assignment?_of_assigns (hk : IsKey key) (hv : IsValue value) (h : Assigns key value line) :
    assignment? line = some (.ofList key, .ofList value) := by
  obtain @⟨quoting, before, behindKey, beforeValue, behind, quotes, start, left, right, finish⟩ := h
  obtain ⟨rest, hline, hrest⟩ := exists_trim_eq hk start behindKey right (ends_append quotes hv)
    finish
  have hleft : ∀ c ∈ behindKey, isBlank c = true := fun c hc ↦ (left c hc).1
  have hmark : '=' ∉ key ++ behindKey := fun hm ↦ (List.mem_append.1 hm).elim hk.no_equals
    fun hm ↦ absurd (hleft '=' hm) (by decide)
  have hkey : trim (key ++ behindKey) = key := by
    have htrim := strip_append
      (by simp : ∀ c ∈ [], isBlank c = true) hleft (fun c hc ↦ (hk.head c hc).1) hk.last
    simpa [trim] using htrim
  have hnote : (key ++ behindKey ++ '=' :: rest).head? ≠ some '#' := by
    rw [List.append_assoc, List.head?_append_of_ne_nil _ hk.ne_nil]
    exact fun hhead ↦ (hk.head '#' hhead).2 rfl
  have hne : key.isEmpty = false := by simpa using hk.ne_nil
  simp only [assignment?, hline, cut_append hmark, hkey, hrest, unquote_append quotes hv,
    beq_iff_eq, hnote, if_false, hne]
  rfl

/-- A comment, an empty line and a line without a sign say nothing. -/
theorem assignment?_of_saysNothing (h : SaysNothing line) : assignment? line = none := by
  cases h with
  | blank h =>
    have hline : trim line = [] := by
      rw [trim, strip, List.dropWhile_eq_nil_iff.2 h]
      rfl
    simp [assignment?, hline, cut]
  | @comment gap h text =>
    have hdrop : (gap ++ '#' :: text).dropWhile isBlank = '#' :: text := by
      rw [List.dropWhile_append_of_pos h]
      rfl
    have hhead : (trim (gap ++ '#' :: text)).head? = some '#' := by
      rw [trim, strip, hdrop, stripEnd, List.reverse_cons, List.dropWhile_append]
      split <;> simp [isBlank]
    simp [assignment?, hhead]
  | bare h =>
    have hmark : '=' ∉ trim line := by
      obtain ⟨before, after, -, -, hline⟩ := surrounds_trim line
      intro hm
      refine h ?_
      rw [hline]
      simp [hm]
    simp [assignment?, cut_of_not_mem hmark]

theorem read_of_assignment? {a : Option (String × String)} (h : ∀ c ∈ line, isLineBreak c = false)
    (ha : assignment? line = a) : read line = a.toList := by
  rcases eq_or_ne line [] with rfl | hne
  · rw [← ha]
    rfl
  · rw [read_eq_updated, assignments_of_line hne h, ha]
    cases a <;> rfl

theorem no_break_of_assigns (hk : IsKey key) (hv : IsValue value) (h : Assigns key value line) :
    ∀ c ∈ line, isLineBreak c = false := by
  obtain @⟨quoting, before, behindKey, beforeValue, behind, quotes, start, left, right, finish⟩ := h
  have hquoting : ∀ c ∈ quoting, isLineBreak c = false := by
    simp only [quotings, List.mem_cons, List.not_mem_nil, or_false] at quotes
    rcases quotes with rfl | rfl | rfl <;> simp [isLineBreak]
  intro c hc
  simp only [List.mem_append, List.mem_cons] at hc
  rcases hc with ((hc | hc) | hc) | rfl | ((hc | (hc | hc) | hc) | hc)
  · exact (start c hc).2
  · exact hk.no_break c hc
  · exact (left c hc).2
  · rfl
  · exact (right c hc).2
  · exact hquoting c hc
  · exact hv.no_break c hc
  · exact hquoting c hc
  · exact (finish c hc).2

/-- Keys stand in the order in which they first come up. -/
theorem keys_read (cs : List Char) : (read cs).keys = (assignments cs).keys.eraseDups :=
  Variables.keys_updated_nil _

theorem nodup_keys_read (cs : List Char) : (read cs).keys.Nodup :=
  Variables.nodup_updated Variables.nodup_keys_nil _

/-- A key has the value that was assigned to it last. -/
theorem lookup_read (cs : List Char) (k : String) :
    (read cs).lookup k = (assignments cs).reverse.lookup k := by
  rw [read_eq_updated, Variables.lookup_updated, List.lookup_nil, Option.or_none]

/-! ## Main statement -/

/-- What a file of variables says, it says line by line. Two texts with a line feed between them
give the variables of the first, taken over by those of the second: for each key the last assignment
counts, and keys stand in the order of their first assignments. A line that assigns a value to a
key, with or without quotes and with blanks around its parts, gives just that assignment, and a line
that is blank, a comment or without an equals sign gives nothing, wherever it stands. -/
theorem read_line_by_line :
    (∀ as bs : List Char, read (as ++ '\n' :: bs) = (read as).updated (read bs) ∧
      (read (as ++ '\n' :: bs)).keys = (read as).keys ++
        (read bs).keys.filter (· ∉ (read as).keys) ∧
      ∀ k, (read (as ++ '\n' :: bs)).lookup k = ((read bs).lookup k).or ((read as).lookup k)) ∧
    (∀ cs : List Char, (read cs).keys = (assignments cs).keys.eraseDups ∧
      ∀ k, (read cs).lookup k = (assignments cs).reverse.lookup k) ∧
    (∀ key value line : List Char, IsKey key → IsValue value → Assigns key value line →
      read line = [(.ofList key, .ofList value)]) ∧
    ∀ line : List Char, (∀ c ∈ line, isLineBreak c = false) → SaysNothing line → read line = [] ∧
      ∀ as bs : List Char, read (as ++ '\n' :: (line ++ '\n' :: bs)) = read (as ++ '\n' :: bs) := by
  refine ⟨fun as bs ↦ ⟨read_append as bs, ?_, fun k ↦ ?_⟩, fun cs ↦ ⟨keys_read cs, lookup_read cs⟩,
    ?_, ?_⟩
  · rw [read_append, Variables.keys_updated (nodup_keys_read bs)]
  · rw [lookup_read, assignments_append, List.reverse_append, List.lookup_append, lookup_read,
      lookup_read]
  · intro key value line hk hv h
    exact read_of_assignment? (no_break_of_assigns hk hv h) (assignment?_of_assigns hk hv h)
  · intro line hbreak h
    have hnothing : read line = [] := read_of_assignment? hbreak (assignment?_of_saysNothing h)
    refine ⟨hnothing, fun as bs ↦ ?_⟩
    rw [read_append, read_append line, hnothing, read_eq_updated bs, Variables.updated_updated,
      ← read_eq_updated, ← read_append]

/-- A file of three lines: a number of seconds, a comment, and another number of seconds in quotes
and blanks. -/
theorem read_line_by_line_seconds :
    IsKey "SOLR_HTTP_TIMEOUT".toList ∧ IsValue "30".toList ∧
      Assigns "SOLR_HTTP_TIMEOUT".toList "30".toList "\tSOLR_HTTP_TIMEOUT = '30' ".toList ∧
      SaysNothing "  # A=B".toList ∧
      read ("SOLR_HTTP_TIMEOUT=9\n  # A=B\n\tSOLR_HTTP_TIMEOUT = '30' ").toList =
        [("SOLR_HTTP_TIMEOUT", "30")] := by
  have hkey : IsKey "SOLR_HTTP_TIMEOUT".toList := by
    constructor <;> simp [isBlank, isLineBreak]
  have hvalue : IsValue "30".toList := by
    constructor <;> simp [isBlank, isLineBreak, isQuote]
  have hassigns : Assigns "SOLR_HTTP_TIMEOUT".toList "30".toList
      "\tSOLR_HTTP_TIMEOUT = '30' ".toList := by
    refine @Assigns.intro _ _ ['\''] ['\t'] [' '] [' '] [' '] ?_ ?_ ?_ ?_ ?_
    all_goals simp [quotings, IsGap, isBlank, isLineBreak]
  have hcomment : SaysNothing "  # A=B".toList :=
    @SaysNothing.comment [' ', ' '] (by simp [isBlank]) " A=B".toList
  obtain ⟨happend, -, hline, hnothing⟩ := read_line_by_line
  have hleave := (hnothing "  # A=B".toList (by simp [isLineBreak]) hcomment).2
    "SOLR_HTTP_TIMEOUT=9".toList
  have hseconds := hline _ _ _ hkey hvalue hassigns
  refine ⟨hkey, hvalue, hassigns, hcomment, ?_⟩
  calc
    read ("SOLR_HTTP_TIMEOUT=9\n  # A=B\n\tSOLR_HTTP_TIMEOUT = '30' ").toList
      = read ("SOLR_HTTP_TIMEOUT=9".toList ++ '\n' :: "\tSOLR_HTTP_TIMEOUT = '30' ".toList) :=
        hleave _
    _ = (read "SOLR_HTTP_TIMEOUT=9".toList).updated [("SOLR_HTTP_TIMEOUT", "30")] := by
      rw [(happend _ _).1, hseconds]
      rfl
    _ = [("SOLR_HTTP_TIMEOUT", "30")] := by decide +kernel

end Dotenv

end Settings

end TypedSearch

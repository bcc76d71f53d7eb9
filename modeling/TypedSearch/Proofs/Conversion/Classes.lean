import TypedSearch.Conversion
import TypedSearch.Query.Literal
import TypedSearch.Value.Equality
import TypedSearch.Proofs.Number.Numeral
import TypedSearch.Proofs.Number.Ratio
import TypedSearch.Proofs.Outcome

/-!
# Objects of generic classes read back

What is written of a member of an enumeration, of an object of a class of texts, of a ratio or of a
date is read by calling the class with it. `Rereads` says for which objects that leads back to an
equal one: for an enumeration those whose value is equal to what is shown of it, or for which it has
a way of its own, for a class of texts those that the class makes equal from what they are shown as,
for the class of ratios those that are short enough to be written, and for the class of dates none.

Classes may construct their objects and compare them in ways of their own (`Customs`), and an object
of a class of texts may be shown as another text than its characters. What such a class fails with
while it shows an object is beyond this.
-/

namespace TypedSearch

open Text Conversion Outcome

/-! ## Objects of a class -/

def Enumeration.symbol (e : Enumeration) (m : String × Value) : Value :=
  .symbol e.className.name m.1 m.2 e.whole

/-- Is it a member of its own? One whose value equals that of an earlier member is another name of
that one. The members of an enumeration of integers have integers as values. -/
structure Enumeration.HasMember (e : Enumeration) (m : String × Value) : Prop where
  exists_split : ∃ earlier later, e.members = earlier ++ m :: later ∧
    ∀ n ∈ earlier, n.2.equals m.2 = false
  exists_int : e.whole = true → ∀ n ∈ e.members, ∃ i, n.2 = .int i

theorem Enumeration.HasMember.mem {e : Enumeration} {m : String × Value} (h : e.HasMember m) :
    m ∈ e.members := by
  obtain ⟨earlier, later, hsplit, -⟩ := h.exists_split
  rw [hsplit]
  exact List.mem_append_right _ List.mem_cons_self

/-- The objects of a class of single values that is read by calling it. A moment is a date too. -/
inductive Declared.Instance : Declared → Value → Prop
  | member {e : Enumeration} {m : String × Value} (h : e.HasMember m) :
      Instance (.enumeration e) (e.symbol m)
  | code (c : ClassName) (s shown : String) : Instance (.textual c) (.code c.name s shown)
  | ratio (q : Rat) : Instance (.base .ratio) (.ratio q)
  | date (d : Date) : Instance (.base .date) (.date d)
  | moment (m : Moment) : Instance (.base .date) (.moment m)

theorem Declared.Instance.hasMember {e : Enumeration} {m : String × Value}
    (h : (Declared.enumeration e).Instance (e.symbol m)) : e.HasMember m := by
  generalize hv : e.symbol m = v at h
  cases h with
  | @member _ n hn =>
    obtain ⟨-, hname, hvalue, -⟩ := Value.symbol.inj hv
    rwa [Prod.ext hname hvalue]

namespace Conversion

/-- What classes do in ways of their own: what a class of texts makes of a text, what an enumeration
makes of one that is the value of no member, and which values an object of a class of texts is equal
to. -/
structure Customs where
  text : ClassName → String → Except Setback Value
  missing : Enumeration → String → Except Setback Value
  equal : ClassName → Value → Value → Bool

/-- The customs of classes that have none of their own. -/
def inherited : Customs where
  text c s := .ok (.code c.name s s)
  missing _ _ := .error (.refused .badText)
  equal _ v w := v.equals w

/-- Types called with a text, where some have customs of their own. -/
def callWith (own : Customs) : Caller := fun t s ↦
  match t with
  | .textual c => own.text c s
  | .enumeration e => match memberOf e s with
    | some w => .ok w
    | none => own.missing e s
  | t => call t s

def Customs.agree (own : Customs) (t : Declared) (v w : Value) : Bool :=
  match t with
  | .textual c => own.equal c v w
  | _ => v.equals w

theorem callWith_inherited : callWith inherited = call := by
  funext t s
  cases t <;> simp only [callWith, call] <;> rfl

/-- The objects that their classes read from what is written of them. -/
inductive Rereads (own : Customs) : Declared → Value → Prop
  | member {e : Enumeration} {m : String × Value} {s : String} (hs : m.2.display? = .ok s)
      (h : m.2.text? = some s) : Rereads own (.enumeration e) (e.symbol m)
  | missing {e : Enumeration} {m : String × Value} {s : String} {w : Value}
      (hs : m.2.display? = .ok s) (hnone : memberOf e s = none) (h : own.missing e s = .ok w)
      (hw : (e.symbol m).equals w = true) : Rereads own (.enumeration e) (e.symbol m)
  | code {c : ClassName} {s shown : String} {w : Value} (h : own.text c shown = .ok w)
      (hw : own.equal c (.code c.name s shown) w = true) :
      Rereads own (.textual c) (.code c.name s shown)
  | ratio {q : Rat} (h : Ratio.Writable q) : Rereads own (.base .ratio) (.ratio q)

/-- What comes of a text that does not lead back to the object it was written of: another member
whose value is that text, something else that the class makes of it, a fault of the class, or a
refusal that names text and type. -/
inductive Misread (own : Customs) (s : String) : Declared → Except Fault Value → Prop
  | member {e : Enumeration} {n : String × Value} (hn : n ∈ e.members) (h : n.2.text? = some s) :
      Misread own s (.enumeration e) (.ok (e.symbol n))
  | missing {e : Enumeration} {w : Value} (hnone : memberOf e s = none)
      (h : own.missing e s = .ok w) : Misread own s (.enumeration e) (.ok w)
  | code {c : ClassName} {w : Value} (h : own.text c s = .ok w) : Misread own s (.textual c) (.ok w)
  | escaped {t : Declared} {f : Fault} (h : callWith own t s = .error (.escaped f)) :
      Misread own s t (.error f)
  | refused {t : Declared} {reason : Reason} (h : callWith own t s = .error (.refused reason)) :
      Misread own s t (.error (.unreadable s t.name (some reason)))

variable {own : Customs} {e : Enumeration} {m n : String × Value} {c : ClassName} {s : String}
  {t : Declared} {v w : Value}

/-! ## Enumerations -/

theorem isText_iff : isText s v = true ↔ v.text? = some s := by
  cases v <;> simp [isText, Value.text?]

theorem equals_of_text? (hv : v.text? = some s) (hw : w.text? = some s) : v.equals w = true := by
  cases v <;> cases hv <;> cases w <;> cases hw <;> simp [Value.equals, Value.isNumber, Value.text?]

/-- No member before a member of its own has its text as a value. -/
theorem memberOf_of_text? (hm : e.HasMember m) (h : m.2.text? = some s) :
    memberOf e s = some (e.symbol m) := by
  obtain ⟨earlier, later, hsplit, hearlier⟩ := hm.exists_split
  have hnone : earlier.find? (fun n ↦ isText s n.2) = none := by
    rw [List.find?_eq_none]
    intro n hn htext
    exact absurd (equals_of_text? (isText_iff.1 htext) h) (by rw [hearlier n hn]; decide)
  simp [memberOf, hsplit, List.find?_append, hnone, isText_iff.2 h, Enumeration.symbol]

/-- The member found for a text has that text as its value. -/
theorem exists_of_memberOf (h : memberOf e s = some w) :
    ∃ n ∈ e.members, n.2.text? = some s ∧ w = e.symbol n := by
  obtain ⟨n, hn, rfl⟩ := Option.map_eq_some_iff.1 h
  have htext : isText s n.2 = true := by simpa using List.find?_some hn
  exact ⟨n, List.mem_of_find?_eq_some hn, isText_iff.1 htext, rfl⟩

/-- An enumeration with a text among its values is none of integers. -/
theorem whole_eq_false (hm : e.HasMember m) (hn : n ∈ e.members) (h : n.2.text? = some s) :
    e.whole = false := by
  by_contra hwhole
  obtain ⟨i, hi⟩ := hm.exists_int (Bool.eq_true_of_not_eq_false hwhole) n hn
  rw [hi] at h
  cases h

/-- Members of an enumeration that are no numbers are equal only to themselves. -/
theorem equals_symbol_iff (h : e.whole = false) : (e.symbol m).equals (e.symbol n) = true ↔
    m = n := by
  simp [Enumeration.symbol, h, Value.equals, Value.isNumber, Value.text?, Prod.ext_iff]

/-! ## Calls -/

/-- A type whose kind is generic is called. -/
theorem convertBy_of_instance (h : t.Instance v) :
    convertBy (callWith own) t s = (callWith own t s).mapError (Setback.fault s t) := by
  cases h <;> rfl

/-- A ratio reads the text that it writes. -/
theorem callWith_ratio {q : Rat} (h : Ratio.Writable q) :
    callWith own (.base .ratio) (.ofList (Ratio.write q)) = .ok (.ratio q) := by
  change callBase .ratio _ = _
  simp only [callBase, String.toList_ofList, Ratio.read_write h]

/-- A call that fails is a refusal, or the fault of the class. -/
theorem misread_of_error {setback : Setback} (h : callWith own t s = .error setback) :
    Misread own s t (.error (setback.fault s t)) := by
  cases setback with
  | refused reason => exact .refused h
  | escaped f => exact .escaped h

/-- A ratio is written unless it has too many digits. -/
theorem literal_ratio {q : Rat} : (Value.ratio q).literal =
    if Ratio.Writable q then .ok (.ofList (Ratio.write q)) else .error .tooManyDigits := by
  simp [Value.literal, Value.display?, Value.fits, Value.display]

theorem equals_ratio_self (q : Rat) : (Value.ratio q).equals (.ratio q) = true := by
  simp [Value.equals, Value.isNumber, Value.magnitude?]

/-! ## Dates -/

/-- A date is unpacked from four characters, where ten are written. -/
theorem length_of_unpackDate (h : unpackDate s = .ok w) : s.toList.length = 4 := by
  unfold unpackDate at h
  split at h
  case h_1 hs => simpa using congrArg List.length hs
  case h_2 => cases h

theorem length_write (d : Date) : d.write.length = 10 := by
  obtain ⟨-, hyear⟩ := d.exists_day.1
  have hmonth := d.exists_day.2.1.2
  have hday := d.exists_day.2.2.2
  have hdays : daysIn d.year d.month ≤ 31 := by
    unfold daysIn
    split_ifs <;> omega
  have hyears : (padded 4 d.year).length = 4 := length_padded_of_lt (by decide) (by omega)
  have hmonths : (padded 2 d.month).length = 2 := length_padded_of_lt (by decide) (by omega)
  have hdays : (padded 2 d.day).length = 2 := length_padded_of_lt (by decide) (by omega)
  simp [Date.write, hyears, hmonths, hdays]

theorem length_layout (d : Date) (t : Time) : 5 < (Timestamp.layout d t).length := by
  simp only [Timestamp.layout, List.length_append, List.length_cons, List.length_nil]
  omega

/-- No text that a date or a moment is written as is taken for the octets of a date. -/
theorem not_unpackDate_of_literal {text : String} (ht : (Declared.base .date).Instance v)
    (htext : v.literal = .ok text) : unpackDate text ≠ .ok w := by
  intro h
  have hlength := length_of_unpackDate h
  cases ht with
  | date d =>
    obtain rfl : .ofList d.write = text := Except.ok.inj htext
    rw [String.toList_ofList, length_write] at hlength
    cases hlength
  | moment m =>
    simp only [Value.literal, Timestamp.write?] at htext
    split at htext
    case h_2 => cases htext
    case h_1 cs hcs =>
      obtain rfl : .ofList cs = text := Except.ok.inj htext
      rw [String.toList_ofList] at hlength
      have hlayout : ∃ d t, cs = Timestamp.layout d t := by
        split at hcs
        · exact ⟨_, _, (Option.some.inj hcs).symm⟩
        · obtain ⟨u, -, rfl⟩ := Option.map_eq_some_iff.1 hcs
          exact ⟨_, _, rfl⟩
      obtain ⟨d, t, rfl⟩ := hlayout
      have := length_layout d t
      omega

/-! ## Objects read back -/

/-- Objects of classes belong to types that convert by calling. -/
theorem kind?_of_instance (h : t.Instance v) : t.kind? = .ok (some .generic) := by
  cases h <;> rfl

/-- What an object is written as leads back to an equal object, for the objects that are read
back. -/
theorem Rereads.exists_call (ht : t.Instance v) (h : Rereads own t v) :
    ∃ text w, v.literal = .ok text ∧ callWith own t text = .ok w ∧ own.agree t v w = true := by
  cases h with
  | @member e m s hshown hs =>
    have hm : e.HasMember m := ht.hasMember
    refine ⟨s, e.symbol m, hshown, ?_, ?_⟩
    · simp only [callWith, memberOf_of_text? hm hs]
    · exact (equals_symbol_iff (whole_eq_false hm hm.mem hs)).2 rfl
  | @missing e m s w hs hnone hown hw => exact ⟨s, w, hs, by simp only [callWith, hnone, hown], hw⟩
  | @code c s shown w hown hw => exact ⟨shown, w, rfl, hown, hw⟩
  | ratio hq =>
    exact ⟨_, _, literal_ratio.trans (if_pos hq), callWith_ratio hq, equals_ratio_self _⟩

/-- What a text leads to instead, that was written of an object which it does not lead back to. -/
theorem misread_of_not_rereads {text : String} (ht : t.Instance v) (h : ¬ Rereads own t v)
    (htext : v.literal = .ok text) :
    Misread own text t ((callWith own t text).mapError (Setback.fault text t)) ∧
      ∀ w, callWith own t text = .ok w → own.agree t v w = false := by
  cases hcall : callWith own t text with
  | error setback => exact ⟨misread_of_error hcall, fun w h ↦ by cases h⟩
  | ok w =>
    suffices hw : Misread own text t (.ok w) ∧ own.agree t v w = false from
      ⟨hw.1, fun u hu ↦ Except.ok.inj hu ▸ hw.2⟩
    cases ht with
    | @member e m hm =>
      simp only [callWith] at hcall
      split at hcall
      · rename_i u hu
        obtain ⟨n, hn, hs, rfl⟩ := exists_of_memberOf hu
        cases hcall
        refine ⟨.member hn hs, Bool.eq_false_iff.2 fun heq ↦ h (.member htext ?_)⟩
        rwa [(equals_symbol_iff (whole_eq_false hm hn hs)).1 heq]
      · rename_i hnone
        exact ⟨.missing hnone hcall, Bool.eq_false_iff.2 fun heq ↦
          h (.missing htext hnone hcall heq)⟩
    | code c s shown =>
      obtain rfl : shown = text := Except.ok.inj htext
      exact ⟨.code hcall, Bool.eq_false_iff.2 fun heq ↦ h (.code hcall heq)⟩
    | ratio q =>
      rw [literal_ratio, if_neg fun hq ↦ h (.ratio hq)] at htext
      cases htext
    | date d => exact absurd hcall (not_unpackDate_of_literal (.date d) htext)
    | moment m => exact absurd hcall (not_unpackDate_of_literal (.moment m) htext)

/-- A value cannot be shown for one reason only, the number of its digits. -/
theorem eq_tooManyDigits_of_display? {f : Fault} (h : v.display? = .error f) :
    f = .tooManyDigits := by
  unfold Value.display? at h
  split at h <;> split at h <;> cases h <;> rfl

/-- What an object cannot be written for: a whole number that is too long, or a moment outside the
calendar. -/
theorem literal_eq_error_of_instance {f : Fault} (ht : t.Instance v) (h : v.literal = .error f) :
    f = .tooManyDigits ∨ f = .calendarOverflow := by
  cases ht with
  | @member e m hm => exact .inl (eq_tooManyDigits_of_display? h)
  | code c s => cases h
  | ratio q => exact .inl (eq_tooManyDigits_of_display? (v := .ratio q) h)
  | date d => cases h
  | moment m =>
    simp only [Value.literal] at h
    split at h
    · cases h
    · exact .inr (Except.error.inj h).symm

/-- A class of texts that keeps its characters, when it is called, and compares them is read back
for just those objects that are shown as their characters. -/
theorem rereads_code_iff {shown : String}
    (hmake : ∀ text, ∃ x, own.text c text = .ok (.code c.name text x))
    (hequal : own.equal c = inherited.equal c) :
    Rereads own (.textual c) (.code c.name s shown) ↔ shown = s := by
  have hagree : ∀ x, (Value.code c.name s shown).equals (.code c.name shown x) = true ↔
      shown = s := by
    intro x
    rw [eq_comm (a := shown)]
    simp [Value.equals, Value.isNumber, Value.text?]
  obtain ⟨x, hx⟩ := hmake shown
  refine ⟨fun h ↦ ?_, fun h ↦ .code hx ?_⟩
  · generalize hv : Value.code c.name s shown = v at h
    cases h with
    | @code _ _ _ w hw heq =>
      obtain ⟨-, rfl, rfl⟩ := Value.code.inj hv
      rw [hx] at hw
      cases hw
      rw [hequal] at heq
      exact (hagree x).1 heq
  · rw [hequal]
    exact (hagree x).2 h

/-- An enumeration without a way of its own reads just the members whose value is equal to what is
shown of it. -/
theorem rereads_symbol_iff (h : own.missing e = inherited.missing e) :
    Rereads own (.enumeration e) (e.symbol m) ↔ ∃ s, m.2.display? = .ok s ∧ m.2.text? = some s := by
  refine ⟨fun hr ↦ ?_, fun ⟨s, hshown, hs⟩ ↦ .member hshown hs⟩
  generalize hv : e.symbol m = v at hr
  cases hr with
  | @member _ n s hshown hs =>
    rw [← (Value.symbol.inj hv).2.2.1] at hshown hs
    exact ⟨s, hshown, hs⟩
  | missing hs hnone hown =>
    rw [h] at hown
    cases hown

/-- An enumeration in which the text of one member's value is the value of another. -/
def mixedMembers : Enumeration := ⟨⟨"demo", "Mixed"⟩, [("ONE", .int 1), ("TEXT", .text "1")], false⟩

theorem hasMember_mixedMembers :
    mixedMembers.HasMember ("ONE", .int 1) ∧ mixedMembers.HasMember ("TEXT", .text "1") := by
  have hwhole : mixedMembers.whole = true → ∀ n ∈ mixedMembers.members, ∃ i, n.2 = .int i :=
    fun h ↦ by cases h
  exact ⟨⟨⟨[], _, rfl, by simp⟩, hwhole⟩, ⟨⟨[("ONE", .int 1)], [], rfl, by decide⟩, hwhole⟩⟩

def levels : Enumeration := ⟨⟨"demo", "Level"⟩, [("LOW", .int 1), ("HIGH", .int 2)], true⟩

end Conversion

end TypedSearch

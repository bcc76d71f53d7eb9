import TypedSearch.Annotation.Template

/-!
# What layouts and templates keep

A layout only fills up: what is laid out is as wide as the layout says, or as it was
(`Layout.length_pad`), and all of it is still there (`Layout.sublist_pad`). A template without
marks, or without braces, is left as it is (`Template.fill_of_no_mark`,
`Template.fillBraces_of_no_brace`).
-/

namespace TypedSearch

namespace Layout

/-- What is laid out takes the columns that are asked for, or more if it is longer. -/
theorem length_pad (l : Layout) (standard : Char) (front body : List Char) :
    (l.pad standard front body).length = max l.width (front.length + body.length) := by
  unfold pad
  generalize l.align.getD _ = align
  dsimp only
  split <;> simp only [List.length_append, List.length_replicate] <;> omega

/-- Filling puts characters before, between and behind what is there, and takes none away. -/
theorem sublist_pad (l : Layout) (standard : Char) (front body : List Char) :
    (front ++ body).Sublist (l.pad standard front body) := by
  unfold pad
  generalize l.align.getD _ = align
  dsimp only
  split
  · exact List.sublist_append_left _ _
  · rw [List.append_assoc _ front body]
    exact (List.sublist_append_right _ _).trans (List.sublist_append_left _ _)
  · rw [List.append_assoc]
    exact (List.Sublist.refl front).append (List.sublist_append_right _ _)
  · rw [List.append_assoc]
    exact List.sublist_append_right _ _

end Layout

namespace Template

variable {cs : List Char} {fuel : Nat} {template : String} {t : Declared} {ts : List Declared}

/-- Without a percent sign nothing is filled in and no argument is used. -/
theorem fillWith_of_no_mark (whole : Declared) {place : Nat} (hfuel : cs.length < fuel)
    (h : '%' ∉ cs) :
    fillWith whole fuel place cs ts = .ok (.ofList cs, ts) := by
  induction cs generalizing fuel place with
  | nil =>
    cases fuel with
    | zero => cases hfuel
    | succ fuel => rfl
  | cons c cs ih =>
    obtain ⟨hc, hcs⟩ := by simpa using h
    cases fuel with
    | zero => cases hfuel
    | succ fuel =>
      rw [fillWith, ih (Nat.lt_of_succ_lt_succ hfuel) hcs]
      · have hcons : String.ofList (c :: cs) = .singleton c ++ .ofList cs :=
          @String.ofList_append [c] cs
        rw [hcons]
        rfl
      · exact Ne.symm hc

/-- A template without marks takes no thing in, so it is for things that may be left over, or for
none. -/
theorem fill_of_no_mark (h : '%' ∉ template.toList) (ht : (fillings t).isEmpty || hasKeys t) :
    fill template t = .ok template := by
  rw [fill, fillWith_of_no_mark t (Nat.lt_succ_self _) h]
  change (if _ then _ else _) = _
  rw [if_pos ht, String.ofList_toList]
  rfl

/-- Without a brace the layout passes the text on as it is. -/
theorem fillBracesWith_of_no_brace {named : List (String × Declared)} {n : Numbering}
    {layout : Numbering → List Char → Except Fault (String × Numbering)} (hfuel : cs.length < fuel)
    (hopen : '\x7b' ∉ cs) (hclose : '\x7d' ∉ cs) :
    fillBracesWith ts named layout fuel n cs = .ok (.ofList cs, n) := by
  induction cs generalizing fuel with
  | nil =>
    cases fuel with
    | zero => cases hfuel
    | succ fuel => rfl
  | cons c cs ih =>
    obtain ⟨hc, hcs⟩ := by simpa using hopen
    obtain ⟨hd, hds⟩ := by simpa using hclose
    cases fuel with
    | zero => cases hfuel
    | succ fuel =>
      rw [fillBracesWith, ih (Nat.lt_of_succ_lt_succ hfuel) hcs hds]
      · have hcons : String.ofList (c :: cs) = .singleton c ++ .ofList cs :=
          @String.ofList_append [c] cs
        rw [hcons]
        rfl
      all_goals simp [Ne.symm hc, Ne.symm hd]

/-- A template without braces takes no thing in, and the things are left over. -/
theorem fillBraces_of_no_brace {named : List (String × Declared)} (hopen : '\x7b' ∉ template.toList)
    (hclose : '\x7d' ∉ template.toList) : fillBraces template ts named = .ok template := by
  rw [fillBraces, fillBracesWith_of_no_brace (Nat.lt_succ_self _) hopen hclose]
  exact congrArg Except.ok String.ofList_toList

end Template

end TypedSearch

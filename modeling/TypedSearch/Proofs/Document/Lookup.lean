import TypedSearch.Proofs.Document.Fields

/-!
# Which field a name reaches

Two tables stand behind the names of a schema: one of the members declared as wire fields, in which
the first one of a name stays, and one of all members, in which the last one stays. `Schema.Reaches`
is the rule that they come to together: the first field declared under the name, or, if there is
none, the one whose member bears it. In a schema that was built the second table has nothing to
choose, since no two of its fields set the same member.
-/

namespace TypedSearch

def Field.IsDeclaredAs (f : Field) (w : String) : Prop := f.isExplicit = true ∧ f.wireName = w

namespace Schema

/-- The field that a name is for: the first one declared under it, or else the one whose member
bears it. -/
inductive Reaches (s : Schema) (w : String) : Field → Prop where
  | declared {before : List Field} {f : Field} {after : List Field}
      (fields_eq : s.fields = before ++ f :: after) (isDeclared : f.IsDeclaredAs w)
      (isFirst : ∀ g ∈ before, ¬ g.IsDeclaredAs w) : Reaches s w f
  | member {f : Field} (notDeclared : ∀ g ∈ s.fields, ¬ g.IsDeclaredAs w) (mem : f ∈ s.fields)
      (member_eq : f.member = w) : Reaches s w f

variable {s : Schema} {f : Field} {w : String} {t : DocumentType}

/-! ## The search through both tables -/

/-- The only element that passes is the one found. -/
theorem find?_eq_some_of_forall_eq {α : Type} {p : α → Bool} {x : α} {xs : List α} (hx : x ∈ xs)
    (hp : p x = true) (h : ∀ y ∈ xs, p y = true → y = x) : xs.find? p = some x := by
  cases hf : xs.find? p with
  | none => exact absurd hp (by simpa using List.find?_eq_none.1 hf x hx)
  | some y => rw [h y (List.mem_of_find?_eq_some hf) (List.find?_some hf)]

/-- A wire name reaches the first member declared under it, or else the last one that bears it. -/
theorem lookup_eq (s : Schema) (w : String) : s.lookup w =
    (s.fields.find? fun f ↦ f.isExplicit && f.wireName == w).or
      (s.fields.reverse.find? (Field.member · == w)) := by
  have hwire : s.byWireName.find? (Field.wireName · == w) =
      s.fields.find? fun f ↦ f.isExplicit && f.wireName == w := by
    rw [byWireName, find?_foldl_keepNamed, List.find?_nil, Option.none_or, List.find?_filter]
    congr 1
    funext f
    rw [Bool.decide_and, Bool.decide_coe, Bool.decide_coe]
  have hmember : s.byMember.find? (Field.member · == w) =
      s.fields.reverse.find? (Field.member · == w) := by
    rw [byMember, find?_foldl_putNamed, List.find?_nil, Option.or_none]
  rw [lookup, hwire, hmember]
  exact Option.orElse_eq_or

theorem mem_of_lookup (h : s.lookup w = some f) : f ∈ s.fields := by
  rw [lookup_eq] at h
  obtain h | ⟨-, h⟩ := Option.or_eq_some_iff.1 h
  · exact List.mem_of_find?_eq_some h
  · exact List.mem_reverse.1 (List.mem_of_find?_eq_some h)

/-- Among members with names of their own it makes no difference which one is the last. -/
theorem Sound.find?_member_eq_some_iff (hs : s.Sound) :
    s.fields.reverse.find? (Field.member · == w) = some f ↔ f ∈ s.fields ∧ f.member = w := by
  constructor
  · intro h
    exact ⟨List.mem_reverse.1 (List.mem_of_find?_eq_some h), by simpa using List.find?_some h⟩
  · rintro ⟨hf, rfl⟩
    refine find?_eq_some_of_forall_eq (List.mem_reverse.2 hf) (beq_self_eq_true _) fun g hg hp ↦ ?_
    exact List.inj_on_of_nodup_map hs.nodup_members (List.mem_reverse.1 hg) hf (beq_iff_eq.1 hp)

/-! ## The rule -/

theorem isExplicit_and_eq_true_iff : (f.isExplicit && f.wireName == w) = true ↔
    f.IsDeclaredAs w := by
  rw [Bool.and_eq_true_iff, beq_iff_eq]
  rfl

/-- No field is declared under a name iff the search among the wire fields comes to nothing. -/
theorem find?_declared_eq_none_iff :
    (s.fields.find? fun f ↦ f.isExplicit && f.wireName == w) = none ↔
      ∀ g ∈ s.fields, ¬ g.IsDeclaredAs w := by
  rw [List.find?_eq_none]
  exact forall₂_congr fun g _ ↦ not_congr isExplicit_and_eq_true_iff

/-- The first of the fields declared under a name is found by that name. -/
theorem find?_declared_eq_some_iff :
    (s.fields.find? fun f ↦ f.isExplicit && f.wireName == w) = some f ↔
    f.IsDeclaredAs w ∧ ∃ before after, s.fields = before ++ f :: after ∧
      ∀ g ∈ before, ¬ g.IsDeclaredAs w := by
  rw [List.find?_eq_some_iff_append, isExplicit_and_eq_true_iff]
  refine and_congr_right fun _ ↦ exists₂_congr fun before after ↦ and_congr_right fun _ ↦ ?_
  refine forall₂_congr fun g _ ↦ ?_
  rw [Bool.not_eq_true', ← Bool.not_eq_true, isExplicit_and_eq_true_iff]

/-- The two tables come to the rule. -/
theorem Sound.lookup_eq_some_iff (hs : s.Sound) : s.lookup w = some f ↔ s.Reaches w f := by
  rw [lookup_eq, Option.or_eq_some_iff, find?_declared_eq_some_iff, find?_declared_eq_none_iff,
    hs.find?_member_eq_some_iff]
  constructor
  · rintro (⟨hdeclared, before, after, hfields, hfirst⟩ | ⟨hnone, hf, hmember⟩)
    · exact .declared hfields hdeclared hfirst
    · exact .member hnone hf hmember
  · rintro (⟨hfields, hdeclared, hfirst⟩ | ⟨hnone, hf, hmember⟩)
    · exact .inl ⟨hdeclared, _, _, hfields, hfirst⟩
    · exact .inr ⟨hnone, hf, hmember⟩

/-- A name reaches nothing iff no field is declared under it and no member bears it. -/
theorem lookup_eq_none_iff : s.lookup w = none ↔ ∀ f ∈ s.fields, ¬ f.IsDeclaredAs w ∧
    f.member ≠ w := by
  rw [lookup_eq, Option.or_eq_none_iff, find?_declared_eq_none_iff, List.find?_eq_none]
  constructor
  · rintro ⟨hdeclared, hmember⟩ f hf
    exact ⟨hdeclared f hf, fun hw ↦ hmember f (List.mem_reverse.2 hf) (beq_iff_eq.2 hw)⟩
  · intro h
    exact ⟨fun f hf ↦ (h f hf).1, fun f hf hw ↦ (h f (List.mem_reverse.1 hf)).2 (beq_iff_eq.1 hw)⟩

/-! ## Names of a field -/

/-- A declared wire name reaches the only member declared under it. -/
theorem lookup_of_isExplicit (hf : f ∈ s.fields) (he : f.isExplicit = true) (hw : f.wireName = w)
    (h : ∀ g ∈ s.fields, g.isExplicit = true → g.wireName = w → g = f) : s.lookup w = some f := by
  have honly : ∀ g ∈ s.fields, (g.isExplicit && g.wireName == w) = true → g = f := by
    intro g hg hp
    obtain ⟨hge, hgw⟩ := isExplicit_and_eq_true_iff.1 hp
    exact h g hg hge hgw
  rw [lookup_eq, find?_eq_some_of_forall_eq hf (isExplicit_and_eq_true_iff.2 ⟨he, hw⟩) honly]
  rfl

/-- A member is reached by its own name unless another one is declared under that. -/
theorem Sound.lookup_member (hs : s.Sound) (hf : f ∈ s.fields)
    (h : ∀ g ∈ s.fields, g.isExplicit = true → g.wireName = f.member → g = f) :
    s.lookup f.member = some f := by
  by_cases hfe : f.IsDeclaredAs f.member
  · exact lookup_of_isExplicit hf hfe.1 hfe.2 h
  · refine hs.lookup_eq_some_iff.2 (.member (fun g hg hdeclared ↦ hfe ?_) hf rfl)
    obtain rfl := h g hg hdeclared.1 hdeclared.2
    exact hdeclared

/-- Where all wire names differ, each member is reached by its own. -/
theorem Sound.lookup_wireName (hs : s.Sound) (hn : (s.fields.map Field.wireName).Nodup)
    (hf : f ∈ s.fields) : s.lookup f.wireName = some f := by
  have honly : ∀ g ∈ s.fields, g.isExplicit = true → g.wireName = f.wireName → g = f :=
    fun g hg _ hw ↦ List.inj_on_of_nodup_map hn hg hf hw
  cases he : f.isExplicit with
  | true => exact lookup_of_isExplicit hf he rfl honly
  | false =>
    have hw := hs.wireName_eq f hf he
    rw [hw] at honly ⊢
    exact hs.lookup_member hf honly

/-- A field is reached by its wire name, by the name of its member, or not at all. -/
theorem Sound.exists_lookup_iff (hs : s.Sound) :
    (∃ w, s.lookup w = some f) ↔ s.lookup f.wireName = some f ∨ s.lookup f.member = some f := by
  constructor
  · rintro ⟨w, h⟩
    cases hs.lookup_eq_some_iff.1 h with
    | declared _ hdeclared _ => exact .inl (hdeclared.2 ▸ h)
    | member _ _ hmember => exact .inr (hmember ▸ h)
  · rintro (h | h)
    · exact ⟨_, h⟩
    · exact ⟨_, h⟩

/-- In a schema that was built a name reaches the first field declared under it, or else the one
whose member bears it, or else nothing. No two of the fields set the same member, and one that is
not declared as a wire field has its member's name for a wire name. So where all wire names differ
each field is reached by its own, and every member by some name. -/
theorem lookup_prefers_declared (h : build t = .ok s) :
    (∀ w f, s.lookup w = some f ↔ s.Reaches w f) ∧
    (∀ w, s.lookup w = none ↔ ∀ f ∈ s.fields, ¬ f.IsDeclaredAs w ∧ f.member ≠ w) ∧
    (s.fields.map Field.member).Nodup ∧
    (∀ f ∈ s.fields, f.isExplicit = false → f.wireName = f.member) ∧
    ((s.fields.map Field.wireName).Nodup → (∀ f ∈ s.fields, s.lookup f.wireName = some f) ∧
      ∀ n ∈ s.fields.map Field.member, ∃ w f, s.lookup w = some f ∧ f.member = n) := by
  obtain ⟨hs, -⟩ := sound_of_build h
  refine ⟨fun w f ↦ hs.lookup_eq_some_iff, fun w ↦ lookup_eq_none_iff, hs.nodup_members,
    hs.wireName_eq, fun hn ↦ ?_⟩
  have hreach : ∀ f ∈ s.fields, s.lookup f.wireName = some f := fun f hf ↦ hs.lookup_wireName hn hf
  refine ⟨hreach, fun n hmember ↦ ?_⟩
  obtain ⟨f, hf, rfl⟩ := List.mem_map.1 hmember
  obtain ⟨w, hw⟩ := hs.exists_lookup_iff.2 (.inl (hreach f hf))
  exact ⟨w, f, hw, rfl⟩

end Schema

/-! ## Names that stand in each other's way -/

/-- A dataclass on another one, with two members under one wire name that a third one bears, and a
member that is declared once more, as a wire field without a name. -/
def cardType : DocumentType where
  className := ⟨"docs", "Card"⟩
  layers := [
    { form := .dataclass, members := [
      ⟨"first", .base .text, some (.text ""), some "title"⟩,
      ⟨"second", .base .text, some (.text ""), some "title"⟩,
      ⟨"year", .base .int, some .null, none⟩] },
    { form := .dataclass, members := [
      ⟨"title", .base .text, some (.text ""), none⟩,
      ⟨"year", .base .int, some .null, some ""⟩] }]
  scope := .empty

def cardSchema : Schema := ⟨cardType, [
  ⟨"title", "first", .base .text, .scalar .string, true⟩,
  ⟨"title", "second", .base .text, .scalar .string, true⟩,
  ⟨"year", "year", .base .int, .scalar .integer, true⟩,
  ⟨"title", "title", .base .text, .scalar .string, false⟩]⟩

theorem build_cardType : Schema.build cardType = .ok cardSchema :=
  Outcome.eq_ok_of_toOption (by decide +kernel)

/-- Of three members that lay claim to a name the first one declared under it has it, the second one
is reached by its own name, and the third one not at all; where no two lay claim to a name each is
reached by its own. -/
theorem lookup_prefers_declared_card :
    cardSchema.lookup "title" = some ⟨"title", "first", .base .text, .scalar .string, true⟩ ∧
    cardSchema.lookup "second" = some ⟨"title", "second", .base .text, .scalar .string, true⟩ ∧
    (∀ w, cardSchema.lookup w ≠ some ⟨"title", "title", .base .text, .scalar .string, false⟩) ∧
    cardSchema.lookup "Title" = none ∧ ∀ f ∈ bookSchema.fields, bookSchema.lookup f.wireName =
      some f := by
  obtain ⟨hreaches, hnone, -⟩ := Schema.lookup_prefers_declared build_cardType
  obtain ⟨-, -, -, -, hbook⟩ := Schema.lookup_prefers_declared build_bookType
  refine ⟨?_, ?_, fun w h ↦ ?_, ?_, (hbook (by decide)).1⟩
  · exact (hreaches _ _).2 (@Schema.Reaches.declared cardSchema _ [] _ _ rfl ⟨rfl, rfl⟩ (by simp))
  · exact (hreaches _ _).2 (.member (by simp [cardSchema, Field.IsDeclaredAs]) (by decide) rfl)
  · cases (hreaches _ _).1 h with
    | declared _ hdeclared _ => cases hdeclared.1
    | member hnot _ hmember => exact hnot _ List.mem_cons_self ⟨rfl, hmember⟩
  · exact (hnone _).2 (by simp [cardSchema, Field.IsDeclaredAs])

end TypedSearch

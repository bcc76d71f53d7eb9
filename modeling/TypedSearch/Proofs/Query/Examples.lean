import TypedSearch.Update
import TypedSearch.Proofs.Document.Fields
import TypedSearch.Proofs.Query.Stages
import TypedSearch.Proofs.Value.Zero

/-!
# Examples and what they send

An example asks for the members that hold something to ask for (`Field.Asks`): a single value that
is not null and does not equal the zero of the member's type. It asks for them under the wire names
and with the texts under which the document itself is sent, in the same order
(`Stage.example_asks_for_what_is_sent`).

Both the clauses and the fields come of a walk over the members. So all is said member by member,
and the members that are passed over are dropped from both walks.
-/

namespace TypedSearch

open Outcome

/-! ## What is asked for -/

/-- The value of a declared type that is nothing to ask for, if it has one. -/
def Declared.zero? (t : Declared) : Option Value :=
  match t.inner with
  | .base b => b.zero?
  | _ => none

/-- Is what a member holds something to ask for? It is a single value, neither null nor equal to the
zero of the declared type. -/
structure Field.Asks (f : Field) (v : Value) : Prop where
  single : f.content.isContainer = false
  ne_null : v ≠ .null
  ne_zero : ∀ z ∈ f.type.zero?, v.equals z = false

/-- A field asks for a single value that is there and is not the zero of its type. -/
theorem Field.asks_iff {f : Field} {v : Value} : f.Asks v ↔
    f.content.isContainer = false ∧ v ≠ .null ∧ ∀ z ∈ f.type.zero?, v.equals z = false :=
  ⟨fun ⟨hs, hv, hz⟩ ↦ ⟨hs, hv, hz⟩, fun ⟨hs, hv, hz⟩ ↦ ⟨hs, hv, hz⟩⟩

instance (f : Field) (v : Value) : Decidable (f.Asks v) := decidable_of_iff _ Field.asks_iff.symm

/-- The members for which a document is asked for as an example. -/
def Schema.asked (s : Schema) (d : Document) : List Field :=
  s.fields.filter fun f ↦ f.Asks (d.read f.member)

namespace Query

/-- Does a clause ask for a text under a wire name? -/
inductive Clause.Reads : Clause → String × String → Prop
  | equality {field text : String} {value : Value} (literal : value.literal = .ok text) :
      Reads (.equality field value) (field, text)

end Query

/-! ## One member -/

theorem Declared.zero?_of_inner {t : Declared} {base : Base} (h : t.inner = .base base) :
    t.zero? = base.zero? := by
  rw [zero?, h]

/-- A number equals the zero of a class of numbers iff it is zero. -/
theorem Value.equals_zero?_of_isZero {v z : Value} {b : Bool} {base : Base}
    (hz : base.zero? = some z) (hbase : base ≠ .text) (h : v.isZero = .ok b) : v.equals z = b := by
  have hzero : z.magnitude? = some .zero ∧ ∀ c, z ≠ .complex c := by
    cases base <;> cases hz
    case text => exact absurd rfl hbase
    all_goals exact ⟨magnitude?_eq_zero_iff.2 rfl, fun _ ↦ Value.noConfusion⟩
  have hiff := equals_zero_iff (v := v) hzero.1 hzero.2
  rw [h, Except.ok.injEq] at hiff
  exact Bool.eq_iff_iff.2 hiff

namespace Field

variable {f : Field} {v : Value} {b : Bool}

/-- What a single value is the default for is the zero of the type. -/
theorem equals_zero?_of_isDefault (hs : f.content.isContainer = false) (hv : v ≠ .null)
    (h : f.isDefault v = .ok b) :
    (∀ z ∈ f.type.zero?, v.equals z = false) ↔ b = false := by
  have hone : ∀ {base z}, f.type.inner = .base base → base.zero? = some z → v.equals z = b →
      ((∀ z ∈ f.type.zero?, v.equals z = false) ↔ b = false) := by
    intro base z hi hz hb
    simp [Declared.zero?_of_inner hi, hz, hb]
  have hnumber : ∀ {base z}, f.type.inner = .base base → base ≠ .text → base.zero? = some z →
    v.isZero = .ok b →
      ((∀ z ∈ f.type.zero?, v.equals z = false) ↔ b = false) :=
    fun hi hbase hz h ↦ hone hi hz (Value.equals_zero?_of_isZero hz hbase h)
  rw [isDefault, if_neg hv, hs, if_neg Bool.false_ne_true] at h
  split at h
  case h_1 hi | h_2 hi | h_3 hi | h_4 hi =>
    exact hnumber hi (by decide) rfl h
  case h_5 hi =>
    cases h
    exact hone hi rfl (Bool.eq_iff_iff.2 Value.equals_empty_iff)
  case h_6 hint hfloat hdecimal hbool htext =>
    have hnone : f.type.zero? = none := by
      unfold Declared.zero?
      split
      · rename_i base hi
        cases base <;> first | rfl | exact absurd hi (by assumption)
      · rfl
    cases h
    simp [hnone]

/-- What a member holds is asked for unless it is the default of the member. -/
theorem asks_iff_of_isDefault (hs : f.content.isContainer = false) (h : f.isDefault v = .ok b) :
    f.Asks v ↔ b = false := by
  by_cases hv : v = .null
  · rw [isDefault, if_pos hv] at h
    cases h
    exact ⟨fun ha ↦ absurd hv ha.ne_null, fun hb ↦ by cases hb⟩
  · rw [← equals_zero?_of_isDefault hs hv h]
    exact ⟨Asks.ne_zero, fun hz ↦ ⟨hs, hv, hz⟩⟩

end Field

/-! ## Both walks -/

section Walks

variable {f : Field} {fs : List Field} {d : Document} {ps : List (String × String)}
  {cs : List Query.Clause}

/-- A member that is asked for sends one field, with the text of its value. -/
theorem Update.exists_of_pairsOf_asked (ha : f.Asks (d.read f.member)) (h : pairsOf d f = .ok ps) :
    ∃ text, (d.read f.member).literal = .ok text ∧ ps = [(f.wireName, text)] := by
  obtain ⟨ts, hts, rfl⟩ := map_eq_ok.1 h
  rw [textsOf, if_neg ha.ne_null, ha.single, if_neg Bool.false_ne_true] at hts
  obtain ⟨text, htext, rfl⟩ := map_eq_ok.1 hts
  exact ⟨text, htext, rfl⟩

/-- What some of the members send stands in what all of them send, in the same order. -/
theorem Update.exists_mapM_pairsOf_filter {p : Field → Bool} {rows : List (List (String × String))}
    (h : fs.mapM (pairsOf d) = .ok rows) :
    ∃ kept, (fs.filter p).mapM (pairsOf d) = .ok kept ∧ kept.flatten.Sublist rows.flatten := by
  replace h := mapM_eq_ok_iff.1 h
  simp only [mapM_eq_ok_iff]
  induction h with
  | nil => exact ⟨[], .nil, .slnil⟩
  | @cons f row fs rows hf _ ih =>
    obtain ⟨kept, hkept, hsub⟩ := ih
    cases hp : p f with
    | true =>
      rw [List.filter_cons_of_pos hp]
      exact ⟨row :: kept, .cons hf hkept, hsub.append_left row⟩
    | false =>
      rw [List.filter_cons_of_neg (by simp [hp])]
      exact ⟨kept, hkept, hsub.trans (List.sublist_append_right _ _)⟩

namespace Query

/-- The clause that asks for what a document holds for a member. -/
def Clause.ofMember (d : Document) (f : Field) : Clause := .equality f.wireName (d.read f.member)

namespace Builder

theorem exampleClause_eq_ok (h : exampleClause d f = .ok cs) :
    cs = if f.Asks (d.read f.member) then [.ofMember d f] else [] := by
  unfold exampleClause at h
  split at h
  · rename_i hc
    cases h
    exact (if_neg fun ha ↦ absurd hc (ne_true_of_eq_false ha.single)).symm
  · rename_i hc
    obtain ⟨b, hb, rfl⟩ := map_eq_ok.1 h
    have hasks := Field.asks_iff_of_isDefault (eq_false_of_ne_true hc) hb
    cases b with
    | true => exact (if_neg fun ha ↦ Bool.noConfusion (hasks.1 ha)).symm
    | false => exact (if_pos (hasks.2 rfl)).symm

/-- An example asks for the fields that ask, in the order of the schema. -/
theorem exampleClauses_eq_ok {s : Schema} (h : exampleClauses s d = .ok cs) :
    cs = (s.asked d).map (Clause.ofMember d) := by
  obtain ⟨rows, hrows, rfl⟩ := map_eq_ok.1 h
  clear h
  replace hrows := mapM_eq_ok_iff.1 hrows
  rw [Schema.asked]
  generalize s.fields = fs at hrows
  induction hrows with
  | nil => rfl
  | @cons f row fs rows hf _ ih =>
    rw [List.flatten_cons, ih, exampleClause_eq_ok hf]
    by_cases ha : f.Asks (d.read f.member) <;> simp [ha]

end Builder

/-- The clauses for members that are asked for read as the fields that these members send. -/
theorem Clause.reads_of_asked {rows : List (List (String × String))}
    (ha : ∀ f ∈ fs, f.Asks (d.read f.member)) (h : fs.mapM (Update.pairsOf d) = .ok rows) :
    List.Forall₂ Reads (fs.map (ofMember d)) rows.flatten := by
  replace h := mapM_eq_ok_iff.1 h
  induction h with
  | nil => exact .nil
  | @cons f row fs rows hf _ ih =>
    obtain ⟨haf, hafs⟩ := List.forall_mem_cons.1 ha
    obtain ⟨text, htext, rfl⟩ := Update.exists_of_pairsOf_asked haf hf
    exact .cons (.equality htext) (ih hafs)

end Query

end Walks

/-! ## Main statement -/

namespace Query.Stage

/-- Where an example can be taken and its document can be sent, the step appends one clause for each
member that is asked for, and changes nothing else about the request. As wire names and texts, the
clauses are what these members send, which is a part of what the document sends, in the same
order. -/
theorem example_asks_for_what_is_sent {b : Builder} {s : Stage} {d : Document} {schema : Schema}
    {ps : List (String × String)} (hschema : Schema.build d.type = .ok schema)
    (hstep : (builder b).advance Schema.build (.byExample d) = .ok s)
    (hsent : Update.fieldsOf schema d = .ok ps) :
    ∃ b' cs qs, s = .builder b' ∧
      b'.request = { b.request with query := ⟨b.request.query.clauses ++ cs⟩ } ∧
      cs = (schema.asked d).map (fun f ↦ .equality f.wireName (d.read f.member)) ∧
      List.Forall₂ Clause.Reads cs qs ∧ qs.Sublist ps ∧
      Update.fieldsOf { schema with fields := schema.asked d } d = .ok qs := by
  cases advance_eq_ok_iff.1 hstep with
  | toggle toggles => cases toggles
  | byExample known added =>
    cases hschema.symm.trans known
    obtain ⟨cs, hcs, rfl⟩ := Builder.byExample_eq_ok_iff.1 added
    obtain ⟨rows, hrows, rfl⟩ := map_eq_ok.1 hsent
    obtain ⟨kept, hkept, hsub⟩ := Update.exists_mapM_pairsOf_filter (p :=
      fun f ↦ f.Asks (d.read f.member)) hrows
    have hasked : ∀ f ∈ schema.asked d, f.Asks (d.read f.member) := fun f hf ↦
      of_decide_eq_true (List.mem_filter.1 hf).2
    have hclauses := Builder.exampleClauses_eq_ok hcs
    refine ⟨_, cs, kept.flatten, rfl, rfl, hclauses, ?_, hsub, map_eq_ok.2 ⟨kept, hkept, rfl⟩⟩
    rw [hclauses]
    exact Clause.reads_of_asked hasked hkept

/-- A book of which only the title and the last look at it are worth asking for. -/
def seenBook : Document := ⟨bookType, [("title", .text "Dune"), ("year", .bool false),
  ("price", .decimal (.finite true 0 (-2))),
  ("seen", .moment ⟨⟨2015, 6, 30, by decide⟩, ⟨23, 59, 8, 0, by decide⟩, some .utc⟩),
  ("tags", .list [.text "x"])]⟩

/-- A builder that asks for something already, in some order. -/
def sortedBuilder : Builder :=
  (Builder.start.byRange "year" (.int 1937) (.int 1955)).orderBy "year" .desc

theorem example_asks_for_what_is_sent_seenBook : Schema.build bookType = .ok bookSchema ∧
    Update.fieldsOf bookSchema seenBook = .ok [("title_t", "Dune"), ("year", "false"),
      ("price", "-0.00"), ("seen", "2015-06-30T23:59:08Z"), ("tags", "x")] ∧
    ∃ b' cs, (builder sortedBuilder).advance Schema.build (.byExample seenBook) = .ok (builder b') ∧
      b'.request = { sortedBuilder.request with query :=
        ⟨sortedBuilder.request.query.clauses ++ cs⟩ } ∧
      List.Forall₂ Clause.Reads cs [("title_t", "Dune"), ("seen", "2015-06-30T23:59:08Z")] := by
  have hsent : Update.fieldsOf bookSchema seenBook = .ok [("title_t", "Dune"), ("year", "false"),
      ("price", "-0.00"), ("seen", "2015-06-30T23:59:08Z"), ("tags", "x")] :=
    eq_ok_of_toOption (by decide +kernel)
  have hclauses : Builder.exampleClauses bookSchema seenBook =
      .ok ((bookSchema.fields.filter fun f ↦ f.member = "title" ∨ f.member = "seen").map
        (Clause.ofMember seenBook)) :=
    eq_ok_of_toOption (by decide +kernel)
  have hstep := advance_eq_ok_iff.2 (.byExample (b := sortedBuilder) (d := seenBook) build_bookType
    (Builder.byExample_eq_ok_iff.2 ⟨_, hclauses, rfl⟩))
  obtain ⟨b', cs, qs, hb', hrequest, -, hreads, -, hqs⟩ :=
    example_asks_for_what_is_sent build_bookType hstep hsent
  have hasked : Update.fieldsOf { bookSchema with fields := bookSchema.asked seenBook } seenBook =
      .ok [("title_t", "Dune"), ("seen", "2015-06-30T23:59:08Z")] :=
        eq_ok_of_toOption (by decide +kernel)
  obtain rfl := Except.ok.inj (hasked.symm.trans hqs)
  exact ⟨build_bookType, hsent, b', cs, hb' ▸ hstep, hrequest, hreads⟩

end Query.Stage

end TypedSearch

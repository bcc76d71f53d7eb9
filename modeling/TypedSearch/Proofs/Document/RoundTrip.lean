import TypedSearch.Update
import TypedSearch.Proofs.Conversion.Literal
import TypedSearch.Proofs.Declared.Content
import TypedSearch.Proofs.Document.Mapping

/-!
# Documents read back

What a document sends is a row of wire names and texts. A record that brings these texts back, each
single value in an entry of its own and the items of a container in one array, maps to a document
that holds the same, as far as the document held values that their texts keep in full.

Under wire names that are all different, each member finds its own texts in the row
(`textsOf_of_fieldsOf`) and the mapper finds its own entries in the record, of which there is at
most one (`Field.Brings.restores`). So the whole comes down to one member, and that to the literals
of its values. What can still stand against it is the document type: its constructor may fail, and
its members may not let themselves be set.
-/

namespace TypedSearch

open Outcome Conversion

/-! ## What is sent and what comes back -/

/-- The values of a member that can be sent and read back: null, or what its kind keeps; containers
hold such values and no null. -/
inductive Field.Keeps (f : Field) : Value → Prop
  | null : Keeps f .null
  | scalar {k : Kind} {v : Value} (content : f.content = .scalar k) (value : k.Keeps v) : Keeps f v
  | container {s : Shape} {t : Declared} {k : Kind} {v : Value} {xs : List Value}
      (content : f.content = .container s) (element : s.element? = some t)
      (kind : t.kind? = .ok (some k)) (value : v = .list xs ∨ v = .tuple xs)
      (items : ∀ x ∈ xs, k.Keeps x) : Keeps f v

/-- What a member holds after its value was sent and read back: the same, and a container is a list
or a tuple as its declared type says. -/
inductive Field.ReadsBack (f : Field) (v : Value) : Value → Prop
  | scalar {k : Kind} {w : Value} (content : f.content = .scalar k) (same : v.Matches w) :
      ReadsBack f v w
  | list {t : Declared} {xs ws : List Value} (content : f.content = .container (.homogeneous t))
      (value : v = .list xs ∨ v = .tuple xs) (items : List.Forall₂ Value.Matches xs ws) :
      ReadsBack f v (.list ws)
  | tuple {t : Declared} {xs ws : List Value} (content : f.content = .container (.array t))
      (value : v = .list xs ∨ v = .tuple xs) (items : List.Forall₂ Value.Matches xs ws) :
      ReadsBack f v (.tuple ws)

/-- The texts under a wire name in a row, in their order. -/
def textsUnder (ps : List (String × String)) (w : String) : List String :=
  (ps.filter fun p ↦ p.1 = w).map Prod.snd

/-- Do the entries bring texts back to a member? A single value comes in an entry of its own, and
the items of a container come in one array, which may be missing if there are none. -/
inductive Field.Brings (f : Field) : List String → List Entry → Prop
  | scalar {k : Kind} {ts : List String} {es : List Entry} (content : f.content = .scalar k)
      (texts : List.Forall₂ (fun t e ↦ e.tag ≠ arrayTag ∧ e.text = t) ts es) : Brings f ts es
  | array {s : Shape} {e : Entry} (content : f.content = .container s) (tag : e.tag = arrayTag) :
      Brings f (e.items.map Assembly.Item.text) [e]
  | nothing {s : Shape} (content : f.content = .container s) : Brings f [] []

/-- Does a record bring back a row of wire names and texts, to each member its own and nothing
else? -/
structure Record.Brings (r : Record) (s : Schema) (ps : List (String × String)) : Prop where
  known : ∀ e ∈ r.entries, ∃ f ∈ s.fields, e.wireName = f.wireName
  texts : ∀ f ∈ s.fields, f.Brings (textsUnder ps f.wireName) (r.entries.filter fun e ↦ e.wireName =
    f.wireName)

/-- What the entries that bring the texts of a value back do for a member: nothing if nothing was
sent, and else the one entry among them converts, to the value or to an empty container. -/
inductive Field.Restores (f : Field) (call : Caller) (v : Value) : List String → List Entry → Prop
  | nothing : Restores f call v [] []
  | value {ts : List String} {e : Entry} {w : Value} (sent : ts ≠ [])
      (convert : f.convert call e = .ok w)
      (same : f.ReadsBack v w) : Restores f call v ts [e]
  | empty {s : Shape} {e : Entry} (content : f.content = .container s)
      (convert : f.convert call e = .ok (Assembly.build s [])) : Restores f call v [] [e]

/-! ## One member -/

namespace Field

variable {f : Field} {v : Value} {ts : List String} {es : List Entry} {call : Caller}

/-- The literals of the items of a container are read back to them. -/
theorem exists_mapM_literal {k : Kind} {xs : List Value} (h : ∀ x ∈ xs, k.Keeps x) :
    ∃ ts, xs.mapM Value.literal = .ok ts ∧ ∀ (call : Caller) (t : Declared), ∃ ws,
      ts.mapM (convertAsBy call k t) = .ok ws ∧ List.Forall₂ Value.Matches xs ws := by
  induction xs with
  | nil => exact ⟨[], rfl, fun call t ↦ ⟨[], rfl, .nil⟩⟩
  | cons x xs ih =>
    obtain ⟨hx, hxs⟩ := List.forall_mem_cons.1 h
    obtain ⟨text, htext, hread⟩ := exists_convertAsBy_literal hx
    obtain ⟨ts, hts, hreads⟩ := ih hxs
    refine ⟨text :: ts, by rw [List.mapM_cons, htext, hts]; rfl, fun call t ↦ ?_⟩
    obtain ⟨w, hw, hm⟩ := hread call t
    obtain ⟨ws, hws, hms⟩ := hreads call t
    exact ⟨w :: ws, by rw [List.mapM_cons, hw, hws]; rfl, .cons hm hms⟩

/-- A single value sends one text. -/
theorem textsOf_scalar {k : Kind} (hf : f.content = .scalar k) (hv : v ≠ .null) :
    Update.textsOf f v = v.literal.map ([·]) := by
  simp [Update.textsOf, hv, hf, Content.isContainer]

/-- A container sends a text for each item. -/
theorem textsOf_container {s : Shape} {xs : List Value} (hf : f.content = .container s)
    (hv : v = .list xs ∨ v = .tuple xs) : Update.textsOf f v = xs.mapM Value.literal := by
  rcases hv with rfl | rfl <;> simp [Update.textsOf, hf, Content.isContainer, Value.items?]

/-- A value that can be read back is sent. -/
theorem Keeps.exists_textsOf (h : f.Keeps v) : ∃ ts, Update.textsOf f v = .ok ts := by
  cases h with
  | null => exact ⟨[], rfl⟩
  | scalar content value =>
    obtain ⟨text, htext, -⟩ := exists_convertAsBy_literal value
    exact ⟨[text], by rw [textsOf_scalar content value.ne_null, htext]; rfl⟩
  | container content element kind value items =>
    obtain ⟨ts, hts, -⟩ := exists_mapM_literal items
    exact ⟨ts, by rw [textsOf_container content value, hts]⟩

/-- An item of a container is converted by the kind of the items. -/
theorem convertItem_of_element? {s : Shape} {t : Declared} {k : Kind} {i : Assembly.Item}
    (ht : s.element? = some t) (hk : t.kind? = .ok (some k)) :
    Assembly.convertItem call s i = convertAsBy call k t i.text := by
  cases s with
  | homogeneous u | array u =>
    cases ht
    exact convertBy_of_kind? hk
  | untyped => cases ht

/-- Items that bring the literals of a row of values are converted to these values. -/
theorem exists_mapM_convertItem {s : Shape} {t : Declared} {k : Kind} {xs : List Value}
    {items : List Assembly.Item} (ht : s.element? = some t) (hk : t.kind? = .ok (some k))
    (hxs : ∀ x ∈ xs, k.Keeps x) (hts : xs.mapM Value.literal = .ok (items.map Assembly.Item.text)) :
    ∃ ws, items.mapM (Assembly.convertItem call s) = .ok ws ∧ List.Forall₂ Value.Matches xs ws := by
  obtain ⟨ts, hlit, hread⟩ := exists_mapM_literal hxs
  obtain rfl := Except.ok.inj (hlit.symm.trans hts)
  obtain ⟨ws, hws, hm⟩ := hread call t
  refine ⟨ws, mapM_eq_ok_iff.2 ?_, hm⟩
  simp only [convertItem_of_element? ht hk]
  exact List.forall₂_map_left_iff.1 (mapM_eq_ok_iff.1 hws)

/-- An array is assembled from what its items convert to. -/
theorem convert_array {s : Shape} {e : Entry} {ws : List Value}
    (hf : f.type.content = .ok (.container s)) (he : e.tag = arrayTag)
    (hws : e.items.mapM (Assembly.convertItem call s) = .ok ws) :
    f.convert call e = .ok (Assembly.build s ws) := by
  rw [convert, if_pos (beq_iff_eq.2 he), Assembly.assembleBy, Declared.shape?_of_content_container
    hf]
  exact mapError_eq_ok.2 (map_eq_ok.2 ⟨ws, hws, rfl⟩)

theorem convert_scalar {k : Kind} {e : Entry} (hf : f.content = .scalar k)
    (he : e.tag ≠ arrayTag) : f.convert call e = convertAsBy call k f.type e.text := by
  rw [convert, if_neg (by simpa using he), hf]

/-- A container whose items are of one type is built as its declared type says. -/
theorem readsBack_build {s : Shape} {t : Declared} {xs ws : List Value}
    (hf : f.content = .container s) (ht : s.element? = some t) (hv : v = .list xs ∨ v = .tuple xs)
    (hws : List.Forall₂ Value.Matches xs ws) : f.ReadsBack v (Assembly.build s ws) := by
  cases s with
  | homogeneous u => exact .list hf hv hws
  | array u => exact .tuple hf hv hws
  | untyped => cases ht

/-- Entries that are no arrays bring a single value back. -/
theorem restores_of_texts {k : Kind} (hf : f.content = .scalar k) (hv : f.Keeps v)
    (hts : Update.textsOf f v = .ok ts)
    (hes : List.Forall₂ (fun t e ↦ e.tag ≠ arrayTag ∧ e.text = t) ts es) :
    f.Restores call v ts es := by
  cases hv with
  | null =>
    cases hts
    cases hes
    exact .nothing
  | @scalar k' _ content value =>
    obtain rfl : k = k' := Content.scalar.inj (hf.symm.trans content)
    obtain ⟨text, htext, hread⟩ := exists_convertAsBy_literal value
    rw [textsOf_scalar hf value.ne_null, htext] at hts
    obtain rfl : [text] = ts := Except.ok.inj hts
    obtain ⟨e, es, ⟨hetag, hetext⟩, hnil, rfl⟩ := List.forall₂_cons_left_iff.1 hes
    cases hnil
    obtain ⟨w, hw, hm⟩ := hread call f.type
    refine .value (List.cons_ne_nil _ _) ?_ (.scalar hf hm)
    rw [convert_scalar hf hetag, hetext, hw]
  | container content => cases hf.symm.trans content

/-- An array brings a container back, item by item. -/
theorem restores_of_array {s : Shape} {e : Entry} (hf : f.content = .container s)
    (hc : f.type.content = .ok f.content) (hv : f.Keeps v)
    (hts : Update.textsOf f v = .ok (e.items.map Assembly.Item.text)) (he : e.tag = arrayTag) :
    f.Restores call v (e.items.map Assembly.Item.text) [e] := by
  rw [hf] at hc
  by_cases hnil : e.items.map Assembly.Item.text = []
  -- an empty array is assembled whatever its items were to be
  · have hitems : e.items.mapM (Assembly.convertItem call s) = .ok [] := by
      rw [List.map_eq_nil_iff.1 hnil]
      rfl
    rw [hnil]
    exact .empty hf (convert_array hc he hitems)
  · cases hv with
    | null => exact absurd (Except.ok.inj hts).symm hnil
    | scalar content => cases hf.symm.trans content
    | @container s' t k _ xs content element kind value items =>
      obtain rfl : s = s' := Content.container.inj (hf.symm.trans content)
      rw [textsOf_container hf value] at hts
      obtain ⟨ws, hws, hm⟩ := exists_mapM_convertItem element kind items hts
      exact .value hnil (convert_array hc he hws) (readsBack_build hf element value hm)

/-- Entries that bring back what a member sent restore it. -/
theorem Brings.restores (hb : f.Brings ts es) (hv : f.Keeps v) (hc : f.type.content = .ok f.content)
    (hts : Update.textsOf f v = .ok ts) : f.Restores call v ts es := by
  cases hb with
  | scalar content texts => exact restores_of_texts content hv hts texts
  | array content tag => exact restores_of_array content hc hv hts tag
  | nothing => exact .nothing

end Field

/-! ## Rows for the members of a schema -/

section Rows

variable {β : Type} {key : β → String} {R : Field → List β → Prop} {fs : List Field}
  {rows : List (List β)} {f : Field}

/-- What stands in the rows of some fields bears the name of one of them. -/
theorem exists_mem_of_mem_flatten (hR : ∀ f row, R f row → ∀ x ∈ row, key x = f.wireName)
    (h : List.Forall₂ R fs rows) : ∀ x ∈ rows.flatten, ∃ f ∈ fs, key x = f.wireName := by
  induction h with
  | nil => simp
  | @cons g row fs rows hr _ ih =>
    intro x hx
    rcases List.mem_append.1 hx with hx | hx
    · exact ⟨g, List.mem_cons_self, hR g row hr x hx⟩
    · obtain ⟨f, hf, hxf⟩ := ih x hx
      exact ⟨f, List.mem_cons_of_mem g hf, hxf⟩

/-- Where all names differ, what stands under a field's name in the rows of all fields is the row of
that field. -/
theorem filter_flatten (hR : ∀ f row, R f row → ∀ x ∈ row, key x = f.wireName)
    (h : List.Forall₂ R fs rows) (hn : (fs.map Field.wireName).Nodup) (hf : f ∈ fs) :
    R f (rows.flatten.filter fun x ↦ key x = f.wireName) := by
  induction h with
  | nil => cases hf
  | @cons g row fs rows hr hrs ih =>
    obtain ⟨hg, hn⟩ := List.nodup_cons.1 hn
    have hne : ∀ f' ∈ fs, f'.wireName ≠ g.wireName := fun f' hf' hw ↦
      hg (List.mem_map.2 ⟨f', hf', hw⟩)
    -- the first row counts in full for its own field and not at all for the others
    rw [List.flatten_cons, List.filter_append]
    rcases List.mem_cons.1 hf with rfl | hf
    · have hrow : (row.filter fun x ↦ key x = f.wireName) = row :=
        List.filter_eq_self.2 fun x hx ↦ decide_eq_true (hR f row hr x hx)
      have hrest : (rows.flatten.filter fun x ↦ key x = f.wireName) = [] := by
        refine List.filter_eq_nil_iff.2 fun x hx ↦ ?_
        obtain ⟨f', hf', hxf⟩ := exists_mem_of_mem_flatten hR hrs x hx
        simpa [hxf] using hne f' hf'
      rwa [hrow, hrest, List.append_nil]
    · have hrow : (row.filter fun x ↦ key x = f.wireName) = [] := by
        refine List.filter_eq_nil_iff.2 fun x hx ↦ ?_
        simpa [hR g row hr x hx] using (hne f hf).symm
      rw [hrow, List.nil_append]
      exact ih hn hf

end Rows

variable {s : Schema} {d : Document} {f : Field} {ps : List (String × String)}

/-- Where all wire names differ, the texts under a member's name are those that it sends. -/
theorem textsOf_of_fieldsOf (hn : (s.fields.map Field.wireName).Nodup)
    (h : Update.fieldsOf s d = .ok ps) (hf : f ∈ s.fields) :
    Update.textsOf f (d.read f.member) = .ok (textsUnder ps f.wireName) := by
  obtain ⟨rows, hrows, rfl⟩ := map_eq_ok.1 h
  have hnamed : ∀ f row, Update.pairsOf d f = .ok row → ∀ p ∈ row, p.1 = f.wireName := by
    intro f row hrow p hp
    obtain ⟨ts, -, rfl⟩ := map_eq_ok.1 hrow
    obtain ⟨t, -, rfl⟩ := List.mem_map.1 hp
    rfl
  have hrow := filter_flatten hnamed (mapM_eq_ok_iff.1 hrows) hn hf
  obtain ⟨ts, hts, hmap⟩ := map_eq_ok.1 hrow
  rw [textsUnder, ← hmap, List.map_map, hts]
  simp

/-- A document whose values can be read back sends something. -/
theorem exists_fieldsOf (h : ∀ f ∈ s.fields, f.Keeps (d.read f.member)) :
    ∃ ps, Update.fieldsOf s d = .ok ps := by
  obtain ⟨rows, hrows⟩ : ∃ rows, s.fields.mapM (Update.pairsOf d) = .ok rows := by
    refine exists_mapM_eq_ok_iff.2 fun f hf ↦ ?_
    obtain ⟨ts, hts⟩ := (h f hf).exists_textsOf
    exact ⟨_, map_eq_ok.2 ⟨ts, hts, rfl⟩⟩
  exact ⟨rows.flatten, map_eq_ok.2 ⟨rows, hrows, rfl⟩⟩

/-- The entries that bring texts back to a field, under tags as they are usual for texts. -/
def Field.entriesFor (f : Field) (ts : List String) : List Entry :=
  match f.content with
  | .scalar _ => ts.map fun t ↦ ⟨f.wireName, "str", t, []⟩
  | .container _ => [⟨f.wireName, arrayTag, "", ts.map fun t ↦ ⟨"str", t⟩⟩]

/-- There are entries that bring the texts of a field. -/
theorem Field.brings_entriesFor (f : Field) (ts : List String) : f.Brings ts (f.entriesFor ts) := by
  unfold entriesFor
  split
  · rename_i k hk
    refine .scalar hk (List.forall₂_map_right_iff.2 (List.forall₂_same.2 fun t _ ↦ ⟨?_, rfl⟩))
    exact of_decide_eq_false rfl
  · rename_i s hs
    have harray := Brings.array (e := ⟨f.wireName, arrayTag, "", ts.map fun t ↦ ⟨"str", t⟩⟩) hs rfl
    simpa [Function.comp_def] using harray

/-- Every row of wire names and texts is brought back by some record. -/
theorem exists_brings (hn : (s.fields.map Field.wireName).Nodup) (ps : List (String × String)) :
    ∃ r : Record, r.Brings s ps := by
  have hnamed : ∀ (f : Field) row, row = f.entriesFor (textsUnder ps f.wireName) →
      ∀ e ∈ row, e.wireName = f.wireName := by
    rintro f row rfl e he
    unfold Field.entriesFor at he
    split at he
    · obtain ⟨t, -, rfl⟩ := List.mem_map.1 he
      rfl
    · rw [List.mem_singleton.1 he]
  have hrows : List.Forall₂ (fun f row ↦ row = f.entriesFor (textsUnder ps f.wireName)) s.fields
      (s.fields.map fun f ↦ f.entriesFor (textsUnder ps f.wireName)) :=
    List.forall₂_map_right_iff.2 (List.forall₂_same.2 fun _ _ ↦ rfl)
  refine ⟨⟨_⟩, exists_mem_of_mem_flatten hnamed hrows, fun f hf ↦ ?_⟩
  rw [filter_flatten hnamed hrows hn hf]
  exact f.brings_entriesFor _

/-! ## Whole documents -/

namespace Mapper

variable {m : Mapper} {r : Record}

/-- Where all wire names differ, an entry under a member's name reaches that member. -/
theorem lookup_of_wireName_eq {e : Entry} (hs : m.schema.Sound)
    (hn : (m.schema.fields.map Field.wireName).Nodup) (hf : f ∈ m.schema.fields)
    (he : e.wireName = f.wireName) : m.schema.lookup e.wireName = some f :=
  he ▸ hs.lookup_wireName hn hf

/-- What the entries under a member's name leave there is what the record leaves. -/
theorem lastValue?_filter_wireName (hs : m.schema.Sound)
    (hn : (m.schema.fields.map Field.wireName).Nodup) (hb : r.Brings m.schema ps)
    (hf : f ∈ m.schema.fields) :
    m.lastValue? r.entries f.member =
      m.lastValue? (r.entries.filter fun e ↦ e.wireName = f.wireName) f.member := by
  refine lastValue?_filter fun e he g hg hgf ↦ decide_eq_true ?_
  obtain ⟨g', hg', hw⟩ := hb.known e he
  have hgg' : g' = g := Option.some.inj ((lookup_of_wireName_eq hs hn hg' hw).symm.trans hg)
  rw [hw, List.inj_on_of_nodup_map hs.nodup_members hg' hf (hgg' ▸ hgf)]

/-- A record that brings back what a document sent restores each member. -/
theorem restores_of_brings (hs : m.schema.Sound) (hn : (m.schema.fields.map Field.wireName).Nodup)
    (hd : ∀ f ∈ m.schema.fields, f.Keeps (d.read f.member))
    (hps : Update.fieldsOf m.schema d = .ok ps) (hb : r.Brings m.schema ps)
    (hf : f ∈ m.schema.fields) :
    f.Restores m.schema.type.call (d.read f.member) (textsUnder ps f.wireName)
      (r.entries.filter fun e ↦ e.wireName = f.wireName) :=
  (hb.texts f hf).restores (hd f hf) (hs.content_eq f hf) (textsOf_of_fieldsOf hn hps hf)

/-- Every entry of a record that brings back what a document sent reaches a member and converts for
it. -/
theorem exists_convert_of_brings {e : Entry} (hs : m.schema.Sound)
    (hn : (m.schema.fields.map Field.wireName).Nodup)
    (hd : ∀ f ∈ m.schema.fields, f.Keeps (d.read f.member))
    (hps : Update.fieldsOf m.schema d = .ok ps) (hb : r.Brings m.schema ps) (he : e ∈ r.entries) :
    ∃ f, m.schema.lookup e.wireName = some f ∧ ∃ w, f.convert m.schema.type.call e = .ok w := by
  obtain ⟨f, hf, hw⟩ := hb.known e he
  refine ⟨f, lookup_of_wireName_eq hs hn hf hw, ?_⟩
  have hmem : e ∈ r.entries.filter fun e ↦ e.wireName = f.wireName :=
    List.mem_filter.2 ⟨he, decide_eq_true hw⟩
  have hrestores := restores_of_brings hs hn hd hps hb hf
  generalize (r.entries.filter fun e ↦ e.wireName = f.wireName) = es at hmem hrestores
  generalize textsUnder ps f.wireName = ts at hrestores
  cases hrestores with
  | nothing => cases hmem
  | value _ convert => exact ⟨_, List.mem_singleton.1 hmem ▸ convert⟩
  | empty _ convert => exact ⟨_, List.mem_singleton.1 hmem ▸ convert⟩

/-- Where all entries convert, those whose members let themselves be set are taken over. -/
theorem exists_write?_of_settable {e : Entry}
    (hc : ∃ f, m.schema.lookup e.wireName = some f ∧ ∃ w, f.convert m.schema.type.call e = .ok w)
    (hset : ∀ f, m.schema.lookup e.wireName = some f → m.schema.type.refusal? f.member = none) :
    ∃ w, m.write? e = .ok w := by
  obtain ⟨f, hf, w, hw⟩ := hc
  exact ⟨_, (write?_eq_some_iff hf).2 ⟨w, ⟨hw, hset f hf⟩, rfl⟩⟩

/-- The only entry under a member's name sets what the member holds. -/
theorem lastValue?_of_filter_eq {e : Entry} {w : Value} (hs : m.schema.Sound)
    (hn : (m.schema.fields.map Field.wireName).Nodup) (hb : r.Brings m.schema ps)
    (hf : f ∈ m.schema.fields) (he : (r.entries.filter fun e ↦ e.wireName = f.wireName) = [e])
    (hw : f.convert m.schema.type.call e = .ok w)
    (hset : ∀ e ∈ r.entries, ∀ f, m.schema.lookup e.wireName = some f →
      m.schema.type.refusal? f.member = none) :
    e.wireName = f.wireName ∧ e ∈ r.entries ∧ m.lastValue? r.entries f.member = some w := by
  obtain ⟨hmem, hname⟩ := List.mem_filter.1 (he ▸ List.mem_singleton_self e)
  have hname : e.wireName = f.wireName := of_decide_eq_true hname
  have hlookup := lookup_of_wireName_eq hs hn hf hname
  refine ⟨hname, hmem, ?_⟩
  rw [lastValue?_filter_wireName hs hn hb hf, he, ← List.nil_append [e]]
  exact lastValue?_of_last hs hlookup ⟨hw, hset e hmem f hlookup⟩ (by simp)

/-! ## Main statement -/

/-- A document whose values are kept by their texts is sent, and a record that brings the texts back
maps if the constructor makes a document and all members that entries reach let themselves be set.
The document that it maps to has the same values: a member for which something was sent holds what
was sent, decimals as numbers and containers as their declared type says. A member for which nothing
was sent holds an empty container where an array came for it, and else what it holds in a new
document. A mapping fails with what the constructor fails with, or else with the first entry whose
member does not let itself be set. -/
theorem map_of_sent {t : DocumentType} {m : Mapper} (h : Schema.build t = .ok m.schema)
    (hn : (m.schema.fields.map Field.wireName).Nodup) (d : Document)
    (hd : ∀ f ∈ m.schema.fields, f.Keeps (d.read f.member)) :
    ∃ ps, Update.fieldsOf m.schema d = .ok ps ∧ (∃ r : Record, r.Brings m.schema ps) ∧
      ∀ r : Record, r.Brings m.schema ps →
        (∀ fault, m.newDocument = .error fault → (m.map r).result = .error fault) ∧
        ∀ d₀, m.newDocument = .ok d₀ →
          (∀ before e after f fault, r.entries = before ++ e :: after →
            (∀ x ∈ before, ∀ g, m.schema.lookup x.wireName = some g → t.refusal? g.member = none) →
            m.schema.lookup e.wireName = some f → t.refusal? f.member = some fault →
            (m.map r).result = .error fault) ∧
          ((∀ e ∈ r.entries, ∀ f, m.schema.lookup e.wireName = some f →
            t.refusal? f.member = none) → ∃ d', (m.map r).result = .ok d' ∧ ∀ f ∈ m.schema.fields,
              (textsUnder ps f.wireName ≠ [] →
                ∃ w, d'.get? f.member = some w ∧ f.ReadsBack (d.read f.member) w) ∧
              (textsUnder ps f.wireName = [] → (∃ e ∈ r.entries, e.wireName = f.wireName) →
                ∃ s, f.content = .container s ∧ d'.get? f.member = some (Assembly.build s [])) ∧
              ((∀ e ∈ r.entries, e.wireName ≠ f.wireName) →
                d'.get? f.member = d₀.get? f.member)) := by
  obtain ⟨hs, rfl⟩ := Schema.sound_of_build h
  obtain ⟨ps, hps⟩ := exists_fieldsOf hd
  refine ⟨ps, hps, exists_brings hn ps, fun r hb ↦
    ⟨fun fault hnew ↦ map_of_newDocument hnew r, fun d₀ hd₀ ↦ ⟨?_, fun hset ↦ ?_⟩⟩⟩
  · intro before e after f fault hr hbefore hf hrefusal
    have hconvert : ∀ x ∈ r.entries, ∃ f, m.schema.lookup x.wireName = some f ∧ _ :=
      fun x hx ↦ exists_convert_of_brings hs hn hd hps hb hx
    rw [hr] at hconvert
    obtain ⟨hfront, ⟨g, hg, w, hw⟩, -⟩ := by simpa [or_imp, forall_and] using hconvert
    obtain rfl := Option.some.inj (hf.symm.trans hg)
    refine (map_eq_error_iff hd₀).2 ⟨before, e, after, hr, fun x hx ↦ ?_,
      write?_eq_error_iff.2 (.inl ⟨f, hf, ?_⟩)⟩
    · exact exists_write?_of_settable (hfront x hx) (hbefore x hx)
    · exact .unset hw hrefusal
  · obtain ⟨d', hd'⟩ : ∃ d', (m.map r).result = .ok d' := by
      refine ⟨_, map_eq_ok_iff.2 ⟨d₀, hd₀, fun e he ↦ ?_, rfl⟩⟩
      exact exists_write?_of_settable (exists_convert_of_brings hs hn hd hps hb he) (hset e he)
    obtain ⟨d₁, hd₁, hget⟩ := get?_of_map_eq_ok hd'
    obtain rfl : d₀ = d₁ := Except.ok.inj (hd₀.symm.trans hd₁)
    refine ⟨d', hd', fun f hf ↦ ?_⟩
    have hrestores := restores_of_brings hs hn hd hps hb hf
    generalize textsUnder ps f.wireName = ts at hrestores ⊢
    generalize hes : (r.entries.filter fun e ↦ e.wireName = f.wireName) = es at hrestores
    cases hrestores with
    | nothing =>
      have hnone : ∀ e ∈ r.entries, e.wireName ≠ f.wireName := fun e he hw ↦
        List.filter_eq_nil_iff.1 hes e he (decide_eq_true hw)
      refine ⟨fun h ↦ absurd rfl h, fun _ ⟨e, he, hw⟩ ↦ absurd hw (hnone e he), fun _ ↦ ?_⟩
      rw [hget, lastValue?_filter_wireName hs hn hb hf, hes]
      rfl
    | @value _ e w sent convert same =>
      obtain ⟨hw, htakes, hlast⟩ := lastValue?_of_filter_eq hs hn hb hf hes convert hset
      refine ⟨fun _ ↦ ⟨w, ?_, same⟩, fun h ↦ absurd h sent, fun h ↦ absurd hw (h e htakes)⟩
      rw [hget, hlast, Option.some_or]
    | @empty s e content convert =>
      obtain ⟨hw, htakes, hlast⟩ := lastValue?_of_filter_eq hs hn hb hf hes convert hset
      refine ⟨fun h ↦ absurd rfl h, fun _ _ ↦ ⟨s, content, ?_⟩, fun h ↦ absurd hw (h e htakes)⟩
      rw [hget, hlast, Option.some_or]

def soldBook : Document := ⟨bookType, [("title", .text "a"), ("year", .int (-7)),
  ("price", .decimal (.finite false 15 1)),
  ("seen", .moment ⟨⟨2008, 3, 14, by decide⟩, ⟨15, 9, 26, 0, by decide⟩, some .utc⟩),
  ("tags", .tuple [.text "x", .text "y"])]⟩

def soldTexts : List (String × String) := [("title_t", "a"), ("year", "-7"), ("price", "150"),
  ("seen", "2008-03-14T15:09:26Z"), ("tags", "x"), ("tags", "y")]

/-- A record that brings these texts back, in another order. -/
def soldRecord : Record :=
  ⟨[⟨"tags", "arr", "", [⟨"str", "x"⟩, ⟨"str", "y"⟩]⟩, ⟨"price", "double", "150", []⟩,
    ⟨"seen", "date", "2008-03-14T15:09:26Z", []⟩, ⟨"year", "int", "-7", []⟩,
    ⟨"title_t", "str", "a", []⟩]⟩

theorem map_of_sent_soldBook : Schema.build bookType = .ok bookSchema ∧
    (bookSchema.fields.map Field.wireName).Nodup ∧
      (∀ f ∈ bookSchema.fields, f.Keeps (soldBook.read f.member)) ∧
    Update.fieldsOf bookSchema soldBook = .ok soldTexts ∧ soldRecord.Brings bookSchema soldTexts ∧
    ∃ d', ((⟨bookSchema, true⟩ : Mapper).map soldRecord).result = .ok d' ∧
      ∀ f ∈ bookSchema.fields, ∃ w, d'.get? f.member = some w ∧
        f.ReadsBack (soldBook.read f.member) w := by
  have hn : (bookSchema.fields.map Field.wireName).Nodup := by decide
  have hd : ∀ f ∈ bookSchema.fields, f.Keeps (soldBook.read f.member) := by
    simp only [bookSchema, List.forall_mem_cons]
    refine ⟨.scalar rfl (.string "a"), .scalar rfl (.integer (by decide)),
      .scalar rfl (.decimal (by decide)), .scalar rfl (.optionalTimestamp ⟨rfl, rfl, by decide⟩),
      ?_, by simp⟩
    exact .container rfl rfl rfl (.inr rfl)
      (List.forall_mem_cons.2 ⟨.string "x", List.forall_mem_singleton.2 (.string "y")⟩)
  have hps : Update.fieldsOf bookSchema soldBook = .ok soldTexts :=
    eq_ok_of_toOption (by decide +kernel)
  have hb : soldRecord.Brings bookSchema soldTexts := by
    refine ⟨by decide, ?_⟩
    simp only [bookSchema, List.forall_mem_cons]
    refine ⟨.scalar rfl (.cons ⟨by decide, rfl⟩ .nil), .scalar rfl (.cons ⟨by decide, rfl⟩ .nil),
      .scalar rfl (.cons ⟨by decide, rfl⟩ .nil), .scalar rfl (.cons ⟨by decide, rfl⟩ .nil),
      ?_, by simp⟩
    exact .array (e := ⟨"tags", "arr", "", [⟨"str", "x"⟩, ⟨"str", "y"⟩]⟩) rfl rfl
  obtain ⟨ps, hps', -, hmap⟩ := map_of_sent (m := ⟨bookSchema, true⟩) build_bookType hn soldBook hd
  obtain rfl : soldTexts = ps := Except.ok.inj (hps.symm.trans hps')
  obtain ⟨-, hmade⟩ := hmap soldRecord hb
  obtain ⟨d', hd', hf⟩ := (hmade _ rfl).2 fun _ _ _ _ ↦ rfl
  have hsent : ∀ f ∈ bookSchema.fields, textsUnder soldTexts f.wireName ≠ [] := by decide
  exact ⟨build_bookType, hn, hd, hps, hb, d', hd', fun f hfm ↦ (hf f hfm).1 (hsent f hfm)⟩

def namedTicket : Document := ⟨ticketType, [("title", .text "a")]⟩

def namedTicketRecord : Record := ⟨[⟨"title", "str", "a", []⟩, ⟨"price", "int", "0", []⟩]⟩

/-- What a ticket sends is not read back, since no member of a ticket can be set. -/
theorem namedTicket_not_read_back : Schema.build ticketType = .ok ticketSchema ∧
    (ticketSchema.fields.map Field.wireName).Nodup ∧
    (∀ f ∈ ticketSchema.fields, f.Keeps (namedTicket.read f.member)) ∧
    Update.fieldsOf ticketSchema namedTicket = .ok [("title", "a"), ("price", "0")] ∧
    namedTicketRecord.Brings ticketSchema [("title", "a"), ("price", "0")] ∧
    ((⟨ticketSchema, true⟩ : Mapper).map namedTicketRecord).result =
      .error (.noAttribute "can't set attribute") := by
  refine ⟨build_ticketType, by decide, ?_, eq_ok_of_toOption (by decide +kernel), ⟨by decide, ?_⟩,
    rfl⟩
  · simp only [ticketSchema, List.forall_mem_cons]
    exact ⟨.scalar rfl (.string "a"), .scalar rfl (.integer (by decide)), by simp⟩
  · simp only [ticketSchema, List.forall_mem_cons]
    exact ⟨.scalar rfl (.cons ⟨by decide, rfl⟩ .nil),
      .scalar rfl (.cons ⟨by decide, rfl⟩ .nil), by simp⟩

end Mapper

end TypedSearch

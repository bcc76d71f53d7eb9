import TypedSearch.Proofs.Assembly
import TypedSearch.Proofs.Document.RoundTrip
import TypedSearch.Proofs.Document.Typing

/-!
# Containers sent again

A container that was assembled from texts can be sent, and what is sent is assembled to the same
container again, as far as its decimals are finite and its years have four digits (`Value.Lasts`).
One thing is lost: an optional moment may be null, which is read from a blank text but sent as
`None`, and no reader takes that for a moment.

So an item that was read is either null or kept by its text (`Kind.Holds`), and the first null among
the items decides (`Update.container_sent_again`).
-/

namespace TypedSearch

open Outcome Conversion Text

/-! ## Items that were read -/

/-- Is a value of those whose texts last? Decimals are finite, and years have four digits. -/
structure Value.Lasts (v : Value) : Prop where
  isFinite : ∀ x, v = .decimal x → ∃ s c e, x = .finite s c e
  le_year : ∀ m, v = .moment m → 1000 ≤ m.date.year

/-- The values that may be read by a kind, as far as they last: null for an optional moment, and
what the text of the kind keeps. -/
inductive Kind.Holds : Kind → Value → Prop
  | null : Holds .optionalTimestamp .null
  | kept {k : Kind} {v : Value} (value : k.Keeps v) : Holds k v

/-- The fault of reading the text of null as a value of a type. -/
def Conversion.badNull (t : Declared) : ElementFault := .unreadable "None" t.name (some .badText)

section Items

variable {call : Caller} {k : Kind} {t : Declared} {text : String} {v : Value} {s : Shape}
  {xs : List Value} {items : List Assembly.Item}

/-- What was read by a kind with a reader of its own is null or is kept by its text. -/
theorem Conversion.holds_of_convertAsBy (hfloat : k ≠ .float) (hcalled : k ≠ .generic)
    (h : convertAsBy call k t text = .ok v) (hl : v.Lasts) : k.Holds v := by
  have hread := mapError_eq_ok.1 h
  have hmoment : ∀ {m}, Timestamp.read (trim text.toList) = some m → v = .moment m →
      Timestamp.Keeps m := by
    intro m hm hv
    obtain ⟨hoffset, hmicro⟩ := Timestamp.isUtcSecond_of_read hm
    exact ⟨hoffset, hmicro, hl.le_year m hv⟩
  cases k with
  | integer =>
    obtain ⟨n, hn, rfl⟩ := orRefuse_eq_ok hread
    exact .kept (.integer (Whole.writable_of_read hn))
  | string =>
    cases hread
    exact .kept (.string _)
  | boolean =>
    obtain ⟨b, -, rfl⟩ := orRefuse_eq_ok hread
    exact .kept (.boolean b)
  | decimal =>
    obtain ⟨x, hx, rfl⟩ := orRefuse_eq_ok hread
    obtain ⟨s, c, e, rfl⟩ := hl.isFinite x rfl
    exact .kept (.decimal (Decimal.inRange_of_read hx))
  | timestamp =>
    obtain ⟨m, hm, rfl⟩ := orRefuse_eq_ok hread
    exact .kept (.timestamp (hmoment hm rfl))
  | optionalTimestamp =>
    change (if isBlankText text then _ else _) = Except.ok v at hread
    split at hread
    · cases hread
      exact .null
    · obtain ⟨m, hm, rfl⟩ := orRefuse_eq_ok hread
      exact .kept (.optionalTimestamp (hmoment hm rfl))
  | float => exact absurd rfl hfloat
  | generic => exact absurd rfl hcalled

theorem Value.literal_null : Value.null.literal = .ok "None" := rfl

/-- Every value that is held has a text. -/
theorem Kind.Holds.exists_literal (h : k.Holds v) : ∃ text, v.literal = .ok text := by
  cases h with
  | null => exact ⟨_, Value.literal_null⟩
  | kept value =>
    obtain ⟨text, htext, -⟩ := exists_convertAsBy_literal value
    exact ⟨text, htext⟩

/-- A kind keeps every value that it holds, except the missing one. -/
theorem Kind.Holds.keeps (h : k.Holds v) (hv : v ≠ .null) : k.Keeps v := by
  cases h with
  | null => exact absurd rfl hv
  | kept value => exact value

/-- The text of null is no moment, not even for a reader that takes a blank text for null. -/
theorem Conversion.convertAsBy_null (call : Caller) (t : Declared) :
    convertAsBy call .optionalTimestamp t "None" = .error (.element (badNull t)) := by
  have hread : Timestamp.read (trim "None".toList) = none := by decide
  have hblank : isBlankText "None" = false := by decide
  rw [convertAsBy, readAs, hblank, if_neg Bool.false_ne_true, hread]
  rfl

/-! ## Items that are sent again -/

namespace Assembly

/-- Of items that bring the texts of values, the first that brings the text of null is the first to
fail. -/
theorem exists_first_null (ht : s.element? = some t) (hk : t.kind? = .ok (some k))
    (hxs : ∀ x ∈ xs, k.Holds x)
    (h : List.Forall₂ (fun x i ↦ x.literal = .ok (Item.text i)) xs items) (hnull : .null ∈ xs) :
    ∃ before i after, items = before ++ i :: after ∧
      (∀ j ∈ before, ∃ w, convertItem call s j = .ok w) ∧
        convertItem call s i = .error (.element (badNull t)) := by
  induction h with
  | nil => cases hnull
  | @cons x i xs items hx _ ih =>
    obtain ⟨hxk, hxsk⟩ := List.forall_mem_cons.1 hxs
    cases hxk with
    | null =>
      refine ⟨[], i, items, rfl, by simp, ?_⟩
      rw [Field.convertItem_of_element? ht hk, ← Except.ok.inj (Value.literal_null.symm.trans hx),
        convertAsBy_null]
    | kept value =>
      have hrest : .null ∈ xs := (List.mem_cons.1 hnull).resolve_left (Ne.symm value.ne_null)
      obtain ⟨before, j, after, rfl, hbefore, hj⟩ := ih hxsk hrest
      obtain ⟨text, htext, hread⟩ := exists_convertAsBy_literal value
      obtain ⟨w, hw, -⟩ := hread call t
      refine ⟨i :: before, j, after, rfl, List.forall_mem_cons.2 ⟨⟨w, ?_⟩, hbefore⟩, hj⟩
      rw [Field.convertItem_of_element? ht hk, ← Except.ok.inj (htext.symm.trans hx), hw]

end Assembly

end Items

/-! ## Main statement -/

namespace Update

variable {schema : Schema} {d : Document} {f : Field} {s : Shape} {e : Declared} {k : Kind}
  {call : Caller} {xs : List Value} {items : List Assembly.Item} {v : Value}

/-- Items that are held have texts, and these are what a container of them sends. -/
theorem exists_textsOf_build (hf : f.content = .container s) (hxs : ∀ x ∈ xs, k.Holds x) :
    ∃ ts, textsOf f (Assembly.build s xs) = .ok ts ∧
      List.Forall₂ (fun x t ↦ x.literal = .ok t) xs ts := by
  obtain ⟨ts, hts⟩ := exists_mapM_eq_ok_iff.2 fun x hx ↦ (hxs x hx).exists_literal
  have hbuilt : Assembly.build s xs = .list xs ∨ Assembly.build s xs = .tuple xs := by
    cases s with
    | array e => exact .inr rfl
    | homogeneous e | untyped => exact .inl rfl
  exact ⟨ts, (Field.textsOf_container hf hbuilt).trans hts, mapM_eq_ok_iff.1 hts⟩

/-- Where every member can be sent, what one of them sends stands in what the document sends. -/
theorem exists_fieldsOf_append (hf : f ∈ schema.fields) {ps : List (String × String)}
    (hps : pairsOf d f = .ok ps) (hothers : ∀ g ∈ schema.fields, g ≠ f →
      ∃ qs, pairsOf d g = .ok qs) :
    ∃ before after, fieldsOf schema d = .ok (before ++ ps ++ after) := by
  have hall : ∀ g ∈ schema.fields, ∃ qs, pairsOf d g = .ok qs := by
    intro g hg
    by_cases hgf : g = f
    · exact ⟨ps, hgf ▸ hps⟩
    · exact hothers g hg hgf
  obtain ⟨before, after, hfields⟩ := List.append_of_mem hf
  rw [hfields] at hall
  obtain ⟨rows, hrows⟩ := exists_mapM_eq_ok_iff.2 fun g hg ↦ hall g (List.mem_append_left _ hg)
  obtain ⟨rows', hrows'⟩ :=
    exists_mapM_eq_ok_iff.2 fun g hg ↦ hall g (List.mem_append_right _ (List.mem_cons_of_mem f hg))
  refine ⟨rows.flatten, rows'.flatten, map_eq_ok.2 ⟨rows ++ ps :: rows', ?_, by simp⟩⟩
  rw [hfields]
  exact mapM_eq_ok_iff.2 (List.rel_append (mapM_eq_ok_iff.1 hrows)
    (.cons hps (mapM_eq_ok_iff.1 hrows')))

/-- A container that a member of a schema takes from an array, of items that are read by a kind with
a reader of its own, is sent if its items last: one text for each item, and no other member keeps
the document from being sent. From these texts the member takes the same container again, under
whatever tags they come, if no item is null. Only an optional moment can be null, and then the array
is refused for the first text of null. -/
theorem container_sent_again {t : DocumentType} (h : Schema.build t = .ok schema)
    (hf : f ∈ schema.fields) (hs : f.content = .container s) (he : s.element? = some e)
    (hk : e.kind? = .ok (some k)) (hfloat : k ≠ .float) (hcalled : k ≠ .generic)
    (hv : Assembly.assembleBy call f.type items = .ok v) :
    ∃ xs, v = Assembly.build s xs ∧ xs.length = items.length ∧ ((∀ x ∈ xs, x.Lasts) →
      (k ≠ .optionalTimestamp → .null ∉ xs) ∧
      ∃ ts, textsOf f v = .ok ts ∧ ts.length = xs.length ∧
        (∀ d : Document, d.read f.member = v →
          (∀ g ∈ schema.fields, g ≠ f → ∃ qs, pairsOf d g = .ok qs) →
          ∃ before after, fieldsOf schema d = .ok (before ++ ts.map (f.wireName, ·) ++ after)) ∧
        ∀ again : List Assembly.Item, again.map Assembly.Item.text = ts →
          (.null ∉ xs → ∃ ws, Assembly.assembleBy call f.type again = .ok (Assembly.build s ws) ∧
            List.Forall₂ Value.Matches xs ws) ∧
          (.null ∈ xs →
            Assembly.assembleBy call f.type again =
              .error (.collection f.type.name (some (badNull e))))) := by
  obtain ⟨hsound, -⟩ := Schema.sound_of_build h
  have hshape := Declared.shape?_of_content_container
    ((hsound.content_eq f hf).trans (congrArg _ hs))
  rw [Assembly.assembleBy_of_shape? hshape] at hv
  obtain ⟨xs, hxs, rfl⟩ := Assembly.assembleAs_eq_ok_iff.1 hv
  refine ⟨xs, rfl, hxs.length_eq.symm, fun hlasts ↦ ?_⟩
  have hholds : ∀ x ∈ xs, x.Lasts → k.Holds x := by
    refine forall_mem_of_forall₂ hxs fun i _ x hx ↦ ?_
    rw [Field.convertItem_of_element? he hk] at hx
    exact holds_of_convertAsBy hfloat hcalled hx
  have hheld : ∀ x ∈ xs, k.Holds x := fun x hx ↦ hholds x hx (hlasts x hx)
  obtain ⟨ts, hts, hliteral⟩ := exists_textsOf_build hs hheld
  refine ⟨fun hne hnull ↦ ?_, ts, hts, hliteral.length_eq.symm, fun d hd hothers ↦ ?_,
    fun again hagain ↦ ?_⟩
  · cases hheld _ hnull with
    | null => exact hne rfl
    | kept value => exact value.ne_null rfl
  · refine exists_fieldsOf_append hf ?_ hothers
    rw [pairsOf, hd, hts]
    rfl
  · rw [← hagain, List.forall₂_map_right_iff] at hliteral
    rw [Assembly.assembleBy_of_shape? hshape]
    refine ⟨fun hnull ↦ ?_, fun hnull ↦ ?_⟩
    · have hkeeps : ∀ x ∈ xs, k.Keeps x := fun x hx ↦ (hheld x hx).keeps fun h ↦ hnull (h ▸ hx)
      obtain ⟨ws, hws, hm⟩ := Field.exists_mapM_convertItem he hk hkeeps
        (mapM_eq_ok_iff.2 (List.forall₂_map_right_iff.2 hliteral))
      exact ⟨ws, Assembly.assembleAs_build_iff.2 (mapM_eq_ok_iff.1 hws), hm⟩
    · obtain ⟨before, i, after, hitems, hbefore, hi⟩ := Assembly.exists_first_null he hk hheld
        hliteral hnull
      exact Assembly.assembleAs_eq_error_iff.2 ⟨before, i, after, _, hitems, hbefore, hi, rfl⟩

/-- A dataclass with a tuple of prices and a list of moments that may be missing. -/
def logType : DocumentType where
  className := ⟨"docs", "Log"⟩
  layers := [{ form := .dataclass, members := [
    ⟨"prices", .applied .tuple .alias [.base .decimal, .rest], some .null, none⟩,
    ⟨"seen", .applied .list .alias [.union .brackets [.base .moment, .base .null]], some .null,
    none⟩] }]
  scope := .empty

def pricesField : Field :=
  ⟨"prices", "prices", .applied .tuple .alias [.base .decimal, .rest],
    .container (.array (.base .decimal)), false⟩

def seenField : Field :=
  ⟨"seen", "seen", .applied .list .alias [.union .brackets [.base .moment, .base .null]],
    .container (.homogeneous (.union .brackets [.base .moment, .base .null])), false⟩

theorem build_logType : Schema.build logType = .ok ⟨logType, [pricesField, seenField]⟩ :=
  eq_ok_of_toOption (by decide +kernel)

theorem container_sent_again_prices :
    Schema.build logType = .ok ⟨logType, [pricesField, seenField]⟩ ∧
    Assembly.assembleBy logType.call pricesField.type [⟨"double", " 1E+2 "⟩, ⟨"str", "-0.50"⟩] =
      .ok (.tuple [.decimal (.finite false 1 2), .decimal (.finite true 50 (-2))]) ∧
    ∃ ws, Assembly.assembleBy logType.call pricesField.type [⟨"str", "100"⟩, ⟨"str", "-0.50"⟩] =
      .ok (.tuple ws) ∧
      List.Forall₂ Value.Matches [.decimal (.finite false 1 2), .decimal (.finite true 50 (-2))]
        ws := by
  have hv : Assembly.assembleBy logType.call pricesField.type [⟨"double", " 1E+2 "⟩,
    ⟨"str", "-0.50"⟩] =
      .ok (Assembly.build (.array (.base .decimal)) [.decimal (.finite false 1 2),
        .decimal (.finite true 50 (-2))]) :=
    eq_ok_of_toOption (by decide +kernel)
  obtain ⟨xs, hxs, -, hsent⟩ := container_sent_again (f := pricesField) (k := .decimal)
    build_logType List.mem_cons_self rfl rfl rfl (by decide) (by decide) hv
  obtain rfl := Assembly.build_inj hxs
  have hlasts : ∀ x ∈ [Value.decimal (.finite false 1 2), .decimal (.finite true 50 (-2))],
      x.Lasts := by
    have hdecimal : ∀ s c e, (Value.decimal (.finite s c e)).Lasts := fun s c e ↦
      ⟨fun x hx ↦ ⟨s, c, e, (Value.decimal.inj hx).symm⟩, fun m hm ↦ Value.noConfusion hm⟩
    exact List.forall_mem_cons.2 ⟨hdecimal _ _ _, List.forall_mem_singleton.2 (hdecimal _ _ _)⟩
  obtain ⟨-, ts, hts, -, -, hagain⟩ := hsent hlasts
  obtain rfl : ["100", "-0.50"] = ts :=
    Except.ok.inj ((eq_ok_of_toOption (by decide +kernel)).symm.trans hts)
  exact ⟨build_logType, hv, (hagain [⟨"str", "100"⟩, ⟨"str", "-0.50"⟩] rfl).1 (by decide)⟩

/-- A moment that is missing is read from a blank text, but sent as one that is not read. -/
theorem missing_moment_not_sent_again :
    Assembly.assembleBy logType.call seenField.type [⟨"date", ""⟩] = .ok (.list [.null]) ∧
    fieldsOf ⟨logType, [pricesField, seenField]⟩ ⟨logType, [("seen", .list [.null])]⟩ =
      .ok [("seen", "None")] ∧
    Assembly.assembleBy logType.call seenField.type [⟨"date", "None"⟩] =
      .error (.collection "typing.List[typing.Optional[datetime.datetime]]"
        (some (.unreadable "None" "typing.Optional[datetime.datetime]" (some .badText)))) :=
  ⟨rfl, rfl, rfl⟩

end Update

end TypedSearch

import TypedSearch.Proofs.Client.Messages
import TypedSearch.Proofs.Markup.Printing

/-!
# What the bodies of commands tell

Two operations that send commands with the same body tell the server the same
(`Client.exists_tells_of_same_body`), whatever characters stand in the names and values that they
send: no value can pass for a further field, document, identifier or command. For the commands that
add and delete this is `Client.bodies_unambiguous`. It comes down to the fact that printed elements
can be told apart.
-/

namespace TypedSearch

open Markup Outcome

namespace Update

/-- What a command tells the server. -/
inductive Command where
  | add (documents : List (List (String × String)))
  | deleteByIds (ids : List String)
  | deleteByQuery (query : String)
  | flush (f : Flush) (w : Waiting)
deriving DecidableEq, Repr

def Command.element : Command → Element
  | .add documents => addElement documents
  | .deleteByIds ids => deleteElement ids
  | .deleteByQuery query => deleteByQueryText query
  | .flush f w => flushElement f w

/-! ## Commands as elements -/

theorem named_textElement {tag : String} {as : List (String × String)}
    (htag : isName tag.toList = true) (has : ∀ a ∈ as, isName a.1.toList = true ∧ a.1 ≠ "xmlns")
    (hn : (as.map Prod.fst).Nodup) (text : String) :
    (textElement tag as text).Named := ⟨htag, has, hn, trivial⟩

theorem allNamed_map {α : Type} {f : α → Element} (h : ∀ a, (f a).Named) (as : List α) :
    AllNamed (as.map f) := by
  induction as with
  | nil => trivial
  | cons a as ih => exact ⟨h a, ih⟩

theorem named_parentElement {tag : String} {es : List Element} (htag : isName tag.toList = true)
    (h : AllNamed es) : (parentElement tag es).Named :=
  ⟨htag, List.forall_mem_nil _, List.nodup_nil, h⟩

theorem named_deleteElement (ids : List String) : (deleteElement ids).Named := by
  have hid (id : String) : (textElement "id" [] id).Named :=
    named_textElement rfl (List.forall_mem_nil _) List.nodup_nil id
  exact named_parentElement rfl (allNamed_map hid ids)

theorem named_documentElement (fields : List (String × String)) :
    (documentElement fields).Named := by
  have hfield (p : String × String) : (textElement "field" [("name", p.1)] p.2).Named :=
    named_textElement rfl (by simp; decide) (by simp) p.2
  exact named_parentElement rfl (allNamed_map hfield fields)

theorem named_deleteByQueryText (query : String) : (deleteByQueryText query).Named := by
  have hquery : (textElement "query" [] query).Named :=
    named_textElement rfl (List.forall_mem_nil _) List.nodup_nil query
  exact named_parentElement rfl ⟨hquery, trivial⟩

theorem named_flushElement (f : Flush) (w : Waiting) : (flushElement f w).Named := by
  obtain ⟨wf, ws⟩ := w
  refine named_textElement ?_ ?_ ?_ ""
  · cases f <;> rfl
  · rcases wf with _ | wf <;> rcases ws with _ | ws <;>
      simp [Waiting.attributes, Waiting.wishAttribute] <;> decide
  · rcases wf with _ | wf <;> rcases ws with _ | ws <;>
      simp [Waiting.attributes, Waiting.wishAttribute]

/-- Every command has a body with proper names. -/
theorem Command.named_element (x : Command) : x.element.Named := by
  cases x with
  | add documents => exact named_parentElement rfl (allNamed_map named_documentElement documents)
  | deleteByIds ids => exact named_deleteElement ids
  | deleteByQuery query => exact named_deleteByQueryText query
  | flush f w => exact named_flushElement f w

theorem parentElement_inj {tag tag' : String} {es fs : List Element} :
    parentElement tag es = parentElement tag' fs ↔ tag = tag' ∧ es = fs := by
  simp [parentElement]

/-- An element of text is told by its tag, attributes and text. -/
theorem textElement_inj {tag tag' : String} {as bs : List (String × String)} {s t : String} :
    textElement tag as s = textElement tag' bs t ↔ tag = tag' ∧ as = bs ∧ s = t := by
  simp [textElement]

/-- Documents of different fields have different elements. -/
theorem documentElement_injective : Function.Injective documentElement := by
  intro xs ys h
  refine List.map_injective_iff.2 (fun p q hpq ↦ ?_) (parentElement_inj.1 h).2
  obtain ⟨-, hname, htext⟩ := textElement_inj.1 hpq
  exact Prod.ext (by simpa using hname) htext

/-- So have deletions of different identifiers. -/
theorem deleteElement_injective : Function.Injective deleteElement := by
  intro xs ys h
  exact List.map_injective_iff.2 (fun s t hst ↦ (textElement_inj.1 hst).2.2)
    (parentElement_inj.1 h).2

theorem deleteByIds_texts (ids : List String) :
    deleteByIds (ids.map .text) = .ok (deleteElement ids) := by
  have htexts : (ids.map Value.text).mapM Value.literal = .ok ids := by
    rw [mapM_eq_ok_iff, List.forall₂_map_left_iff, List.forall₂_same]
    exact fun id _ ↦ Value.literal_text id
  rw [deleteByIds, htexts]
  rfl

/-- The attributes of a command tell for each wish whether it is set, and to what. -/
theorem attributes_injective : Function.Injective Waiting.attributes := by
  have hflag : Function.Injective fun b : Bool ↦ if b then "true" else "false" := by
    intro b d h
    cases b <;> cases d <;> simp at h ⊢
  have hflush (w : Waiting) :
      w.attributes.lookup "waitFlush" = w.flush.map fun b ↦ if b then "true" else "false" := by
    obtain ⟨_ | b, _ | d⟩ := w <;> rfl
  have hsearcher (w : Waiting) :
      w.attributes.lookup "waitSearcher" =
        w.searcher.map fun b ↦ if b then "true" else "false" := by
    obtain ⟨_ | b, _ | d⟩ := w <;> rfl
  intro v w h
  have hf := hflush v
  have hs := hsearcher v
  rw [h, hflush] at hf
  rw [h, hsearcher] at hs
  exact congrArg₂ Waiting.mk (Option.map_injective hflag hf.symm)
    (Option.map_injective hflag hs.symm)

theorem tag_injective : Function.Injective Flush.tag := by
  intro f g h
  cases f <;> cases g <;> simp [Flush.tag] at h ⊢

theorem ne_tag (f : Flush) : "add" ≠ f.tag ∧ "delete" ≠ f.tag := by
  cases f <;> decide

namespace Command

theorem element_injective : Function.Injective element := by
  intro x y h
  cases x <;> cases y
  case add.add =>
    exact congrArg add (List.map_injective_iff.2 documentElement_injective
      (parentElement_inj.1 h).2)
  case deleteByIds.deleteByIds => exact congrArg deleteByIds (deleteElement_injective h)
  case deleteByQuery.deleteByQuery =>
    obtain ⟨-, hquery⟩ := parentElement_inj.1 h
    exact congrArg deleteByQuery (textElement_inj.1 (List.singleton_inj.1 hquery)).2.2
  case flush.flush =>
    obtain ⟨htag, hattributes, -⟩ := textElement_inj.1 h
    exact congrArg₂ flush (tag_injective htag) (attributes_injective hattributes)
  -- what is to be deleted stands in elements with different tags
  case deleteByIds.deleteByQuery ids _ | deleteByQuery.deleteByIds _ ids =>
    cases ids <;> simp [element, deleteElement, deleteByQueryText, parentElement, textElement] at h
  case add.deleteByIds | add.deleteByQuery | deleteByIds.add | deleteByQuery.add =>
    exact absurd (parentElement_inj.1 h).1 (by decide)
  case add.flush f _ => exact absurd (congrArg Element.tag h) (ne_tag f).1
  case deleteByIds.flush f _ | deleteByQuery.flush f _ =>
    exact absurd (congrArg Element.tag h) (ne_tag f).2
  case flush.add f _ _ => exact absurd (congrArg Element.tag h).symm (ne_tag f).1
  case flush.deleteByIds f _ _ | flush.deleteByQuery f _ _ =>
    exact absurd (congrArg Element.tag h).symm (ne_tag f).2

/-- No two commands have the same body. -/
theorem body_injective {x y : Command} (h : body x.element = body y.element) : x = y := by
  have hprint : x.element.print ++ [] = y.element.print ++ [] := by
    rw [String.ofList_injective h]
  exact element_injective (Element.print_append_inj x.named_element y.named_element hprint).1

end Command

end Update

/-! ## Operations that send commands -/

open Update

/-- What a document sends: the wire names and texts of its members, by the schema of its type. -/
def Document.Serializes (d : Document) (row : List (String × String)) : Prop :=
  ∃ s, Schema.build d.type = .ok s ∧ fieldsOf s d = .ok row

/-- What an operation tells the server, if it gives a command. -/
inductive Operation.Tells : Operation → Command → Prop
  | add {documents : List Document} {rows : List (List (String × String))}
      (serialized : List.Forall₂ Document.Serializes documents rows) : Tells (.add documents)
      (.add rows)
  | deleteByIds {ids : List Value} {texts : List String}
      (serialized : List.Forall₂ (fun v text ↦ v.literal = .ok text) ids texts) :
      Tells (.deleteByIds ids) (.deleteByIds texts)
  | deleteByQuery {query : QueryInput} {text : String} (rendered : query.render = .ok text) :
      Tells (.deleteByQuery query) (.deleteByQuery text)
  | flush (f : Flush) (w : Waiting) : Tells (.flush f w) (.flush f w)

namespace Client

variable {c : Client} {o o' : Operation} {text : String}

def Posts (c : Client) (o : Operation) (text : String) : Prop :=
  ∃ path, c.call? o = some (.post path text)

/-- What is sent is the body of the command that an operation tells. -/
theorem exists_tells_of_posts (h : c.Posts o text) : ∃ x, o.Tells x ∧ body x.element = text := by
  obtain ⟨path, h⟩ := h
  obtain ⟨plan, hplan, hcall⟩ := Option.bind_eq_some_iff.1 h
  replace hplan := eq_ok_of_toOption hplan
  cases plan with
  | settled => cases hcall
  | exchange e =>
    obtain ⟨read, hsends, -⟩ := sends_of_plan hplan
    rw [Option.some.inj hcall] at hsends
    cases hsends with
    | add serialized => exact ⟨_, .add serialized, rfl⟩
    | deleteByIds serialized => exact ⟨_, .deleteByIds serialized, rfl⟩
    | deleteByQuery rendered => exact ⟨_, .deleteByQuery rendered, rfl⟩
    | flush f w => exact ⟨_, .flush f w, rfl⟩

/-- Operations that send the same body tell the server the same. -/
theorem exists_tells_of_same_body (h : c.Posts o text) (h' : c.Posts o' text) :
    ∃ x, o.Tells x ∧ o'.Tells x := by
  obtain ⟨x, htells, hx⟩ := exists_tells_of_posts h
  obtain ⟨y, htells', hy⟩ := exists_tells_of_posts h'
  obtain rfl := Command.body_injective (hx.trans hy.symm)
  exact ⟨x, htells, htells'⟩

end Client

end TypedSearch

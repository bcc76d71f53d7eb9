import TypedSearch.Query.Builder
import TypedSearch.Proofs.Document.Registry
import TypedSearch.Proofs.Query.Requests

/-!
# Stages of a query

What a single step can do to a query under construction is said once (`Stage.Leads`), and
`Stage.advance` does exactly that (`Stage.advance_eq_ok_iff`). All that is known about queries after
any number of steps is derived from there, for a row of steps that looks schemas up in a registry
(`Stage.takeAll`) and for one that builds them anew (`Stage.advanceAll`): the two give the same as
long as the registry is sound.
-/

namespace TypedSearch.Query

open Outcome

/-- Whether a step includes or excludes the ends of the last range, if it does either. -/
def Step.inclusivity? : Step → Option Bool
  | .inclusive => some true
  | .exclusive => some false
  | _ => none

def Step.page? : Step → Option (Option Value × Option Value)
  | .paginate start rows => some (start, rows)
  | _ => none

def Step.sortKey? : Step → Option SortKey
  | .orderBy n order => (Stage.directionOf order).toOption.map fun d ↦ ⟨n, d⟩
  | _ => none

/-! ## Builders -/

namespace Builder

variable {b b' : Builder} {init : List Clause} {n : String} {lower upper : Value}
  {inclusive flag : Bool}

/-- A page is turned to as it is given, and nothing else changes. -/
theorem paginate_eq_ok_iff {start rows : Option Value} : b.paginate start rows = .ok b' ↔
    (∀ v ∈ start, v.isNegative = .ok false) ∧ (∀ v ∈ rows, v.isNegative = .ok false) ∧
      b' = ⟨⟨b.request.query, b.request.sort, start, rows⟩, false⟩ := by
  unfold paginate
  rw [map_eq_ok]
  constructor
  · rintro ⟨r, hr, rfl⟩
    obtain ⟨hs, hrows, rfl⟩ := Request.make_eq_ok_iff.1 hr
    exact ⟨hs, hrows, rfl⟩
  · rintro ⟨hs, hr, rfl⟩
    exact ⟨_, Request.make_eq_ok_iff.2 ⟨hs, hr, rfl⟩, rfl⟩

/-- Where the last clause is a range, toggling settles its ends and leaves all else alone. -/
theorem toggle_of_range (h : b.request.query.clauses = init ++ [.range n lower upper flag])
    (inclusive : Bool) :
    b.toggle inclusive = .ok (b.withQuery ⟨init ++ [.range n lower upper inclusive]⟩ true) := by
  have hlast : b.request.query.clauses.getLast? = some (.range n lower upper flag) := by
    rw [h, List.getLast?_concat]
  have hreplace : b.request.query.replaceLast (.range n lower upper inclusive) =
      .ok ⟨init ++ [.range n lower upper inclusive]⟩ := by
    simp [Expression.replaceLast, h]
  simp only [toggle, hlast, hreplace]
  rfl

/-- What can be toggled ends in a range. -/
theorem toggle_eq_ok_iff : b.toggle inclusive = .ok b' ↔
    ∃ init n lower upper flag, b.request.query.clauses = init ++ [.range n lower upper flag] ∧
      b' = b.withQuery ⟨init ++ [.range n lower upper inclusive]⟩ true := by
  constructor
  · intro h
    have htoggle := h
    unfold toggle at h
    split at h
    · rename_i n lower upper flag hlast
      obtain ⟨init, hinit⟩ := List.getLast?_eq_some_iff.1 hlast
      rw [toggle_of_range hinit] at htoggle
      exact ⟨init, n, lower, upper, flag, hinit, (Except.ok.inj htoggle).symm⟩
    · cases h
  · rintro ⟨init, n, lower, upper, flag, hlast, rfl⟩
    exact toggle_of_range hlast inclusive

/-- An example adds its clauses behind all others. -/
theorem byExample_eq_ok_iff {schema : Schema} {d : Document} : b.byExample schema d = .ok b' ↔
    ∃ cs, exampleClauses schema d = .ok cs ∧
      b' = b.withQuery ⟨b.request.query.clauses ++ cs⟩ false := by
  simp only [byExample, map_eq_ok, eq_comm (b := b')]

end Builder

namespace Stage

variable {schemaOf : DocumentType → Except Fault Schema} {s s' : Stage} {step : Step}
  {steps : List Step} {l l' : Ledger}

def base : Stage → Builder
  | .builder b | .field b _ | .bound b _ _ => b

/-- The value that a clause gets: the one that is given, or its text with escapes. -/
def valueOf (v : Value) (escape : Bool) : Except Fault Value :=
  if escape then escapedValue v else .ok v

/-! ## One step -/

/-- What the steps do that can be taken. -/
inductive Leads (schemaOf : DocumentType → Except Fault Schema) : Stage → Step → Stage → Prop
  | field (b : Builder) (n : String) : Leads schemaOf (.builder b) (.field n) (.field b n)
  | equals {v w : Value} {escape : Bool} (b : Builder) (n : String)
      (value : valueOf v escape = .ok w) :
      Leads schemaOf (.field b n) (.equals v escape) (.builder (b.addClause (.equality n w)))
  | between (b : Builder) (n : String) (lower : Value) :
      Leads schemaOf (.field b n) (.between lower) (.bound b n lower)
  | upTo (b : Builder) (n : String) (lower upper : Value) :
      Leads schemaOf (.bound b n lower) (.upTo upper) (.builder (b.byRange n lower upper))
  | range (b : Builder) (n : String) (lower upper : Value) :
      Leads schemaOf (.builder b) (.range n lower upper) (.builder (b.byRange n lower upper))
  /-- Only a builder that ends in a range can be toggled. -/
  | toggle {b b' : Builder} {step : Step} {inclusive : Bool}
      (toggles : step.inclusivity? = some inclusive) (ranged : b.isRanged = true)
      (toggled : b.toggle inclusive = .ok b') :
      Leads schemaOf (.builder b) step (.builder b')
  | whereText (b : Builder) (text : String) :
      Leads schemaOf (.builder b) (.whereText text) (.builder (b.whereText text))
  | orderBy {order : Option String} {d : Direction} (b : Builder) (n : String)
      (direction : directionOf order = .ok d) :
      Leads schemaOf (.builder b) (.orderBy n order) (.builder (b.orderBy n d))
  | paginate {b b' : Builder} {start rows : Option Value}
      (turned : b.paginate start rows = .ok b') :
      Leads schemaOf (.builder b) (.paginate start rows) (.builder b')
  | byExample {b b' : Builder} {d : Document} {schema : Schema}
      (known : schemaOf d.type = .ok schema)
      (added : b.byExample schema d = .ok b') : Leads schemaOf (.builder b) (.byExample d)
      (.builder b')

/-- The steps that a stage takes are those of the relation. -/
theorem advance_eq_ok_iff : s.advance schemaOf step = .ok s' ↔ Leads schemaOf s step s' := by
  constructor
  · intro h
    cases s with
    | builder b =>
      cases step with
      | field n => cases h; exact .field b n
      | range n lower upper => cases h; exact .range b n lower upper
      | whereText text => cases h; exact .whereText b text
      | inclusive =>
        simp only [advance] at h
        split at h
        · rename_i hr
          obtain ⟨b', hb, rfl⟩ := map_eq_ok.1 h
          exact .toggle rfl hr hb
        · cases h
      | exclusive =>
        simp only [advance] at h
        split at h
        · rename_i hr
          obtain ⟨b', hb, rfl⟩ := map_eq_ok.1 h
          exact .toggle rfl hr hb
        · cases h
      | orderBy n order => obtain ⟨d, hd, rfl⟩ := map_eq_ok.1 h; exact .orderBy b n hd
      | paginate start rows => obtain ⟨b', hb, rfl⟩ := map_eq_ok.1 h; exact .paginate hb
      | byExample d =>
        obtain ⟨schema, hs, h⟩ := bind_eq_ok.1 h
        obtain ⟨b', hb, rfl⟩ := map_eq_ok.1 h
        exact .byExample hs hb
      | _ => cases h
    | field b n =>
      cases step with
      | equals v escape => obtain ⟨w, hw, rfl⟩ := map_eq_ok.1 h; exact .equals b n hw
      | between lower => cases h; exact .between b n lower
      | _ => cases h
    | bound b n lower =>
      cases step with
      | upTo upper => cases h; exact .upTo b n lower upper
      | _ => cases h
  · intro h
    cases h with
    | equals b n hw => exact map_eq_ok.2 ⟨_, hw, rfl⟩
    | @toggle b b' step inclusive ht hr hb =>
      cases step <;> cases ht <;> exact (if_pos hr).trans (map_eq_ok.2 ⟨_, hb, rfl⟩)
    | orderBy b n hd => exact map_eq_ok.2 ⟨_, hd, rfl⟩
    | paginate hb => exact map_eq_ok.2 ⟨_, hb, rfl⟩
    | byExample hs hb => exact bind_eq_ok.2 ⟨_, hs, map_eq_ok.2 ⟨_, hb, rfl⟩⟩
    | _ => rfl

/-- A step does what it does by itself, where an example is turned into clauses by what the registry
answers. -/
theorem result_take (s : Stage) (step : Step) (l : Ledger) :
    ((s.take step).run.run l).1 = s.advance l.registry.answer step := by
  cases s with
  | builder b =>
    cases step with
    | byExample d =>
      have hr := Resolving.run_resolve (.type d.type) l
      simp only [take, advance, Registry.answer]
      cases h : l.registry.resolve (.type d.type) with
      | ok a => rw [h] at hr; rw [Resolving.run_bind_of_ok hr]; rfl
      | error e => rw [h] at hr; rw [Resolving.run_bind_of_error hr]; rfl
    | _ => rfl
  | _ => cases step <;> rfl

/-- A step leaves a registry sound, whether or not it can be taken. -/
theorem sound_take (s : Stage) (step : Step) (h : l.registry.Sound) :
    ((s.take step).run.run l).2.registry.Sound := by
  cases s with
  | builder b =>
    cases step with
    | byExample d =>
      have hr := Resolving.sound_run_resolve (.type d.type) h
      rcases hx : (Resolving.resolve (.type d.type)).run.run l with ⟨e | schema, l₁⟩
      · rw [hx] at hr
        simp only [take]
        rw [Resolving.run_bind_of_error hx]
        exact hr
      · rw [hx] at hr
        simp only [take]
        rw [Resolving.run_bind_of_ok hx]
        exact hr
    | _ => exact h
  | _ => cases step <;> exact h

/-- A step that registers on its way leads where the answers of its registry lead. -/
theorem leads_of_take (h : (s.take step).run.run l = (.ok s', l')) :
    Leads l.registry.answer s step s' :=
  advance_eq_ok_iff.1 ((result_take s step l).symm.trans (congrArg Prod.fst h))

/-- Only a step that asks for a page changes the page. -/
theorem Leads.page_eq (h : Leads schemaOf s step s') :
    s'.base.request.page = step.page?.getD s.base.request.page := by
  cases h with
  | toggle ht hr hb =>
    obtain ⟨init, n, lower, upper, flag, -, rfl⟩ := Builder.toggle_eq_ok_iff.1 hb
    cases step <;> cases ht <;> rfl
  | paginate hb =>
    obtain ⟨-, -, rfl⟩ := Builder.paginate_eq_ok_iff.1 hb
    rfl
  | byExample hs hb =>
    obtain ⟨cs, -, rfl⟩ := Builder.byExample_eq_ok_iff.1 hb
    rfl
  | _ => rfl

/-- Only a step that adds a key to sort by changes the order. -/
theorem Leads.sort_eq (h : Leads schemaOf s step s') :
    s'.base.request.sort.keys = s.base.request.sort.keys ++ step.sortKey?.toList := by
  cases h with
  | toggle ht hr hb =>
    obtain ⟨init, n, lower, upper, flag, -, rfl⟩ := Builder.toggle_eq_ok_iff.1 hb
    cases step <;> cases ht <;> exact (List.append_nil _).symm
  | orderBy b n hd =>
    rw [Step.sortKey?, hd]
    rfl
  | paginate hb =>
    obtain ⟨-, -, rfl⟩ := Builder.paginate_eq_ok_iff.1 hb
    exact (List.append_nil _).symm
  | byExample hs hb =>
    obtain ⟨cs, -, rfl⟩ := Builder.byExample_eq_ok_iff.1 hb
    exact (List.append_nil _).symm
  | _ => exact (List.append_nil _).symm

/-! ## Rows of steps -/

def takeAll (s : Stage) (steps : List Step) : Resolving Stage := steps.foldlM take s

/-- The stage after a row of steps that do not share a registry. -/
def advanceAll (schemaOf : DocumentType → Except Fault Schema) (s : Stage) (steps : List Step) :
    Except Fault Stage := steps.foldlM (advance schemaOf) s

@[simp] theorem takeAll_nil (s : Stage) : s.takeAll [] = pure s := rfl

@[simp] theorem takeAll_singleton (s : Stage) (step : Step) : s.takeAll [step] = s.take step := by
  simp [takeAll]

theorem takeAll_cons (s : Stage) (step : Step) (steps : List Step) :
    s.takeAll (step :: steps) = s.take step >>= fun s ↦ s.takeAll steps := List.foldlM_cons

/-- A path is taken in two parts. -/
theorem takeAll_append (s : Stage) (steps more : List Step) :
    s.takeAll (steps ++ more) = s.takeAll steps >>= fun s ↦ s.takeAll more := List.foldlM_append

@[simp] theorem advanceAll_nil (s : Stage) : s.advanceAll schemaOf [] = .ok s := rfl

/-- A row of steps can be taken iff its first step can, and the others from where that leads. -/
theorem advanceAll_cons_eq_ok_iff : s.advanceAll schemaOf (step :: steps) = .ok s' ↔
    ∃ s₁, Leads schemaOf s step s₁ ∧ s₁.advanceAll schemaOf steps = .ok s' := by
  simp only [advanceAll, List.foldlM_cons, bind_eq_ok, advance_eq_ok_iff]

/-- The last step of a path leads on from where the others led. -/
theorem advanceAll_concat_eq_ok_iff : s.advanceAll schemaOf (steps ++ [step]) = .ok s' ↔
    ∃ s₁, s.advanceAll schemaOf steps = .ok s₁ ∧ Leads schemaOf s₁ step s' := by
  simp only [advanceAll, List.foldlM_append, bind_eq_ok, ← advance_eq_ok_iff, List.foldlM_cons,
    List.foldlM_nil, bind_pure]

/-- What every step of a row keeps, the row keeps. -/
theorem takeAll_invariant {P : Stage → Prop}
    (hP : ∀ schemaOf s step s', step ∈ steps → P s → Leads schemaOf s step s' → P s') (hs : P s)
    (h : (s.takeAll steps).run.run l = (.ok s', l')) : P s' := by
  induction steps generalizing s l with
  | nil =>
    cases h
    exact hs
  | cons step steps ih =>
    rw [takeAll_cons] at h
    obtain ⟨s₁, l₁, h₁, h⟩ := Resolving.run_bind_eq_ok_iff.1 h
    refine ih (fun schemaOf s step' s' hm ↦ hP schemaOf s step' s' (List.mem_cons_of_mem _ hm)) ?_ h
    exact hP _ s step s₁ List.mem_cons_self hs (leads_of_take h₁)

/-! ## Rows that add clauses -/

/-- Do steps add a clause, and nothing else, to whatever builder they start from? -/
def Adds (steps : List Step) (c : Clause) : Prop :=
  ∀ b, (builder b).takeAll steps = pure (builder (b.addClause c))

/-- Naming a field and a value adds the equality of the two. -/
theorem adds_equals {n : String} {v w : Value} {escape : Bool} (h : valueOf v escape = .ok w) :
    Adds [.field n, .equals v escape] (.equality n w) := by
  intro b
  change Resolving.ofExcept ((valueOf v escape).map _) >>= pure = _
  rw [h, bind_pure]
  rfl

theorem adds_range (n : String) (lower upper : Value) :
    Adds [.range n lower upper] (.range n lower upper true) := fun _ ↦ rfl

/-- A range whose ends are excluded right after it is a range without its ends. -/
theorem adds_range_exclusive (n : String) (lower upper : Value) :
    Adds [.range n lower upper, .exclusive] (.range n lower upper false) := by
  intro b
  change Resolving.ofExcept (((b.byRange n lower upper).toggle false).map builder) >>= pure = _
  rw [Builder.toggle_of_range rfl, bind_pure]
  rfl

theorem adds_whereText (text : String) : Adds [.whereText text] (.raw text) := fun _ ↦ rfl

/-- Steps that each add a clause add all of them in their order. -/
theorem takeAll_flatMap {α : Type} {as : List α} {steps : α → List Step} {clause : α → Clause}
    (h : ∀ a ∈ as, Adds (steps a) (clause a)) (b : Builder) :
    (builder b).takeAll (as.flatMap steps) =
      pure (builder ((as.map clause).foldl Builder.addClause b)) := by
  induction as generalizing b with
  | nil => rfl
  | cons a as ih =>
    rw [List.flatMap_cons, takeAll_append, h a List.mem_cons_self, pure_bind]
    exact ih (fun a ha ↦ h a (List.mem_cons_of_mem _ ha)) _

end Stage

/-- Clauses that are added one after the other stand behind those that are there. -/
theorem Builder.request_addClauses (b : Builder) (cs : List Clause) :
    (cs.foldl addClause b).request =
      { b.request with query := ⟨b.request.query.clauses ++ cs⟩ } := by
  induction cs generalizing b with
  | nil => simp
  | cons c cs ih => simp [ih, addClause, withQuery]

end TypedSearch.Query

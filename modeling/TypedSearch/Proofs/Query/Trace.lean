import TypedSearch.Proofs.Query.Toggles

/-!
# What a query owes to its path

A builder is the end of a row of steps that starts with the builder for everything: its path. What
it asks for can be read off the path alone. The clauses are those that the steps contribute, in
their order (`clausesOf`), where a range has the inclusivity that was settled while it was the last
clause; the order is made of the keys that were asked for, and the page is the one that was asked
for last.

Builders that are made from each other form a tree (`Tree`), which grows by a step at any of its
nodes. No step changes a node that is there already, so what a builder asks for stays what its path
says.
-/

namespace TypedSearch.Query

open Outcome

/-! ## What is read off a path -/

/-- Does a step complete a clause, or add those of an example? -/
def Step.addsClauses : Step → Bool
  | .equals .. | .upTo _ | .range .. | .whereText _ | .byExample _ => true
  | _ => false

/-- The inclusivity that is settled last before another clause is added, if any is. -/
def lastToggle? (path : List Step) : Option Bool :=
  ((path.takeWhile fun step ↦ !step.addsClauses).filterMap Step.inclusivity?).getLast?

/-- The clauses that the steps of a path contribute. A range that nothing is settled about includes
its ends. -/
def clausesOf (schemaOf : DocumentType → Except Fault Schema) :
    List Step → Except Fault (List Clause)
  | [] => .ok []
  | .field n :: .equals v escape :: rest => do
    let w ← Stage.valueOf v escape
    return .equality n w :: (← clausesOf schemaOf rest)
  | .field n :: .between lower :: .upTo upper :: rest =>
    return .range n lower upper ((lastToggle? rest).getD true) :: (← clausesOf schemaOf rest)
  | .range n lower upper :: rest =>
    return .range n lower upper ((lastToggle? rest).getD true) :: (← clausesOf schemaOf rest)
  | .whereText text :: rest => return .raw text :: (← clausesOf schemaOf rest)
  | .byExample d :: rest => do
    let cs ← Builder.exampleClauses (← schemaOf d.type) d
    return cs ++ (← clausesOf schemaOf rest)
  | _ :: rest => clausesOf schemaOf rest

def sortKeysOf (path : List Step) : List SortKey := path.filterMap Step.sortKey?

/-- The page that the steps of a path ask for last; without any, nothing is asked for. -/
def pageOf (path : List Step) : Option Value × Option Value :=
  (path.filterMap Step.page?).getLast?.getD (none, none)

section LastToggle

variable {step : Step} {rest : List Step}

/-- Only the steps up to the next clause are toggles of the range before. -/
theorem lastToggle?_cons_of_addsClauses (h : step.addsClauses = true) :
    lastToggle? (step :: rest) = none := by
  simp [lastToggle?, h]

theorem lastToggle?_cons_of_not_toggle (h : step.addsClauses = false)
    (hi : step.inclusivity? = none) :
    lastToggle? (step :: rest) = lastToggle? rest := by
  simp [lastToggle?, h, hi]

/-- A toggle counts unless another one follows. -/
theorem lastToggle?_cons_of_toggle {inclusive : Bool} (h : step.inclusivity? = some inclusive) :
    lastToggle? (step :: rest) = some ((lastToggle? rest).getD inclusive) := by
  have ha : step.addsClauses = false := by cases step <;> cases h <;> rfl
  simp [lastToggle?, h, ha, List.getLast?_cons]

end LastToggle

/-! ## Clauses between two builders -/

namespace Builder

variable {b b₁ b' : Builder} {cs ds : List Clause} {toggle? : Option Bool} {c : Clause}

/-- Does one builder have the clauses of another one and some more? If a range stands last in the
other one, it may have been settled in between. -/
structure Extends (b b' : Builder) (toggle? : Option Bool) (cs : List Clause) : Prop where
  of_not_ranged : b.isRanged = false → b'.request.query.clauses = b.request.query.clauses ++ cs
  of_ranged : ∀ init n lower upper flag, b.isRanged = true →
    b.request.query.clauses = init ++ [.range n lower upper flag] →
    b'.request.query.clauses = init ++ .range n lower upper (toggle?.getD flag) :: cs

/-- A builder extends itself by nothing. -/
theorem Extends.refl (b : Builder) : b.Extends b none [] := by
  refine ⟨fun _ ↦ (List.append_nil _).symm, fun init n lower upper flag _ h ↦ ?_⟩
  exact h

/-- More clauses behind those that are there settle nothing about these. -/
theorem Extends.of_append (h : b'.request.query.clauses = b.request.query.clauses ++ cs) :
    b.Extends b' none cs := by
  refine ⟨fun _ ↦ h, fun init n lower upper flag _ hlast ↦ ?_⟩
  rw [h, hlast, List.append_assoc]
  rfl

/-- A builder that cannot be toggled any more only gets more clauses. -/
theorem Extends.of_not_toggled (h : b₁.Extends b' toggle? cs) (hr : b₁.isRanged = false)
    (hc : b₁.request.query.clauses = b.request.query.clauses ++ ds) :
    b.Extends b' none (ds ++ cs) := by
  apply Extends.of_append
  rw [h.of_not_ranged hr, hc, List.append_assoc]

theorem Extends.of_same_clauses (h : b₁.Extends b' toggle? cs) (hr : b₁.isRanged = false)
    (hc : b₁.request.query.clauses = b.request.query.clauses) : b.Extends b' none cs := by
  apply Extends.of_append
  rw [h.of_not_ranged hr, hc]

/-- A clause that is no range stays as it was added. -/
theorem Extends.of_addClause (h : (b.addClause c).Extends b' toggle? cs) (hc : c.isRange = false) :
    b.Extends b' none (c :: cs) := h.of_not_toggled hc rfl

/-- A range gets the inclusivity that is settled after it. -/
theorem Extends.of_byRange {n : String} {lower upper : Value}
    (h : (b.byRange n lower upper).Extends b' toggle? cs) :
    b.Extends b' none (.range n lower upper (toggle?.getD true) :: cs) :=
  .of_append (h.of_ranged b.request.query.clauses n lower upper true rfl rfl)

/-- Of two toggles the later one counts. -/
theorem Extends.of_toggle {inclusive : Bool} (h : b₁.Extends b' toggle? cs) (hr : b.isRanged = true)
    (hb : b.toggle inclusive = .ok b₁) : b.Extends b' (some (toggle?.getD inclusive)) cs := by
  refine ⟨fun hn ↦ absurd hr (ne_true_of_eq_false hn), fun init n lower upper flag _ hlast ↦ ?_⟩
  cases (toggle_of_range hlast inclusive).symm.trans hb
  exact h.of_ranged init n lower upper inclusive rfl rfl

end Builder

namespace Stage

variable {schemaOf : DocumentType → Except Fault Schema} {s s' : Stage} {b b' : Builder}
  {step : Step} {path : List Step}

/-- Where no toggle is offered, none is taken before the next clause is added. -/
theorem Leads.of_not_offers (h : Leads schemaOf s step s') (hs : s.offers .inclusive = false) :
    step.addsClauses = true ∨
      step.addsClauses = false ∧ step.inclusivity? = none ∧ s'.offers .inclusive = false := by
  cases h with
  | field b n => exact .inr ⟨rfl, rfl, rfl⟩
  | between b n lower => exact .inr ⟨rfl, rfl, rfl⟩
  | orderBy b n hd => exact .inr ⟨rfl, rfl, rfl⟩
  | paginate hb =>
    obtain ⟨-, -, rfl⟩ := Builder.paginate_eq_ok_iff.1 hb
    exact .inr ⟨rfl, rfl, rfl⟩
  | toggle ht hr hb => exact absurd hr (ne_true_of_eq_false hs)
  | _ => exact .inl rfl

/-- Where toggles are not offered, a path that can be taken begins with none. -/
theorem lastToggle?_eq_none (h : s.advanceAll schemaOf path = .ok s')
    (hs : s.offers .inclusive = false) :
    lastToggle? path = none := by
  induction path generalizing s with
  | nil => rfl
  | cons step rest ih =>
    obtain ⟨s₁, hl, h⟩ := advanceAll_cons_eq_ok_iff.1 h
    rcases hl.of_not_offers hs with ha | ⟨ha, hi, hs₁⟩
    · exact lastToggle?_cons_of_addsClauses ha
    · rw [lastToggle?_cons_of_not_toggle ha hi, ih h hs₁]

/-! ## What is read off a path is what comes about on it -/

/-- The sort keys of a path stand behind those of its start. -/
theorem sort_of_advanceAll (h : s.advanceAll schemaOf path = .ok s') :
    s'.base.request.sort.keys = s.base.request.sort.keys ++ sortKeysOf path := by
  induction path generalizing s with
  | nil =>
    cases h
    exact (List.append_nil _).symm
  | cons step rest ih =>
    obtain ⟨s₁, hl, h⟩ := advanceAll_cons_eq_ok_iff.1 h
    rw [ih h, hl.sort_eq, sortKeysOf, sortKeysOf, List.filterMap_cons]
    cases step.sortKey? <;> simp

/-- The last page of a path is the page that is asked for. -/
theorem page_of_advanceAll (h : s.advanceAll schemaOf path = .ok s') :
    s'.base.request.page = (path.filterMap Step.page?).getLast?.getD s.base.request.page := by
  induction path generalizing s with
  | nil =>
    cases h
    rfl
  | cons step rest ih =>
    obtain ⟨s₁, hl, h⟩ := advanceAll_cons_eq_ok_iff.1 h
    rw [ih h, hl.page_eq, List.filterMap_cons]
    cases step.page? <;> simp [List.getLast?_cons]

/-- The clauses between two builders are those that the steps between them contribute. -/
theorem exists_extends_of_advanceAll (h : (builder b).advanceAll schemaOf path = .ok (builder b')) :
    ∃ cs, clausesOf schemaOf path = .ok cs ∧ b.Extends b' (lastToggle? path) cs := by
  fun_induction clausesOf schemaOf path generalizing b with
  | case1 =>
    cases h
    exact ⟨[], rfl, .refl _⟩
  | case2 n v escape rest ih =>
    change (field b n).advanceAll schemaOf (.equals v escape :: rest) = _ at h
    obtain ⟨s₁, hl, h⟩ := advanceAll_cons_eq_ok_iff.1 h
    obtain ⟨w, hw, rfl⟩ := map_eq_ok.1 (advance_eq_ok_iff.2 hl)
    obtain ⟨cs, hcs, he⟩ := ih h
    exact ⟨_, bind_eq_ok.2 ⟨w, hw, bind_eq_ok.2 ⟨cs, hcs, rfl⟩⟩, he.of_addClause rfl⟩
  | case3 n lower upper rest ih | case4 n lower upper rest ih =>
    change (builder (b.byRange n lower upper)).advanceAll schemaOf rest = _ at h
    obtain ⟨cs, hcs, he⟩ := ih h
    exact ⟨_, bind_eq_ok.2 ⟨cs, hcs, rfl⟩, he.of_byRange⟩
  | case5 text rest ih =>
    change (builder (b.whereText text)).advanceAll schemaOf rest = _ at h
    obtain ⟨cs, hcs, he⟩ := ih h
    exact ⟨_, bind_eq_ok.2 ⟨cs, hcs, rfl⟩, he.of_addClause rfl⟩
  | case6 d rest ih =>
    obtain ⟨s₁, hl, h⟩ := advanceAll_cons_eq_ok_iff.1 h
    obtain ⟨schema, hs, hl⟩ := bind_eq_ok.1 (advance_eq_ok_iff.2 hl)
    obtain ⟨b₁, hb, rfl⟩ := map_eq_ok.1 hl
    obtain ⟨ds, hds, rfl⟩ := Builder.byExample_eq_ok_iff.1 hb
    obtain ⟨cs, hcs, he⟩ := ih h
    exact ⟨_, bind_eq_ok.2 ⟨schema, hs, bind_eq_ok.2 ⟨ds, hds, bind_eq_ok.2 ⟨cs, hcs, rfl⟩⟩⟩,
      he.of_not_toggled rfl rfl⟩
  | case7 step rest hequals hbetween hrange hwhere hexample ih =>
    obtain ⟨s₁, hl, h⟩ := advanceAll_cons_eq_ok_iff.1 h
    cases hl with
    | toggle ht hr hb =>
      obtain ⟨cs, hcs, he⟩ := ih h
      rw [lastToggle?_cons_of_toggle ht]
      exact ⟨cs, hcs, he.of_toggle hr hb⟩
    | orderBy b n hd =>
      obtain ⟨cs, hcs, he⟩ := ih h
      rw [lastToggle?_cons_of_not_toggle rfl rfl, lastToggle?_eq_none h rfl]
      exact ⟨cs, hcs, he.of_same_clauses rfl rfl⟩
    | paginate hb =>
      obtain ⟨-, -, rfl⟩ := Builder.paginate_eq_ok_iff.1 hb
      obtain ⟨cs, hcs, he⟩ := ih h
      rw [lastToggle?_cons_of_not_toggle rfl rfl, lastToggle?_eq_none h rfl]
      exact ⟨cs, hcs, he.of_same_clauses rfl rfl⟩
    | field b n =>
      -- the field would have to get its value, or both ends of its range
      cases rest with
      | nil => cases h
      | cons step rest =>
        obtain ⟨s₂, hl, h⟩ := advanceAll_cons_eq_ok_iff.1 h
        cases hl with
        | equals b n hw => exact absurd rfl (hequals n _ _ rest rfl)
        | between b n lower =>
          cases rest with
          | nil => cases h
          | cons step rest =>
            obtain ⟨s₃, hl, h⟩ := advanceAll_cons_eq_ok_iff.1 h
            cases hl with
            | upTo b n lower upper => exact absurd rfl (hbetween n lower upper rest rfl)
    | range b n lower upper => exact absurd rfl (hrange n lower upper)
    | whereText b text => exact absurd rfl (hwhere text)
    | byExample hs hb => exact absurd rfl (hexample _)

end Stage

namespace Stage

variable {path : List Step} {s s' : Stage} {b : Builder}

theorem sound_of_advanceAll {schemaOf : DocumentType → Except Fault Schema} (hs : s.base.Sound)
    (h : s.advanceAll schemaOf path = .ok s') : s'.base.Sound := by
  induction path generalizing s with
  | nil =>
    cases h
    exact hs
  | cons step rest ih =>
    obtain ⟨s₁, hl, h⟩ := advanceAll_cons_eq_ok_iff.1 h
    exact ih (hl.sound hs) h

/-- The parameters of a builder are those that its path says. -/
theorem exists_params_of_advanceAll {schemaOf : DocumentType → Except Fault Schema}
    (h : (builder .start).advanceAll schemaOf path = .ok (builder b))
    (hv : ∀ v ∈ b.request.values, ∃ t, v.literal = .ok t) :
    ∃ cs texts, clausesOf schemaOf path = .ok cs ∧ cs.mapM Clause.render = .ok texts ∧
      b.request.params = .ok (("q", " ".intercalate texts) ::
        (if sortKeysOf path = [] then [] else
          [("sort", ",".intercalate ((sortKeysOf path).map SortKey.render))]) ++
        ((pageOf path).1.map fun v ↦ ("start", v.display)).toList ++
        ((pageOf path).2.map fun v ↦ ("rows", v.display)).toList) := by
  have hs := sound_of_advanceAll (s := builder .start) Builder.sound_start h
  obtain ⟨cs, hcs, he⟩ := exists_extends_of_advanceAll h
  obtain ⟨texts, htexts, hparams⟩ := Request.exists_params (r := b.request) hs.start_nonneg
    hs.rows_nonneg hv
  have hclauses : b.request.query.clauses = cs := he.of_not_ranged rfl
  have hsort : b.request.sort.keys = sortKeysOf path := sort_of_advanceAll h
  have hpage : b.request.page = pageOf path := page_of_advanceAll h
  refine ⟨cs, texts, hcs, hclauses ▸ htexts, ?_⟩
  rw [hparams, Request.sortParam, Sorting.render, hsort, ← hpage]
  simp only [List.isEmpty_iff]
  rfl

end Stage

/-! ## Builders made from each other -/

/-- A stage that was obtained, with the steps that lead to it from the builder for everything. -/
structure Node where
  path : List Step
  stage : Stage
deriving DecidableEq

/-- A step at one of the stages obtained so far. -/
structure Branch where
  place : Nat
  step : Step
deriving DecidableEq

/-- The stages obtained so far, in the order in which they were obtained, and the registry that they
share. -/
structure Tree where
  nodes : List Node
  ledger : Ledger
deriving DecidableEq

namespace Tree

variable {t : Tree} {n : Node} {g : Branch} {gs : List Branch} {l : Ledger}

def root (l : Ledger) : Tree := ⟨[⟨[], .builder .start⟩], l⟩

/-- The tree after a step at one of its nodes. A step that leads to no stage, because it fails or
because it ends the construction, adds no node. -/
def grow (t : Tree) (g : Branch) : Tree :=
  match t.nodes[g.place]? with
  | none => t
  | some n =>
    match (n.stage.take g.step).run.run t.ledger with
    | (.ok s, l) => ⟨t.nodes ++ [⟨n.path ++ [g.step], s⟩], l⟩
    | (.error _, l) => ⟨t.nodes, l⟩

def growAll (t : Tree) (gs : List Branch) : Tree := gs.foldl grow t

/-- Does the path of every node lead to its stage? -/
structure Sound (t : Tree) : Prop where
  registry : t.ledger.registry.Sound
  stage_eq : ∀ n ∈ t.nodes, (Stage.builder .start).advanceAll Schema.build n.path = .ok n.stage

theorem sound_root (h : l.registry.Sound) : (root l).Sound := by
  refine ⟨h, fun n hn ↦ ?_⟩
  cases List.mem_singleton.1 hn
  rfl

/-- A step leads from the stage at the end of a path to the stage at the end of the longer one. -/
theorem Sound.grow (h : t.Sound) (g : Branch) : (t.grow g).Sound := by
  unfold Tree.grow
  split
  · exact h
  · rename_i n hn
    have hl := Stage.sound_take n.stage g.step h.registry
    split
    · rename_i s l hs
      rw [hs] at hl
      refine ⟨hl, fun m hm ↦ ?_⟩
      rcases List.mem_append.1 hm with hm | hm
      · exact h.stage_eq m hm
      · cases List.mem_singleton.1 hm
        have hlead := Stage.leads_of_take hs
        rw [h.registry.answer_eq] at hlead
        exact Stage.advanceAll_concat_eq_ok_iff.2 ⟨_, h.stage_eq n (List.mem_of_getElem? hn), hlead⟩
    · rename_i e l hs
      rw [hs] at hl
      exact ⟨hl, h.stage_eq⟩

theorem Sound.growAll (h : t.Sound) (gs : List Branch) : (t.growAll gs).Sound := by
  induction gs generalizing t with
  | nil => exact h
  | cons g gs ih => exact ih (h.grow g)

/-- A step changes none of the nodes that are there. -/
theorem nodes_prefix_grow (t : Tree) (g : Branch) : t.nodes <+: (t.grow g).nodes := by
  unfold grow
  split
  · exact List.prefix_rfl
  · split
    · exact List.prefix_append _ _
    · exact List.prefix_rfl

/-- A tree keeps its nodes as it grows. -/
theorem nodes_prefix_growAll (t : Tree) (gs : List Branch) : t.nodes <+: (t.growAll gs).nodes := by
  induction gs generalizing t with
  | nil => exact List.prefix_rfl
  | cons g gs ih => exact (nodes_prefix_grow t g).trans (ih (t.grow g))

/-- A tree grows in two parts. -/
theorem growAll_append (t : Tree) (gs more : List Branch) :
    t.growAll (gs ++ more) = (t.growAll gs).growAll more := List.foldl_append

/-! ## Main statement -/

/-- Whatever queries are made from the one for everything, and in whatever order: the parameters of
a builder whose values have texts are those that its own path says, and no step that follows, at any
node and with any outcome, changes what is there. -/
theorem params_of_path {c : Candidate} {l l' : Ledger} {schema : Schema} (hl : l.registry.Sound)
    (hc : (Resolving.resolve c).run.run l = (.ok schema, l')) (gs : List Branch) :
    (∀ n ∈ ((root l').growAll gs).nodes, ∀ b, n.stage = .builder b →
      (∀ v ∈ b.request.values, ∃ t, v.literal = .ok t) →
      ∃ cs texts, clausesOf Schema.build n.path = .ok cs ∧ cs.mapM Clause.render = .ok texts ∧
        b.request.params = .ok (("q", " ".intercalate texts) ::
          (if sortKeysOf n.path = [] then [] else
            [("sort", ",".intercalate ((sortKeysOf n.path).map SortKey.render))]) ++
          ((pageOf n.path).1.map fun v ↦ ("start", v.display)).toList ++
          ((pageOf n.path).2.map fun v ↦ ("rows", v.display)).toList)) ∧
    ∀ (more : List Branch) (i : Nat) (n : Node), ((root l').growAll gs).nodes[i]? = some n →
      ((root l').growAll (gs ++ more)).nodes[i]? = some n := by
  have hl' : l'.registry.Sound := by
    have h := Resolving.sound_run_resolve c hl
    rwa [hc] at h
  have hsound := (sound_root hl').growAll gs
  refine ⟨fun n hn b hb hv ↦ ?_, fun more i n hn ↦ ?_⟩
  · have h := hsound.stage_eq n hn
    rw [hb] at h
    exact Stage.exists_params_of_advanceAll h hv
  · rw [growAll_append]
    obtain ⟨new, hnew⟩ := nodes_prefix_growAll ((root l').growAll gs) more
    rw [← hnew, List.getElem?_append_left (List.getElem?_eq_some_iff.1 hn).1, hn]

/-- Two queries with one beginning: the books of some years in an order, and those whose years lie
between the same two. Turning to a page that does not exist fails in between. -/
def yearBranches : List Branch :=
  [⟨0, .range "year" (.int 1937) (.int 1955)⟩, ⟨1, .exclusive⟩, ⟨1, .orderBy "year" none⟩,
    ⟨3, .paginate (some (.int (-1))) none⟩, ⟨2, .whereText "title:a"⟩]

theorem params_of_path_yearBranches : ∃ l' b,
    (Resolving.resolve (.type bookType)).run.run ⟨.empty, []⟩ = (.ok bookSchema, l') ∧
      ((root l').growAll yearBranches).nodes[3]? =
        some ⟨[.range "year" (.int 1937) (.int 1955), .orderBy "year" none], .builder b⟩ ∧
      b.request.params = .ok [("q", "year:[1937 TO 1955]"), ("sort", "year asc")] ∧
      ∀ more, ((root l').growAll (yearBranches ++ more)).nodes[3]? =
        some ⟨[.range "year" (.int 1937) (.int 1955), .orderBy "year" none], .builder b⟩ := by
  have hresolve : (Resolving.resolve (.type bookType)).run.run ⟨.empty, []⟩ =
      (.ok bookSchema, ⟨.insert .empty bookSchema, [Schema.resolvedNote bookType 5]⟩) := by
    rw [Resolving.run_resolve, Registry.resolve_type_eq_ok_iff.2
      (.inr ⟨rfl, build_bookType, rfl, rfl⟩)]
    rfl
  obtain ⟨hparams, hkept⟩ := params_of_path Registry.sound_empty hresolve yearBranches
  have hnode : ((root ⟨.insert .empty bookSchema, [Schema.resolvedNote bookType 5]⟩).growAll
    yearBranches).nodes[3]? =
      some ⟨[.range "year" (.int 1937) (.int 1955), .orderBy "year" none],
        .builder ⟨⟨⟨[.range "year" (.int 1937) (.int 1955) true]⟩, ⟨[⟨"year", .asc⟩]⟩, none, none⟩,
        false⟩⟩ := rfl
  have hvalues : ∀ v ∈ [Value.int 1937, .int 1955], ∃ t, v.literal = .ok t := by
    intro v hv
    rcases List.mem_pair.1 hv with rfl | rfl
    · exact ⟨"1937", by decide +kernel⟩
    · exact ⟨"1955", by decide +kernel⟩
  obtain ⟨cs, texts, hcs, htexts, h⟩ := hparams _ (List.mem_of_getElem? hnode) _ rfl hvalues
  cases hcs
  obtain rfl : texts = ["year:[1937 TO 1955]"] := by
    refine Except.ok.inj (htexts.symm.trans ?_)
    decide +kernel
  refine ⟨_, _, hresolve, hnode, ?_, fun more ↦ hkept more 3 _ hnode⟩
  rw [h]
  decide +kernel

end Tree

end TypedSearch.Query

import Mathlib.Data.List.Induction
import TypedSearch.Proofs.Document.Lookup
import TypedSearch.Proofs.Document.Registry

/-!
# Replies of a registry over time

A registry starts with nothing and is asked for schemas, again and again, and whether it has them.
What one access can do to it is little: it stays as it is, or one schema that was missing is built
and put behind the others (`Registry.perform_cases`). So what is kept once stays in its place, and a
type has a place iff it was asked for with success before; a reply shows nothing else of what
happened earlier (`Registry.replies_with_first_schema`).
-/

namespace TypedSearch.Registry

open Outcome

variable {r r' : Registry} {t u : DocumentType} {s : Schema} {c : Candidate} {a : Access}
  {e : Fault} {k : Nat}

/-! ## Places -/

/-- What the entries before it do not know of is kept right behind them. -/
theorem place_of_entries {before after : List (DocumentType × Schema)}
    (h : r.entries = before ++ (t, s) :: after) (hbefore : ∀ p ∈ before, (t != p.1) = true) :
    r.place t = before.length := by
  have hnone : before.findIdx (fun p ↦ p.1 == t) = before.length :=
    List.findIdx_eq_length.2 fun p hp ↦ beq_false_of_ne (bne_iff_ne.1 (hbefore p hp)).symm
  rw [place, h, List.findIdx_append, hnone, if_neg (Nat.lt_irrefl _), List.findIdx_cons,
    beq_self_eq_true]
  exact Nat.zero_add _

/-- At its place stands what is kept for a type. -/
theorem getElem?_place (h : r.get? t = some s) : r.entries[r.place t]? = some (t, s) := by
  obtain ⟨before, after, hentries, hbefore⟩ := List.lookup_eq_some_iff.1 h
  rw [place_of_entries hentries hbefore, hentries, List.getElem?_append_right (Nat.le_refl _),
    Nat.sub_self]
  rfl

/-- Types that are kept in one place are the same. -/
theorem place_injective {z : Schema} (ht : r.get? t = some s) (hu : r.get? u = some z)
    (h : r.place t = r.place u) :
    t = u := by
  have hplace := getElem?_place hu
  rw [← h, getElem?_place ht] at hplace
  exact (Prod.mk.inj (Option.some.inj hplace)).1

/-- What is kept stays kept where it is while entries are added. -/
theorem kept_of_grown (h : r.entries <+: r'.entries) (ht : r.get? t = some s) :
    r'.get? t = some s ∧ r'.place t = r.place t := by
  obtain ⟨before, after, hentries, hbefore⟩ := List.lookup_eq_some_iff.1 ht
  obtain ⟨more, hmore⟩ := h
  have hentries' : r'.entries = before ++ (t, s) :: (after ++ more) := by
    rw [← hmore, hentries, List.append_assoc, List.cons_append]
  refine ⟨List.lookup_eq_some_iff.2 ⟨before, after ++ more, hentries', hbefore⟩, ?_⟩
  rw [place_of_entries hentries hbefore, place_of_entries hentries' hbefore]

/-! ## One access -/

def Access.asked? : Access → Option Candidate
  | .register c | .resolve c => some c
  | .contains _ => none

/-- A request that succeeds is answered with the schema at its place. -/
theorem perform_of_ok {ns : List Journal.Note} (ha : a.asked? = some c)
    (h : r.resolve c = .ok (s, r', ns)) :
    r.perform a = (⟨ns, .ok (.schema (r'.place s.type) s)⟩, r') := by
  cases a <;> cases ha <;> simp only [perform, h]

/-- One that fails leaves the registry as it was. -/
theorem perform_of_error (ha : a.asked? = some c) (h : r.resolve c = .error e) :
    r.perform a = (.fail e, r) := by
  cases a <;> cases ha <;> simp only [perform, h]

/-- All that an access can do to a registry: nothing, or one schema that was missing is put behind
the others. -/
theorem perform_cases (r : Registry) (a : Access) : (r.perform a).2 = r ∨
    ∃ t s k ns, a.asked? = some (.type t) ∧ r.get? t = none ∧ Schema.build t = .ok s ∧
      r.perform a = (⟨ns, .ok (.schema k s)⟩, r.insert s) := by
  cases ha : a.asked? with
  | none =>
    cases a <;> cases ha
    exact .inl rfl
  | some c =>
    cases hc : r.resolve c with
    | error e => exact .inl (congrArg Prod.snd (perform_of_error ha hc))
    | ok answer =>
      obtain ⟨s, r', ns⟩ := answer
      obtain ⟨t, rfl⟩ := exists_type_of_resolve hc
      have hperform := perform_of_ok ha hc
      rcases resolve_type_eq_ok_iff.1 hc with ⟨-, rfl, -⟩ | ⟨hnone, hs, rfl, -⟩
      · exact .inl (congrArg Prod.snd hperform)
      · exact .inr ⟨t, s, _, ns, rfl, hnone, hs, hperform⟩

/-- A registry only grows at its end. -/
theorem prefix_perform (r : Registry) (a : Access) : r.entries <+: (r.perform a).2.entries := by
  obtain h | ⟨t, s, k, ns, -, -, -, h⟩ := perform_cases r a
  · exact h.symm ▸ List.prefix_refl r.entries
  · rw [h]
    exact List.prefix_append _ _

/-- An access keeps the registry sound. -/
theorem sound_perform (h : r.Sound) (a : Access) : (r.perform a).2.Sound := by
  obtain h' | ⟨t, s, k, ns, -, -, hs, h'⟩ := perform_cases r a
  · rwa [h']
  · rw [h']
    exact h.insert hs

/-- What fails leaves a registry as it is. -/
theorem perform_of_fault (h : (r.perform a).1.result = .error e) : (r.perform a).2 = r := by
  obtain h' | ⟨t, s, k, ns, -, -, -, h'⟩ := perform_cases r a
  · exact h'
  · rw [h'] at h
    cases h

/-- A sound registry replies with the schema that would be built, or with the fault of building
it. -/
theorem result_perform (h : r.Sound) (ha : a.asked? = some c) :
    ∃ k, (r.perform a).1.result = c.build.map (.schema k) := by
  rw [← h.map_resolve_eq c]
  cases hc : r.resolve c with
  | error e => exact ⟨0, by rw [perform_of_error ha hc]; rfl⟩
  | ok answer => exact ⟨_, by rw [perform_of_ok ha hc]; rfl⟩

/-- What asks for a schema is replied to with one, if it does not fail, and that is kept from then
on. -/
theorem kept_of_reply {reply : Reply} (h : r.Sound) (ha : a.asked? = some c)
    (hr : (r.perform a).1.result = .ok reply) :
    ∃ t s, c = .type t ∧ (r.perform a).2.get? t = some s ∧
      reply = .schema ((r.perform a).2.place t) s := by
  cases hc : r.resolve c with
  | error e =>
    rw [perform_of_error ha hc] at hr
    cases hr
  | ok answer =>
    obtain ⟨s, r', ns⟩ := answer
    rw [perform_of_ok ha hc] at hr ⊢
    cases hr
    obtain ⟨t, rfl⟩ := exists_type_of_resolve hc
    rcases resolve_type_eq_ok_iff.1 hc with ⟨ht, rfl, -⟩ | ⟨ht, hs, rfl, -⟩
    · obtain rfl := (Schema.sound_of_build (h t s ht)).2
      exact ⟨_, s, rfl, ht, rfl⟩
    · obtain rfl := (Schema.sound_of_build hs).2
      exact ⟨_, s, rfl, by rw [get?_insert, ht, if_pos rfl]; rfl, rfl⟩

/-- A schema that is kept is replied with as it is, and nothing is built. -/
theorem perform_of_kept (h : r.Sound) (ha : a.asked? = some (.type t)) (ht : r.get? t = some s) :
    r.perform a = (⟨[], .ok (.schema (r.place t) s)⟩, r) := by
  obtain rfl := (Schema.sound_of_build (h t s ht)).2
  exact perform_of_ok ha (resolve_of_kept ht)

/-- Whatever can be looked up may be asked for, and nothing but a type is ever kept. -/
theorem perform_contains (r : Registry) (hc : c.checkHashable = .ok ()) :
    r.perform (.contains c) = (⟨[], .ok (.contained (match c with
      | .type t => (r.get? t).isSome
      | .value _ => false))⟩, r) := by
  cases c with
  | type t => rfl
  | value v =>
    rw [perform, contains, hc]
    rfl

/-- A registry contains the types that it keeps. -/
theorem contained_eq_true_iff : (r.perform (.contains c)).1.result = .ok (.contained true) ↔
    ∃ t, c = .type t ∧ (r.get? t).isSome = true := by
  cases c with
  | type t =>
    rw [perform_contains r rfl]
    simp
  | value v =>
    cases hv : (Candidate.value v).checkHashable with
    | ok _ =>
      rw [perform_contains r hv]
      simp
    | error e =>
      rw [perform, contains, hv]
      constructor
      · intro h
        cases h
      · rintro ⟨t, ht, -⟩
        cases ht

/-! ## Many accesses -/

/-- Accesses are replied to from where those before them lead. -/
theorem performAll_append (r : Registry) (before after : List Access) :
    r.performAll (before ++ after) =
    let (replies, r) := r.performAll before
    let (more, r) := r.performAll after
    (replies ++ more, r) := by
  induction before generalizing r with
  | nil => rfl
  | cons a as ih => simp only [List.cons_append, performAll, ih]

theorem length_performAll (r : Registry) (as : List Access) :
    (r.performAll as).1.length = as.length := by
  induction as generalizing r with
  | nil => rfl
  | cons a as ih => exact congrArg (· + 1) (ih _)

/-- So it does over any run. -/
theorem prefix_performAll (r : Registry) (as : List Access) :
    r.entries <+: (r.performAll as).2.entries := by
  induction as generalizing r with
  | nil => exact List.prefix_refl _
  | cons a as ih => exact (prefix_perform r a).trans (ih _)

/-- A run keeps the registry sound, by induction over its accesses. -/
theorem sound_performAll (h : r.Sound) (as : List Access) : (r.performAll as).2.Sound := by
  induction as generalizing r with
  | nil => exact h
  | cons a as ih => exact ih (sound_perform h a)

/-- The registry that some accesses lead to, from one that holds nothing. -/
def reached (before : List Access) : Registry := (empty.performAll before).2

def replyAfter (before : List Access) (a : Access) : Traced Reply := ((reached before).perform a).1

theorem sound_reached (before : List Access) : (reached before).Sound :=
  sound_performAll sound_empty before

/-- A run reaches what its second part reaches from the first. -/
theorem reached_append (before after : List Access) :
    reached (before ++ after) = ((reached before).performAll after).2 := by
  rw [reached, performAll_append]
  rfl

theorem reached_concat (before : List Access) (a : Access) :
    reached (before ++ [a]) = ((reached before).perform a).2 := reached_append before [a]

theorem reached_append_cons (before later : List Access) (a : Access) :
    reached (before ++ a :: later) = (((reached before).perform a).2.performAll later).2 :=
  reached_append before (a :: later)

/-- The reply to an access stands among the replies in its place. -/
theorem getElem?_performAll (before later : List Access) (a : Access) :
    (empty.performAll (before ++ a :: later)).1[before.length]? = some (replyAfter before a) := by
  rw [performAll_append, ← length_performAll empty before]
  refine (List.getElem?_append_right (Nat.le_refl _)).trans ?_
  rw [Nat.sub_self]
  rfl

/-- A type has its schema kept iff it was asked for with success. -/
theorem isSome_get?_reached_iff {before : List Access} : ((reached before).get? t).isSome = true ↔
    ∃ earlier a later reply, before = earlier ++ a :: later ∧ a.asked? = some (.type t) ∧
      (replyAfter earlier a).result = .ok reply := by
  constructor
  · intro h
    induction before using List.reverseRecOn with
    | nil => cases h
    | append_singleton before a ih =>
      have hbefore : ((reached before).get? t).isSome = true → ∃ earlier b later reply,
          before ++ [a] = earlier ++ b :: later ∧ b.asked? = some (.type t) ∧
            (replyAfter earlier b).result = .ok reply := by
        intro hkept
        obtain ⟨earlier, b, later, reply, rfl, hb, hreply⟩ := ih hkept
        exact ⟨earlier, b, later ++ [a], reply, by simp, hb, hreply⟩
      rw [reached_concat] at h
      obtain hsame | ⟨u, s, k, ns, ha, -, hs, hperform⟩ := perform_cases (reached before) a
      · rw [hsame] at h
        exact hbefore h
      · by_cases ht : t = u
        · subst ht
          exact ⟨before, a, [], .schema k s, rfl, ha, by rw [replyAfter, hperform]⟩
        · have hu : t ≠ s.type := (Schema.sound_of_build hs).2 ▸ ht
          rw [hperform, get?_insert, if_neg hu, Option.or_none] at h
          exact hbefore h
  · rintro ⟨earlier, a, later, reply, rfl, ha, hreply⟩
    obtain ⟨t, s, ht, hkept, -⟩ := kept_of_reply (sound_reached earlier) ha hreply
    cases ht
    rw [reached_append_cons, (kept_of_grown (prefix_performAll _ later) hkept).1]
    rfl

/-- A schema that was replied with is kept in its place by all that comes after. -/
theorem kept_after_reply {before : List Access} (later : List Access) (ha : a.asked? = some c)
    (hr : (replyAfter before a).result = .ok (.schema k s)) : ∃ t, c = .type t ∧
      (reached (before ++ a :: later)).get? t = some s ∧ (reached (before ++ a :: later)).place t =
        k := by
  obtain ⟨t, s, rfl, hkept, hreply⟩ := kept_of_reply (sound_reached before) ha hr
  cases hreply
  rw [reached_append_cons]
  exact ⟨t, rfl, kept_of_grown (prefix_performAll _ later) hkept⟩

/-- What is replied with once is replied with again. -/
theorem replyAfter_again {before later : List Access} {b : Access} (ha : a.asked? = some c)
    (hb : b.asked? = some c) (hr : (replyAfter before a).result = .ok (.schema k s)) :
    replyAfter (before ++ a :: later) b = ⟨[], .ok (.schema k s)⟩ := by
  obtain ⟨t, rfl, hkept, rfl⟩ := kept_after_reply later ha hr
  rw [replyAfter, perform_of_kept (sound_reached _) hb hkept]

/-- The schemas of two types are kept in two places. -/
theorem place_ne_of_ne {before later : List Access} {b : Access} {d : Candidate} {k' : Nat}
    {s' : Schema} (ha : a.asked? = some c) (hb : b.asked? = some d) (hne : d ≠ c)
    (hr : (replyAfter before a).result = .ok (.schema k s))
    (hr' : (replyAfter (before ++ a :: later) b).result = .ok (.schema k' s')) : k' ≠ k := by
  obtain ⟨t, rfl, hkept, rfl⟩ := kept_after_reply later ha hr
  obtain ⟨u, s', rfl, hkept', hreply⟩ := kept_of_reply (sound_reached _) hb hr'
  cases hreply
  obtain ⟨hkept, hplace⟩ := kept_of_grown (prefix_perform _ b) hkept
  intro h
  exact hne (congrArg Candidate.type (place_injective hkept' hkept (h.trans hplace.symm)))

/-- Something is contained iff its schema was asked for with success. -/
theorem contained_iff {before : List Access} :
    (replyAfter before (.contains c)).result = .ok (.contained true) ↔
    ∃ earlier a later reply, before = earlier ++ a :: later ∧ a.asked? = some c ∧
      (replyAfter earlier a).result = .ok reply := by
  rw [replyAfter, contained_eq_true_iff]
  constructor
  · rintro ⟨t, rfl, ht⟩
    exact isSome_get?_reached_iff.1 ht
  · rintro ⟨earlier, a, later, reply, hbefore, ha, hreply⟩
    obtain ⟨t, s, rfl, -⟩ := kept_of_reply (sound_reached earlier) ha hreply
    exact ⟨t, rfl, isSome_get?_reached_iff.2 ⟨earlier, a, later, _, hbefore, ha, hreply⟩⟩

/-- What fails might as well not have been asked. -/
theorem replyAfter_of_fault {before later : List Access} {b : Access}
    (h : (replyAfter before a).result = .error e) :
    replyAfter (before ++ a :: later) b = replyAfter (before ++ later) b := by
  have hreached : reached (before ++ a :: later) = reached (before ++ later) := by
    rw [reached_append_cons, perform_of_fault h]
    exact (reached_append before later).symm
  rw [replyAfter, hreached, replyAfter]

/-- In a run of accesses each of them has its reply in its place. A reply to what asks for a schema
is the schema that would be built, or the fault of building it, whatever was asked before. After its
first success a type is answered with that very schema, which stands in a place that no other type
has, and nothing is built again. A type is contained iff it was asked for with success before, which
one whose schema cannot be built never was; and what fails might as well not have been asked. -/
theorem replies_with_first_schema (before : List Access) :
    (∀ a later, (empty.performAll (before ++ a :: later)).1[before.length]? =
      some (replyAfter before a)) ∧
    (∀ a c, a.asked? = some c → ∃ place, (replyAfter before a).result =
      c.build.map (.schema place)) ∧
    (∀ a c place s, a.asked? = some c → (replyAfter before a).result = .ok (.schema place s) →
      (∀ later b, b.asked? = some c → replyAfter (before ++ a :: later) b =
        ⟨[], .ok (.schema place s)⟩) ∧
      ∀ later b d place' s', b.asked? = some d → d ≠ c →
        (replyAfter (before ++ a :: later) b).result = .ok (.schema place' s') → place' ≠ place) ∧
    (∀ c, c.checkHashable = .ok () → ∃ isKept, replyAfter before (.contains c) =
      ⟨[], .ok (.contained isKept)⟩) ∧
    (∀ c, (replyAfter before (.contains c)).result = .ok (.contained true) ↔
      ∃ earlier a later reply, before = earlier ++ a :: later ∧ a.asked? = some c ∧
        (replyAfter earlier a).result = .ok reply) ∧
    (∀ c e, c.build = .error e → (replyAfter before (.contains c)).result ≠ .ok (.contained true)) ∧
    ∀ a e, (replyAfter before a).result = .error e →
      ∀ later b, replyAfter (before ++ a :: later) b = replyAfter (before ++ later) b := by
  refine ⟨fun a later ↦ getElem?_performAll before later a,
    fun a c ha ↦ result_perform (sound_reached before) ha, fun a c place s ha hr ↦ ⟨?_, ?_⟩,
    fun c hc ↦ ?_, fun c ↦ contained_iff, fun c e hc hkept ↦ ?_, ?_⟩
  · intro later b hb
    exact replyAfter_again ha hb hr
  · intro later b d place' s' hb hne hr'
    exact place_ne_of_ne ha hb hne hr hr'
  · exact ⟨_, congrArg Prod.fst (perform_contains (reached before) hc)⟩
  · obtain ⟨earlier, a, later, reply, -, ha, hreply⟩ := contained_iff.1 hkept
    obtain ⟨place, hplace⟩ := result_perform (sound_reached earlier) ha
    rw [hc, ← replyAfter, hreply] at hplace
    cases hplace
  · intro a e h later b
    exact replyAfter_of_fault h

/-- A dataclass whose constructor wants an argument. -/
def needyType : DocumentType where
  className := ⟨"docs", "Needy"⟩
  layers := [{ form := .dataclass, members := [⟨"id", .base .text, none, none⟩] }]
  scope := .empty

theorem build_needyType :
    Schema.build needyType = .error (.documentType (.needsArguments "Needy" ["id"])) := rfl

/-- Among failures, and after another type, a book is answered with the schema that it was answered
with first. -/
theorem replies_with_first_schema_books : ∃ place,
    (replyAfter [.register (.type needyType)] (.resolve (.type bookType))).result =
    .ok (.schema place bookSchema) ∧
    replyAfter [.register (.type needyType), .resolve (.type bookType), .register (.type cardType)]
      (.register (.type bookType)) = ⟨[], .ok (.schema place bookSchema)⟩ ∧
    (replyAfter [.register (.type needyType), .resolve (.type bookType)]
      (.contains (.type bookType))).result =
      .ok (.contained true) ∧
    (replyAfter [.register (.type needyType), .resolve (.type bookType)]
      (.contains (.type needyType))).result ≠
      .ok (.contained true) ∧
    replyAfter [.register (.type needyType), .resolve (.type bookType)]
      (.register (.type cardType)) =
      replyAfter [.resolve (.type bookType)] (.register (.type cardType)) := by
  obtain ⟨-, hbuilt, hsame, -⟩ := replies_with_first_schema [.register (.type needyType)]
  obtain ⟨-, -, -, -, hcontained, hnever, -⟩ :=
    replies_with_first_schema [.register (.type needyType), .resolve (.type bookType)]
  obtain ⟨-, hfault, -, -, -, -, hgone⟩ := replies_with_first_schema []
  obtain ⟨place, hplace⟩ := hbuilt (.resolve (.type bookType)) _ rfl
  replace hplace := hplace.trans (congrArg (Except.map (Reply.schema place)) build_bookType)
  obtain ⟨_, hneedy⟩ := hfault (.register (.type needyType)) _ rfl
  replace hneedy := hneedy.trans (congrArg (Except.map (Reply.schema _)) build_needyType)
  refine ⟨place, hplace, (hsame _ _ _ _ rfl hplace).1 [.register (.type cardType)] _ rfl, ?_, ?_,
    ?_⟩
  · exact (hcontained _).2 ⟨[.register (.type needyType)], .resolve (.type bookType), [], _, rfl,
      rfl, hplace⟩
  · exact hnever _ _ build_needyType
  · exact hgone _ _ hneedy [.resolve (.type bookType)] _

end TypedSearch.Registry

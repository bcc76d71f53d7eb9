import TypedSearch.Proofs.Outcome
import TypedSearch.Proofs.Text.Words
import TypedSearch.Query.Sort

/-!
# Sortings read back

The text of a sorting is read back to it if its fields are words without commas (`SortKey.Plain`),
and whatever text is read, the sorting has such fields. What is read depends on the words between
the commas alone: `Sorting.toOption_parse` says so, and `Sorting.SameWords` are the texts that
differ in nothing else, that is, in blank parts and in white space around words.
-/

namespace TypedSearch.Query

open Outcome Text

/-- There are two directions. -/
theorem Direction.ofChars?_eq_none_iff {cs : List Char} :
    ofChars? cs = none ↔ cs ≠ "asc".toList ∧ cs ≠ "desc".toList := by
  unfold ofChars?
  split <;> simp_all

/-! ## Keys -/

namespace SortKey

variable {k : SortKey} {cs : List Char} {ws : List (List Char)}

/-- Does the field of the key keep apart from the direction behind it and from the next key? -/
structure Plain (k : SortKey) : Prop where
  isWord : IsWord k.field.toList
  no_comma : ',' ∉ k.field.toList

/-- A part is refused unless it is a field, or a field and a direction. -/
theorem ofWords?_eq_none_iff : ofWords? ws = none ↔ (∀ w, ws ≠ [w]) ∧ ∀ w d, ws = [w, d] →
    d.map Char.toLower ≠ "asc".toList ∧ d.map Char.toLower ≠ "desc".toList := by
  unfold ofWords?
  split
  · simp
  · simp [Option.map_eq_none_iff, Direction.ofChars?_eq_none_iff]
  · rename_i hone htwo
    refine iff_of_true rfl ⟨fun w hw ↦ hone w hw, fun w d hw ↦ absurd hw (htwo w d)⟩

/-- The field of a key is the first of the words that it is made of. -/
theorem field_of_ofWords? (h : ofWords? ws = some k) : k.field.toList ∈ ws := by
  unfold ofWords? at h
  split at h
  · cases h
    simp
  · obtain ⟨d, -, rfl⟩ := Option.map_eq_some_iff.1 h
    simp
  · cases h

theorem toOption_parse (cs : List Char) : (parse cs).toOption = ofWords? (words cs) := by
  unfold parse
  split
  · rename_i k hk
    exact hk.symm
  · rename_i hk
    exact hk.symm

theorem isWord_name (d : Direction) : IsWord d.name.toList := by
  cases d <;> exact ⟨by decide, by simp [Direction.name, isBlank]⟩

theorem map_toLower_name (d : Direction) : d.name.toList.map Char.toLower = d.name.toList := by
  cases d <;> decide

theorem worded_render (h : k.Plain) :
    Worded k.render.toList [k.field.toList, k.direction.name.toList] := by
  have hlast : Worded (" ".toList ++ k.direction.name.toList ++ []) [k.direction.name.toList] :=
    .word (by simp [isBlank]) (isWord_name k.direction) (by simp) (.blank (by simp))
  have hfirst : Worded ([] ++ k.field.toList ++ (" ".toList ++ k.direction.name.toList ++ []))
      [k.field.toList, k.direction.name.toList] :=
    .word (by simp) h.isWord (by simp [isBlank]) hlast
  simpa [render] using hfirst

theorem Plain.comma_not_mem_render (h : k.Plain) : ',' ∉ k.render.toList := by
  have hname : ',' ∉ k.direction.name.toList := by
    cases k.direction <;> decide
  simp [render, h.no_comma, hname]

theorem Plain.any_render (h : k.Plain) : (k.render.toList.any fun c ↦ !isBlank c) = true := by
  have hwords : words k.render.toList ≠ [] := by
    rw [(worded_render h).words_eq]
    exact List.cons_ne_nil _ _
  rw [← List.not_all_eq_any_not, Bool.not_eq_true']
  exact eq_false_of_ne_true fun hall ↦ hwords (words_eq_nil_iff.2 hall)

theorem parse_render (h : k.Plain) : parse k.render.toList = .ok k := by
  have hwords : ofWords? (words k.render.toList) = some k := by
    rw [(worded_render h).words_eq, ofWords?, map_toLower_name, Direction.ofChars?_name]
    simp
  rw [parse, hwords]

end SortKey

/-! ## Parts between commas -/

namespace Sorting

variable {s : Sorting} {text : String}

/-- The texts between the commas of a text, without the blank ones. -/
def filledParts (text : String) : List (List Char) :=
  (text.toList.splitOn ',').filter fun part ↦ part.any fun c ↦ !isBlank c

theorem parts_eq (text : String) : parts text.toList = filledParts text := by
  rw [parts, filledParts, pieces_eq_splitOnP, List.splitOn_eq_splitOnP]
  refine List.filter_congr fun part _ ↦ ?_
  rw [List.not_all_eq_any_not]

theorem no_comma_of_mem_parts {cs part : List Char} (h : part ∈ parts cs) : ',' ∉ part := by
  intro hc
  have hfalse := eq_false_of_mem_pieces (List.mem_filter.1 h).1 hc
  simp at hfalse

/-- Nothing but the words of the parts counts. -/
theorem toOption_parse (text : String) :
    (parse text).toOption = (((parts text.toList).map words).mapM SortKey.ofWords?).map
      Sorting.mk := by
  have hmap : ∀ x : Except Fault (List SortKey), (x.map Sorting.mk).toOption =
      x.toOption.map Sorting.mk := by
    intro x
    cases x <;> rfl
  rw [parse, hmap, toOption_mapM, List.mapM_map]
  simp only [SortKey.toOption_parse]
  rfl

/-- A sort is read part by part. -/
theorem parse_eq_ok_iff : parse text = .ok s ↔
    List.Forall₂ (fun part k ↦ SortKey.parse part = .ok k) (parts text.toList) s.keys := by
  rw [parse, map_eq_ok, ← mapM_eq_ok_iff]
  exact ⟨fun ⟨_, hks, hs⟩ ↦ hs ▸ hks, fun h ↦ ⟨_, h, rfl⟩⟩

/-- It is refused iff one of its parts is. -/
theorem exists_parse_eq_error_iff :
    (∃ fault, parse text = .error fault) ↔ ∃ part ∈ parts text.toList,
      SortKey.ofWords? (words part) = none := by
  have hparts : (∃ s, parse text = .ok s) ↔ ∀ part ∈ parts text.toList, ∃ k, SortKey.parse part =
      .ok k := by
    simp only [parse, map_eq_ok, ← exists_mapM_eq_ok_iff]
    exact ⟨fun ⟨_, ks, hks, _⟩ ↦ ⟨ks, hks⟩, fun ⟨ks, hks⟩ ↦ ⟨_, ks, hks, rfl⟩⟩
  have hpart : ∀ part, (∃ k, SortKey.parse part = .ok k) ↔ ¬ SortKey.ofWords? (words part) =
      none := by
    intro part
    simp only [← SortKey.toOption_parse, ← toOption_eq_some_iff]
    exact Option.ne_none_iff_exists'.symm
  simp only [hpart] at hparts
  have hfails : (∃ fault, parse text = .error fault) ↔ ¬ ∃ s, parse text = .ok s := by
    rw [exists_eq_ok_iff]
    simp
  rw [hfails, hparts]
  simp

/-- There is one class of refusal. -/
theorem kind_of_parse {fault : Fault} (h : parse text = .error fault) :
    fault.kind = "ValueError" := by
  obtain ⟨_, part, _, -, -, hpart⟩ := mapM_eq_error_iff.1 (map_eq_error.1 h)
  unfold SortKey.parse at hpart
  split at hpart <;> cases hpart
  rfl

/-- Every field of a sorting that is read is a word without commas. -/
theorem plain_of_parse (h : parse text = .ok s) : ∀ k ∈ s.keys, k.Plain := by
  refine forall_mem_of_forall₂ (parse_eq_ok_iff.1 h) fun part hpart k hparse ↦ ?_
  have hfield := SortKey.field_of_ofWords? (SortKey.toOption_parse part ▸ toOption_eq_some_iff.2
    hparse)
  obtain ⟨hword, hmem⟩ := (words_eq_iff.1 rfl).isWord_of_mem hfield
  exact ⟨hword, fun hc ↦ no_comma_of_mem_parts hpart (hmem _ hc)⟩

/-- The parts of the text of a sorting are those of its keys. -/
theorem parts_render (h : ∀ k ∈ s.keys, k.Plain) :
    parts s.render.toList = s.keys.map fun k ↦ k.render.toList := by
  obtain ⟨keys⟩ := s
  rcases eq_or_ne keys [] with rfl | hne
  · rfl
  have hsplit : ([','].intercalate (keys.map fun k ↦ k.render.toList)).splitOn ',' =
      keys.map fun k ↦ k.render.toList := by
    refine List.splitOn_intercalate _ ?_ (by simpa using hne)
    rw [List.forall_mem_map]
    exact fun k hk ↦ (h k hk).comma_not_mem_render
  have hany : ∀ part ∈ keys.map fun k ↦ k.render.toList, (part.any fun c ↦ !isBlank c) = true := by
    rw [List.forall_mem_map]
    exact fun k hk ↦ (h k hk).any_render
  rw [parts_eq, filledParts, render, String.toList_intercalate, List.map_map]
  change (([','].intercalate (keys.map fun k ↦ k.render.toList)).splitOn ',').filter _ = _
  rw [hsplit, List.filter_eq_self.2 hany]

theorem parse_render (h : ∀ k ∈ s.keys, k.Plain) : parse s.render = .ok s := by
  rw [parse_eq_ok_iff, parts_render h, List.forall₂_map_left_iff, List.forall₂_same]
  exact fun k hk ↦ SortKey.parse_render (h k hk)

/-! ## Main statement -/

/-- Do the texts differ in nothing but blank parts and white space around words? -/
def SameWords (a b : String) : Prop :=
  List.Forall₂ (fun part part' ↦ ∃ ws, Worded part ws ∧ Worded part' ws) (filledParts a)
    (filledParts b)

/-- Texts of the same words are read alike. -/
theorem toOption_parse_congr {a b : String} (h : SameWords a b) :
    (parse a).toOption = (parse b).toOption := by
  have hwords : (parts a.toList).map words = (parts b.toList).map words := by
    rw [parts_eq, parts_eq, ← List.forall₂_eq_eq_eq, List.forall₂_map_left_iff,
      List.forall₂_map_right_iff]
    exact List.Forall₂.imp (fun _ _ ⟨_, hws, hws'⟩ ↦ hws.words_eq.trans hws'.words_eq.symm) h
  rw [toOption_parse, toOption_parse, hwords]

/-- A sorting whose fields are words without commas is read back from its text. Any other text is
either refused, or gives such a sorting, which is then read back; it is refused iff one of the parts
between its commas is not blank, is no single word, and is no pair of words of which the second
names a direction in whatever letter case. Blank parts and white space around words change
nothing. -/
theorem parse_reads_back : (∀ s : Sorting, (∀ k ∈ s.keys, k.Plain) → parse s.render = .ok s) ∧
    (∀ text, (∀ fault, parse text = .error fault → fault.kind = "ValueError") ∧
      (∀ s, parse text = .ok s → (∀ k ∈ s.keys, k.Plain) ∧ parse s.render = .ok s) ∧
      ((∃ fault, parse text = .error fault) ↔
        ∃ part ∈ text.toList.splitOn ',', (∃ c ∈ part, isBlank c = false) ∧
          (∀ w, ¬ Worded part [w]) ∧
          ∀ w d, Worded part [w, d] → d.map Char.toLower ≠ "asc".toList ∧
            d.map Char.toLower ≠ "desc".toList)) ∧
    ∀ a b, SameWords a b → (parse a).toOption = (parse b).toOption := by
  refine ⟨fun s ↦ parse_render, fun text ↦ ⟨fun fault ↦ kind_of_parse, fun s hs ↦ ?_, ?_⟩,
    fun a b ↦ toOption_parse_congr⟩
  · exact ⟨plain_of_parse hs, parse_render (plain_of_parse hs)⟩
  · simp only [exists_parse_eq_error_iff, SortKey.ofWords?_eq_none_iff, words_eq_iff, parts_eq,
      filledParts, List.mem_filter, List.any_eq_true, Bool.not_eq_true', ne_eq, and_assoc]

/-- Two keys, a blank part, and a direction in mixed letters behind a wide space. -/
def looseText : String := " title\u2003DeSC ,\t, id"

theorem parse_reads_back_looseText : ∃ s : Sorting, (∀ k ∈ s.keys, k.Plain) ∧
    parse looseText = .ok s ∧
    s.render = "title desc,id asc" ∧ parse s.render = .ok s ∧
    SameWords looseText "title DeSC,id" ∧ parse "title DeSC,id" = .ok s := by
  have hs : parse looseText = .ok ⟨[⟨"title", .desc⟩, ⟨"id", .asc⟩]⟩ :=
    eq_ok_of_toOption (by decide +kernel)
  have hparts : filledParts looseText = [" title\u2003DeSC ".toList, " id".toList] := by
    decide +kernel
  have hparts' : filledParts "title DeSC,id" = ["title DeSC".toList, "id".toList] := by
    decide +kernel
  have hsame : SameWords looseText "title DeSC,id" := by
    rw [SameWords, hparts, hparts']
    refine .cons ⟨["title".toList, "DeSC".toList], ?_, ?_⟩ (.cons ⟨["id".toList], ?_, ?_⟩ .nil)
    all_goals exact words_eq_iff.1 (by decide +kernel)
  obtain ⟨-, htext, hcongr⟩ := parse_reads_back
  obtain ⟨hplain, hback⟩ := (htext looseText).2.1 _ hs
  refine ⟨_, hplain, hs, rfl, hback, hsame, eq_ok_of_toOption ?_⟩
  rw [← hcongr _ _ hsame, hs]
  rfl

end Sorting

end TypedSearch.Query

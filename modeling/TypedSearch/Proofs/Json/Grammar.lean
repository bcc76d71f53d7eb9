import TypedSearch.Json
import TypedSearch.Proofs.Number.Numeral

/-!
# The grammar of JSON texts

`Spells` says which texts spell which tree. A tree keeps what a JSON text says apart from the white
space between its parts: the characters of its numbers, and the UTF-16 units of its texts, as an
escape may stand for half a character.

Outside of quotes a JSON text has no capital letter but the mark of an exponent (`walk_of_spells`),
so no name of a special number.
-/

namespace TypedSearch

open Text

/-- The UTF-16 units of a character. -/
def Text.units (c : Char) : List Nat :=
  if c.toNat < 0x10000 then [c.toNat]
  else [0xD800 + (c.toNat - 0x10000) / 0x400, 0xDC00 + (c.toNat - 0x10000) % 0x400]

namespace Json

/-! ## Numbers -/

/-- The digits before the point: a zero alone, or digits that do not begin with one. -/
inductive IsWhole : List Char → Prop
  | zero : IsWhole ['0']
  | digits {d : Char} {ds : List Char} (h : AllDigits (d :: ds)) (hd : d ≠ '0') : IsWhole (d :: ds)

/-- A point with digits behind it, or nothing. -/
inductive IsFraction : List Char → Prop
  | none : IsFraction []
  | digits {ds : List Char} (h : AllDigits ds) (hne : ds ≠ []) : IsFraction ('.' :: ds)

/-- A power of ten, or nothing. -/
inductive IsPower : List Char → Prop
  | none : IsPower []
  | digits {mark : Char} {sign ds : List Char} (hmark : mark ∈ ['e', 'E'])
      (hsign : sign ∈ [[], ['+'], ['-']]) (h : AllDigits ds)
      (hne : ds ≠ []) : IsPower (mark :: (sign ++ ds))

/-- A number without a sign. -/
inductive IsUnsigned : List Char → Prop
  | intro {whole fraction power : List Char} (hwhole : IsWhole whole)
      (hfraction : IsFraction fraction)
      (hpower : IsPower power) : IsUnsigned (whole ++ (fraction ++ power))

inductive IsNumber : List Char → Prop
  | intro {minus cs : List Char} (hminus : minus ∈ [[], ['-']]) (h : IsUnsigned cs) :
      IsNumber (minus ++ cs)

/-! ## Texts -/

def hexValue? (c : Char) : Option Nat :=
  if c.isDigit then some (c.toNat - 48)
  else if 'a' ≤ c ∧ c ≤ 'f' then some (c.toNat - 87)
  else if 'A' ≤ c ∧ c ≤ 'F' then some (c.toNat - 55)
  else none

/-- The letters of the short escapes, with the units that they stand for. -/
def shortEscapes : List (Char × Nat) :=
  [('"', 34), ('\\', 92), ('/', 47), ('b', 8), ('f', 12), ('n', 10), ('r', 13), ('t', 9)]

/-- The units that characters between quotes stand for. -/
inductive SpellsUnits : List Nat → List Char → Prop
  | nil : SpellsUnits [] []
  | bare {c : Char} {us : List Nat} {cs : List Char} (h : 32 ≤ c.toNat) (hquote : c ≠ '"')
      (hback : c ≠ '\\')
      (hs : SpellsUnits us cs) : SpellsUnits (units c ++ us) (c :: cs)
  | short {c : Char} {n : Nat} {us : List Nat} {cs : List Char} (h : (c, n) ∈ shortEscapes)
      (hs : SpellsUnits us cs) : SpellsUnits (n :: us) ('\\' :: c :: cs)
  | unit {a b c d : Char} {i j k l : Nat} {us : List Nat} {cs : List Char}
      (ha : hexValue? a = some i) (hb : hexValue? b = some j) (hc : hexValue? c = some k)
      (hd : hexValue? d = some l)
      (hs : SpellsUnits us cs) :
      SpellsUnits ((4096 * i + 256 * j + 16 * k + l) :: us) ('\\' :: 'u' :: a :: b :: c :: d :: cs)

/-! ## Values -/

/-- What a JSON text says. -/
inductive Tree where
  | null
  | bool (b : Bool)
  | number (written : List Char)
  | text (units : List Nat)
  | array (items : List Tree)
  | object (members : List (List Nat × Tree))

inductive Part where
  | value (x : Tree)
  /-- A value with white space around it. -/
  | padded (x : Tree)
  /-- The values of an array that is not empty. -/
  | items (xs : List Tree)
  /-- The names and values of an object that is not empty. -/
  | members (ms : List (List Nat × Tree))

def IsSpace (cs : List Char) : Prop := ∀ c ∈ cs, c ∈ [' ', '\t', '\n', '\r']

/-- The texts that spell a part. -/
inductive Spells : Part → List Char → Prop
  | null : Spells (.value .null) "null".toList
  | bool (b : Bool) : Spells (.value (.bool b)) (if b then "true" else "false").toList
  | number {cs : List Char} (h : IsNumber cs) : Spells (.value (.number cs)) cs
  | text {us : List Nat} {cs : List Char} (h : SpellsUnits us cs) :
      Spells (.value (.text us)) ('"' :: (cs ++ ['"']))
  | emptyArray {cs : List Char} (h : IsSpace cs) :
      Spells (.value (.array [])) ('[' :: (cs ++ [']']))
  | array {xs : List Tree} {cs : List Char} (h : Spells (.items xs) cs) :
      Spells (.value (.array xs)) ('[' :: (cs ++ [']']))
  | emptyObject {cs : List Char} (h : IsSpace cs) :
      Spells (.value (.object [])) ('{' :: (cs ++ ['}']))
  | object {ms : List (List Nat × Tree)} {cs : List Char} (h : Spells (.members ms) cs) :
      Spells (.value (.object ms)) ('{' :: (cs ++ ['}']))
  | padded {before after cs : List Char} {x : Tree} (hbefore : IsSpace before)
      (h : Spells (.value x) cs)
      (hafter : IsSpace after) : Spells (.padded x) (before ++ (cs ++ after))
  | lastItem {x : Tree} {cs : List Char} (h : Spells (.padded x) cs) : Spells (.items [x]) cs
  | item {x : Tree} {xs : List Tree} {cs ds : List Char} (h : Spells (.padded x) cs)
      (hs : Spells (.items xs) ds) :
      Spells (.items (x :: xs)) (cs ++ ',' :: ds)
  | lastMember {us : List Nat} {x : Tree} {ks cs : List Char} (hk : Spells (.padded (.text us)) ks)
      (h : Spells (.padded x) cs) : Spells (.members [(us, x)]) (ks ++ ':' :: cs)
  | member {us : List Nat} {x : Tree} {ms : List (List Nat × Tree)} {ks cs ds : List Char}
      (hk : Spells (.padded (.text us)) ks) (h : Spells (.padded x) cs)
      (hs : Spells (.members ms) ds) :
      Spells (.members ((us, x) :: ms)) (ks ++ ':' :: (cs ++ ',' :: ds))

def IsText (cs : List Char) : Prop := ∃ x, Spells (.padded x) cs

/-! ## Quotes -/

/-- Where a character of a JSON text stands. -/
inductive Place where
  | outside
  /-- Between quotes. -/
  | inside
  /-- Between quotes, behind the mark of an escape. -/
  | escaped
deriving DecidableEq, Repr

/-- The place behind a character. The names of special numbers begin with an `N` or an `I`, which no
part outside of quotes does. -/
def Place.next? : Place → Char → Option Place
  | .outside, c => if c = 'N' ∨ c = 'I' then none else some (if c = '"' then .inside else .outside)
  | .inside, c => some (if c = '"' then .outside else if c = '\\' then .escaped else .inside)
  | .escaped, _ => some .inside

def walk (p : Place) (cs : List Char) : Option Place := cs.foldlM Place.next? p

variable {p q : Place} {cs ds : List Char} {c : Char}

@[simp] theorem walk_nil : walk p [] = some p := rfl

@[simp] theorem walk_cons : walk p (c :: cs) = (p.next? c).bind (walk · cs) := rfl

@[simp] theorem walk_append : walk p (cs ++ ds) = (walk p cs).bind (walk · ds) := List.foldlM_append

/-- A character that neither is a quote nor begins a name of a special number. -/
def IsPlain (c : Char) : Prop := c ≠ '"' ∧ c ≠ 'N' ∧ c ≠ 'I'

instance (c : Char) : Decidable (IsPlain c) := inferInstanceAs (Decidable (_ ∧ _))

/-- Outside texts, a walk passes plain characters. -/
theorem walk_of_isPlain (h : ∀ c ∈ cs, IsPlain c) : walk .outside cs = some .outside := by
  induction cs with
  | nil => rfl
  | cons c cs ih =>
    obtain ⟨⟨hquote, hN, hI⟩, hcs⟩ := List.forall_mem_cons.1 h
    rw [walk_cons, Place.next?, if_neg (not_or.2 ⟨hN, hI⟩), if_neg hquote]
    exact ih hcs

theorem isPlain_of_allDigits (h : AllDigits cs) : ∀ c ∈ cs, IsPlain c := fun c hc ↦
  ⟨ne_of_isDigit (h c hc) rfl, ne_of_isDigit (h c hc) rfl, ne_of_isDigit (h c hc) rfl⟩

theorem IsSpace.isPlain (h : IsSpace cs) : ∀ c ∈ cs, IsPlain c := by
  have hspace : ∀ c ∈ [' ', '\t', '\n', '\r'], IsPlain c := by simp [IsPlain]
  exact fun c hc ↦ hspace c (h c hc)

theorem IsPower.isPlain (h : IsPower cs) : ∀ c ∈ cs, IsPlain c := by
  cases h with
  | none => exact nofun
  | digits hmark hsign h =>
    have hmarks : ∀ mark ∈ ['e', 'E'], IsPlain mark := by simp [IsPlain]
    have hsigns : ∀ sign ∈ [[], ['+'], ['-']], ∀ c ∈ sign, IsPlain c := by simp [IsPlain]
    exact List.forall_mem_cons.2 ⟨hmarks _ hmark, List.forall_mem_append.2 ⟨hsigns _ hsign,
      isPlain_of_allDigits h⟩⟩

/-- A number has plain characters only. -/
theorem IsNumber.isPlain (h : IsNumber cs) : ∀ c ∈ cs, IsPlain c := by
  obtain ⟨hminus, hwhole, hfraction, hpower⟩ := h
  simp only [List.forall_mem_append]
  refine ⟨?_, ?_, ?_, hpower.isPlain⟩
  · have hsigns : ∀ minus ∈ [[], ['-']], ∀ c ∈ minus, IsPlain c := by simp [IsPlain]
    exact hsigns _ hminus
  · cases hwhole with
    | zero => exact isPlain_of_allDigits (allDigits_replicate_zero 1)
    | digits h => exact isPlain_of_allDigits h
  · cases hfraction with
    | none => exact nofun
    | digits h => exact List.forall_mem_cons.2 ⟨by decide, isPlain_of_allDigits h⟩

theorem ne_quote_of_hexValue? {n : Nat} (h : hexValue? c = some n) : c ≠ '"' ∧ c ≠ '\\' := by
  constructor <;> rintro rfl <;> cases h

/-- Every quote between quotes stands behind the mark of an escape. -/
theorem walk_of_spellsUnits {us : List Nat} (h : SpellsUnits us cs) :
    walk .inside cs = some .inside := by
  induction h with
  | nil => rfl
  | bare h hquote hback hs ih =>
    rw [walk_cons, Place.next?, if_neg hquote, if_neg hback, Option.bind_some, ih]
  | short h hs ih => exact ih
  | unit ha hb hc hd hs ih =>
    simp [Place.next?, ne_quote_of_hexValue? ha, ne_quote_of_hexValue? hb, ne_quote_of_hexValue? hc,
      ne_quote_of_hexValue? hd, ih]

/-- A part of a JSON text leaves no quote open, and holds no name of a special number outside of
quotes. -/
theorem walk_of_spells {part : Part} (h : Spells part cs) : walk .outside cs = some .outside := by
  induction h with
  | null => rfl
  | bool b => cases b <;> rfl
  | number h => exact walk_of_isPlain h.isPlain
  | text h => simp [Place.next?, walk_of_spellsUnits h]
  | emptyArray h => simp [Place.next?, walk_of_isPlain h.isPlain]
  | emptyObject h => simp [Place.next?, walk_of_isPlain h.isPlain]
  | array h ih | object h ih => simp [Place.next?, ih]
  | padded hbefore h hafter ih =>
    simp [walk_of_isPlain hbefore.isPlain, ih, walk_of_isPlain hafter.isPlain]
  | lastItem h ih => exact ih
  | item h hs ih ihs => simp [Place.next?, ih, ihs]
  | lastMember hk h ihk ih => simp [Place.next?, ihk, ih]
  | member hk h hs ihk ih ihs => simp [Place.next?, ihk, ih, ihs]

end Json

end TypedSearch

import TypedSearch.Declared.Basic
import TypedSearch.Value.Equality

/-!
# Likeness of declared types

Two types that are written differently may be alike: the members of a union count in any order and
however the union is written, the values of a literal type, the items of a set and the pairs of a
dictionary in any order, and constants by what they stand for. `Declared.distinct` keeps the first
of types that are alike. A type is settled if no text in it is to be looked up
(`Declared.isSettled`).
-/

namespace TypedSearch.Declared

/-- Are two values of a literal type the same one: alike and of one class? -/
def sameLiteral (v w : Value) : Bool := v.equals w && v.family == w.family

/-- Is there a pair among keys and values by turns whose key and value are as wanted? -/
def hasPair (isKey isValue : Declared → Bool) : List Declared → Bool
  | k :: v :: more => isKey k && isValue v || hasPair isKey isValue more
  | _ => false

mutual

def alike : Declared → Declared → Bool
  | .applied f s as, .applied g t bs => f == g && s == t && alikeAll as bs
  | .appliedOther c as, .appliedOther d bs => c == d && alikeAll as bs
  | .union _ as, .union _ bs => coveredBy bs as && bs.all (covers as)
  | .classVar a, .classVar b => alike a b
  | .unpacked a, .unpacked b => alike a b
  | .literal vs, .literal ws =>
    vs.all (fun v ↦ ws.any (sameLiteral v)) && ws.all (fun w ↦ vs.any fun v ↦ sameLiteral v w)
  | .constant v, .constant w => v.equals w
  | .row .dict as, .row .dict bs => as.length == bs.length && hasPairs bs as
  | .row .set as, .row .set bs | .row .set as, .row .frozenset bs | .row .frozenset as, .row .set bs
  | .row .frozenset as, .row .frozenset bs => as.length == bs.length && coveredBy bs as
  | .row f as, .row g bs => f == g && alikeAll as bs
  | a, b => a == b

def alikeAll : List Declared → List Declared → Bool
  | [], [] => true
  | a :: as, b :: bs => alike a b && alikeAll as bs
  | _, _ => false

/-- Is each pair of the second row like one of the first, keys and values by turns? -/
def hasPairs (bs : List Declared) : List Declared → Bool
  | k :: v :: more => hasPair (alike k) (alike v) bs && hasPairs bs more
  | _ => true

/-- Is each type of the second row like one of the first? -/
def coveredBy (bs : List Declared) : List Declared → Bool
  | [] => true
  | a :: as => bs.any (fun b ↦ alike a b) && coveredBy bs as

def covers : List Declared → Declared → Bool
  | [], _ => false
  | a :: as, b => alike a b || covers as b

end

/-- The first of each of the types that are alike. -/
def distinct : List Declared → List Declared := go []
where
  /-- The types that are unlike those seen before, the latest first, and unlike each other. -/
  go (seen : List Declared) : List Declared → List Declared
    | [] => seen.reverse
    | t :: ts => if covers seen t then go seen ts else go (t :: seen) ts

/-! ## Settled types -/

/-- Is the thing a text, which is looked up among the arguments of a class? -/
def isText : Declared → Bool
  | .constant (.text _) | .constant (.code ..) => true
  | _ => false

mutual

/-- Is there nothing in the type to be looked up, and no union with members that are unlike
themselves, as literal types of what is no number are? -/
def isSettled : Declared → Bool
  | .forward _ => false
  | .applied _ .plain args | .appliedOther _ args => args.all (!·.isText) && allSettled args
  | .applied _ .alias args => allSettled args
  | .classVar t | .unpacked t => t.isSettled
  | .union _ members => alikeAll members members && allSettled members
  | _ => true

def allSettled : List Declared → Bool
  | [] => true
  | t :: ts => t.isSettled && allSettled ts

end

/-- Is the type of a member written out, so that nothing is to be looked up? -/
def isWrittenOut (t : Declared) : Bool := t.isSettled && !t.isText && t != .constant .null

end TypedSearch.Declared

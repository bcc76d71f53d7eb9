import TypedSearch.Annotation.Syntax
import TypedSearch.Declared.Standard
import TypedSearch.Fault

/-!
# Scopes

Where the names of an annotation are looked up, and what annotations leave behind while they are
given a meaning: the types built so far, the functions that came up, and frames, which hold the
names that are bound or given on the way.

A name at the top of an annotation is looked up among the names of the module, then among those that
the class around it holds, and last among the names that need no declaration. Inside a function or a
gathered row, the frames around the place take the place of the names of the module. A frame is
shared by all that is written inside it, so that a function sees the names as they are when it is
called.
-/

namespace TypedSearch

namespace Declared

/-- A type that was built by giving arguments to a head. -/
structure Built where
  head : Declared
  key : Declared
  result : Declared
deriving DecidableEq

end Declared

namespace Annotation

/-- Where the names of an annotation are looked up. -/
structure Scope where
  /-- The names of the module. -/
  names : List (String × Declared)
  /-- The names that the class around the annotation holds. -/
  held : List (String × Declared)
  /-- The types that were built before. -/
  built : List Declared.Built
  /-- The frame of the names given beside those of the module. -/
  outer : Nat
  /-- The frame of the names given beside those that the class holds. -/
  shared : Nat
  /-- The frames of the functions and the gathered rows around the place, the innermost first. -/
  frames : List Nat
  /-- The frame of the function around the place, if there is one. -/
  home : Option Nat
  /-- What the names of the functions begin with that are written here. -/
  path : String
deriving DecidableEq

namespace Scope

def ofNames (names : List (String × Declared)) (built : List Declared.Built) : Scope :=
  ⟨names, [], built, 0, 1, [], none, ""⟩

/-- The scope without names of its own. -/
def empty : Scope := ofNames [] []

def enumeration? (scope : Scope) (family : String) : Option Enumeration :=
  scope.names.findSome? fun n ↦ match n.2 with
    | .enumeration e => if e.className.name == family then some e else none
    | _ => none

/-- The place inside something with a frame of its own. -/
def inside (scope : Scope) (frame : Nat) (name : String) : Scope :=
  { scope with frames := frame :: scope.frames, path := scope.path ++ name ++ ".<locals>." }

end Scope

/-- A function that comes up in an annotation. -/
inductive Routine where
  /-- A function without a name: its parameters, what stands for those that are left out, its body,
  and the scope that it is written in. -/
  | written (parameters : Parameters) (substitutes : List (String × Declared)) (body : Expr)
      (scope : Scope)
  /-- A method of a thing. -/
  | method (t : Declared) (name : String)

/-- What annotations leave behind. -/
structure Memory where
  /-- The types built so far, the latest first. -/
  built : List Declared.Built
  /-- The functions that came up so far by what they are shown as, the latest first. -/
  routines : List (String × Routine)
  /-- The names that stand for something, frame by frame. -/
  frames : Array (List (String × Declared))

namespace Memory

def ofBuilt (built : List Declared.Built) : Memory := ⟨built, [], #[[], []]⟩

def empty : Memory := ofBuilt []

end Memory

end Annotation

namespace Declared

open Annotation

abbrev Building := StateT Memory (Except Fault)

namespace Building

def newFrame (names : List (String × Declared)) : Building Nat :=
  modifyGet fun m ↦ (m.frames.size, { m with frames := m.frames.push names })

def unbound (names : List String) : List (String × Declared) :=
  names.map fun s ↦ (s, failing (.unboundName s true))

def frame (i : Nat) : Building (List (String × Declared)) := do
  return (((← get).frames[i]?).getD []).filter fun n ↦ n.2.failure?.isNone

def setNames (i : Nat) (names : List (String × Declared)) : Building Unit :=
  let merged (kept : List (String × Declared)) : List (String × Declared) :=
    names ++ kept.filter fun n ↦ !names.any fun p ↦ p.1 == n.1
  modify fun m ↦ { m with frames := m.frames.modify i merged }

/-- Lets a name stand for a thing from now on: in the function around the place, or else beside the
names of the module, or, inside a gathered row, beside those of the class. -/
def give (scope : Scope) (s : String) (t : Declared) : Building Unit :=
  let i := scope.home.getD (if scope.frames.isEmpty then scope.outer else scope.shared)
  setNames i [(s, t)]

/-- Lets a name that stands for something stand for a thing from now on, where it is looked up. -/
def change (scope : Scope) (s : String) (t : Declared) : Building Unit := do
  let m ← get
  let isIn (i : Nat) : Bool := (m.frames[i]?).any fun names ↦ (names.lookup s).isSome
  let places := (if scope.frames.isEmpty then [scope.outer] else scope.frames) ++ [scope.shared]
  match places.find? isIn with
  | some i => setNames i [(s, t)]
  | none => give scope s t

def lookUp (scope : Scope) (s : String) : Building Declared := do
  let m ← get
  let inFrame (i : Nat) : Option Declared := (m.frames[i]?).bind fun names ↦ names.lookup s
  let near := if scope.frames.isEmpty then inFrame scope.outer <|> scope.names.lookup s
    else scope.frames.findSome? inFrame
  match near <|> inFrame scope.shared <|> scope.held.lookup s <|> standardNames.lookup s with
  | some t =>
    if t.failure?.isSome then throw (.unboundName s (scope.frames.head?.bind inFrame).isSome)
      else return t
  | none => throw (.undefinedName s)

/-- The names that are near: those of the innermost frame, or those of the module. -/
def nearNames (scope : Scope) : Building (List (String × Declared)) := do
  match scope.frames with
  | i :: _ => frame i
  | [] => return (← frame scope.outer) ++ scope.names

/-- The names that the class around the annotation holds. -/
def farNames (scope : Scope) : Building (List (String × Declared)) := do
  return (← frame scope.shared) ++ scope.held

/-- A function as a thing, which is shown between angles: what it is, with a number of its own. -/
def hold (what label family : String) (r : Routine) : Building Declared :=
  modifyGet fun m ↦
    let number := String.ofList (Nat.toDigits 16 (0x7f0000000000 + 16 * m.routines.length))
    let shown := "<" ++ what ++ " at 0x" ++ number ++ ">"
    (.reader ⟨shown, label, family, .refusal⟩, { m with routines := (shown, r) :: m.routines })

/-- The function that a thing is, if it came up in an annotation. -/
def routine? (t : Declared) : Building (Option Routine) := do
  match t with
  | .reader r => return (← get).routines.lookup r.shown
  | _ => return none

end Building

end Declared

end TypedSearch

import TunnelProxy.Regex.Escape

/-!
# Character classes in brackets

Classes hold characters, ranges, other classes and named classes of ASCII characters, and may be
combined as sets.  Each class comes with its depth of nesting.
-/

namespace TunnelProxy
namespace Regex

open Text (CharSet)

/-- A way to combine two classes. -/
inductive ClassOperation where
  /-- What is in both. -/
  | inter
  /-- What is in the first only. -/
  | difference
  /-- What is in exactly one. -/
  | symmetricDifference
  deriving DecidableEq, Inhabited

namespace ClassOperation

/-- Combine two classes. -/
def apply : ClassOperation → CharSet → CharSet → CharSet
  | inter => CharSet.inter
  | difference => CharSet.difference
  | symmetricDifference => CharSet.symmetricDifference

end ClassOperation

/-- A class together with its depth of nesting. -/
structure Nested where
  /-- The members. -/
  set : CharSet
  /-- How deep classes are nested in it. -/
  depth : Nat
  deriving Inhabited

/-- A class of which a part has been read. -/
structure ClassState where
  /-- Whether the members are left out. -/
  negated : Bool
  /-- What has been read before the last operation, and that operation. -/
  operand : Option (Nested × ClassOperation)
  /-- What has been read since then, most recent first. -/
  parts : List Nested
  deriving Inhabited

namespace ClassState

/-- Everything read since the last operation as one class. -/
def union (state : ClassState) : Nested :=
  let depth := (state.parts.map Nested.depth).foldl max 0
  ⟨CharSet.unions (state.parts.map Nested.set),
    if 1 < state.parts.length then depth + 1 else depth⟩

/-- Everything read as one class. -/
def value (flags : Flags) (state : ClassState) : Nested :=
  match state.operand with
  | none => state.union
  | some (first, operation) =>
      ⟨operation.apply (flags.fold first.set) (flags.fold state.union.set),
        max first.depth state.union.depth + 1⟩

/-- Go on after an operation. -/
def operate (flags : Flags) (state : ClassState) (operation : ClassOperation) : ClassState :=
  { state with operand := some (state.value flags, operation), parts := [] }

/-- Go on after a part. -/
def add (state : ClassState) (part : Nested) : ClassState :=
  { state with parts := part :: state.parts }

/-- The class which has been read. -/
def close? (flags : Flags) (state : ClassState) : Option Nested := do
  let value := state.value flags
  return ⟨← flags.admit? (Flags.negate (flags.fold value.set) state.negated), value.depth + 1⟩

end ClassState

/-- The named classes of ASCII characters. -/
def asciiClasses : List (String × CharSet) :=
  [("alnum", CharSet.ofTable ["30-39 41-5A 61-7A"]),
    ("alpha", CharSet.ofTable ["41-5A 61-7A"]),
    ("ascii", ascii),
    ("blank", CharSet.ofTable ["9 20"]),
    ("cntrl", CharSet.ofTable ["0-1F 7F"]),
    ("digit", CharSet.ofTable ["30-39"]),
    ("graph", CharSet.ofTable ["21-7E"]),
    ("lower", CharSet.ofTable ["61-7A"]),
    ("print", CharSet.ofTable ["20-7E"]),
    ("punct", CharSet.ofTable ["21-2F 3A-40 5B-60 7B-7E"]),
    ("space", CharSet.ofTable ["9-D 20"]),
    ("upper", CharSet.ofTable ["41-5A"]),
    ("word", Flags.asciiWord),
    ("xdigit", CharSet.ofTable ["30-39 41-46 61-66"])]

/-- Read a named class after its first bracket. -/
def asciiClass? (flags : Flags) (input : List Char) : Option (CharSet × List Char) :=
  match input with
  | ':' :: rest =>
      let (negated, rest) := match rest with
        | '^' :: rest => (true, rest)
        | _ => (false, rest)
      let name := rest.takeWhile (· ≠ ':')
      match rest.drop name.length with
      | ':' :: ']' :: after => do
          let entry ← asciiClasses.find? fun entry => entry.1 = String.ofList name
          let set := Flags.negate entry.2 negated
          return (← flags.admit? set, after)
      | _ => none
  | _ => none

/-- Read dashes which stand for themselves at the start of a class. -/
def leadingDashes (flags : Flags) (parts : List Nested) : List Char → List Nested × List Char
  | [] => (parts, [])
  | char :: rest =>
      if char = '-' then leadingDashes flags (⟨CharSet.singleton '-', 0⟩ :: parts) rest
      else if flags.verbose && Text.Property.whiteSpace.contains char then
        leadingDashes flags parts rest
      else (parts, char :: rest)

/-- Read the start of a class after its bracket.  A closing bracket which comes first stands for
itself. -/
def classStart (flags : Flags) (input : List Char) : ClassState × List Char :=
  let (negated, rest) := match flags.skip input with
    | '^' :: rest => (true, rest)
    | rest => (false, rest)
  match leadingDashes flags [] (flags.skip rest) with
  | ([], ']' :: rest) => (⟨negated, none, [⟨CharSet.singleton ']', 0⟩]⟩, rest)
  | (parts, rest) => (⟨negated, none, parts⟩, rest)

/-- Read a character or an escape of a class. -/
def classAtom? (flags : Flags) : List Char → Option (Atom × List Char)
  | [] => none
  | '\\' :: rest => escape? flags rest
  | char :: rest => some (.literal char, rest)

/-- Whether a dash joins the ends of a range: it does not before a closing bracket or a dash. -/
def joins (flags : Flags) (afterDash : List Char) : Bool :=
  match flags.skip afterDash with
  | ']' :: _ => false
  | '-' :: _ => false
  | _ => true

/-- Read a character, an escape or a range of a class. -/
def classItem? (flags : Flags) (input : List Char) : Option (CharSet × List Char) := do
  let (atom, rest) ← classAtom? flags input
  match atom, flags.skip rest with
  | .literal low, '-' :: afterDash =>
      if joins flags afterDash then
        match ← classAtom? flags (flags.skip afterDash) with
        | (.literal high, rest) =>
            if low ≤ high then
              return (← flags.admit? (CharSet.interval low high), rest)
            else none
        | _ => none
      else return (← flags.admit? (CharSet.singleton low), rest)
  | .literal low, _ => return (← flags.admit? (CharSet.singleton low), rest)
  | .members set, '-' :: afterDash => if joins flags afterDash then none else return (set, rest)
  | .members set, _ => return (set, rest)
  | .look _, _ => none

/-- Read a class up to its closing bracket.  Every step takes at least one character, so `fuel` may
be the length of the input. -/
def classBody? (flags : Flags) : Nat → ClassState → List Char → Option (Nested × List Char)
  | 0, _, _ => none
  | fuel + 1, state, input =>
      match flags.skip input with
      | [] => none
      | '[' :: rest =>
          match asciiClass? flags rest with
          | some (set, rest) => classBody? flags fuel (state.add ⟨set, 0⟩) rest
          | none => do
              let (start, rest) := classStart flags rest
              let (inner, rest) ← classBody? flags fuel start rest
              classBody? flags fuel (state.add inner) rest
      | ']' :: rest => (state.close? flags).map (·, rest)
      | '&' :: '&' :: rest => classBody? flags fuel (state.operate flags .inter) rest
      | '-' :: '-' :: rest => classBody? flags fuel (state.operate flags .difference) rest
      | '~' :: '~' :: rest => classBody? flags fuel (state.operate flags .symmetricDifference) rest
      | input => do
          let (set, rest) ← classItem? flags input
          classBody? flags fuel (state.add ⟨set, 0⟩) rest

/-- Read a class after its bracket. -/
def charClass? (flags : Flags) (input : List Char) : Option (Nested × List Char) :=
  let (start, rest) := classStart flags input
  classBody? flags (input.length + 1) start rest

end Regex
end TunnelProxy

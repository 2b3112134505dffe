import TunnelProxy.Yaml.Scanner

/-!
# Values of YAML documents

A document is a tree of scalars, sequences and mappings.  References are replaced by the values
they name.
-/

namespace TunnelProxy
namespace Yaml

/-- A value. -/
inductive Node where
  /-- A text; one without quotes and not in block style is plain. -/
  | scalar (plain : Bool) (tag : Option Tag) (text : String)
  /-- Values in order. -/
  | sequence (items : List Node)
  /-- Pairs of keys and values, in the order of the document. -/
  | mapping (pairs : List (Node × Node))
  deriving Inhabited

namespace Node

/-- What stands for a missing value. -/
def missing : Node := scalar true none "~"

end Node

/-- The values with a name which have been read, most recent first. -/
abbrev Anchors := List (String × Node)

/-- The properties which come before a value. -/
structure Properties where
  /-- The name of the value. -/
  anchor : Option String := none
  /-- The type of the value. -/
  tag : Option Tag := none
  deriving Inhabited

/-- What is known while values are read: the tokens which follow, and the named values. -/
structure NodeState where
  /-- The tokens which have not been read. -/
  tokens : List Token
  /-- The named values. -/
  anchors : Anchors := []
  deriving Inhabited

namespace NodeState

/-- The next token. -/
def peek (state : NodeState) : Token := state.tokens.headD .streamEnd

/-- Go past a token. -/
def skip (state : NodeState) : NodeState := { state with tokens := state.tokens.drop 1 }

/-- Go past a token if it is a certain one. -/
def skipIf (state : NodeState) (token : Token) : NodeState :=
  if state.peek = token then state.skip else state

/-- Remember a value under its name. -/
def remember (state : NodeState) (properties : Properties) (node : Node) : NodeState :=
  match properties.anchor with
  | some name => { state with anchors := (name, node) :: state.anchors }
  | none => state

/-- Read the properties before a value: a name, a type, or both in either order. -/
def properties (state : NodeState) : Properties × NodeState :=
  match state.peek with
  | .anchor name =>
      match state.skip.peek with
      | .tag tag => ({ anchor := some name, tag := some tag }, state.skip.skip)
      | _ => ({ anchor := some name }, state.skip)
  | .tag tag =>
      match state.skip.peek with
      | .anchor name => ({ anchor := some name, tag := some tag }, state.skip.skip)
      | _ => ({ tag := some tag }, state.skip)
  | _ => ({}, state)

end NodeState

mutual

/-- Read a value.  `block` allows collections by indentation, and `indentless` sequences which are
not indented more than their key.  Every step takes a token or comes back to one which does, so
`fuel` may be a multiple of the number of tokens. -/
def node? (block indentless : Bool) : Nat → NodeState → Option (Node × NodeState)
  | 0, _ => none
  | fuel + 1, state =>
      match state.peek with
      | .alias name =>
          (state.anchors.find? fun entry => entry.1 = name).map fun entry =>
            (entry.2, state.skip)
      | _ => do
          let (properties, state) := state.properties
          let (node, state) ←
            match state.peek with
            | .scalar plain text => some (.scalar plain properties.tag text, state.skip)
            | .flowSequenceStart => flowSequence? true [] fuel state.skip
            | .flowMappingStart => flowMapping? true [] fuel state.skip
            | .blockEntry =>
                if indentless then indentlessSequence? [] fuel state
                else if properties.tag.isSome || properties.anchor.isSome then
                  some (.scalar true properties.tag "", state)
                else none
            | .blockSequenceStart =>
                if block then blockSequence? [] fuel state.skip
                else if properties.tag.isSome || properties.anchor.isSome then
                  some (.scalar true properties.tag "", state)
                else none
            | .blockMappingStart =>
                if block then blockMapping? [] fuel state.skip
                else if properties.tag.isSome || properties.anchor.isSome then
                  some (.scalar true properties.tag "", state)
                else none
            | _ =>
                if properties.tag.isSome || properties.anchor.isSome then
                  some (.scalar true properties.tag "", state)
                else none
          return (node, state.remember properties node)

/-- Read the entries of a sequence by indentation, most recent first. -/
def blockSequence? (items : List Node) : Nat → NodeState → Option (Node × NodeState)
  | 0, _ => none
  | fuel + 1, state =>
      match state.peek with
      | .blockEnd => some (.sequence items.reverse, state.skip)
      | .blockEntry =>
          match state.skip.peek with
          | .blockEntry => blockSequence? (.missing :: items) fuel state.skip
          | .blockEnd => blockSequence? (.missing :: items) fuel state.skip
          | _ => do
              let (item, state) ← node? true false fuel state.skip
              blockSequence? (item :: items) fuel state
      | _ => none

/-- Read the entries of a sequence which is not indented more than its key. -/
def indentlessSequence? (items : List Node) : Nat → NodeState → Option (Node × NodeState)
  | 0, _ => none
  | fuel + 1, state =>
      match state.peek with
      | .blockEntry =>
          match state.skip.peek with
          | .blockEntry => indentlessSequence? (.missing :: items) fuel state.skip
          | .key => indentlessSequence? (.missing :: items) fuel state.skip
          | .value => indentlessSequence? (.missing :: items) fuel state.skip
          | .blockEnd => indentlessSequence? (.missing :: items) fuel state.skip
          | _ => do
              let (item, state) ← node? true false fuel state.skip
              indentlessSequence? (item :: items) fuel state
      | _ => some (.sequence items.reverse, state)

/-- Read the pairs of a mapping by indentation. -/
def blockMapping? (pairs : List (Node × Node)) : Nat → NodeState → Option (Node × NodeState)
  | 0, _ => none
  | fuel + 1, state =>
      match state.peek with
      | .blockEnd => some (.mapping pairs.reverse, state.skip)
      | .key => do
          let (key, state) ← blockPart? fuel state.skip
          let (value, state) ← blockValue? fuel state
          blockMapping? ((key, value) :: pairs) fuel state
      | .value => do
          let (value, state) ← blockValue? fuel state
          blockMapping? ((.missing, value) :: pairs) fuel state
      | _ => none

/-- Read a key or a value of a mapping by indentation, which may be missing. -/
def blockPart? : Nat → NodeState → Option (Node × NodeState)
  | 0, _ => none
  | fuel + 1, state =>
      match state.peek with
      | .key => some (.missing, state)
      | .value => some (.missing, state)
      | .blockEnd => some (.missing, state)
      | _ => node? true true fuel state

/-- Read the value of a pair of a mapping by indentation, which may be missing. -/
def blockValue? : Nat → NodeState → Option (Node × NodeState)
  | 0, _ => none
  | fuel + 1, state =>
      match state.peek with
      | .value => blockPart? fuel state.skip
      | _ => some (.missing, state)

/-- Read the entries of a sequence in brackets. -/
def flowSequence? (first : Bool) (items : List Node) : Nat → NodeState → Option (Node × NodeState)
  | 0, _ => none
  | fuel + 1, state =>
      match state.peek with
      | .flowSequenceEnd => some (.sequence items.reverse, state.skip)
      | token =>
          if !first && token ≠ .flowEntry then none
          else
            let state := if first then state else state.skip
            match state.peek with
            | .flowSequenceEnd => some (.sequence items.reverse, state.skip)
            | .key => do
                let (pair, state) ← flowPair? fuel state.skip
                flowSequence? false (.mapping [pair] :: items) fuel state
            | _ => do
                let (item, state) ← node? false false fuel state
                flowSequence? false (item :: items) fuel state

/-- Read a pair which is an entry of a sequence in brackets. -/
def flowPair? : Nat → NodeState → Option ((Node × Node) × NodeState)
  | 0, _ => none
  | fuel + 1, state => do
      let (key, state) ←
        match state.peek with
        | .value => some (Node.missing, state.skip)
        | .flowEntry => some (Node.missing, state.skip)
        | .flowSequenceEnd => some (Node.missing, state.skip)
        | _ => node? false false fuel state
      match state.peek with
      | .value =>
          match state.skip.peek with
          | .flowEntry => some ((key, .missing), state.skip)
          | .flowSequenceEnd => some ((key, .missing), state.skip)
          | _ => do
              let (value, state) ← node? false false fuel state.skip
              return ((key, value), state)
      | _ => some ((key, .missing), state)

/-- Read the pairs of a mapping in braces. -/
def flowMapping? (first : Bool) (pairs : List (Node × Node)) :
    Nat → NodeState → Option (Node × NodeState)
  | 0, _ => none
  | fuel + 1, state =>
      match state.peek with
      | .flowMappingEnd => some (.mapping pairs.reverse, state.skip)
      | token =>
          if !first && token ≠ .flowEntry then none
          else
            let state := if first then state else state.skip
            match state.peek with
            | .flowMappingEnd => some (.mapping pairs.reverse, state.skip)
            | .key =>
                match state.skip.peek with
                | .value => do
                    let (value, state) ← flowValue? fuel state.skip
                    flowMapping? false ((.missing, value) :: pairs) fuel state
                | .flowEntry => flowMapping? false ((.missing, .missing) :: pairs) fuel state.skip
                | .flowMappingEnd =>
                    flowMapping? false ((.missing, .missing) :: pairs) fuel state.skip
                | _ => do
                    let (key, state) ← node? false false fuel state.skip
                    let (value, state) ← flowValue? fuel state
                    flowMapping? false ((key, value) :: pairs) fuel state
            | .value => do
                let (value, state) ← flowValue? fuel state
                flowMapping? false ((.missing, value) :: pairs) fuel state
            | _ => do
                let (key, state) ← node? false false fuel state
                flowMapping? false ((key, .missing) :: pairs) fuel state

/-- Read the value of a pair of a mapping in braces, which may be missing. -/
def flowValue? : Nat → NodeState → Option (Node × NodeState)
  | 0, _ => none
  | fuel + 1, state =>
      match state.peek with
      | .value =>
          match state.skip.peek with
          | .flowEntry => some (.missing, state.skip)
          | .flowMappingEnd => some (.missing, state.skip)
          | _ => node? false false fuel state.skip
      | _ => some (.missing, state)

end

namespace NodeState

/-- Go past directives. -/
def skipDirectives (state : NodeState) : NodeState :=
  { state with tokens := state.tokens.dropWhile (· = .directive) }

/-- Read the value of a document whose mark has been read. -/
def content? (fuel : Nat) (state : NodeState) : Option (Node × NodeState) :=
  match state.peek with
  | .directive => some (.missing, state)
  | .documentStart => some (.missing, state)
  | .documentEnd => some (.missing, state)
  | .streamEnd => some (.missing, state)
  | _ => node? true false fuel state

end NodeState

/-- The value of the only document of an input.  Without any document, or with more than one, there
is none. -/
def document? (text : String) : Option Node := do
  let tokens ← tokens? text
  let fuel := 4 * tokens.size + 8
  let start := NodeState.skipDirectives { tokens := tokens.toList }
  let bare := start.tokens.length = tokens.size
  let (node, state) ←
    match start.peek with
    | .streamEnd => none
    | .documentStart => start.skip.content? fuel
    | _ => if bare then node? true false fuel start else none
  let rest := state.tokens.dropWhile (· = .documentEnd)
  match rest with
  | [.streamEnd] => return node
  | _ => none

end Yaml
end TunnelProxy

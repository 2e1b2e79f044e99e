import ZeroError.Yaml.Token

/-!
The value that a configuration text stands for: a scalar with the way it was written, a sequence or
a mapping. References are replaced by the value of the anchor that was met last under their name; a
reference from inside its own anchor has no finite value and is kept as such.
-/

namespace ZeroError.Yaml

inductive Node
  | scalar (text : String) (style : Style) (tag : Option String)
  | sequence (items : List Node)
  | mapping (entries : List (Node × Node))
  | endless
deriving Inhabited

def Node.absent : Node :=
  .scalar "" .plain none

/-- Tokens in the course of being put together, with the anchors and tag handles known so far. -/
structure Parsing where
  tokens : List Token
  anchors : List (String × Node) := []
  handles : List (String × String) := [("!", "!"), ("!!", "tag:yaml.org,2002:")]

namespace Parsing

def next? (parsing : Parsing) : Option Token :=
  parsing.tokens.head?

def skip (parsing : Parsing) : Parsing :=
  { parsing with tokens := parsing.tokens.tail }

def isAt (parsing : Parsing) (tokens : List Token) : Bool :=
  parsing.next?.all tokens.contains

def record (parsing : Parsing) (anchor? : Option String) (node : Node) : Parsing :=
  match anchor? with
  | some name => { parsing with anchors := (name, node) :: parsing.anchors }
  | none => parsing

def fullTag (parsing : Parsing) (handle suffix : String) : Except Fault String :=
  if handle.isEmpty then .ok suffix
  else
    match parsing.handles.lookup handle with
    | some stem => .ok (stem ++ suffix)
    | none => .error .unknownTagHandle

def takeAnchor (parsing : Parsing) : Option String × Parsing :=
  match parsing.tokens with
  | .anchor name :: rest => (some name, { parsing with tokens := rest })
  | _ => (none, parsing)

def takeTag (parsing : Parsing) : Except Fault (Option String × Parsing) :=
  match parsing.tokens with
  | .tag handle suffix :: rest =>
      (parsing.fullTag handle suffix).map (fun tag => (some tag, { parsing with tokens := rest }))
  | _ => .ok (none, parsing)

/-- Takes an anchor and a tag, of which each may be missing, in either order. -/
def takeProperties (parsing : Parsing) :
    Except Fault (Option String × Option String × Parsing) := do
  let (anchor?, parsing) := parsing.takeAnchor
  let (tag?, parsing) ← parsing.takeTag
  match anchor? with
  | some name => return (some name, tag?, parsing)
  | none =>
      let (anchor?, parsing) := parsing.takeAnchor
      return (anchor?, tag?, parsing)

mutual

/-- Takes a value. An exclamation mark by itself is no tag of a scalar. Block collections are values
only where `block` says so, and the entries of a sequence without indentation of its own only where
`indentless` does. Where nothing follows an anchor or a tag, they belong to an empty scalar. -/
def takeNode : (fuel : Nat) → (block indentless : Bool) → Parsing → Except Fault (Node × Parsing)
  | 0, _, _, _ => .error .noContent
  | fuel + 1, block, indentless, parsing => do
      match parsing.tokens with
      | .reference name :: rest =>
          match parsing.anchors.lookup name with
          | some node => return (node, { parsing with tokens := rest })
          | none => .error .unknownAnchor
      | _ =>
          let (anchor?, tag?, parsing) ← parsing.takeProperties
          let inner := parsing.record anchor? .endless
          let empty : Except Fault (Node × Parsing) :=
            if anchor?.isSome || tag?.isSome then .ok (.scalar "" .plain tag?, inner)
            else .error .noContent
          let (node, parsing) ←
            match parsing.next? with
            | some (.scalar text style) =>
                pure (.scalar text style (tag?.filter (· ≠ "!")), inner.skip)
            | some .flowSequenceStart => takeFlowItems fuel true [] inner.skip
            | some .flowMappingStart => takeFlowEntries fuel true [] inner.skip
            | some .blockEntry =>
                if indentless then takeIndentlessItems fuel [] inner else empty
            | some .blockSequenceStart =>
                if block then takeBlockItems fuel [] inner.skip else empty
            | some .blockMappingStart =>
                if block then takeBlockEntries fuel [] inner.skip else empty
            | _ => empty
          return (node, parsing.record anchor? node)

/-- Takes a value unless one of the given tokens is next, in which case there is none. -/
def takeOptional : (fuel : Nat) → (absentAt : List Token) → (block indentless : Bool) → Parsing →
    Except Fault (Node × Parsing)
  | 0, _, _, _, _ => .error .noContent
  | fuel + 1, absentAt, block, indentless, parsing =>
      if parsing.next?.any absentAt.contains then .ok (.absent, parsing)
      else takeNode fuel block indentless parsing

def takeBlockItems : (fuel : Nat) → (done : List Node) → Parsing → Except Fault (Node × Parsing)
  | 0, _, _ => .error .noEntry
  | fuel + 1, done, parsing => do
      match parsing.next? with
      | some .blockEntry =>
          let (item, parsing) ←
            takeOptional fuel [.blockEntry, .blockEnd] true false parsing.skip
          takeBlockItems fuel (done ++ [item]) parsing
      | some .blockEnd => return (.sequence done, parsing.skip)
      | _ => .error .noEntry

/-- Takes the entries of a sequence that has the indentation of the mapping around it. -/
def takeIndentlessItems : (fuel : Nat) → (done : List Node) → Parsing →
    Except Fault (Node × Parsing)
  | 0, _, _ => .error .noEntry
  | fuel + 1, done, parsing => do
      match parsing.next? with
      | some .blockEntry =>
          let (item, parsing) ←
            takeOptional fuel [.blockEntry, .key, .value, .blockEnd] true false parsing.skip
          takeIndentlessItems fuel (done ++ [item]) parsing
      | _ => return (.sequence done, parsing)

def takeBlockEntries : (fuel : Nat) → (done : List (Node × Node)) → Parsing →
    Except Fault (Node × Parsing)
  | 0, _, _ => .error .noKey
  | fuel + 1, done, parsing => do
      match parsing.next? with
      | some .key =>
          let (key, parsing) ←
            takeOptional fuel [.key, .value, .blockEnd] true true parsing.skip
          let (value, parsing) ← takeBlockValue fuel parsing
          takeBlockEntries fuel (done ++ [(key, value)]) parsing
      | some .blockEnd => return (.mapping done, parsing.skip)
      | _ => .error .noKey

def takeBlockValue : (fuel : Nat) → Parsing → Except Fault (Node × Parsing)
  | 0, _ => .error .noKey
  | fuel + 1, parsing =>
      match parsing.next? with
      | some .value => takeOptional fuel [.key, .value, .blockEnd] true true parsing.skip
      | _ => .ok (.absent, parsing)

def takeFlowItems : (fuel : Nat) → (first : Bool) → (done : List Node) → Parsing →
    Except Fault (Node × Parsing)
  | 0, _, _, _ => .error .unclosedFlow
  | fuel + 1, first, done, parsing => do
      match parsing.next? with
      | some .flowSequenceEnd => return (.sequence done, parsing.skip)
      | token =>
          if !first && token ≠ some .flowEntry then .error .unclosedFlow
          else
            let parsing := if first then parsing else parsing.skip
            match parsing.next? with
            | some .flowSequenceEnd => return (.sequence done, parsing.skip)
            | some .key =>
                let (pair, parsing) ← takeFlowPair fuel parsing.skip
                takeFlowItems fuel false (done ++ [.mapping [pair]]) parsing
            | _ =>
                let (item, parsing) ← takeNode fuel false false parsing
                takeFlowItems fuel false (done ++ [item]) parsing

/-- Takes the only entry of a mapping that stands between brackets without braces of its own. -/
def takeFlowPair : (fuel : Nat) → Parsing → Except Fault ((Node × Node) × Parsing)
  | 0, _ => .error .unclosedFlow
  | fuel + 1, parsing => do
      let (key, parsing) ←
        if parsing.isAt [.value, .flowEntry, .flowSequenceEnd] then pure (.absent, parsing.skip)
        else takeNode fuel false false parsing
      match parsing.next? with
      | some .value =>
          let (value, parsing) ←
            takeOptional fuel [.flowEntry, .flowSequenceEnd] false false parsing.skip
          return ((key, value), parsing)
      | _ => return ((key, .absent), parsing)

def takeFlowEntries : (fuel : Nat) → (first : Bool) → (done : List (Node × Node)) → Parsing →
    Except Fault (Node × Parsing)
  | 0, _, _, _ => .error .unclosedFlow
  | fuel + 1, first, done, parsing => do
      match parsing.next? with
      | some .flowMappingEnd => return (.mapping done, parsing.skip)
      | token =>
          if !first && token ≠ some .flowEntry then .error .unclosedFlow
          else
            let parsing := if first then parsing else parsing.skip
            match parsing.next? with
            | some .flowMappingEnd => return (.mapping done, parsing.skip)
            | some .key =>
                let (key, parsing) ←
                  takeOptional fuel [.value, .flowEntry, .flowMappingEnd] false false parsing.skip
                let (value, parsing) ← takeFlowValue fuel parsing
                takeFlowEntries fuel false (done ++ [(key, value)]) parsing
            | _ =>
                let (key, parsing) ← takeNode fuel false false parsing
                takeFlowEntries fuel false (done ++ [(key, .absent)]) parsing

def takeFlowValue : (fuel : Nat) → Parsing → Except Fault (Node × Parsing)
  | 0, _ => .error .unclosedFlow
  | fuel + 1, parsing =>
      match parsing.next? with
      | some .value => takeOptional fuel [.flowEntry, .flowMappingEnd] false false parsing.skip
      | _ => .ok (.absent, parsing)

end

/-- Takes the directives in front of a document. Each may stand there once. -/
def takeDirectives : (versioned : Bool) → (declared : List String) → List Token → Parsing →
    Except Fault Parsing
  | versioned, declared, .version major minor :: rest, parsing =>
      if versioned then .error .malformedDirective
      else if major = 1 ∧ (minor = 1 ∨ minor = 2) then
        takeDirectives true declared rest { parsing with tokens := rest }
      else .error .unsupportedVersion
  | versioned, declared, .tagHandle handle stem :: rest, parsing =>
      if declared.contains handle then .error .malformedDirective
      else
        takeDirectives versioned (handle :: declared) rest
          { parsing with tokens := rest, handles := (handle, stem) :: parsing.handles }
  | _, _, _, parsing => .ok parsing

def isOutside : Token → Bool
  | .version _ _ | .tagHandle _ _ | .documentStart | .documentEnd => true
  | _ => false

def finish (parsing : Parsing) : Except Fault Unit :=
  match parsing.tokens.dropWhile (· == .documentEnd) with
  | [] => .ok ()
  | .documentStart :: _ | .version _ _ :: _ | .tagHandle _ _ :: _ => .error .severalDocuments
  | _ => .error .noDocumentStart

/-- The budget for the tokens that are left: no token takes more than four steps. -/
def budget (parsing : Parsing) : Nat :=
  4 * parsing.tokens.length + 4

/-- Takes the value of a document that starts with a mark of its own. -/
def takeExplicit (parsing : Parsing) : Except Fault (Node × Parsing) := do
  let parsing ← takeDirectives false [] parsing.tokens parsing
  match parsing.tokens with
  | .documentStart :: rest =>
      let parsing := { parsing with tokens := rest }
      if parsing.next?.all isOutside then return (.absent, parsing)
      else takeNode parsing.budget true false parsing
  | _ => .error .noDocumentStart

def takeDocument (parsing : Parsing) : Except Fault (Option Node) := do
  match parsing.tokens with
  | [] => return none
  | .version _ _ :: _ | .tagHandle _ _ :: _ | .documentStart :: _ =>
      let (node, parsing) ← takeExplicit parsing
      finish parsing
      return some node
  | _ =>
      let (node, parsing) ← takeNode parsing.budget true false parsing
      finish parsing
      return some node

end Parsing

/-- The value of a configuration text; a text without any document has none. -/
def Node.ofText (text : String) : Except Fault (Option Node) := do
  let tokens ← tokens text
  Parsing.takeDocument { tokens := tokens }

end ZeroError.Yaml

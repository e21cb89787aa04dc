import Concordance.Yaml.Token

/-!
# Nodes of a settings text

A document is a tree of scalars, sequences and mappings. It is read from the
tokens of its text; a text holds at most one document. A value that is left out is
an empty scalar.
-/

namespace Concordance
namespace Yaml

/-- A tree of scalars, sequences and mappings. -/
inductive Node
  | scalar (text : String) (isPlain : Bool)
  | sequence (items : List Node)
  | mapping (entries : List (Node × Node))
  deriving Inhabited

namespace Node

/-- What stands where nothing is written. -/
def missing : Node := .scalar "" true

mutual

/-- A node. Blocks may begin only where `inBlock` holds, and a sequence without an
indentation of its own only where `looseItems` holds. -/
def readNode? (inBlock looseItems : Bool) : Nat -> List Token -> Option (Node × List Token)
  | 0, _ => none
  | fuel + 1, tokens =>
      match tokens with
      | .scalar text isPlain :: rest => some (.scalar text isPlain, rest)
      | .flowSequenceStart :: rest => readFlowItems? true [] fuel rest
      | .flowMappingStart :: rest => readFlowEntries? true [] fuel rest
      | .blockSequenceStart :: rest => if inBlock then readItems? [] fuel rest else none
      | .blockMappingStart :: rest => if inBlock then readEntries? [] fuel rest else none
      | .blockEntry :: _ => if looseItems then readLooseItems? [] fuel tokens else none
      | _ => none

/-- The items of a block sequence. -/
def readItems? (reversed : List Node) : Nat -> List Token -> Option (Node × List Token)
  | 0, _ => none
  | fuel + 1, tokens =>
      match tokens with
      | .blockEnd :: rest => some (.sequence reversed.reverse, rest)
      | .blockEntry :: rest =>
          match rest with
          | .blockEntry :: _ => readItems? (missing :: reversed) fuel rest
          | .blockEnd :: _ => readItems? (missing :: reversed) fuel rest
          | _ =>
              match readNode? true false fuel rest with
              | some (item, after) => readItems? (item :: reversed) fuel after
              | none => none
      | _ => none

/-- The items of a sequence that is indented like the mapping around it. -/
def readLooseItems? (reversed : List Node) : Nat -> List Token -> Option (Node × List Token)
  | 0, _ => none
  | fuel + 1, tokens =>
      match tokens with
      | .blockEntry :: rest =>
          match rest with
          | .blockEntry :: _ => readLooseItems? (missing :: reversed) fuel rest
          | .blockEnd :: _ => readLooseItems? (missing :: reversed) fuel rest
          | .key :: _ => readLooseItems? (missing :: reversed) fuel rest
          | .value :: _ => readLooseItems? (missing :: reversed) fuel rest
          | _ =>
              match readNode? true false fuel rest with
              | some (item, after) => readLooseItems? (item :: reversed) fuel after
              | none => none
      | _ => some (.sequence reversed.reverse, tokens)

/-- A key or a value of a block mapping, behind its sign. -/
def readPart? : Nat -> List Token -> Option (Node × List Token)
  | 0, _ => none
  | fuel + 1, tokens =>
      match tokens with
      | .key :: _ => some (missing, tokens)
      | .value :: _ => some (missing, tokens)
      | .blockEnd :: _ => some (missing, tokens)
      | _ => readNode? true true fuel tokens

/-- The entries of a block mapping. -/
def readEntries? (reversed : List (Node × Node)) :
    Nat -> List Token -> Option (Node × List Token)
  | 0, _ => none
  | fuel + 1, tokens =>
      match tokens with
      | .blockEnd :: rest => some (.mapping reversed.reverse, rest)
      | .key :: rest =>
          match readPart? fuel rest with
          | some (key, .value :: afterKey) =>
              match readPart? fuel afterKey with
              | some (value, after) => readEntries? ((key, value) :: reversed) fuel after
              | none => none
          | some (key, afterKey) => readEntries? ((key, missing) :: reversed) fuel afterKey
          | none => none
      | _ => none

/-- A key or a value between brackets, behind its sign; a comma or the closing
bracket ends it. -/
def readFlowPart? (closing : Token) : Nat -> List Token -> Option (Node × List Token)
  | 0, _ => none
  | fuel + 1, tokens =>
      match tokens with
      | .flowEntry :: _ => some (missing, tokens)
      | .value :: _ => some (missing, tokens)
      | token :: _ =>
          if token = closing then some (missing, tokens) else readNode? false false fuel tokens
      | [] => none

/-- A key with its value between brackets, behind the sign of the key. -/
def readFlowPair? (closing : Token) : Nat -> List Token -> Option ((Node × Node) × List Token)
  | 0, _ => none
  | fuel + 1, tokens =>
      match readFlowPart? closing fuel tokens with
      | some (key, .value :: afterKey) =>
          match afterKey with
          | .value :: _ => none
          | _ =>
              match readFlowPart? closing fuel afterKey with
              | some (value, after) => some ((key, value), after)
              | none => none
      | some (key, afterKey) => some ((key, missing), afterKey)
      | none => none

/-- The items of a sequence in brackets. An item may be a single key with its
value. -/
def readFlowItems? (isFirst : Bool) (reversed : List Node) :
    Nat -> List Token -> Option (Node × List Token)
  | 0, _ => none
  | fuel + 1, tokens =>
      match tokens with
      | .flowSequenceEnd :: rest => some (.sequence reversed.reverse, rest)
      | _ =>
          let next? :=
            match isFirst, tokens with
            | true, _ => some tokens
            | false, .flowEntry :: rest => some rest
            | false, _ => none
          match next? with
          | none => none
          | some (.flowSequenceEnd :: rest) => some (.sequence reversed.reverse, rest)
          | some (.key :: rest) =>
              match readFlowPair? .flowSequenceEnd fuel rest with
              | some (pair, after) =>
                  readFlowItems? false (.mapping [pair] :: reversed) fuel after
              | none => none
          | some next =>
              match readNode? false false fuel next with
              | some (item, after) => readFlowItems? false (item :: reversed) fuel after
              | none => none

/-- The entries of a mapping in braces. A key may stand without a value. -/
def readFlowEntries? (isFirst : Bool) (reversed : List (Node × Node)) :
    Nat -> List Token -> Option (Node × List Token)
  | 0, _ => none
  | fuel + 1, tokens =>
      match tokens with
      | .flowMappingEnd :: rest => some (.mapping reversed.reverse, rest)
      | _ =>
          let next? :=
            match isFirst, tokens with
            | true, _ => some tokens
            | false, .flowEntry :: rest => some rest
            | false, _ => none
          match next? with
          | none => none
          | some (.flowMappingEnd :: rest) => some (.mapping reversed.reverse, rest)
          | some (.key :: rest) =>
              match readFlowPair? .flowMappingEnd fuel rest with
              | some (pair, after) => readFlowEntries? false (pair :: reversed) fuel after
              | none => none
          | some next =>
              match readNode? false false fuel next with
              | some (key, after) => readFlowEntries? false ((key, missing) :: reversed) fuel after
              | none => none

end

/-- The document of a text, none where the text holds no document. -/
def readDocument? (tokens : List Token) : Option (Option Node) :=
  let afterDirectives := tokens.dropWhile (· = .directive)
  let isDirected := afterDirectives.length < tokens.length
  let read (body : List Token) : Option (Option Node) :=
    match readNode? true false (4 * body.length + 4) body with
    | some (node, after) =>
        if (after.dropWhile (· = .documentEnd)).isEmpty then some (some node) else none
    | none => none
  match afterDirectives with
  | .documentStart :: body =>
      if (body.dropWhile (· = .documentEnd)).isEmpty then some none else read body
  | [] => if isDirected then none else some none
  | body => if isDirected then none else read body

end Node
end Yaml
end Concordance

import SqlAlgebra.Text.Numeral
import SqlAlgebra.Yaml.Cursor
import SqlAlgebra.Yaml.Token

/-!
# The values of a YAML text

A document is a tree of nodes. A text without quotes and without a tag may stand for nothing, a
truth value or a number; a tag asks for one of these, and what does not fit it is no value at
all. An alias stands for the node with its anchor.

`readDocument?` builds the tree from tokens. Readers give the node and what is left of the
tokens; they use up a token or end, so twice as many steps as there are tokens are enough.
-/

namespace SqlAlgebra.Yaml

/-- A value of a document. -/
inductive Node
  /-- Nothing. -/
  | null
  /-- What does not fit its tag. -/
  | misfit
  | bool (value : Bool)
  | int (value : Int)
  /-- A number that is not a whole number, as it is written. -/
  | real (text : String)
  | text (value : String)
  | list (items : List Node)
  | mapping (fields : List (Node × Node))
deriving Inhabited

/-! ## Single values -/

/-- The words for infinity and not-a-number. -/
def specialReals : List String :=
  [".inf", ".Inf", ".INF", "+.inf", "+.Inf", "+.INF", "-.inf", "-.Inf", "-.INF", ".nan", "NaN",
    ".NAN"]

/-- Whether a text is a number: a special word, or a decimal number with some digit. -/
def isReal (s : String) : Bool :=
  specialReals.contains s || (s.toList.any Char.isDigit && (Text.float? s.toList).isSome)

/-- A whole number; those in another base than ten say so, and a second sign may follow on a
plus sign. -/
def wholeNumber? : List Char → Option Int
  | '0' :: 'x' :: ds => Text.signed64? 16 ds
  | '0' :: 'o' :: ds => Text.signed64? 8 ds
  | '+' :: ds => Text.signed64? 10 ds
  | ds => Text.signed64? 10 ds

/-- The value that a text without quotes stands for. -/
def plainNode (s : String) : Node :=
  match wholeNumber? s.toList with
  | some i => .int i
  | none =>
    match s with
    | "" | "~" | "null" => .null
    | "true" => .bool true
    | "false" => .bool false
    | s => if isReal s then .real s else .text s

/-- What the tags of the language itself begin with. -/
def coreHandle : String := "tag:yaml.org,2002:"

/-- A tag with its handle resolved. -/
structure Tag where
  handle : String
  suffix : String
deriving DecidableEq, Repr

/-- The value that a text without quotes stands for under a tag. -/
def Tag.apply (tag : Tag) (s : String) : Node :=
  if tag.handle != coreHandle then .text s
  else
    match tag.suffix with
    | "bool" =>
      match s with
      | "true" => .bool true
      | "false" => .bool false
      | _ => .misfit
    | "int" => ((Text.signed64? 10 s.toList).map Node.int).getD .misfit
    | "float" => if isReal s then .real s else .misfit
    | "null" => if s == "~" || s == "null" then .null else .misfit
    | _ => .text s

/-- The node of a text. -/
def textNode (isPlain : Bool) (tag : Option Tag) (s : String) : Node :=
  if !isPlain then .text s
  else
    match tag with
    | some tag => tag.apply s
    | none => plainNode s

/-! ## Mappings -/

/-- Whether two names of fields are the same. Lists and mappings are no names. -/
def Node.sameName : Node → Node → Bool
  | .null, .null => true
  | .bool a, .bool b => a == b
  | .int a, .int b => a == b
  | .real a, .real b => a == b
  | .text a, .text b => a == b
  | _, _ => false

/-- Names and values by turns as fields. What does not fit its tag is no name and is left
out. -/
def pairUp : List Node → List (Node × Node)
  | [] => []
  | [_] => []
  | .misfit :: nodes => pairUp nodes
  | name :: value :: nodes => (name, value) :: pairUp nodes

/-- The wording of a name in a message. -/
def Node.nameText : Node → String
  | .text s => s
  | .real s => s
  | .int i => i.repr
  | .bool b => if b then "true" else "false"
  | _ => "null"

/-- The first name that stands twice. -/
def repeatedName? : List (Node × Node) → Option Node
  | [] => none
  | (name, _) :: fields =>
    if fields.any fun f => f.1.sameName name then some name else repeatedName? fields

/-- The mapping of names and values by turns. -/
def mappingOf (nodes : List Node) : Reading Node :=
  let fields := pairUp nodes
  match repeatedName? fields with
  | some name => .error (.repeatedField name.nameText)
  | none => .ok (.mapping fields)

/-! ## Tokens -/

/-- The tokens that are left, and what was said in front of them. -/
structure Source where
  tokens : List Token
  /-- What the handles of tags stand for. -/
  handles : List (String × String) := []
  /-- The numbers of the anchors, the latest first. -/
  anchors : List (String × Nat) := []
  /-- The nodes of the anchors by number; that of an anchor is not there before its end. -/
  nodes : List (Nat × Node) := []
deriving Inhabited

namespace Source

/-- The same with other tokens. -/
def after (src : Source) (tokens : List Token) : Source := { src with tokens }

/-- The node that an alias stands for. -/
def resolve (src : Source) (name : String) : Reading Node :=
  match src.anchors.lookup name with
  | none => .error (.unknownAnchor name)
  | some n => .ok ((src.nodes.lookup n).getD .misfit)

/-- Gives an anchor a number. -/
def addAnchor (src : Source) (name : String) : Nat × Source :=
  let n := src.anchors.length
  (n, { src with anchors := (name, n) :: src.anchors })

/-- Notes the node of an anchor. -/
def record (src : Source) (anchor : Option Nat) (node : Node) : Source :=
  match anchor with
  | some n => { src with nodes := (n, node) :: src.nodes }
  | none => src

/-- Resolves the handle of a tag. -/
def tagOf (src : Source) (handle suffix : String) : Reading Tag :=
  match src.handles.lookup handle with
  | some meaning => .ok ⟨meaning, suffix⟩
  | none =>
    if handle == "!!" then .ok ⟨coreHandle, suffix⟩
    else if 2 ≤ handle.length then .error .badTag
    else .ok ⟨handle, suffix⟩

/-- Reads an anchor, if there is one. -/
def anchor? (src : Source) : Option Nat × Source :=
  match src.tokens with
  | .anchor name :: rest =>
    let (n, src) := src.addAnchor name
    (some n, src.after rest)
  | _ => (none, src)

/-- Reads a tag, if there is one. -/
def tag? (src : Source) : Reading (Option Tag × Source) :=
  match src.tokens with
  | .tag handle suffix :: rest =>
    (src.tagOf handle suffix).map fun tag => (some tag, src.after rest)
  | _ => .ok (none, src)

/-- Reads an anchor and a tag in either order. -/
def properties (src : Source) : Reading (Option Nat × Option Tag × Source) := do
  let (anchor, src) := src.anchor?
  let (tag, src) ← src.tag?
  match anchor with
  | some n => return (some n, tag, src)
  | none =>
    if tag.isSome then
      let (anchor, src) := src.anchor?
      return (anchor, tag, src)
    else return (none, none, src)

end Source

/-- What a reader of nodes gives. -/
abbrev NodeReading (α : Type) := Reading (α × Source)

mutual

/-- Reads a node. Lists and mappings in blocks may stand where `isBlock` says so; if
`allowsItems`, a list may begin with its first dash. -/
def readNode (isBlock allowsItems : Bool) : Nat → Source → NodeReading Node
  | 0, _ => .error .valueExpected
  | fuel + 1, src =>
    match src.tokens with
    | .alias name :: rest => (src.resolve name).map fun node => (node, src.after rest)
    | _ =>
      match src.properties with
      | .error e => .error e
      | .ok (anchor, tag, src) =>
        match readContent isBlock allowsItems (anchor.isSome || tag.isSome) tag fuel src with
        | .error e => .error e
        | .ok (node, src) => .ok (node, src.record anchor node)

/-- Reads a node after its anchor and its tag. -/
def readContent (isBlock allowsItems mayBeEmpty : Bool) (tag : Option Tag) :
    Nat → Source → NodeReading Node
  | 0, _ => .error .valueExpected
  | fuel + 1, src =>
    let empty : NodeReading Node :=
      if mayBeEmpty then .ok (textNode true tag "", src) else .error .valueExpected
    match src.tokens with
    | .item :: _ => if allowsItems then readLooseItems fuel src [] else empty
    | .text isPlain s :: rest => .ok (textNode isPlain tag s, src.after rest)
    | .flowList :: rest => readFlowItems true fuel (src.after rest) []
    | .flowMapping :: rest => readFlowFields true fuel (src.after rest) []
    | .blockList :: rest => if isBlock then readItems fuel (src.after rest) [] else empty
    | .blockMapping :: rest => if isBlock then readFields fuel (src.after rest) [] else empty
    | _ => empty

/-- Reads the items of a list in a block; `done` holds those read, the latest first. -/
def readItems : Nat → Source → List Node → NodeReading Node
  | 0, _, _ => .error .unclosed
  | fuel + 1, src, done =>
    match src.tokens with
    | .blockEnd :: rest => .ok (.list done.reverse, src.after rest)
    | .item :: rest =>
      match rest.head? with
      | some .item | some .blockEnd => readItems fuel (src.after rest) (.null :: done)
      | _ =>
        match readNode true false fuel (src.after rest) with
        | .error e => .error e
        | .ok (node, src) => readItems fuel src (node :: done)
    | _ => .error .misplacedItem

/-- Reads the items of a list that is not indented more than the field it belongs to. -/
def readLooseItems : Nat → Source → List Node → NodeReading Node
  | 0, _, _ => .error .unclosed
  | fuel + 1, src, done =>
    match src.tokens with
    | .item :: rest =>
      if rest.head?.any fun t => t == .item || t.endsBlockPart then
        readLooseItems fuel (src.after rest) (.null :: done)
      else
        match readNode true false fuel (src.after rest) with
        | .error e => .error e
        | .ok (node, src) => readLooseItems fuel src (node :: done)
    | _ => .ok (.list done.reverse, src)

/-- Reads the fields of a mapping in a block; `done` holds names and values, the latest
first. -/
def readFields : Nat → Source → List Node → NodeReading Node
  | 0, _, _ => .error .unclosed
  | fuel + 1, src, done =>
    match src.tokens with
    | .blockEnd :: rest => (mappingOf done.reverse).map fun node => (node, src.after rest)
    | .key :: rest =>
      match readPart fuel (src.after rest) with
      | .error e => .error e
      | .ok (name, src) =>
        match readValue fuel src with
        | .error e => .error e
        | .ok (value, src) => readFields fuel src (value :: name :: done)
    | .value :: _ =>
      match readValue fuel src with
      | .error e => .error e
      | .ok (value, src) => readFields fuel src (value :: .null :: done)
    | _ => .error .fieldExpected

/-- Reads the value of a field in a block; a field without a colon has none. -/
def readValue : Nat → Source → NodeReading Node
  | 0, _ => .error .valueExpected
  | fuel + 1, src =>
    match src.tokens with
    | .value :: rest => readPart fuel (src.after rest)
    | _ => .ok (.null, src)

/-- Reads the name or the value of a field in a block; either may be left out. -/
def readPart : Nat → Source → NodeReading Node
  | 0, _ => .error .valueExpected
  | fuel + 1, src =>
    if src.tokens.head?.any Token.endsBlockPart then .ok (.null, src)
    else readNode true true fuel src

/-- Reads the fields of a mapping in brackets. -/
def readFlowFields (isFirst : Bool) : Nat → Source → List Node → NodeReading Node
  | 0, _, _ => .error .unclosed
  | fuel + 1, src, done =>
    let finish (rest : List Token) : NodeReading Node :=
      (mappingOf done.reverse).map fun node => (node, src.after rest)
    match src.tokens with
    | .flowMappingEnd :: rest => finish rest
    | .comma :: rest =>
      if isFirst then .error .valueExpected
      else
        match rest with
        | .flowMappingEnd :: rest => finish rest
        | _ => readFlowField fuel (src.after rest) done
    | _ => if isFirst then readFlowField fuel src done else .error .unclosed

/-- Reads a field of a mapping in brackets and those after it. -/
def readFlowField : Nat → Source → List Node → NodeReading Node
  | 0, _, _ => .error .unclosed
  | fuel + 1, src, done =>
    match src.tokens with
    | .key :: rest =>
      let name : NodeReading Node :=
        match rest.head? with
        | some .value | some .comma | some .flowMappingEnd => .ok (.null, src.after rest)
        | _ => readNode false false fuel (src.after rest)
      match name with
      | .error e => .error e
      | .ok (name, src) =>
        match readFlowValue .flowMappingEnd fuel src with
        | .error e => .error e
        | .ok (value, src) => readFlowFields false fuel src (value :: name :: done)
    | .value :: _ =>
      match readFlowValue .flowMappingEnd fuel src with
      | .error e => .error e
      | .ok (value, src) => readFlowFields false fuel src (value :: .null :: done)
    | _ =>
      match readNode false false fuel src with
      | .error e => .error e
      | .ok (name, src) => readFlowFields false fuel src (.null :: name :: done)

/-- Reads the value of a field in brackets that a closing bracket may end. -/
def readFlowValue (closing : Token) : Nat → Source → NodeReading Node
  | 0, _ => .error .valueExpected
  | fuel + 1, src =>
    match src.tokens with
    | .value :: rest =>
      if rest.head?.any fun t => t == .comma || t == closing then .ok (.null, src.after rest)
      else readNode false false fuel (src.after rest)
    | _ => .ok (.null, src)

/-- Reads the items of a list in brackets. -/
def readFlowItems (isFirst : Bool) : Nat → Source → List Node → NodeReading Node
  | 0, _, _ => .error .unclosed
  | fuel + 1, src, done =>
    match src.tokens with
    | .flowListEnd :: rest => .ok (.list done.reverse, src.after rest)
    | .comma :: rest =>
      if isFirst then .error .valueExpected
      else
        match rest with
        | .flowListEnd :: rest => .ok (.list done.reverse, src.after rest)
        | _ => readFlowItem fuel (src.after rest) done
    | _ => if isFirst then readFlowItem fuel src done else .error .unclosed

/-- Reads an item of a list in brackets and those after it. An item may be a single field;
if its name is left out, the token after the mark of the name is passed over. -/
def readFlowItem : Nat → Source → List Node → NodeReading Node
  | 0, _, _ => .error .unclosed
  | fuel + 1, src, done =>
    match src.tokens with
    | .key :: rest =>
      let name : NodeReading Node :=
        match rest with
        | .value :: rest | .comma :: rest | .flowListEnd :: rest => .ok (.null, src.after rest)
        | _ => readNode false false fuel (src.after rest)
      match name with
      | .error e => .error e
      | .ok (name, src) =>
        match readFlowValue .flowListEnd fuel src with
        | .error e => .error e
        | .ok (value, src) =>
          match mappingOf [name, value] with
          | .error e => .error e
          | .ok node => readFlowItems false fuel src (node :: done)
    | _ =>
      match readNode false false fuel src with
      | .error e => .error e
      | .ok (node, src) => readFlowItems false fuel src (node :: done)

end

/-! ## Documents -/

/-- Reads the directives in front of a document; of several declarations the last counts. -/
def readDirectives : Bool → List Token → List (String × String) →
    Reading (List Token × List (String × String))
  | hasVersion, .version :: rest, _ =>
    if hasVersion then .error .badDirective else readDirectives true rest []
  | hasVersion, .declaration handle meaning :: rest, _ =>
    readDirectives hasVersion rest [(handle, meaning)]
  | _, tokens, handles => .ok (tokens, handles)

/-- Reads the node of a document. -/
def readRoot (src : Source) : NodeReading Node :=
  readNode true false (2 * src.tokens.length + 8) src

/-- Reads a document that begins with directives or its marker. -/
def readMarked (tokens : List Token) : NodeReading Node :=
  match readDirectives false tokens [] with
  | .error e => .error e
  | .ok (.documentStart :: rest, handles) =>
    let src : Source := { tokens := rest, handles }
    match rest with
    | [] | .documentStart :: _ | .documentEnd :: _ => .ok (.null, src)
    | token :: _ => if token.isDirective then .ok (.null, src) else readRoot src
  | .ok _ => .error .badDirective

/-- Reads the document of some tokens, if there is one; there may be no second one. -/
def readDocument? (tokens : List Token) : Reading (Option Node) := do
  let skipEnds : List Token → List Token := List.dropWhile (· == .documentEnd)
  match skipEnds tokens with
  | [] => return none
  | token :: rest =>
    let (node, src) ←
      if token.isDirective || token == .documentStart then readMarked (token :: rest)
      else readRoot { tokens := token :: rest }
    if (skipEnds src.tokens).isEmpty then return some node else throw .severalDocuments

end SqlAlgebra.Yaml

/-!
# Tokens of a YAML text

A text is cut into tokens before values are built from them. Indentation shows as tokens too:
a block opens where its first line is indented and is closed where a line is indented less.
-/

namespace SqlAlgebra.Yaml

/-- A token. -/
inductive Token
  /-- The directive that names a version. -/
  | version
  /-- A directive that declares what a tag handle stands for. -/
  | declaration (handle meaning : String)
  | documentStart
  | documentEnd
  /-- The first item of a list follows, one to a line. -/
  | blockList
  /-- The first field of a mapping follows, one to a line. -/
  | blockMapping
  | blockEnd
  /-- An opening square bracket. -/
  | flowList
  | flowListEnd
  /-- An opening curly bracket. -/
  | flowMapping
  | flowMappingEnd
  /-- The dash in front of an item. -/
  | item
  /-- The comma between items or fields in brackets. -/
  | comma
  /-- The name of a field follows. -/
  | key
  /-- The value of a field follows. -/
  | value
  /-- The value of an anchor is repeated. -/
  | alias (name : String)
  /-- The value that follows is named. -/
  | anchor (name : String)
  | tag (handle suffix : String)
  /-- A text, with quotes or in a block unless it is plain. -/
  | text (isPlain : Bool) (content : String)
deriving DecidableEq, Repr

namespace Token

/-- Whether a token is a directive. -/
def isDirective : Token → Bool
  | version | declaration _ _ => true
  | _ => false

/-- Whether a token ends an empty key or value of a field in a block. -/
def endsBlockPart : Token → Bool
  | key | value | blockEnd => true
  | _ => false

end Token

end SqlAlgebra.Yaml

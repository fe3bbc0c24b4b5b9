import Concordance.Json.Token

/-!
# JSON documents

A document is a tree of values.  `Json.Value.tokens` writes a tree as a row of tokens, and
`Json.Value.ofTokens?` reads it back.

Reading takes one token at a time.  What is still open is kept in a list of `Frame`s: for an
array the values before, for an object the members before and the key of the member that is
being read.  Nesting is therefore not limited.
-/

namespace Concordance.Json

/-- A value of a document.  Members of objects keep their order, and keys may repeat. -/
inductive Value where
  | null
  | bool (value : Bool)
  | number (literal : Number)
  | string (units : List StringUnit)
  | array (items : List Value)
  | object (members : List (List StringUnit × Value))
  deriving Repr

namespace Value

/-! ## Writing -/

mutual

/-- A value as a row of tokens. -/
def tokens : Value → List Token
  | null => [.null]
  | bool b => [.bool b]
  | number literal => [.number literal]
  | string units => [.string units]
  | array items => .openBracket :: itemTokens items ++ [.closeBracket]
  | object members => .openBrace :: memberTokens members ++ [.closeBrace]

/-- The items of an array with commas between them. -/
def itemTokens : List Value → List Token
  | [] => []
  | [v] => tokens v
  | v :: rest => tokens v ++ .comma :: itemTokens rest

/-- The members of an object with commas between them. -/
def memberTokens : List (List StringUnit × Value) → List Token
  | [] => []
  | [(key, v)] => .string key :: .colon :: tokens v
  | (key, v) :: rest => .string key :: .colon :: tokens v ++ .comma :: memberTokens rest

end

/-- The text of a value, without blanks between its tokens. -/
def text (v : Value) : List Char := v.tokens.flatMap Token.text

/-! ## Reading -/

/-- An array or object that is still open; what it holds so far, the last first. -/
inductive Frame where
  | array (items : List Value)
  | object (members : List (List StringUnit × Value)) (key : List StringUnit)

/-- What may come next. -/
inductive Reading where
  /-- A value. -/
  | value (frames : List Frame)
  /-- The first item of an array, or its end. -/
  | firstItem (frames : List Frame)
  /-- The first key of an object, or its end. -/
  | firstKey (frames : List Frame)
  /-- A further key of an object. -/
  | key (members : List (List StringUnit × Value)) (frames : List Frame)
  /-- The colon behind a key. -/
  | colon (members : List (List StringUnit × Value)) (key : List StringUnit)
      (frames : List Frame)
  /-- A comma or an end, behind a value. -/
  | behind (value : Value) (frames : List Frame)

namespace Reading

/-- Begins a value with its first token. -/
def begin? (frames : List Frame) : Token → Option Reading
  | .null => some (.behind .null frames)
  | .bool b => some (.behind (.bool b) frames)
  | .number literal => some (.behind (.number literal) frames)
  | .string units => some (.behind (.string units) frames)
  | .openBracket => some (.firstItem frames)
  | .openBrace => some (.firstKey frames)
  | _ => none

/-- Takes one token. -/
def step? : Reading → Token → Option Reading
  | value frames, t => begin? frames t
  | firstItem frames, .closeBracket => some (.behind (.array []) frames)
  | firstItem frames, t => begin? (.array [] :: frames) t
  | firstKey frames, .closeBrace => some (.behind (.object []) frames)
  | firstKey frames, .string units => some (.colon [] units frames)
  | key members frames, .string units => some (.colon members units frames)
  | colon members units frames, .colon => some (.value (.object members units :: frames))
  | behind v (.array items :: frames), .comma => some (.value (.array (v :: items) :: frames))
  | behind v (.array items :: frames), .closeBracket =>
    some (.behind (.array (v :: items).reverse) frames)
  | behind v (.object members units :: frames), .comma =>
    some (.key ((units, v) :: members) frames)
  | behind v (.object members units :: frames), .closeBrace =>
    some (.behind (.object ((units, v) :: members).reverse) frames)
  | _, _ => none

/-- The document that has been read, if it is complete. -/
def finished? : Reading → Option Value
  | behind v [] => some v
  | _ => none

end Reading

/-- Reads a document from its tokens. -/
def ofTokens? (ts : List Token) : Option Value :=
  (ts.foldlM Reading.step? (.value [])).bind Reading.finished?

/-- Reads a document from its text. -/
def ofText? (cs : List Char) : Option Value := (tokens? cs).bind ofTokens?

end Value
end Concordance.Json

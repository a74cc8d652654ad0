import FluentQuery.Json.Printer
import FluentQuery.Wire.Kind

/-! Parameters in text form. JSON types get JSON text, array types an array literal, all others the
plain text of the value; null is SQL NULL everywhere. -/
namespace FluentQuery.Param

/-- A string itself, anything else as JSON text. -/
def scalarText : Json → Text
  | .null => []
  | .str t => t
  | other => other.render

/-- Text in quotes, with a backslash before every quote and backslash. -/
def quotedElement (t : Text) : Text :=
  '"' :: t.flatMap (fun c => if c = '"' ∨ c = '\\' then ['\\', c] else [c]) ++ ['"']

def braced (t : Text) : Text :=
  '\x7b' :: t ++ ['\x7d']

mutual

/-- An item of an array literal. -/
def element : Json → Text
  | .null => "NULL"
  | .arr items => braced (elements items)
  | .str t => quotedElement t
  | .obj members => quotedElement (Json.obj members).render
  | other => scalarText other

/-- The items, separated by commas. -/
def elements : List Json → Text
  | [] => []
  | [v] => element v
  | v :: w :: rest => element v ++ ',' :: elements (w :: rest)

end

/-- An array, or one value as an array of one quoted element. -/
def arrayLiteral : Json → Text
  | .arr items => braced (elements items)
  | .null => "NULL"
  | other => braced (quotedElement (scalarText other))

/-- The text of a parameter of a type; none is SQL NULL. -/
def encode (type : WireType) (v : Json) : Option Text :=
  if v.isNull then none
  else if type.isJson then some v.render
  else if type.isArray then
    match v with
    | .str literal => some literal
    | other => some (arrayLiteral other)
  else some (scalarText v)

end FluentQuery.Param

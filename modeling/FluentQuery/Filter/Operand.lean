import FluentQuery.Error
import FluentQuery.Filter.Operator
import FluentQuery.Json.Reader
import FluentQuery.Text.TopLevel

/-! Operands as the filter grammar writes them: lists in brackets, JSON for containment, quoted or
bare text otherwise. -/
namespace FluentQuery.Operand

/-- A backslash gives way to the character after it. -/
def unescape : Text → Text
  | [] => []
  | '\\' :: c :: rest => c :: unescape rest
  | c :: rest => if c = '\\' then [] else c :: unescape rest

/-- The content of a quoted text, or the trimmed text itself. -/
def unquote (t : Text) : Text :=
  match Text.between? ['"'] '"' (Text.trim t) with
  | some inner => unescape inner
  | none => Text.trim t

def items (t : Text) : List Json :=
  (Text.splitTopLevel t).map fun item => .str (unquote item)

/-- The operand of a containment: JSON if it reads as such, a list in braces or brackets, or
text. -/
def container (raw : Text) : Json :=
  let json :=
    if raw.head? = some '[' ∨ raw.take 2 = ['\x7b', '"'] then Json.read? raw else none
  match json with
  | some value => value
  | none =>
    match (Text.between? ['\x7b'] '\x7d' raw).or (Text.between? ['('] ')' raw) with
    | some inner => .arr (items inner)
    | none => .str (unquote raw)

def parse (op : Operator) (raw : Text) : Except Invalid Json :=
  let raw := Text.trim raw
  match op with
  | .among =>
    match Text.between? ['('] ')' raw with
    | some inner => .ok (.arr (items inner))
    | none => .error (.inOperand raw)
  | .contains | .containedBy | .overlaps => .ok (container raw)
  | .like | .ilike => .ok (.str ((unquote raw).map fun c => if c = '*' then '%' else c))
  | _ => .ok (.str (unquote raw))

end FluentQuery.Operand

import FluentQuery.Json.Printer
import FluentQuery.Text.Quoted

/-! The text of a JSON value in messages: every value stands under the name of its kind, and texts
are quoted as messages quote them. -/
namespace FluentQuery.Json

mutual

def inspect : Json → Text
  | .null => "Null"
  | .bool value => "Bool(" ++ render (.bool value) ++ ")"
  | .int value => "Number(" ++ render (.int value) ++ ")"
  | .float value => "Number(" ++ render (.float value) ++ ")"
  | .str text => "String(" ++ Text.Quoted.render text ++ ")"
  | .arr items => "Array [" ++ Text.join ", " (inspectItems items) ++ "]"
  | .obj members => "Object \x7b" ++ Text.join ", " (inspectMembers members) ++ "\x7d"

def inspectItems : List Json → List Text
  | [] => []
  | v :: rest => inspect v :: inspectItems rest

def inspectMembers : List (Text × Json) → List Text
  | [] => []
  | (key, v) :: rest => (Text.Quoted.render key ++ ": " ++ inspect v) :: inspectMembers rest

end

end FluentQuery.Json

import FluentQuery.Error
import FluentQuery.Select

/-! One plain column of a select list: `*`, `name`, `label:name` or `name::type`. -/
namespace FluentQuery

structure Column where
  sql : Text
  /-- The key of the column in a row; none for `*`. -/
  output : Option Text
  /-- The column appears under its own name, without a cast. -/
  raw : Bool
deriving DecidableEq, Repr

namespace Column

/-- A word, with `[]` after it for an array. -/
def isCast (t : Text) : Bool :=
  match Text.dropEnd? ']' t with
  | some rest =>
    match Text.dropEnd? '[' rest with
    | some word => Text.isWord word
    | none => false
  | none => Text.isWord t

/-- Label and rest of a token; a doubled colon right away is a cast, not a label. -/
def cutLabel (token : Text) : Option Text × Text :=
  match Text.cut? ':' token with
  | some (label, rest) =>
    if rest.head? = some ':' then (none, token) else (some (Text.trim label), Text.trim rest)
  | none => (none, token)

/-- Name and cast of what a label leaves. -/
def cutCast (t : Text) : Text × Option Text :=
  match Text.cutText? "::" t with
  | some (name, cast) => (Text.trim name, some (Text.trim cast))
  | none => (t, none)

def parse (token : Text) : Except Invalid Column :=
  if token = ['*'] then .ok ⟨['*'], none, true⟩
  else
    let (label, rest) := cutLabel token
    let (name, cast) := cutCast rest
    match Ident.parse name with
    | .error fault => .error (.selectColumn token fault)
    | .ok ident =>
      if cast.any fun c => !isCast c then .error (.cast (cast.getD []))
      else if label.any fun l => !Text.isWord l then .error (.columnAlias (label.getD []))
      else
        let output := label.getD ident.name
        let suffix := match cast with
          | some c => "::" ++ c
          | none => []
        let renamed := label.isSome || cast.isSome || 1 < ident.parts.length
        .ok
          { sql := ident.sql ++ suffix ++ if renamed then " AS " ++ Ident.quotePart output else []
            output := some output
            raw := cast.isNone && output == ident.name }

end Column

end FluentQuery

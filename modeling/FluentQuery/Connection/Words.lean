import FluentQuery.Connection.Setting
import FluentQuery.Text.Blank

/-! Connection texts of words `key=value`. A value with blanks stands in single quotes, and a
backslash stands for the character after it. -/
namespace FluentQuery.Connection

/-- The text up to a blank, a backslash standing for the character after it. -/
def plainValue : Text → Text × Text
  | [] => ([], [])
  | '\\' :: c :: rest =>
    let (value, after) := plainValue rest
    (c :: value, after)
  | c :: rest =>
    if Text.isBlank c then ([], c :: rest)
    else if c = '\\' then ([], [])
    else
      let (value, after) := plainValue rest
      (c :: value, after)

/-- The text up to a single quote, and what follows the quote. -/
def quotedValue? : Text → Option (Text × Text)
  | [] => none
  | '\\' :: c :: rest => (quotedValue? rest).map fun (value, after) => (c :: value, after)
  | c :: rest =>
    if c = '\'' then some ([], rest)
    else if c = '\\' then none
    else (quotedValue? rest).map fun (value, after) => (c :: value, after)

def value? : Text → Option (Text × Text)
  | '\'' :: rest => quotedValue? rest
  | t =>
    match plainValue t with
    | ([], _) => none
    | found => some found

def isKeyChar (c : Char) : Bool :=
  !Text.isBlank c && c != '='

/-- Reads words until none begins; the count bounds their number. -/
def words? : Nat → Text → Option (List Setting)
  | 0, _ => some []
  | count + 1, t =>
    let t := Text.trimLeft t
    match t.takeWhile isKeyChar with
    | [] => some []
    | key =>
      match Text.trimLeft (t.dropWhile isKeyChar) with
      | '=' :: rest =>
        match value? (Text.trimLeft rest) with
        | some (value, after) => (words? count after).map ((key, value) :: ·)
        | none => none
      | _ => none

end FluentQuery.Connection

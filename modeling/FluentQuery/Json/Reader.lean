import FluentQuery.Json.Number
import FluentQuery.Text.Hex

/-! Reading JSON text by its grammar, with at most 127 levels of nesting. A repeated key keeps its
first place and takes the last value. -/
namespace FluentQuery.Json

def skipBlanks (t : Text) : Text :=
  t.dropWhile fun c => c = ' ' || c = '\t' || c = '\n' || c = '\r'

/-- The number that four digits denote. -/
def hexUnit? (a b c d : Char) : Option Nat := do
  let high ← Text.Hex.byte? a b
  let low ← Text.Hex.byte? c d
  some (high * 256 + low)

def isHighSurrogate (n : Nat) : Bool := 0xD800 ≤ n && n ≤ 0xDBFF

def isLowSurrogate (n : Nat) : Bool := 0xDC00 ≤ n && n ≤ 0xDFFF

/-- The character of an escape of one letter. -/
def unescape? (c : Char) : Option Char :=
  if c = '"' ∨ c = '\\' ∨ c = '/' then some c
  else if c = 'n' then some '\n'
  else if c = 'r' then some '\r'
  else if c = 't' then some '\t'
  else if c = 'b' then some (Char.ofNat 0x8)
  else if c = 'f' then some (Char.ofNat 0xC)
  else none

/-- The text up to the closing quote, and what follows it. A surrogate escape needs its partner. -/
def stringBody? : Text → Option (Text × Text)
  | [] => none
  | '"' :: rest => some ([], rest)
  | '\\' :: 'u' :: a :: b :: c :: d :: rest =>
    match hexUnit? a b c d with
    | none => none
    | some high =>
      if isHighSurrogate high then
        match rest with
        | '\\' :: 'u' :: e :: f :: g :: h :: more =>
          match hexUnit? e f g h with
          | none => none
          | some low =>
            if isLowSurrogate low then
              (stringBody? more).map fun (t, after) =>
                (Char.ofNat (0x10000 + (high - 0xD800) * 0x400 + (low - 0xDC00)) :: t, after)
            else none
        | _ => none
      else if isLowSurrogate high then none
      else (stringBody? rest).map fun (t, after) => (Char.ofNat high :: t, after)
  | '\\' :: c :: rest =>
    match unescape? c with
    | none => none
    | some plain => (stringBody? rest).map fun (t, after) => (plain :: t, after)
  | c :: rest =>
    if c.toNat < 0x20 ∨ c = '\\' then none
    else (stringBody? rest).map fun (t, after) => (c :: t, after)

/-- A fixed word at the head. -/
def word? (word : Text) (value : Json) (t : Text) : Option (Json × Text) :=
  (word.isPrefixOf? t).map fun rest => (value, rest)

mutual

/-- Reads one value, with `depth` levels of nesting left. -/
def value? (fuel depth : Nat) (t : Text) : Option (Json × Text) :=
  match fuel with
  | 0 => none
  | fuel + 1 =>
    match skipBlanks t with
    | [] => none
    | '"' :: rest => (stringBody? rest).map fun (s, after) => (.str s, after)
    | '[' :: rest =>
      if depth = 0 then none
      else
        match skipBlanks rest with
        | ']' :: after => some (.arr [], after)
        | rest => (items? fuel (depth - 1) rest).map fun (items, after) => (.arr items, after)
    | '\x7b' :: rest =>
      if depth = 0 then none
      else
        match skipBlanks rest with
        | '\x7d' :: after => some (.obj [], after)
        | rest =>
          (members? fuel (depth - 1) rest).map fun (pairs, after) =>
            (.obj (Row.ofPairs pairs), after)
    | c :: rest =>
      if c = 't' then word? "true" (.bool true) (c :: rest)
      else if c = 'f' then word? "false" (.bool false) (c :: rest)
      else if c = 'n' then word? "null" .null (c :: rest)
      else number? (c :: rest)

/-- The items of a non-empty array, past the closing bracket. -/
def items? (fuel depth : Nat) (t : Text) : Option (List Json × Text) :=
  match fuel with
  | 0 => none
  | fuel + 1 =>
    match value? fuel depth t with
    | none => none
    | some (v, rest) =>
      match skipBlanks rest with
      | ']' :: after => some ([v], after)
      | ',' :: more => (items? fuel depth more).map fun (vs, after) => (v :: vs, after)
      | _ => none

/-- The members of a non-empty object, past the closing brace. -/
def members? (fuel depth : Nat) (t : Text) : Option (List (Text × Json) × Text) :=
  match fuel with
  | 0 => none
  | fuel + 1 =>
    match skipBlanks t with
    | '"' :: rest =>
      match stringBody? rest with
      | none => none
      | some (key, rest) =>
        match skipBlanks rest with
        | ':' :: rest =>
          match value? fuel depth rest with
          | none => none
          | some (v, rest) =>
            match skipBlanks rest with
            | '\x7d' :: after => some ([(key, v)], after)
            | ',' :: more =>
              (members? fuel depth more).map fun (pairs, after) => ((key, v) :: pairs, after)
            | _ => none
        | _ => none
    | _ => none

end

/-- Every level of recursion but the last reads a character, so twice the length is enough. -/
def read? (t : Text) : Option Json :=
  match value? (2 * t.length + 2) 127 t with
  | some (v, rest) => if (skipBlanks rest).isEmpty then some v else none
  | none => none

end FluentQuery.Json

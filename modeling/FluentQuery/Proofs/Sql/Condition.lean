import FluentQuery.Ident
import FluentQuery.Text.Word
import FluentQuery.Predicate

/-! Reading the SQL of a condition. Conjunctions with OR between them are read as one of several,
operands with AND between them as all of several, NOT takes the operand that follows it, and
brackets hold a condition again. Placeholders are read as the values bound to them. -/
namespace FluentQuery.Sql.Condition

/-- One or more items with `sep` between them. What a separator leaves has to be shorter. -/
def chain {α : Type} (sep : Text) (item : Text → Option (α × Text)) (t : Text) :
    Option (List α × Text) :=
  match item t with
  | none => none
  | some (a, rest) =>
    match sep.isPrefixOf? rest with
    | none => some ([a], rest)
    | some more =>
      if more.length < t.length then
        (chain sep item more).map fun (items, after) => (a :: items, after)
      else none
termination_by t.length

/-- A quoted part of a column name. -/
def part? : Text → Option (Text × Text)
  | '"' :: rest => Ident.quotedPart? rest
  | _ => none

/-- A column name: quoted parts with dots between them. -/
def column? (t : Text) : Option (Text × Text) :=
  (chain ['.'] part? t).map fun (parts, rest) => (Ident.sql ⟨parts⟩, rest)

/-- A name: letters, digits and underscores. -/
def name? (t : Text) : Option (Text × Text) :=
  if t.takeWhile Text.isAsciiWord = [] then none
  else some (t.takeWhile Text.isAsciiWord, t.dropWhile Text.isAsciiWord)

/-- The operators that are words, each before those that it starts with. -/
def wordOperators : List Text := ["NOT LIKE", "NOT ILIKE", "LIKE", "ILIKE"]

/-- The states that a value may be in. -/
def keywords : List Text := ["NULL", "TRUE", "FALSE", "UNKNOWN"]

/-- Characters that operators consist of. Minus and slash could also open a comment. -/
def operatorChars : List Char :=
  ['<', '>', '=', '~', '!', '@', '#', '%', '^', '&', '|', '?', '*', '+']

def isOperatorChar (c : Char) : Bool :=
  c ∈ operatorChars

/-- The first of several words that stands at the head, and what follows it. -/
def oneOf? (words : List Text) (t : Text) : Option (Text × Text) :=
  words.findSome? fun word => (word.isPrefixOf? t).map fun rest => (word, rest)

def operator? (t : Text) : Option (Text × Text) :=
  if t.takeWhile isOperatorChar = [] then oneOf? wordOperators t
  else some (t.takeWhile isOperatorChar, t.dropWhile isOperatorChar)

section

variable (bound : Nat → Option Json)

/-- A placeholder, as the value bound to it. -/
def value? : Text → Option (Json × Text)
  | '$' :: rest =>
    if rest.takeWhile Char.isDigit = [] then none
    else (bound (Nat.ofDigitChars 10 (rest.takeWhile Char.isDigit) 0)).map fun v =>
      (v, rest.dropWhile Char.isDigit)
  | _ => none

/-- `operator $n`, perhaps with a cast. -/
def comparison? (column t : Text) : Option (Predicate × Text) := do
  let (symbol, rest) ← operator? t
  let rest ← [' '].isPrefixOf? rest
  let (v, rest) ← value? bound rest
  match ("::" : Text).isPrefixOf? rest with
  | none => some (.compare column symbol v none, rest)
  | some rest => (name? rest).map fun (cast, rest) => (.compare column symbol v (some cast), rest)

/-- `@@ function($n::regconfig, $m)`. -/
def search? (column t : Text) : Option (Predicate × Text) := do
  let rest ← ("@@ " : Text).isPrefixOf? t
  let (function, rest) ← name? rest
  let rest ← ['('].isPrefixOf? rest
  let (config, rest) ← value? bound rest
  let rest ← ("::regconfig, " : Text).isPrefixOf? rest
  let (query, rest) ← value? bound rest
  match config, [')'].isPrefixOf? rest with
  | .str config, some rest => some (.search column function config query, rest)
  | _, _ => none

def state? (column : Text) (negated : Bool) (t : Text) : Option (Predicate × Text) :=
  (oneOf? keywords t).map fun (keyword, rest) => (.state column keyword negated, rest)

/-- The list of `IN` behind its opening bracket. -/
def among? (column : Text) (negated : Bool) (t : Text) : Option (Predicate × Text) :=
  match chain ", " (value? bound) t with
  | some (values, ')' :: rest) => some (.among column values negated, rest)
  | _ => none

/-- The tests that open with words, each before those that it starts with. -/
def wordTests : List Text := ["IS NOT ", "IS ", "NOT IN (", "IN ("]

/-- What a column is compared with. -/
def test? (column t : Text) : Option (Predicate × Text) :=
  match oneOf? wordTests t with
  | some (word, rest) =>
    if word = "IS NOT " then state? column true rest
    else if word = "IS " then state? column false rest
    else among? bound column (word == "NOT IN (") rest
  | none => (search? bound column t).or (comparison? bound column t)

/-- A comparison, or a truth value. -/
def atom? (t : Text) : Option (Predicate × Text) :=
  match column? t with
  | some (column, ' ' :: rest) => test? bound column rest
  | some _ => none
  | none =>
    (oneOf? ["TRUE", "FALSE"] t).map fun (word, rest) =>
      (if word = "TRUE" then .always else .never, rest)

/-- Some group holds in all its parts. -/
def someOf (groups : List (List Predicate)) : Predicate :=
  .any (groups.map .all)

/-- An operand with at most `depth` brackets and negations around one another. -/
def operand? : (depth : Nat) → Text → Option (Predicate × Text)
  | 0, _ => none
  | depth + 1, t =>
    match ("NOT " : Text).isPrefixOf? t with
    | some rest => (operand? depth rest).map fun (p, rest) => (.not p, rest)
    | none =>
      match t with
      | '(' :: rest =>
        match chain " OR " (chain " AND " (operand? depth)) rest with
        | some (groups, ')' :: rest) => some (someOf groups, rest)
        | _ => none
      | _ => atom? bound t

/-- The condition that is the whole text. -/
def read? (t : Text) : Option Predicate :=
  match chain " OR " (chain " AND " (operand? bound t.length)) t with
  | some (groups, []) => some (someOf groups)
  | _ => none

end

end FluentQuery.Sql.Condition

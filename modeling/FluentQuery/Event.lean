import FluentQuery.Config
import FluentQuery.Error
import FluentQuery.Statement
import FluentQuery.Text.Utf8

/-! What a client reports while it works. An event is a cause; `record` gives the target, level,
message and fields under which it is published. -/
namespace FluentQuery

/-- The longest part from the start of at most `limit` bytes that cuts no character. -/
def Text.takeBytes (limit : Nat) (t : Text) : Text :=
  if Utf8.size t ≤ limit then t else Utf8.before (String.ofList t) limit

/-- The text itself if it fits, else the part that fits and three dots. -/
def Text.shorten (limit : Option Nat) (t : Text) : Text :=
  match limit with
  | some limit => if limit < Utf8.size t then takeBytes limit t ++ "..." else t
  | none => t

inductive Event where
  /-- A statement is about to be sent. -/
  | sending (level : Level) (kind : StatementKind) (parameters : Nat) (sql : Text)
  | finished (kind : StatementKind) (rows : Nat)
  | closing
  | graphCleared
  | graphLoaded (keys : Nat)
  | graphFailed (detail : Text)
  /-- A negated filter falls back to equality. -/
  | unknownOperator (name column : Text)
  | guessedKey (source table label column : Text)
  | unresolved (source table label : Text)
  | relationFailed (label table detail : Text)
  | unknownType (column type : Text)
deriving DecidableEq, Repr

structure EventRecord where
  target : Text
  level : Level
  message : Option Text
  fields : List (Text × Text)
deriving DecidableEq, Repr

namespace Event

def record : Event → EventRecord
  | .sending level kind parameters sql =>
    ⟨"pgrest.sql", level, none,
      [("kind", kind.label), ("param_count", Nat.toDigits 10 parameters), ("sql", sql)]⟩
  | .finished kind rows =>
    ⟨"pgrest.sql", .trace, some "statement finished",
      [("kind", kind.label), ("rows", Nat.toDigits 10 rows)]⟩
  | .closing => ⟨"pgrest.sql", .debug, some "shutting down client", []⟩
  | .graphCleared => ⟨"pgrest.schema", .debug, some "foreign key cache invalidated", []⟩
  | .graphLoaded keys =>
    ⟨"pgrest.schema", .debug, some "foreign key cache populated",
      [("count", Nat.toDigits 10 keys)]⟩
  | .graphFailed detail =>
    ⟨"pgrest.schema", .warn, some "foreign key cache load failed", [("error", detail)]⟩
  | .unknownOperator name column =>
    ⟨"pgrest.filter", .warn,
      some "unknown operator in not(), falling back to NOT (column = value)",
      [("op", name), ("column", column)]⟩
  | .guessedKey source table label column =>
    ⟨"pgrest.join", .warn,
      some ("no foreign key found, guessing \x7balias\x7d_id -> id; " ++
        "add a constraint hint to be explicit"),
      [("source_table", source), ("table", table), ("alias", label), ("column", column)]⟩
  | .unresolved source table label =>
    ⟨"pgrest.join", .warn, some "could not resolve relationship",
      [("source_table", source), ("table", table), ("alias", label)]⟩
  | .relationFailed label table detail =>
    ⟨"pgrest.join", .warn, some "relationship query failed, attaching empty value",
      [("alias", label), ("table", table), ("error", detail)]⟩
  | .unknownType column type =>
    ⟨"pgrest.row", .warn, some "unsupported column type, decoding as text",
      [("column", column), ("pg_type", type)]⟩

end Event

end FluentQuery

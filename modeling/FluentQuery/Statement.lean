import FluentQuery.Json

/-! Statements: SQL text with numbered placeholders, and the values bound to them. -/
namespace FluentQuery

structure Statement where
  sql : Text
  params : List Json
deriving DecidableEq

/-- What a statement is for. -/
inductive StatementKind where
  | select
  | count
  | insert
  | upsert
  | update
  | delete
  | relation
  | graph
  | routine
  | raw
deriving DecidableEq, Repr

def StatementKind.label : StatementKind → Text
  | .select => "Select"
  | .count => "Count"
  | .insert => "Insert"
  | .upsert => "Upsert"
  | .update => "Update"
  | .delete => "Delete"
  | .relation => "Relation"
  | .graph => "Schema"
  | .routine => "Rpc"
  | .raw => "Raw"

end FluentQuery

import FluentQuery.Query

/-! The calls that shape a query, as data: a query is what a list of calls makes of a table. -/
namespace FluentQuery

inductive Call where
  | select (columns : Text)
  | selectWith (columns : Text) (count : Option CountMode) (head : Bool)
  | insert (rows : Argument)
  | upsert (rows : Argument) (options : UpsertOptions)
  | update (patch : Argument)
  | delete
  | count (mode : CountMode)
  /-- A filter by one of the typed calls. -/
  | restrict (column : Text) (op : Operator) (value : Argument)
  | matching (members : Argument)
  | not (column name : Text) (value : Argument)
  | or (raw : Text)
  | filter (column name : Text) (value : Argument)
  | order (column : Text) (options : OrderOptions)
  | limit (count : Nat)
  | range (first last : Nat)
deriving DecidableEq

namespace Query

def call (q : Query) : Call → Query
  | .select columns => q.select columns
  | .selectWith columns count head => q.selectWith columns count head
  | .insert rows => q.insert rows
  | .upsert rows options => q.upsert rows options
  | .update patch => q.update patch
  | .delete => q.delete
  | .count mode => q.withCount mode
  | .restrict column op value => q.restrict column op value
  | .matching members => q.matching members
  | .not column name value => q.not column name value
  | .or raw => q.or raw
  | .filter column name value => q.filter column name value
  | .order column options => q.order column options
  | .limit count => q.withLimit count
  | .range first last => q.withRange first last

/-- The query after all calls, in order. -/
def ofCalls (table : Text) (calls : List Call) : Query :=
  calls.foldl call (ofTable table)

end Query

end FluentQuery

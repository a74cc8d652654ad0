import FluentQuery.Duration
import FluentQuery.Ident
import FluentQuery.Json.Printer

/-! What can go wrong, as causes. `Invalid` holds what a caller can do wrong before anything is
sent; `Error` adds what the server, the connection and the clock can do. The wording is in one
function for each, and `Fault` is the form in which a result carries an error. -/
namespace FluentQuery

/-- Input that cannot become a statement. -/
inductive Invalid where
  | ident (fault : Ident.Fault)
  | table (name : Text) (fault : Ident.Fault)
  | filterColumn (name : Text) (fault : Ident.Fault)
  | orderColumn (name : Text) (fault : Ident.Fault)
  | selectColumn (token : Text) (fault : Ident.Fault)
  | routine (name : Text) (fault : Ident.Fault)
  | cast (text : Text)
  | columnAlias (text : Text)
  | isText (got : Text)
  | isValue (got : Json)
  | inOperand (raw : Text)
  | emptyLogic (raw : Text)
  | clause (text : Text)
  | clauseOperator (name clause : Text)
  | operator (name : Text)
  | payloadRow (got : Json)
  | payload (got : Json)
  | patch (got : Json)
  | matching (got : Json)
  | arguments (got : Json)
  | limit (count : Nat)
  | rangeReversed (first last : Nat)
  | rangeTooLarge (first last : Nat)
  | rowsWithoutColumns
  | emptyPatch
  | noPlainColumn
  /-- A fault that an executor reports in its own words. -/
  | reported (message : Text)
deriving DecidableEq

/-- The largest row count that LIMIT and OFFSET take. -/
def maxRows : Nat := 2 ^ 63 - 1

namespace Invalid

def opening : Text := "Validation error: "

def faultText (fault : Ident.Fault) : Text :=
  opening ++ fault.message

def rangeText (first last : Nat) : Text :=
  "invalid range " ++ Nat.toDigits 10 first ++ "..=" ++ Nat.toDigits 10 last ++ ": "

def message : Invalid → Text
  | .ident fault => fault.message
  | .table name fault => "invalid table '" ++ name ++ "': " ++ faultText fault
  | .filterColumn name fault => "invalid filter column '" ++ name ++ "': " ++ faultText fault
  | .orderColumn name fault => "invalid order column '" ++ name ++ "': " ++ faultText fault
  | .selectColumn token fault =>
    "invalid column '" ++ token ++ "' in select: " ++ faultText fault
  | .routine name fault => "invalid function name '" ++ name ++ "': " ++ faultText fault
  | .cast text => "invalid cast '" ++ text ++ "' in select"
  | .columnAlias text => "invalid column alias '" ++ text ++ "' in select"
  | .isText got => "'is' expects null, true or false, got '" ++ got ++ "'"
  | .isValue got => "'is' expects null, true or false, got " ++ got.render
  | .inOperand raw => "'in' expects a list like (a,b), got '" ++ raw ++ "'"
  | .emptyLogic raw => "empty logic tree in filter expression '" ++ raw ++ "'"
  | .clause text => "malformed filter '" ++ text ++ "', expected 'column.operator.value'"
  | .clauseOperator name text => "unknown operator '" ++ name ++ "' in filter '" ++ text ++ "'"
  | .operator name => "unknown filter operator '" ++ name ++ "'"
  | .payloadRow got => "every row must be a JSON object, got " ++ got.render
  | .payload got => "payload must be an object or an array of objects, got " ++ got.render
  | .patch got => "update patch must be a JSON object, got " ++ got.render
  | .matching got => "match_ expects a JSON object, got " ++ got.render
  | .arguments got => "function arguments must be a JSON object, got " ++ got.render
  | .limit count => "limit " ++ Nat.toDigits 10 count ++ " exceeds " ++ Nat.toDigits 10 maxRows
  | .rangeReversed first last => rangeText first last ++ "end is before start"
  | .rangeTooLarge first last =>
    rangeText first last ++ "bounds exceed " ++ Nat.toDigits 10 maxRows
  | .rowsWithoutColumns => "cannot insert several rows that have no columns"
  | .emptyPatch => "update patch has no columns"
  | .noPlainColumn => "the returned columns must include at least one plain column"
  | .reported message => message

end Invalid

/-- An error as the server reports it. -/
structure ServerReport where
  message : Text
  code : Text
  details : Option Text
  hint : Option Text
deriving DecidableEq, Repr

inductive Error where
  | connection (detail : Text)
  | database (report : ServerReport)
  /-- The driver refuses a statement before the server sees it. -/
  | query (detail : Text)
  | cardinality (rows : Nat)
  | graph (detail : Text)
  | decode (column detail : Text)
  | invalid (cause : Invalid)
  | serialization (detail : Text)
  | pool (detail : Text)
  | timeout (limit : Duration)
deriving DecidableEq

namespace Error

def message : Error → Text
  | .connection detail => "Connection error: " ++ detail
  | .database report => report.message
  | .query detail => "Query error: " ++ detail
  | .cardinality _ => "JSON object requested, multiple (or no) rows returned"
  | .graph detail => "Could not load the foreign key schema cache: " ++ detail
  | .decode column detail => "Decode error on column '" ++ column ++ "': " ++ detail
  | .invalid cause => Invalid.opening ++ cause.message
  | .serialization detail => "Serialization error: " ++ detail
  | .pool detail => "Pool error: " ++ detail
  | .timeout limit => "Query timeout after " ++ limit.render

def invalidCode : Text := "PGRST100"

def code : Error → Text
  | .database report => report.code
  | .cardinality _ => "PGRST116"
  | .graph _ => "PGRST002"
  | .invalid _ | .serialization _ => invalidCode
  | .timeout _ => "57014"
  | .connection _ | .query _ | .decode .. | .pool _ => "PGRST000"

def isCardinality : Error → Bool
  | .cardinality _ => true
  | _ => false

def isTimeout : Error → Bool
  | .timeout _ => true
  | _ => false

end Error

/-- The error part of a result. -/
structure Fault where
  message : Text
  code : Option Text
  details : Option Text
  hint : Option Text
deriving DecidableEq, Repr

namespace Fault

def ofMessage (message : Text) : Fault := ⟨message, none, none, none⟩

def ofError (e : Error) : Fault :=
  match e with
  | .database report => ⟨report.message, some e.code, report.details, report.hint⟩
  | .cardinality rows =>
    ⟨e.message, some e.code, some ("The result contains " ++ Nat.toDigits 10 rows ++ " rows"), none⟩
  | _ => ⟨e.message, some e.code, none, none⟩

/-- The message, with the code in brackets if there is one. -/
def display (f : Fault) : Text :=
  match f.code with
  | some code => f.message ++ " (" ++ code ++ ")"
  | none => f.message

end Fault

end FluentQuery

import FluentQuery.Params

/-! Predicates of a WHERE clause as trees, and their SQL. A group without conditions is empty: it
renders to nothing and takes no parameter. A group inside a group keeps its own parentheses. -/
namespace FluentQuery

/-- Column names are already quoted. -/
inductive Predicate where
  /-- Every part holds. -/
  | all (parts : List Predicate)
  /-- Some part holds. -/
  | any (parts : List Predicate)
  | not (inner : Predicate)
  | compare (column symbol : Text) (value : Json) (cast : Option Text)
  /-- `column IS [NOT] keyword`. -/
  | state (column keyword : Text) (negated : Bool)
  /-- `column [NOT] IN (…)`. -/
  | among (column : Text) (values : List Json) (negated : Bool)
  /-- `column @@ function(config, query)`. -/
  | search (column function config : Text) (query : Json)
  | always
  | never
deriving Inhabited

namespace Predicate

/-- Membership in a list; nothing is a member of the empty one. -/
def inList (column : Text) (values : List Json) : Predicate :=
  if values = [] then .never else .among column values false

def notInList (column : Text) (values : List Json) : Predicate :=
  if values = [] then .always else .among column values true

mutual

/-- Whether the tree holds no condition. -/
def isEmpty : Predicate → Bool
  | .all parts => areEmpty parts
  | .any parts => areEmpty parts
  | .not inner => inner.isEmpty
  | _ => false

def areEmpty : List Predicate → Bool
  | [] => true
  | p :: rest => p.isEmpty && areEmpty rest

end

def isGroup : Predicate → Bool
  | .all _ | .any _ => true
  | _ => false

/-- The placeholders of a list of values. -/
def placeholders : List Json → Params → List Text × Params
  | [], params => ([], params)
  | v :: rest, params =>
    let (texts, after) := placeholders rest (params.push v)
    (params.placeholder :: texts, after)

def bracketed (t : Text) : Text :=
  '(' :: t ++ [')']

mutual

/-- The SQL, and the parameters after those of this tree. -/
def build : Predicate → Params → Text × Params
  | .all parts, params =>
    let (texts, after) := buildParts parts params
    (Text.join " AND " texts, after)
  | .any parts, params =>
    let (texts, after) := buildParts parts params
    (Text.join " OR " texts, after)
  | .not inner, params =>
    let (sql, after) := inner.build params
    (if sql = [] then [] else "NOT " ++ bracketed sql, after)
  | .compare column symbol value cast, params =>
    let suffix := match cast with
      | some cast => "::" ++ cast
      | none => []
    (column ++ " " ++ symbol ++ " " ++ params.placeholder ++ suffix, params.push value)
  | .state column keyword negated, params =>
    (column ++ (if negated then " IS NOT " else " IS ") ++ keyword, params)
  | .among column values negated, params =>
    if values = [] then (if negated then "TRUE" else "FALSE", params)
    else
      let (texts, after) := placeholders values params
      (column ++ (if negated then " NOT IN " else " IN ") ++ bracketed (Text.join ", " texts),
        after)
  | .search column function config query, params =>
    let (first, params) := (params.placeholder, params.push (.str config))
    (column ++ " @@ " ++ function ++ bracketed (first ++ "::regconfig, " ++ params.placeholder),
      params.push query)
  | .always, params => ("TRUE", params)
  | .never, params => ("FALSE", params)

/-- The SQL of the parts that are not empty, groups in parentheses. -/
def buildParts : List Predicate → Params → List Text × Params
  | [], params => ([], params)
  | p :: rest, params =>
    if p.isEmpty then buildParts rest params
    else
      let (sql, params) := p.build params
      let (texts, after) := buildParts rest params
      (if sql = [] then texts else (if p.isGroup then bracketed sql else sql) :: texts, after)

end

end Predicate

end FluentQuery

import FluentQuery.Filter

/-! The compact filter grammar: items separated by commas, each a clause `column.[not.]op.value` or
a group `[not.]and(…)` or `[not.]or(…)` of further items. -/
namespace FluentQuery.Logic

/-- A group of items, by the text between its brackets. -/
structure Group where
  negated : Bool
  conjunctive : Bool
  body : Text

def Group.predicate (g : Group) (parts : List Predicate) : Predicate :=
  let inner := if g.conjunctive then .all parts else .any parts
  if g.negated then .not inner else inner

/-- The group without its `not.`, if the item opens and ends as one. -/
def positiveGroup? (negated : Bool) (item : Text) : Option Group :=
  match Text.between? "and(" ')' item with
  | some body => some ⟨negated, true, body⟩
  | none => (Text.between? "or(" ')' item).map fun body => ⟨negated, false, body⟩

def opensGroup (t : Text) : Bool :=
  ("and(" : Text).isPrefixOf t || ("or(" : Text).isPrefixOf t

def group? (item : Text) : Option Group :=
  match ("not." : Text).isPrefixOf? item with
  | some rest => if opensGroup rest then positiveGroup? true rest else none
  | none => positiveGroup? false item

/-- A clause: its filter, and whether it is negated. -/
def clause (text : Text) : Except Invalid (Filter × Bool) :=
  match Text.cut? '.' text with
  | none => .error (.clause text)
  | some (column, rest) =>
    let (negated, rest) := match ("not." : Text).isPrefixOf? rest with
      | some rest => (true, rest)
      | none => (false, rest)
    match Text.cut? '.' rest with
    | none => .error (.clause text)
    | some (name, raw) =>
      match Operator.parse? name with
      | none => .error (.clauseOperator name text)
      | some op => (Operand.parse op raw).map fun value => (⟨Text.trim column, op, value⟩, negated)

def clausePredicate (config item : Text) : Except Invalid Predicate :=
  match clause item with
  | .error e => .error e
  | .ok (filter, negated) => if negated then filter.negation config else filter.predicate config

theorem length_of_positiveGroup? {negated : Bool} {t : Text} {g : Group}
    (h : positiveGroup? negated t = some g) : g.body.length < t.length := by
  unfold positiveGroup? at h
  split at h
  · next body hb =>
    cases h
    rw [Text.between?_eq_some] at hb
    simp [hb]; omega
  · obtain ⟨body, hb, rfl⟩ := Option.map_eq_some_iff.1 h
    rw [Text.between?_eq_some] at hb
    simp [hb]; omega

theorem length_of_group? {t : Text} {g : Group} (h : group? t = some g) :
    g.body.length < t.length := by
  unfold group? at h
  split at h
  · next rest hr =>
    split at h
    · rw [Text.isPrefixOf?_eq_some] at hr
      have := length_of_positiveGroup? h
      simp [hr]; omega
    · cases h
  · exact length_of_positiveGroup? h

mutual

/-- The predicates of the items of a list, of which there is at least one. -/
def list (config raw : Text) : Except Invalid (List Predicate) :=
  if Text.splitTopLevel raw = [] then .error (.emptyLogic raw)
  else (Text.splitTopLevel raw).attach.mapM fun ⟨piece, _⟩ => item config piece
termination_by (raw.length, 1)
decreasing_by
  have := Text.length_of_mem_splitTopLevel (by assumption)
  rcases Nat.lt_or_eq_of_le this with h | h
  · exact Prod.Lex.left _ _ h
  · rw [h]; exact Prod.Lex.right _ (by decide)

def item (config text : Text) : Except Invalid Predicate :=
  match _h : group? text with
  | some g => (list config g.body).map g.predicate
  | none => clausePredicate config text
termination_by (text.length, 0)
decreasing_by exact Prod.Lex.left _ _ (length_of_group? _h)

end

/-- The predicate of an or-expression. -/
def parse (config raw : Text) : Except Invalid Predicate :=
  (list config raw).map .any

end FluentQuery.Logic

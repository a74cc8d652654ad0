import FluentQuery.Filter.Logic
import FluentQuery.Proofs.Filter.Operand
import FluentQuery.Proofs.Ident
import FluentQuery.Proofs.Job

/-! The filter grammar reads back what it is written from. A tree of groups and clauses is written
with commas between neighbours, and `Logic.parse` makes of that text just the predicates of the
tree: columns may be called `and`, `or` or `not`, values may hold dots, and operators may carry
brackets. -/
namespace FluentQuery

theorem Filter.quotedColumn_of_plain {column : Text} (plain : Ident.Plain column) (op : Operator)
    (value : Json) :
    (⟨column, op, value⟩ : Filter).quotedColumn = .ok (Ident.quotePart column) := by
  rw [quotedColumn, plain.quote_eq]

theorem Filter.predicate_of_plain {column : Text} (plain : Ident.Plain column) (config : Text)
    (value : Json) :
    (⟨column, .eq, value⟩ : Filter).predicate config =
      .ok (.compare (Ident.quotePart column) "=" value none) := by
  rw [predicate, quotedColumn_of_plain plain]
  rfl

namespace Operand.Written

variable {op : Operator} {raw : Text} {value : Json}

theorem exists_keyword (written : Written .is raw value) :
    ∃ word, Filter.keyword value = .ok word := by
  cases written with
  | braced container => exact absurd container (by decide)
  | pattern matches_ => exact absurd matches_ (by decide)
  | bare other => exact absurd other (by decide)
  | word known =>
    simp only [List.mem_cons, List.not_mem_nil, or_false] at known
    obtain rfl | rfl | rfl | rfl := known
    · exact ⟨"NULL", by decide⟩
    · exact ⟨"TRUE", by decide⟩
    · exact ⟨"FALSE", by decide⟩
    · exact ⟨"UNKNOWN", by decide⟩

theorem exists_members (written : Written .among raw value) :
    ∃ list, Filter.members value = .ok list := by
  cases written with
  | list bare => exact ⟨_, rfl⟩
  | braced container => exact absurd container (by decide)
  | pattern matches_ => exact absurd matches_ (by decide)
  | bare other => exact absurd other (by decide)

/-- A filter for a written value can be compiled, and so can its negation. -/
theorem exists_predicate (written : Written op raw value) {column : Text}
    (plain : Ident.Plain column) (config : Text) :
    (∃ p, (⟨column, op, value⟩ : Filter).predicate config = .ok p) ∧
      ∃ p, (⟨column, op, value⟩ : Filter).negation config = .ok p := by
  unfold Filter.negation Filter.predicate
  rw [Filter.quotedColumn_of_plain plain]
  cases op with
  | is =>
    obtain ⟨word, read⟩ := written.exists_keyword
    simp only [ok_bind, read]
    exact ⟨⟨_, rfl⟩, ⟨_, rfl⟩⟩
  | among =>
    obtain ⟨list, read⟩ := written.exists_members
    simp only [ok_bind, read]
    exact ⟨⟨_, rfl⟩, ⟨_, rfl⟩⟩
  | _ => exact ⟨⟨_, rfl⟩, ⟨_, rfl⟩⟩

end Operand.Written

namespace Logic

/-! Texts with a separator -/

/-- A text can be cut in one way at its first separator. -/
theorem eq_of_append_cons {sep : Char} {before after front back : Text}
    (same : before ++ sep :: after = front ++ sep :: back) (apart : sep ∉ before)
    (other : sep ∉ front) : before = front ∧ after = back := by
  have cuts := Text.cut?_append after apart
  rw [same, Text.cut?_append back other] at cuts
  exact ⟨(Prod.mk.inj (Option.some.inj cuts)).1.symm, (Prod.mk.inj (Option.some.inj cuts)).2.symm⟩

/-- What starts a text and holds no separator starts what stands before the separator. -/
theorem prefix_of_append_cons {sep : Char} {t before after : Text}
    (starts : t <+: before ++ sep :: after) (apart : sep ∉ t) : t <+: before := by
  obtain long | short := Nat.lt_or_ge before.length t.length
  · have whole : before ++ [sep] <+: before ++ sep :: after := ⟨after, by simp⟩
    have reaches : (before ++ [sep]).length ≤ t.length := by
      rw [List.length_append]
      exact long
    have inside := List.prefix_of_prefix_length_le whole starts reaches
    exact absurd (inside.subset (by simp)) apart
  · exact List.prefix_of_prefix_length_le starts (List.prefix_append ..) short

/-! Clauses -/

/-- The text of a clause, `not.` before the operator if it is negated. -/
def clauseText (column : Text) (negated : Bool) (name raw : Text) : Text :=
  column ++ '.' :: ((if negated then ("not." : Text) else []) ++ (name ++ '.' :: raw))

section

variable {column name raw : Text} {negated : Bool}

/-- The name of an operator is not taken for a negation. -/
theorem isPrefixOf?_not (other : name ≠ "not") (dotless : '.' ∉ name) :
    ("not." : Text).isPrefixOf? (name ++ '.' :: raw) = none := by
  rw [Option.eq_none_iff_forall_ne_some]
  intro rest starts
  have same : name ++ '.' :: raw = "not" ++ '.' :: rest :=
    (Text.isPrefixOf?_eq_some.1 starts).trans rfl
  exact other (eq_of_append_cons same dotless (by decide)).1

/-- A clause is read up to its operator and its operand, if these can be told from the rest. -/
theorem clause_clauseText (plain : Ident.Plain column) (dotless : '.' ∉ name)
    (other : negated = true ∨ name ≠ "not") :
    clause (clauseText column negated name raw) =
      match Operator.parse? name with
      | none => .error (.clauseOperator name (clauseText column negated name raw))
      | some op => (Operand.parse op raw).map fun value => (⟨column, op, value⟩, negated) := by
  have whole := Text.trim_eq_self plain.trimmed
  have front (rest : Text) : Text.cut? '.' (column ++ '.' :: rest) = some (column, rest) :=
    Text.cut?_append _ (plain.notMem (by decide))
  have named : Text.cut? '.' (name ++ '.' :: raw) = some (name, raw) :=
    Text.cut?_append _ dotless
  cases negated with
  | true =>
    have starts : ("not." : Text).isPrefixOf? (("not." : Text) ++ (name ++ '.' :: raw)) =
        some (name ++ '.' :: raw) :=
      Text.isPrefixOf?_eq_some.2 rfl
    cases found : Operator.parse? name <;>
      simp only [clause, clauseText, if_true, front, starts, named, whole, found]
  | false =>
    have starts : ("not." : Text).isPrefixOf? (name ++ '.' :: raw) = none :=
      isPrefixOf?_not (other.resolve_left Bool.false_ne_true) dotless
    cases found : Operator.parse? name <;>
      simp only [clause, clauseText, Bool.false_eq_true, if_false, List.nil_append, front, starts,
        named, whole, found]

theorem item_of_clause {text : Text} (clause : group? text = none) (config : Text) :
    item config text = clausePredicate config text := by
  rw [item]
  split
  · next g group => cases clause.symm.trans group
  · rfl

theorem item_of_group {text : Text} {g : Group} (group : group? text = some g) (config : Text) :
    item config text = (list config g.body).map g.predicate := by
  rw [item]
  split
  · next g again =>
    cases group.symm.trans again
    rfl
  · next none => cases group.symm.trans none

end

/-- A clause that can be written: its filter, whether it is negated, and how its operator and its
value are spelled. -/
structure Clause where
  column : Text
  negated : Bool
  name : Text
  op : Operator
  raw : Text
  value : Json
  plain : Ident.Plain column
  spelled : Operator.Spelled name op
  written : Operand.Written op raw value

namespace Clause

variable (c : Clause)

def filter : Filter := ⟨c.column, c.op, c.value⟩

def predicate (config : Text) : Except Invalid Predicate :=
  if c.negated then c.filter.negation config else c.filter.predicate config

def text : Text := clauseText c.column c.negated c.name c.raw

theorem closed_text : Text.Closed c.text := by
  have dot : Text.Closed ['.'] := .of_flat (by decide)
  have negation : Text.Closed (if c.negated then ("not." : Text) else []) := by
    split
    · exact .of_flat (by decide)
    · exact .nil
  rw [text, clauseText, List.append_cons, List.append_cons _ '.' c.raw]
  exact (c.plain.closed.append dot).append
    (negation.append ((c.spelled.closed.append dot).append c.written.closed))

theorem trimmed_text : Text.Trimmed c.text := by
  constructor
  · intro d first
    rw [text, clauseText, List.head?_append_of_ne_nil _ c.plain.ne_nil] at first
    exact c.plain.trimmed.1 d first
  · intro d last
    have split : c.text = (c.column ++ '.' :: ((if c.negated then ("not." : Text) else []) ++
        c.name)) ++ '.' :: c.raw := by
      simp [text, clauseText]
    rw [split, List.getLast?_append_cons, List.getLast?_cons, Option.mem_some_iff] at last
    cases back : c.raw.getLast? with
    | none =>
      rw [back] at last
      exact last ▸ rfl
    | some e =>
      rw [back] at last
      exact c.written.trimmed.2 d (last ▸ back)

end Clause

/-- The name of an operator opens no group. -/
theorem opensGroup_eq_false {name raw : Text} {op : Operator}
    (known : Operator.parse? name = some op) (dotless : '.' ∉ name) :
    opensGroup (name ++ '.' :: raw) = false := by
  have unopened (word : Text) (strange : Operator.searchNames.lookup word = none)
      (apart : '(' ∉ word) (plain : '.' ∉ word) :
      (word ++ ['(']).isPrefixOf (name ++ '.' :: raw) = false := by
    rw [Bool.eq_false_iff, ne_eq, List.isPrefixOf_iff_prefix]
    intro starts
    obtain ⟨rest, rfl⟩ := prefix_of_append_cons starts (by simp [plain])
    rw [List.append_assoc, List.singleton_append, Operator.parse?,
      Text.cut?_append _ apart] at known
    simp only [strange] at known
    cases closed : Text.dropEnd? ')' rest <;> rw [closed] at known <;> cases known
  rw [opensGroup, Bool.or_eq_false_iff]
  exact ⟨unopened "and" (by decide) (by decide) (by decide),
    unopened "or" (by decide) (by decide) (by decide)⟩

/-- A column that is called `and`, `or` or `not` opens no group. -/
theorem group?_clauseText {column name raw : Text} {op : Operator} {negated : Bool}
    (plain : Ident.Plain column) (known : Operator.parse? name = some op) (dotless : '.' ∉ name) :
    group? (clauseText column negated name raw) = none := by
  have unopened (word : Text) (apart : '.' ∉ word) :
      Text.between? (word ++ ['(']) ')' (clauseText column negated name raw) = none := by
    rw [Option.eq_none_iff_forall_ne_some]
    intro inner enclosed
    have starts : word ++ ['('] <+: clauseText column negated name raw :=
      ⟨inner ++ [')'], by rw [← List.append_assoc]; exact (Text.between?_eq_some.1 enclosed).symm⟩
    have inside := prefix_of_append_cons starts (by simp [apart])
    exact plain.notMem (c := '(') (by decide) (inside.subset (by simp))
  unfold group?
  split
  · next rest starts =>
    have same : clauseText column negated name raw = "not" ++ '.' :: rest :=
      (Text.isPrefixOf?_eq_some.1 starts).trans rfl
    obtain ⟨-, rfl⟩ := eq_of_append_cons same (plain.notMem (by decide)) (by decide)
    rw [if_neg]
    cases negated with
    | true => simp [opensGroup]
    | false =>
      rw [if_neg Bool.false_ne_true, List.nil_append, opensGroup_eq_false known dotless]
      exact Bool.false_ne_true
  · have conjunctive : Text.between? "and(" ')' (clauseText column negated name raw) = none :=
      unopened "and" (by decide)
    have disjunctive : Text.between? "or(" ')' (clauseText column negated name raw) = none :=
      unopened "or" (by decide)
    rw [positiveGroup?, conjunctive, disjunctive]
    rfl

namespace Clause

variable (c : Clause)

theorem clause_text : clause c.text = .ok (c.filter, c.negated) := by
  have other : c.name ≠ "not" := by
    intro same
    have unknown : Operator.parse? "not" = none := by decide
    cases unknown.symm.trans (same ▸ c.spelled.parse?_eq)
  rw [text, clause_clauseText c.plain c.spelled.dotless (.inr other)]
  simp only [c.spelled.parse?_eq, c.written.parse_eq]
  rfl

theorem group?_text : group? c.text = none :=
  group?_clauseText c.plain c.spelled.parse?_eq c.spelled.dotless

theorem item_text (config : Text) : item config c.text = c.predicate config := by
  rw [item_of_clause c.group?_text, clausePredicate, c.clause_text]
  rfl

theorem exists_predicate (config : Text) : ∃ p, c.predicate config = .ok p := by
  obtain ⟨holds, negated⟩ := c.written.exists_predicate c.plain config
  unfold predicate
  split
  · exact negated
  · exact holds

end Clause

/-! Trees -/

mutual

/-- What an or-expression may hold: clauses, and groups of at least one item. -/
inductive Tree where
  | clause (c : Clause)
  | group (negated conjunctive : Bool) (items : Forest)

inductive Forest where
  | last (t : Tree)
  | more (t : Tree) (rest : Forest)

end

mutual

def Tree.text : Tree → Text
  | .clause c => c.text
  | .group negated conjunctive items =>
    (if negated then ("not." : Text) else []) ++ (if conjunctive then ("and" : Text) else "or") ++
      ('(' :: Text.join [','] items.texts ++ [')'])

def Forest.texts : Forest → List Text
  | .last t => [t.text]
  | .more t rest => t.text :: rest.texts

end

mutual

/-- The predicate of each clause is that of its filter, and that of a group joins those of its
items. -/
def Tree.predicate (config : Text) : Tree → Except Invalid Predicate
  | .clause c => c.predicate config
  | .group negated conjunctive items =>
    (items.predicates config).map fun parts =>
      let joined := if conjunctive then Predicate.all parts else .any parts
      if negated then .not joined else joined

def Forest.predicates (config : Text) : Forest → Except Invalid (List Predicate)
  | .last t => (t.predicate config).map fun p => [p]
  | .more t rest => do
    let p ← t.predicate config
    let parts ← rest.predicates config
    .ok (p :: parts)

end

/-- The text of a tree can stand among others in a list. -/
structure Listed (t : Text) : Prop where
  closed : Text.Closed t
  trimmed : Text.Trimmed t
  filled : t ≠ []

theorem Forest.texts_ne_nil (f : Forest) : f.texts ≠ [] := by
  cases f <;> simp [Forest.texts]

theorem listed_group {items : List Text} (listed : ∀ t ∈ items, Listed t)
    (negated conjunctive : Bool) :
    Listed ((if negated then ("not." : Text) else []) ++
      (if conjunctive then ("and" : Text) else "or") ++
        ('(' :: Text.join [','] items ++ [')'])) := by
  have closed : Text.Closed ('(' :: Text.join [','] items ++ [')']) :=
    (Text.Enclosed.join fun t member => (listed t member).closed).bracket (by decide) (by decide)
  have back (front : Text) :
      (front ++ ('(' :: Text.join [','] items ++ [')'])).getLast? = some ')' := by
    rw [← List.append_assoc]
    exact List.getLast?_concat
  cases negated <;> cases conjunctive
  all_goals
    exact ⟨.append (.of_flat (by decide)) closed, .of_ends rfl (back _) rfl rfl, by simp⟩

mutual

theorem Tree.listed_text : (t : Tree) → Listed t.text
  | .clause c => by
    rw [Tree.text]
    exact ⟨c.closed_text, c.trimmed_text, by simp [Clause.text, clauseText]⟩
  | .group negated conjunctive items => by
    rw [Tree.text]
    exact listed_group items.listed_texts negated conjunctive

theorem Forest.listed_texts : (f : Forest) → ∀ t ∈ f.texts, Listed t
  | .last t => by
    rw [Forest.texts]
    exact List.forall_mem_singleton.2 t.listed_text
  | .more t rest => by
    rw [Forest.texts]
    exact List.forall_mem_cons.2 ⟨t.listed_text, rest.listed_texts⟩

end

theorem Forest.splitTopLevel_texts (f : Forest) :
    Text.splitTopLevel (Text.join [','] f.texts) = f.texts :=
  Text.splitTopLevel_join (fun t member => (f.listed_texts t member).closed)
    (fun t member => (f.listed_texts t member).trimmed)
    fun t member => (f.listed_texts t member).filled

/-! Reading -/

theorem group?_group (negated conjunctive : Bool) (body : Text) :
    group? ((if negated then ("not." : Text) else []) ++
      (if conjunctive then ("and" : Text) else "or") ++ ('(' :: body ++ [')'])) =
        some ⟨negated, conjunctive, body⟩ := by
  have conjunction (negated : Bool) : positiveGroup? negated ("and(" ++ body ++ [')']) =
      some ⟨negated, true, body⟩ := by
    rw [positiveGroup?, Text.between?_eq_some.2 rfl]
  have disjunction (negated : Bool) : positiveGroup? negated ("or(" ++ body ++ [')']) =
      some ⟨negated, false, body⟩ := by
    have other : Text.between? "and(" ')' ("or(" ++ body ++ [')']) = none := rfl
    rw [positiveGroup?, other, Text.between?_eq_some.2 rfl]
    rfl
  cases negated <;> cases conjunctive
  · exact disjunction false
  · exact conjunction false
  · exact disjunction true
  · exact conjunction true

theorem list_eq (config : Text) {raw : Text} {items : List Text}
    (split : Text.splitTopLevel raw = items) (filled : items ≠ []) :
    list config raw = items.mapM (item config) := by
  subst split
  rw [list, if_neg filled, List.mapM_subtype (fun _ _ => rfl), List.unattach_attach]

mutual

/-- On the tree: the text of each item is read as its predicate, and that of its items in a list. -/
theorem item_text (config : Text) : (t : Tree) →
    ∃ p, t.predicate config = .ok p ∧ item config t.text = .ok p
  | .clause c => by
    obtain ⟨p, holds⟩ := c.exists_predicate config
    rw [Tree.predicate, Tree.text, c.item_text]
    exact ⟨p, holds, holds⟩
  | .group negated conjunctive items => by
    obtain ⟨parts, joined, read⟩ := mapM_texts config items
    have group := group?_group negated conjunctive (Text.join [','] items.texts)
    rw [← list_eq config items.splitTopLevel_texts items.texts_ne_nil] at read
    rw [Tree.predicate, Tree.text, joined, item_of_group group, read]
    exact ⟨_, rfl, by cases negated <;> cases conjunctive <;> rfl⟩

theorem mapM_texts (config : Text) : (f : Forest) →
    ∃ parts, f.predicates config = .ok parts ∧ f.texts.mapM (item config) = .ok parts
  | .last t => by
    obtain ⟨p, holds, read⟩ := item_text config t
    rw [Forest.predicates, Forest.texts, holds, List.mapM_cons, read]
    exact ⟨[p], rfl, rfl⟩
  | .more t rest => by
    obtain ⟨p, holds, read⟩ := item_text config t
    obtain ⟨parts, others, reads⟩ := mapM_texts config rest
    rw [Forest.predicates, Forest.texts, holds, others, List.mapM_cons, read, reads]
    exact ⟨p :: parts, rfl, rfl⟩

end

/-- What trees are written as is read as the predicate that any of them is true, and never
refused. -/
theorem parse_texts (config : Text) (trees : Forest) :
    ∃ parts, trees.predicates config = .ok parts ∧
      parse config (Text.join [','] trees.texts) = .ok (.any parts) := by
  obtain ⟨parts, joined, read⟩ := mapM_texts config trees
  refine ⟨parts, joined, ?_⟩
  rw [parse, list_eq config trees.splitTopLevel_texts trees.texts_ne_nil, read]
  rfl

end Logic

end FluentQuery

import FluentQuery.Proofs.Filter.Logic
import FluentQuery.Proofs.Predicate.Reading
import FluentQuery.Proofs.Query.Filtered

/-! One filter in two spellings: by the call that takes a column, the name of an operator and a
value, and as the one item of an or-expression. They mean the same, or both are refused, but for
two places where a negated call takes what the grammar refuses: an unknown operator, and a list
without brackets. -/
namespace FluentQuery

namespace Logic

/-- A filter as one item of an or-expression. -/
def compact (column operator raw : Text) : Text :=
  column ++ '.' :: (operator ++ '.' :: raw)

/-- The text of an operator without its first `not.`, and whether it has one. -/
def spelling (operator : Text) : Bool × Text :=
  match ("not." : Text).isPrefixOf? operator with
  | some name => (true, name)
  | none => (false, operator)

/-- The grammar finds the operator that was meant: no group, no other dot and no other `not`. -/
structure Legible (column operator raw : Text) : Prop where
  ungrouped : group? (compact column operator raw) = none
  dotless : '.' ∉ (spelling operator).2
  other : operator ≠ "not"

section

variable {column operator name raw : Text} {negated : Bool}

theorem compact_eq (spelled : spelling operator = (negated, name)) :
    compact column operator raw = clauseText column negated name raw := by
  unfold spelling at spelled
  split at spelled <;> cases spelled
  · next starts =>
    rw [compact, Text.isPrefixOf?_eq_some.1 starts, List.append_assoc]
    rfl
  · rfl

theorem list_of_single {text : Text} (single : Text.splitTopLevel text = [text])
    (config : Text) : list config text = (item config text).map fun p => [p] := by
  rw [list_eq config single (by simp), List.mapM_cons, List.mapM_nil]
  cases item config text <;> rfl

/-- An or-expression of one item is the predicate of that item. -/
theorem parse_of_single {text : Text} (single : Text.splitTopLevel text = [text])
    (config : Text) : parse config text = (item config text).map fun p => .any [p] := by
  rw [parse, list_of_single single]
  cases item config text <;> rfl

namespace Legible

variable (legible : Legible column operator raw) (plain : Ident.Plain column)
  (spelled : spelling operator = (negated, name))
  (single : Text.splitTopLevel (compact column operator raw) = [compact column operator raw])

include legible plain spelled

theorem clause_eq : clause (compact column operator raw) =
    match Operator.parse? name with
    | none => .error (.clauseOperator name (compact column operator raw))
    | some op => (Operand.parse op raw).map fun v => (⟨column, op, v⟩, negated) := by
  have dotless := legible.dotless
  rw [spelled] at dotless
  have other : negated = true ∨ name ≠ "not" := by
    unfold spelling at spelled
    split at spelled <;> cases spelled
    · exact .inl rfl
    · exact .inr legible.other
  rw [compact_eq spelled]
  exact clause_clauseText plain dotless other

include single

theorem parse_of_unknown (unknown : Operator.parse? name = none) (config : Text) :
    parse config (compact column operator raw) =
      .error (.clauseOperator name (compact column operator raw)) := by
  rw [parse_of_single single, item_of_clause legible.ungrouped, clausePredicate,
    legible.clause_eq plain spelled, unknown]
  rfl

theorem parse_of_known {op : Operator} (known : Operator.parse? name = some op) (config : Text) :
    parse config (compact column operator raw) =
      (Operand.parse op raw >>= fun v =>
        if negated then (⟨column, op, v⟩ : Filter).negation config
        else (⟨column, op, v⟩ : Filter).predicate config).map fun p => .any [p] := by
  rw [parse_of_single single, item_of_clause legible.ungrouped, clausePredicate,
    legible.clause_eq plain spelled, known]
  cases read : Operand.parse op raw <;> simp only [read] <;> rfl

end Legible

end

end Logic

theorem FilterSet.predicate_singleton (config : Text) (entry : Entry) :
    (ofEntries [entry]).predicate config =
      (entry.predicate config).map fun p => .all [p] := by
  rw [predicate_ofEntries, List.perm_singleton.1 (perm_inOrder [entry]), List.mapM_cons,
    List.mapM_nil]
  cases entry.predicate config <;> rfl

namespace Query

/-! Statements under other filters -/

variable {config : Text} {q r : Query}

/-- What starts with the WHERE clause fails as the filters do, and otherwise has their values. -/
theorem restricted {params : Params} {rest : Text × Params → Except Invalid Statement}
    (ends : ∀ after, ∃ sql, rest after = .ok ⟨sql, after.2.values⟩) :
    (∀ cause, r.filters.predicate config = .error cause →
      r.whereSql config params >>= rest = .error cause) ∧
    ∀ p, r.filters.predicate config = .ok p →
      ∃ sql, r.whereSql config params >>= rest = .ok ⟨sql, (p.build params).2.values⟩ := by
  rw [whereSql, FilterSet.build]
  refine ⟨fun cause stuck => ?_, fun p holds => ?_⟩
  · rw [stuck]
    rfl
  · rw [holds]
    exact ends _

/-- The one query is the other under other filters; it may report other things. -/
structure Refined (q r : Query) : Prop where
  table : r.tableSql = q.tableSql
  action : r.action = q.action
  columns : r.columns = q.columns
  orders : r.mainOrders = q.mainOrders
  deferred : r.deferred = q.deferred

/-- A statement fails as its filters do, and otherwise binds their values after its own. -/
theorem exists_main_params {list : Option Text} (takes : q.action.takesFilters = true)
    (compiles : ∃ s, q.mainStatement config list = .ok s) :
    ∃ params : Params, ∀ r, Refined q r →
      (∀ cause, r.filters.predicate config = .error cause →
        r.mainStatement config list = .error cause) ∧
      ∀ p, r.filters.predicate config = .ok p →
        ∃ sql, r.mainStatement config list = .ok ⟨sql, (p.build params).2.values⟩ := by
  obtain ⟨s, written⟩ := compiles
  rw [mainStatement] at written
  cases action : q.action with
  | insert | upsert => simp [action, Action.takesFilters] at takes
  | select =>
    simp only [action, selectStatement] at written
    obtain ⟨table, named, rest⟩ := bind_eq_ok_iff.1 written
    obtain ⟨_, -, rest⟩ := bind_eq_ok_iff.1 rest
    obtain ⟨order, ordered, -⟩ := bind_eq_ok_iff.1 rest
    refine ⟨.empty, fun r refined => ?_⟩
    simp only [mainStatement, refined.action, action, selectStatement, refined.table, named,
      refined.orders, ordered, ok_bind]
    exact restricted fun _ => ⟨_, rfl⟩
  | update patch =>
    simp only [action, updateStatement] at written
    split at written
    · cases written
    · next filled =>
      obtain ⟨⟨sets, params⟩, assigned, rest⟩ := bind_eq_ok_iff.1 written
      obtain ⟨table, named, rest⟩ := bind_eq_ok_iff.1 rest
      obtain ⟨_, -, rest⟩ := bind_eq_ok_iff.1 rest
      obtain ⟨returning, returned, -⟩ := bind_eq_ok_iff.1 rest
      refine ⟨params, fun r refined => ?_⟩
      simp only [mainStatement, refined.action, action, updateStatement, if_neg filled, assigned,
        refined.table, named, returned, ok_bind]
      exact restricted fun _ => ⟨_, rfl⟩
  | delete =>
    simp only [action, deleteStatement] at written
    obtain ⟨table, named, rest⟩ := bind_eq_ok_iff.1 written
    obtain ⟨_, -, rest⟩ := bind_eq_ok_iff.1 rest
    obtain ⟨returning, returned, -⟩ := bind_eq_ok_iff.1 rest
    refine ⟨.empty, fun r refined => ?_⟩
    simp only [mainStatement, refined.action, action, deleteStatement, refined.table, named,
      returned, ok_bind]
    exact restricted fun _ => ⟨_, rfl⟩

/-- A query that has no filters yet, but a statement that takes some. -/
structure Unfiltered (config : Text) (q : Query) : Prop where
  takes : q.action.takesFilters = true
  none : q.filters = .empty
  compiles : ∃ s, q.toSql config = .ok s

def Rejected (config : Text) (q : Query) : Prop :=
  ∃ cause, q.toSql config = .error (.invalid cause)

/-- The query compiles to a statement with these parameters, and its filters to this predicate. -/
structure Compiles (config : Text) (q : Query) (p : Predicate) (params : List Json) : Prop where
  holds : q.filters.predicate config = .ok p
  written : ∃ sql, q.toSql config = .ok ⟨sql, params⟩

/-- Both are refused, or both compile to the same condition with the same parameters. -/
def Agree (config : Text) (q r : Query) : Prop :=
  (Rejected config q ∧ Rejected config r) ∨ ∃ p p' params, Compiles config q p params ∧
    Compiles config r p' params ∧ ∀ assigned, p.truth assigned = p'.truth assigned

theorem Compiles.not_rejected {p : Predicate} {params : List Json}
    (compiles : Compiles config q p params) : ¬ Rejected config q := by
  rintro ⟨cause, refused⟩
  obtain ⟨sql, written⟩ := compiles.written
  cases refused.symm.trans written

theorem Agree.rejected_iff (agree : Agree config q r) :
    Rejected config q ↔ Rejected config r := by
  obtain ⟨left, right⟩ | ⟨p, p', params, left, right, -⟩ := agree
  · exact iff_of_true left right
  · exact iff_of_false left.not_rejected right.not_rejected

theorem Agree.isOk_eq (agree : Agree config q r) :
    (q.toSql config).isOk = (r.toSql config).isOk := by
  obtain ⟨⟨_, left⟩, _, right⟩ | ⟨_, _, _, ⟨-, _, left⟩, ⟨-, _, right⟩, -⟩ := agree <;>
    rw [left, right] <;> rfl

theorem not_agree_of_isOk {accepted : Bool} (left : (q.toSql config).isOk = accepted)
    (right : (r.toSql config).isOk = !accepted) : ¬ Agree config q r := by
  intro agree
  have same := agree.isOk_eq
  rw [left, right] at same
  cases accepted <;> cases same

namespace Unfiltered

variable (base : Unfiltered config q)

include base

theorem deferred_eq : q.deferred = .none := by
  obtain ⟨s, written⟩ := base.compiles
  unfold toSql at written
  split at written
  · cases written
  · assumption

theorem rejected_refuse (cause : Invalid) : Rejected config (q.refuse cause) := by
  refine ⟨cause, ?_⟩
  rw [toSql, refuse, defer, base.deferred_eq]
  rfl

/-- With one filter the query compiles if the filter does, and is refused if not. -/
theorem exists_params : ∃ params : Params, ∀ r entry, Refined q r →
    r.filters = .ofEntries [entry] →
      (∀ cause, entry.predicate config = .error cause → Rejected config r) ∧
      ∀ p, entry.predicate config = .ok p →
        Compiles config r (.all [p]) ((Predicate.all [p]).build params).2.values := by
  have undeferred := base.deferred_eq
  obtain ⟨s, written⟩ := base.compiles
  unfold toSql at written
  rw [undeferred] at written
  simp only at written
  split at written
  · next s compiles =>
    obtain ⟨list, listed, main⟩ := bind_eq_ok_iff.1 compiles
    obtain ⟨params, each⟩ := exists_main_params base.takes ⟨s, main⟩
    refine ⟨params, fun r entry refined filters => ?_⟩
    obtain ⟨stuck, holds⟩ := each r refined
    have listed_ : r.plainList = .ok list := by
      rw [← listed, plainList, plainList, refined.columns, refined.action]
    have compiled : r.filters.predicate config =
        (entry.predicate config).map fun p => .all [p] := by
      rw [filters, FilterSet.predicate_singleton]
    refine ⟨fun cause fails => ⟨cause, ?_⟩, fun p succeeds => ?_⟩
    · rw [fails] at compiled
      rw [toSql, refined.deferred, undeferred]
      simp only [listed_, ok_bind, stuck cause compiled]
    · rw [succeeds] at compiled
      obtain ⟨sql, main⟩ := holds _ compiled
      refine ⟨compiled, sql, ?_⟩
      rw [toSql, refined.deferred, undeferred]
      simp only [listed_, ok_bind, main]
  · cases written

theorem isOk_eq {entry : FilterSet.Entry} (refined : Refined q r)
    (filters : r.filters = .ofEntries [entry]) :
    (r.toSql config).isOk = (entry.predicate config).isOk := by
  obtain ⟨params, each⟩ := base.exists_params
  obtain ⟨stuck, holds⟩ := each r entry refined filters
  cases compiles : entry.predicate config with
  | error cause =>
    obtain ⟨_, refused⟩ := stuck cause compiles
    rw [refused]
    rfl
  | ok p =>
    obtain ⟨_, written⟩ := (holds p compiles).written
    rw [written]
    rfl

/-- The item of an or-expression means what the filter itself does. -/
theorem agree_of_entries {entry item : FilterSet.Entry} {r' : Query} (refined : Refined q r)
    (filters : r.filters = .ofEntries [entry]) (refined' : Refined q r')
    (filters' : r'.filters = .ofEntries [item])
    (same : item.predicate config = (entry.predicate config).map fun p => .any [p]) :
    Agree config r r' := by
  obtain ⟨params, each⟩ := base.exists_params
  obtain ⟨stuck, holds⟩ := each r entry refined filters
  obtain ⟨stuck', holds'⟩ := each r' item refined' filters'
  cases compiles : entry.predicate config with
  | error cause =>
    rw [compiles] at same
    exact .inl ⟨stuck cause compiles, stuck' cause same⟩
  | ok p =>
    rw [compiles] at same
    have bound : ((Predicate.all [.any [p]]).build params).2 =
        ((Predicate.all [p]).build params).2 := by
      cases empty : p.isEmpty <;>
        simp [Predicate.build, Predicate.buildParts, Predicate.isEmpty, Predicate.areEmpty, empty]
    have compiled := holds' _ same
    rw [bound] at compiled
    refine .inr ⟨_, _, _, holds p compiles, compiled, fun assigned => ?_⟩
    simp [Predicate.truth, Predicate.truths]

theorem filters_or (raw : Text) : (q.or raw).filters = .ofEntries [.group raw] := by
  rw [or, base.none]
  rfl

theorem filters_not (column name : Text) (v : Json) :
    (q.not column name (.value v)).filters = .ofEntries [.negated column name v] := by
  simp only [not, take, base.none]
  rfl

end Unfiltered

theorem refined_or (raw : Text) : Refined q (q.or raw) := ⟨rfl, rfl, rfl, rfl, rfl⟩

theorem refined_not (column name : Text) (v : Json) : Refined q (q.not column name (.value v)) :=
  ⟨rfl, rfl, rfl, rfl, rfl⟩

section

open Logic

variable {column operator name raw : Text} {negated : Bool}

theorem filter_of_negated (spelled : spelling operator = (true, name)) (v : Json) :
    q.filter column operator (.value v) = q.not column name (.value v) := by
  unfold spelling at spelled
  split at spelled
  · next rest starts =>
    cases spelled
    simp only [filter, starts]
  · cases spelled

theorem filter_of_plain (spelled : spelling operator = (false, name)) (raw : Text) :
    q.filter column operator (.value (.str raw)) =
      match Operator.parse? name with
      | none => q.refuse (.operator name)
      | some op =>
        match Operand.parse op raw with
        | .ok v => { q with filters := q.filters.push ⟨column, op, v⟩ }
        | .error cause => q.refuse cause := by
  unfold spelling at spelled
  split at spelled
  · cases spelled
  · next none =>
    cases spelled
    simp only [filter, none]
    rfl

/-- Only lists can be refused as operands. -/
theorem among_of_error {op : Operator} {cause : Invalid}
    (stuck : Operand.parse op raw = .error cause) : op = .among := by
  unfold Operand.parse at stuck
  cases op <;> first | rfl | cases stuck

theorem members_of_head (first : raw.head? = some '(') {cause : Invalid}
    (stuck : Operand.parse .among raw = .error cause) :
    Filter.members (.str raw) = .error cause := by
  simp only [Filter.members, if_pos first, stuck]
  rfl

/-- The negated filter keeps an operand that the grammar refuses. -/
theorem predicate_negated (plain : Ident.Plain column) {op : Operator}
    (known : Operator.parse? name = some op) (config : Text) :
    (FilterSet.Entry.negated column name (.str raw)).predicate config =
      match Operand.parse op raw with
      | .ok v => (⟨column, op, v⟩ : Filter).negation config
      | .error cause =>
        if raw.head? = some '(' then .error cause
        else .ok (.among (Ident.quotePart column) [.str raw] true) := by
  rw [FilterSet.Entry.predicate, Negated.ofOperator, known]
  cases read : Operand.parse op raw with
  | ok v => simp only [read, Negated.predicate]
  | error cause =>
    obtain rfl := among_of_error read
    simp only [read, Negated.predicate, Filter.negation, Filter.quotedColumn_of_plain plain,
      ok_bind]
    split
    · next first =>
      rw [members_of_head first read]
      rfl
    · next other =>
      rw [Filter.members, if_neg other]
      rfl

theorem predicate_fallback (plain : Ident.Plain column) (unknown : Operator.parse? name = none)
    (config : Text) : (FilterSet.Entry.negated column name (.str raw)).predicate config =
      .ok (.not (.compare (Ident.quotePart column) "=" (.str raw) none)) := by
  simp only [FilterSet.Entry.predicate, Negated.ofOperator, unknown, Negated.predicate,
    Filter.predicate, Filter.quotedColumn_of_plain plain, ok_bind]
  rfl

section

variable (base : Unfiltered config q) (plain : Ident.Plain column)
  (single : Text.splitTopLevel (compact column operator raw) = [compact column operator raw])

include base plain single

theorem agree_plain (legible : Legible column operator raw)
    (spelled : spelling operator = (false, name)) :
    Agree config (q.filter column operator (.value (.str raw)))
      (q.or (compact column operator raw)) := by
  obtain ⟨params, each⟩ := base.exists_params
  have item := each _ _ (refined_or _) (base.filters_or (compact column operator raw))
  rw [filter_of_plain spelled]
  cases known : Operator.parse? name with
  | none =>
    exact .inl ⟨base.rejected_refuse _,
      item.1 _ (legible.parse_of_unknown plain spelled single known config)⟩
  | some op =>
    have parsed := legible.parse_of_known plain spelled single known config
    cases read : Operand.parse op raw with
    | error cause =>
      simp only [read] at parsed ⊢
      exact .inl ⟨base.rejected_refuse _, item.1 _ parsed⟩
    | ok v =>
      simp only [read] at parsed ⊢
      have filters : q.filters.push ⟨column, op, v⟩ = .ofEntries [.plain ⟨column, op, v⟩] := by
        rw [base.none]
        rfl
      exact base.agree_of_entries ⟨rfl, rfl, rfl, rfl, rfl⟩ filters (refined_or _)
        (base.filters_or _) parsed

/-- Here the negated call keeps nothing that the grammar refuses. -/
theorem agree_negated (legible : Legible column operator raw)
    (spelled : spelling operator = (true, name)) {op : Operator}
    (known : Operator.parse? name = some op)
    (operand : raw.head? = some '(' ∨ ∃ v, Operand.parse op raw = .ok v) :
    Agree config (q.filter column operator (.value (.str raw)))
      (q.or (compact column operator raw)) := by
  rw [filter_of_negated spelled]
  refine base.agree_of_entries (refined_not ..) (base.filters_not ..) (refined_or _)
    (base.filters_or _) ?_
  refine (legible.parse_of_known plain spelled single known config).trans ?_
  rw [predicate_negated plain known]
  cases read : Operand.parse op raw with
  | ok v => rfl
  | error cause =>
    have first : raw.head? = some '(' := by
      obtain first | ⟨v, reads⟩ := operand
      · exact first
      · cases read.symm.trans reads
    simp only [if_pos first]
    rfl

/-- A filter and the or-expression of it agree where the grammar finds the operator, unless it is
negated and unknown, or negated and its list has no brackets. An unknown operator is refused, but
negated it stands for equality; a list without brackets is refused, but negated it is one value. -/
theorem filter_agrees (spelled : spelling operator = (negated, name)) :
    (Legible column operator raw →
      (negated = true → ∃ op, Operator.parse? name = some op ∧
        (raw.head? = some '(' ∨ ∃ v, Operand.parse op raw = .ok v)) →
      Agree config (q.filter column operator (.value (.str raw)))
        (q.or (compact column operator raw))) ∧
    (negated = false → Operator.parse? name = none →
      Rejected config (q.filter column operator (.value (.str raw))) ∧
      (Agree config (q.filter column operator (.value (.str raw)))
          (q.or (compact column operator raw)) ↔
        Rejected config (q.or (compact column operator raw)))) ∧
    (negated = true → Operator.parse? name = none →
      (∃ params, Compiles config (q.filter column operator (.value (.str raw)))
        (.all [.not (.compare (Ident.quotePart column) "=" (.str raw) none)]) params) ∧
      (Legible column operator raw →
        Rejected config (q.or (compact column operator raw)))) ∧
    ∀ op cause, negated = true → Operator.parse? name = some op →
      Operand.parse op raw = .error cause → raw.head? ≠ some '(' →
      (∃ params, Compiles config (q.filter column operator (.value (.str raw)))
        (.all [.among (Ident.quotePart column) [.str raw] true]) params) ∧
      (Legible column operator raw →
        Rejected config (q.or (compact column operator raw))) := by
  obtain ⟨params, each⟩ := base.exists_params
  have item := each _ _ (refined_or _) (base.filters_or (compact column operator raw))
  have negation := each _ _ (refined_not column name (.str raw)) (base.filters_not column name _)
  refine ⟨fun legible sound => ?_, fun positive unknown => ?_, fun negative unknown => ?_,
    fun op cause negative known stuck other => ?_⟩
  · cases negated with
    | true =>
      obtain ⟨op, known, operand⟩ := sound rfl
      exact agree_negated base plain single legible spelled known operand
    | false => exact agree_plain base plain single legible spelled
  · subst positive
    rw [filter_of_plain spelled, unknown]
    have refused := base.rejected_refuse (.operator name)
    exact ⟨refused, fun agree => agree.rejected_iff.1 refused, fun other => .inl ⟨refused, other⟩⟩
  · subst negative
    rw [filter_of_negated spelled]
    exact ⟨⟨_, negation.2 _ (predicate_fallback plain unknown config)⟩, fun legible =>
      item.1 _ (legible.parse_of_unknown plain spelled single unknown config)⟩
  · subst negative
    rw [filter_of_negated spelled]
    refine ⟨⟨_, negation.2 _ ?_⟩, fun legible => item.1 cause ?_⟩
    · rw [predicate_negated plain known, stuck]
      exact if_neg other
    · refine (legible.parse_of_known plain spelled single known config).trans ?_
      rw [stuck]
      rfl

end

theorem deleteOthers_agrees :
    Unfiltered "english" (ofTable "users").delete ∧ Ident.Plain "name" ∧
      spelling "not.eq" = (true, ("eq" : Text)) ∧
      Agree "english" ((ofTable "users").delete.filter "name" "not.eq" (.value (.str "ann")))
        ((ofTable "users").delete.or "name.not.eq.ann") := by
  have base : Unfiltered "english" (ofTable "users").delete :=
    ⟨rfl, rfl, ⟨"DELETE FROM \"users\"", []⟩, by decide +kernel⟩
  have plain : Ident.Plain "name" :=
    ⟨⟨'n', rfl, by decide +kernel⟩, List.all_eq_true.1 (by decide +kernel)⟩
  have single : Text.splitTopLevel (compact "name" "not.eq" "ann") =
      [compact "name" "not.eq" "ann"] := by
    decide +kernel
  have spelled : spelling "not.eq" = (true, ("eq" : Text)) := by decide +kernel
  have legible : Legible "name" "not.eq" "ann" := ⟨by decide +kernel, by decide, by decide⟩
  exact ⟨base, plain, spelled, (filter_agrees base plain single spelled).1 legible fun _ =>
    ⟨.eq, by decide, .inr ⟨.str "ann", by decide +kernel⟩⟩⟩

theorem unfiltered_games : Unfiltered "english" (ofTable "games") :=
  ⟨rfl, rfl, ⟨"SELECT * FROM \"games\"", []⟩, by decide +kernel⟩

theorem isOk_parse {text : Text} (single : Text.splitTopLevel text = [text])
    (clause : group? text = none) (config : Text) :
    (parse config text).isOk = (clausePredicate config text).isOk := by
  rw [parse_of_single single, item_of_clause clause]
  cases clausePredicate config text <;> rfl

theorem isOk_parse_group {text : Text} (single : Text.splitTopLevel text = [text]) {g : Group}
    (group : group? text = some g) (inner : Text.splitTopLevel g.body = [g.body])
    (clause : group? g.body = none) (config : Text) :
    (parse config text).isOk = (clausePredicate config g.body).isOk := by
  rw [parse_of_single single, item_of_group group, list_of_single inner, item_of_clause clause]
  cases clausePredicate config g.body <;> rfl

/-- The item stands alone, but does not mean the filter. -/
def Disagrees (column operator raw : Text) : Prop :=
  Ident.Plain column ∧
    Text.splitTopLevel (compact column operator raw) = [compact column operator raw] ∧
    ¬ Agree "english" ((ofTable "games").filter column operator (.value (.str raw)))
      ((ofTable "games").or (compact column operator raw))

theorem disagrees_of_isOk (accepted : Bool) (plain : Ident.Plain column)
    (single : Text.splitTopLevel (compact column operator raw) = [compact column operator raw])
    (left : (((ofTable "games").filter column operator (.value (.str raw))).toSql "english").isOk =
      accepted)
    (right : (parse "english" (compact column operator raw)).isOk = !accepted) :
    Disagrees column operator raw := by
  refine ⟨plain, single, not_agree_of_isOk left ?_⟩
  exact (unfiltered_games.isOk_eq (refined_or _) (unfiltered_games.filters_or _)).trans right

/-- Under `not.` an unknown operator and a list without brackets; operators with a dot of their own;
one that reads as a negation; and a clause that reads as a group. -/
theorem spellings_disagree :
    Disagrees "a" "not.nope" "1" ∧ Disagrees "a" "not.in" "1" ∧ Disagrees "a" "fts(b.c)" "1" ∧
      Disagrees "a" "not.not.eq" "1" ∧ Disagrees "a" "eq.b" "1" ∧ Disagrees "a" "not" "eq.1" ∧
      Disagrees "not" "and(a" "eq.1)" := by
  have a : Ident.Plain "a" :=
    ⟨⟨'a', rfl, by decide +kernel⟩, List.all_eq_true.1 (by decide +kernel)⟩
  have n : Ident.Plain "not" :=
    ⟨⟨'n', rfl, by decide +kernel⟩, List.all_eq_true.1 (by decide +kernel)⟩
  refine ⟨disagrees_of_isOk true a ?_ ?_ ?_, disagrees_of_isOk true a ?_ ?_ ?_,
    disagrees_of_isOk true a ?_ ?_ ?_, disagrees_of_isOk true a ?_ ?_ ?_,
    disagrees_of_isOk false a ?_ ?_ ?_, disagrees_of_isOk false a ?_ ?_ ?_,
    disagrees_of_isOk false n ?_ ?_ ?_⟩
  iterate 6
    · decide +kernel
    · decide +kernel
    · exact (isOk_parse (by decide +kernel) (by decide) _).trans (by decide +kernel)
  · decide +kernel
  · decide +kernel
  · have group : group? (compact "not" "and(a" "eq.1)") = some ⟨true, true, "a.eq.1"⟩ := rfl
    exact (isOk_parse_group (by decide +kernel) group (by decide +kernel) (by decide) _).trans
      (by decide +kernel)

end

end Query

end FluentQuery

import FluentQuery.Proofs.Query.Template

/-! The templates of statements are sound SQL. Whatever the table, the columns, the filters, the
payload and the references are, a template that can be written has just the placeholders of its
values, ends outside quotes, and has a WHERE clause only with filters. -/
namespace FluentQuery

open Template

/-! Parts -/

theorem Sql.isWord_toDigits (n : Nat) : IsWord (Nat.toDigits 10 n) := by
  intro c member
  have digit := isDigit_of_mem_toDigits member
  have none : ∀ d ∈ ' ' :: '"' :: '$' :: forbidden, d.isDigit = false := by decide
  have other : c ∉ ' ' :: '"' :: '$' :: forbidden := fun among => by
    rw [none c among] at digit
    cases digit
  obtain ⟨single, plain⟩ := not_or.1 (List.mem_cons.not.1 other)
  exact ⟨isPlain_iff.2 plain, single⟩

theorem FilterSet.sound_predicate {config : Text} {s : FilterSet} {p : Predicate}
    (compiles : s.predicate config = .ok p) : Sound false p.template :=
  (written_predicate compiles).sound

/-- Whether filters restrict what the main statement does. -/
def Action.takesFilters : Action → Bool
  | .insert _ | .upsert .. => false
  | _ => true

namespace Query

variable {q : Query} {config : Text}

theorem fragment_tableSql {sql : Text} (named : q.tableSql = .ok sql) :
    Sql.Fragment false sql [] := by
  unfold tableSql at named
  split at named
  · next quoted =>
    cases named
    exact Ident.fragment_quote quoted
  · cases named

theorem fragment_orderSql {t : OrderTerm} {sql : Text} (written : orderSql t = .ok sql) :
    Sql.Fragment false sql [] := by
  unfold orderSql at written
  split at written
  · cases written
  · next column quoted =>
    cases written
    have first : Sql.Fragment false column [] := Ident.fragment_quote quoted
    have directed := first.append_plain
      (b := (if t.options.ascending then " ASC" else " DESC" : String))
      (by cases t.options.ascending <;> decide)
    rcases t.options.nullsFirst with _ | _ | _
    · rwa [← List.append_nil (column ++ _)] at directed
    · exact directed.append_plain (by decide)
    · exact directed.append_plain (by decide)

theorem fragment_orderBySql {terms : List OrderTerm} {sql : Text}
    (written : orderBySql terms = .ok sql) : Sql.Fragment false sql [] ∧ Sql.Apart sql := by
  obtain ⟨texts, ordered, rfl⟩ := map_eq_ok_iff.1 written
  split
  · exact ⟨.nil, .nil⟩
  · refine ⟨.plain_append (by decide) (.join (by decide) ?_),
      (Sql.Opens.before (by decide) _).apart⟩
    intro t member
    obtain ⟨term, -, single⟩ := exists_of_mem_mapM ordered member
    exact fragment_orderSql single

theorem plain_numberClause (word : Text) (n : Option Nat) (plain : Sql.Plain word) :
    Sql.Plain (numberClause word n) ∧ Sql.Apart (numberClause word n) := by
  cases n with
  | none => exact ⟨by rw [numberClause]; decide, .nil⟩
  | some n =>
    have digits : Sql.Plain (Nat.toDigits 10 n) := (Sql.isWord_toDigits n).plain fun head =>
      Sql.notMem_toDigits (by decide) (List.mem_of_head? head)
    have space : Sql.Plain " " := by decide
    refine ⟨((space.append plain).append space).append digits, ?_⟩
    rw [numberClause, List.append_assoc, List.append_assoc]
    exact (Sql.Opens.before (by decide) _).apart

/-- A select list that a query runs with: none, every column, or one made of a selection. -/
inductive IsList : Option Text → Prop where
  | none : IsList none
  | star : IsList (some ['*'])
  | made {s : Selection} {required : List Text} {p : Projection}
      (made : Projection.make s required = .ok p) : IsList (some p.sql)

theorem IsList.fragment {list : Option Text} (listed : IsList list) :
    ∀ t ∈ list, Sql.Fragment false t [] := by
  rintro t ⟨⟩
  cases listed with
  | star => exact .plain (by decide)
  | made made => exact Projection.fragment_sql made

theorem fragment_returningSql {list : Option Text} {sql : Text} (listed : IsList list)
    (written : returningSql list = .ok sql) : Sql.Fragment false sql [] ∧ Sql.Apart sql := by
  unfold returningSql at written
  split at written
  · cases written
    exact ⟨.nil, .nil⟩
  · cases written
  · next columns _ =>
    cases written
    exact ⟨.plain_append (by decide) (listed.fragment columns rfl),
      (Sql.Opens.before (by decide) _).apart⟩

/-! Payloads -/

theorem fragment_quoteAll {names : List Text} {sql : Text}
    (quoted : Ident.quoteAll names = .ok sql) : Sql.Fragment false sql [] := by
  obtain ⟨texts, each, rfl⟩ := map_eq_ok_iff.1 quoted
  refine .join (by decide) fun t member => ?_
  obtain ⟨name, -, single⟩ := exists_of_mem_mapM each member
  exact Ident.fragment_quote single

theorem fragment_columnList {columns : List Text} {sql : Text}
    (listed : columnList columns = .ok sql) : Sql.Fragment false sql [] := by
  unfold columnList at listed
  split at listed
  · next quoted =>
    cases listed
    exact fragment_quoteAll quoted
  · cases listed

theorem fragment_overwrite {column sql : Text} (written : overwrite column = .ok sql) :
    Sql.Fragment false sql [] := by
  obtain ⟨name, quoted, rfl⟩ := map_eq_ok_iff.1 written
  have named : Sql.Fragment false name [] :=
    Ident.fragment_quote (Projection.quoted_eq_ok_iff.1 quoted)
  exact named.between (by decide) named

theorem fragment_conflictSql {columns : List Text} {options : UpsertOptions} {sql : Text}
    (written : conflictSql columns options = .ok sql) :
    Sql.Fragment false sql [] ∧ Sql.Apart sql := by
  obtain ⟨target, listed, rest⟩ := bind_eq_ok_iff.1 written
  have opening : Sql.Fragment false (" ON CONFLICT " ++ Predicate.bracketed target) [] :=
    .plain_append (by decide) (fragment_columnList listed).bracketed
  have opens : Sql.Opens (" ON CONFLICT " ++ Predicate.bracketed target) := .before (by decide) _
  simp only at rest
  split at rest
  · cases rest
    exact ⟨opening.append_plain (by decide), (opens.before _).apart⟩
  · obtain ⟨sets, each, last⟩ := bind_eq_ok_iff.1 rest
    cases last
    refine ⟨opening.between (by decide) ?_, ?_⟩
    · refine .join (by decide) fun t member => ?_
      obtain ⟨column, -, single⟩ := exists_of_mem_mapM each member
      exact fragment_overwrite single
    · rw [List.append_assoc]
      exact (opens.before _).apart

theorem fragment_conflictClause {rows : List Row} {conflict : Option UpsertOptions} {sql : Text}
    (written : conflictClause rows conflict = .ok sql) :
    Sql.Fragment false sql [] ∧ Sql.Apart sql := by
  cases conflict with
  | none =>
    cases written
    exact ⟨.nil, .nil⟩
  | some options => exact fragment_conflictSql written

end Query

namespace Template

theorem sound_cell (v : Json) : Sound false (cell v) := by
  unfold cell
  split
  · exact .value v (.plain (by decide) .nil) (.sql (by decide) _)
  · exact .value v .nil .nil

theorem sound_members {between : Text} (sep : Sql.Separator between) {row : Row}
    {parts : List Template} (written : members between row = .ok parts) :
    ∀ T ∈ parts, Sound false T := by
  induction row generalizing parts with
  | nil =>
    cases written
    exact fun _ member => nomatch member
  | cons pair rest ih =>
    obtain ⟨sql, quoted, later⟩ := bind_eq_ok_iff.1 written
    obtain ⟨others, read, last⟩ := bind_eq_ok_iff.1 later
    cases last
    refine List.forall_mem_cons.2 ⟨.sql ?_ (sound_cell pair.2) ?_, ih read⟩
    · exact (Ident.fragment_quote (Projection.quoted_eq_ok_iff.1 quoted)).append_plain sep
    · exact .value _ _

theorem sound_tuple (columns : List Text) (row : Row) : Sound false (tuple columns row) := by
  refine .bracketed (.join (by decide) fun T member => ?_)
  obtain ⟨column, -, rfl⟩ := List.mem_map.1 member
  unfold entry
  split
  · exact sound_cell _
  · exact .plain (by decide) .nil

end Template

namespace Query

variable {q : Query} {config : Text} {list : Option Text} {T : Template}

theorem sound_valuesTemplate {rows : List Row} (written : valuesTemplate rows = .ok T) :
    Sound false T ∧ T.Apart := by
  unfold valuesTemplate at written
  simp only at written
  split at written
  · split at written
    · cases written
    · cases written
      exact ⟨.plain (by decide) .nil, .sql (by decide) _⟩
  · obtain ⟨columns, listed, last⟩ := bind_eq_ok_iff.1 written
    cases last
    refine ⟨.plain (by decide) (.sql (fragment_columnList listed).bracketed
      (.plain (by decide) ?_) (.sql (by decide) _)), .sql (by decide) _⟩
    refine .join (by decide) fun T member => ?_
    obtain ⟨row, -, rfl⟩ := List.mem_map.1 member
    exact sound_tuple _ row

/-! Statements -/

/-- A template with the WHERE clause of the filters between two parts without one. -/
structure Framed (q : Query) (config : Text) (T : Template) : Prop where
  parts : ∃ front p back, T = front ++ clause p ++ back ∧ q.filters.predicate config = .ok p ∧
    Sound false front ∧ Sound false back ∧ back.Apart

namespace Framed

theorem of_where {W front back : Template} (written : q.whereTemplate config = .ok W)
    (first : Sound false front) (last : Sound false back) (apart : back.Apart) :
    Framed q config (front ++ W ++ back) := by
  obtain ⟨p, compiles, rfl⟩ := map_eq_ok_iff.1 written
  exact ⟨front, p, back, rfl, compiles, first, last, apart⟩

theorem isEmpty_eq {p : Predicate} (compiles : q.filters.predicate config = .ok p) :
    p.isEmpty = q.filters.isEmpty := by
  obtain ⟨parts, rfl, each, empty⟩ := FilterSet.compiled_predicate compiles
  by_cases none : parts = []
  · rw [empty.1 none, none]
    rfl
  · rw [Bool.eq_false_iff.2 (mt empty.2 none)]
    exact Predicate.areEmpty_eq_false none each

/-- The WHERE clause is there just when there are filters. -/
theorem hasWord_iff (framed : Framed q config T) (n : Nat) :
    Sql.HasWord "WHERE" (T.text n) ↔ q.filters.isEmpty = false := by
  obtain ⟨front, p, back, rfl, compiles, first, last, apart⟩ := framed.parts
  rw [← isEmpty_eq compiles, clause]
  split
  · next empty =>
    rw [List.append_nil]
    exact iff_of_false (first.append last apart n).not_hasWord (by simp [empty])
  · next filled =>
    have condition := (FilterSet.sound_predicate compiles).append last apart
    rw [List.append_assoc, text_append, List.cons_append, text_sql, ← List.append_assoc]
    exact iff_of_true (Sql.Fragment.hasWord_where (first n) (condition _)) (by simpa using filled)

/-- The SQL of the predicate stands in that clause. -/
theorem exists_where (framed : Framed q config T) :
    ∃ front p params back, q.filters.predicate config = .ok p ∧ T.statement.sql = front ++
      (if q.filters.isEmpty then [] else (" WHERE " : Text) ++ (p.build params).1) ++ back := by
  obtain ⟨front, p, back, rfl, compiles, -⟩ := framed.parts
  let params : Params := ⟨front.values.length, []⟩
  have first : params.next = 1 + front.values.length := Nat.add_comm _ 1
  refine ⟨front.text 1, p, params, back.text (1 + (front ++ clause p).values.length), compiles, ?_⟩
  rw [Template.statement, text_append, text_append, clause, ← isEmpty_eq compiles]
  split
  · rfl
  · rw [text_sql, Predicate.build_eq_fill, Params.fill, first]

theorem sound (framed : Framed q config T) : Sound true T := by
  obtain ⟨front, p, back, rfl, compiles, first, last, apart⟩ := framed.parts
  unfold clause
  split
  · rw [List.append_nil]
    exact first.weaken.append last.weaken apart
  · have condition := (FilterSet.sound_predicate compiles).weaken.where_
    exact (first.weaken.append condition (.sql (by decide) _)).append last.weaken apart

end Framed

theorem framed_selectTemplate {columns : Text} (listed : Sql.Fragment false columns [])
    (written : q.selectTemplate config columns = .ok T) : Framed q config T := by
  obtain ⟨table, named, rest⟩ := bind_eq_ok_iff.1 written
  obtain ⟨W, filters, rest⟩ := bind_eq_ok_iff.1 rest
  obtain ⟨order, ordered, last⟩ := bind_eq_ok_iff.1 rest
  cases last
  obtain ⟨limit, limitApart⟩ := plain_numberClause "LIMIT" q.paging.1 (by decide)
  obtain ⟨offset, offsetApart⟩ := plain_numberClause "OFFSET" q.paging.2 (by decide)
  obtain ⟨sorted, orderApart⟩ : Sql.Fragment false order [] ∧ Sql.Apart order :=
    fragment_orderBySql ordered
  have list : Sql.Fragment false (if columns = [] then "SELECT" else "SELECT " ++ columns) [] := by
    split
    · exact .plain (by decide)
    · exact .plain_append (by decide) listed
  have source : Sound false [.sql " FROM ", .sql table] :=
    .plain (by decide) (.sql (fragment_tableSql named) .nil .nil)
  have paging := Template.Apart.cons limitApart (.cons offsetApart .nil)
  exact .of_where filters (.sql list source (.sql (by decide) _))
    (.sql sorted (.plain limit (.plain offset .nil)) paging) (.cons orderApart paging)

theorem framed_countTemplate (written : q.countTemplate config = .ok T) : Framed q config T := by
  obtain ⟨table, named, rest⟩ := bind_eq_ok_iff.1 written
  obtain ⟨W, filters, last⟩ := bind_eq_ok_iff.1 rest
  cases last
  have source : Sound false [.sql " FROM ", .sql table] :=
    .plain (by decide) (.sql (fragment_tableSql named) .nil .nil)
  have front : Sound false (.sql "SELECT COUNT(*) AS " :: .sql (Ident.quotePart "count") :: _) :=
    .plain (by decide) (.sql (.quotePart (by decide)) source (.sql (by decide) _))
  simpa using Framed.of_where filters front .nil .nil

theorem framed_planTemplate (written : q.planTemplate config = .ok T) : Framed q config T := by
  obtain ⟨table, named, rest⟩ := bind_eq_ok_iff.1 written
  obtain ⟨W, filters, last⟩ := bind_eq_ok_iff.1 rest
  cases last
  have front : Sound false [.sql "EXPLAIN (FORMAT JSON) SELECT 1 FROM ", .sql table] :=
    .plain (by decide) (.sql (fragment_tableSql named) .nil .nil)
  simpa using Framed.of_where filters front .nil .nil

theorem sound_insertTemplate {rows : List Row} {conflict : Option UpsertOptions}
    (listed : IsList list) (written : q.insertTemplate rows conflict list = .ok T) :
    Sound false T := by
  obtain ⟨table, named, rest⟩ := bind_eq_ok_iff.1 written
  obtain ⟨V, payload, rest⟩ := bind_eq_ok_iff.1 rest
  obtain ⟨target, conflicts, rest⟩ := bind_eq_ok_iff.1 rest
  obtain ⟨returning, returned, last⟩ := bind_eq_ok_iff.1 rest
  cases last
  obtain ⟨values, valuesApart⟩ := sound_valuesTemplate payload
  obtain ⟨onConflict, conflictApart⟩ := fragment_conflictClause conflicts
  obtain ⟨back, backApart⟩ := fragment_returningSql listed returned
  have tailApart := Template.Apart.cons conflictApart (.cons backApart .nil)
  have tail :=
    values.append (.sql onConflict (.sql back .nil .nil) (.cons backApart .nil)) tailApart
  exact .plain (by decide) (.sql (fragment_tableSql named) tail (valuesApart.append tailApart))

theorem framed_updateTemplate {patch : Row} (listed : IsList list)
    (written : q.updateTemplate config patch list = .ok T) : Framed q config T := by
  unfold updateTemplate at written
  split at written
  · cases written
  · obtain ⟨sets, assigned, rest⟩ := bind_eq_ok_iff.1 written
    obtain ⟨table, named, rest⟩ := bind_eq_ok_iff.1 rest
    obtain ⟨W, filters, rest⟩ := bind_eq_ok_iff.1 rest
    obtain ⟨returning, returned, last⟩ := bind_eq_ok_iff.1 rest
    cases last
    obtain ⟨back, backApart⟩ := fragment_returningSql listed returned
    have changes : Sound false (.sql " SET " :: Template.join ", " sets) :=
      .plain (by decide) (.join (by decide) (sound_members (by decide) assigned))
    have front : Sound false (.sql "UPDATE " :: .sql table :: _) :=
      .plain (by decide) (.sql (fragment_tableSql named) changes (.sql (by decide) _))
    rw [← List.append_assoc]
    exact .of_where filters front (.sql back .nil .nil) (.cons backApart .nil)

theorem framed_deleteTemplate (listed : IsList list)
    (written : q.deleteTemplate config list = .ok T) : Framed q config T := by
  obtain ⟨table, named, rest⟩ := bind_eq_ok_iff.1 written
  obtain ⟨W, filters, rest⟩ := bind_eq_ok_iff.1 rest
  obtain ⟨returning, returned, last⟩ := bind_eq_ok_iff.1 rest
  cases last
  obtain ⟨back, backApart⟩ := fragment_returningSql listed returned
  have front : Sound false [.sql "DELETE FROM ", .sql table] :=
    .plain (by decide) (.sql (fragment_tableSql named) .nil .nil)
  exact .of_where filters front (.sql back .nil .nil) (.cons backApart .nil)

theorem framed_mainTemplate (listed : IsList list) (takes : q.action.takesFilters = true)
    (written : q.mainTemplate config list = .ok T) : Framed q config T := by
  unfold mainTemplate at written
  split at written
  · have columns : Sql.Fragment false (list.getD ['*']) [] := by
      cases given : list with
      | none => exact .plain (by decide)
      | some t => exact listed.fragment t given
    exact framed_selectTemplate columns written
  · next inserts => simp [inserts, Action.takesFilters] at takes
  · next upserts => simp [upserts, Action.takesFilters] at takes
  · exact framed_updateTemplate listed written
  · exact framed_deleteTemplate listed written

theorem sound_mainTemplate (listed : IsList list) (written : q.mainTemplate config list = .ok T) :
    Sound true T := by
  by_cases takes : q.action.takesFilters = true
  · exact (framed_mainTemplate listed takes written).sound
  · unfold mainTemplate at written
    split at written
    · next selects => simp [selects, Action.takesFilters] at takes
    · exact (sound_insertTemplate listed written).weaken
    · exact (sound_insertTemplate listed written).weaken
    · next updates => simp [updates, Action.takesFilters] at takes
    · next deletes => simp [deletes, Action.takesFilters] at takes

end Query

theorem Lookup.sound_template {config : Config} {terms : List OrderTerm} {link : Link}
    {body : Selection} {required : List Text} {l : Lookup} {p : Projection}
    (makes : make config terms link body required = .ok (l, p)) (keys : List Json) :
    Sound true (l.template keys) := by
  obtain ⟨projection, listed, rest⟩ := bind_eq_ok_iff.1 makes
  obtain ⟨table, named, rest⟩ := bind_eq_ok_iff.1 rest
  obtain ⟨column, matched, rest⟩ := bind_eq_ok_iff.1 rest
  obtain ⟨order, ordered, last⟩ := bind_eq_ok_iff.1 rest
  cases last
  obtain ⟨sorted, orderApart⟩ := Query.fragment_orderBySql ordered
  have values : Sound false (Template.join ", " (keys.map fun v => [.value v])) := by
    refine .join (by decide) fun T member => ?_
    obtain ⟨v, -, rfl⟩ := List.mem_map.1 member
    exact .value v .nil .nil
  have tail := values.bracketed.append (.sql sorted .nil .nil) (.cons orderApart .nil)
  have condition : Sound false (.sql column :: .sql " IN " :: _) :=
    .sql (Ident.fragment_quote (Projection.quoted_eq_ok_iff.1 matched))
      (.plain (by decide) tail) (.sql (by decide) _)
  have source : Sound false [.sql " FROM ", .sql table] :=
    .plain (by decide) (.sql (Ident.fragment_quote (Projection.quoted_eq_ok_iff.1 named)) .nil .nil)
  have front : Sound false (.sql "SELECT " :: .sql p.sql :: _) :=
    .plain (by decide) (.sql (Projection.fragment_sql listed) source (.sql (by decide) _))
  exact front.weaken.append condition.weaken.where_ (.sql (by decide) _)

theorem Routine.sound_template {name : Text} {row : Row} {T : Template}
    (written : template name row = .ok T) : Sound false T := by
  unfold template at written
  split at written
  · cases written
  · next sql quoted =>
    obtain ⟨arguments, listed, rfl⟩ := map_eq_ok_iff.1 written
    have passed : Sound false (Template.join ", " arguments) :=
      .join (by decide) (sound_members (by decide) listed)
    exact .plain (by decide) (.sql (Ident.fragment_quote quoted) passed.bracketed
      (.sql (by decide) _))

end FluentQuery

import FluentQuery.Proofs.Filter.Literal
import FluentQuery.Proofs.Filter.Negation
import FluentQuery.Proofs.Query.Compact

/-! A negated call beside the typed call of its operator. The typed call compares with the value it
is given, the negated one with what the filter grammar reads in that value; the two select
complementary rows with the same parameters just when these values are the same. -/
namespace FluentQuery

open Predicate

namespace Filter

/-- The operators of the typed calls that compare with one value. -/
def comparing : List Operator :=
  [.eq, .neq, .gt, .gte, .lt, .lte, .like, .ilike, .contains, .containedBy, .overlaps]

/-- Each of them binds its value, but for an empty array that nothing is compared with. -/
theorem exists_predicate_of_comparing {op : Operator} (compares : op ∈ comparing)
    {column sql : Text} (named : Ident.quote column = .ok sql) (config : Text) (v : Json) :
    ∃ p, (⟨column, op, v⟩ : Filter).predicate config = .ok p ∧
      ((∀ params, (p.build params).2 = params.push v) ∨
        v = .arr [] ∧ ∀ params, (p.build params).2 = params) := by
  have quoted : (⟨column, op, v⟩ : Filter).quotedColumn = .ok sql :=
    quotedColumn_eq_ok_iff.2 named
  rw [predicate, quoted]
  cases op with
  | is | among | search => simp [comparing] at compares
  | containedBy | overlaps =>
    refine ⟨_, rfl, ?_⟩
    split
    · next none => exact .inr ⟨none, fun _ => rfl⟩
    · exact .inl fun _ => rfl
  | _ => exact ⟨_, rfl, .inl fun _ => rfl⟩

end Filter

namespace Query

variable {config : Text} {q r : Query}

/-- Under the second filter stand the rows that the first leaves out, except where it is unknown,
and both bind the same values. -/
def Complementary (config : Text) (q r : Query) : Prop :=
  ∃ p n params, Compiles config q p params ∧ Compiles config r n params ∧
    ∀ assigned, n.truth (signed assigned) = (p.truth (signed assigned)).not

theorem Compiles.params_eq {p p' : Predicate} {params params' : List Json}
    (first : Compiles config q p params) (second : Compiles config q p' params') :
    params = params' := by
  obtain ⟨sql, written⟩ := first.written
  obtain ⟨sql', written'⟩ := second.written
  cases written.symm.trans written'
  rfl

/-- The values that the typed call of an operator takes; a pattern is always a text. -/
inductive Typed : Operator → Json → Prop
  | list (items : List Json) : Typed .among (.arr items)
  | single {op : Operator} (compares : op ∈ Filter.comparing) (v : Json) : Typed op v

theorem build_all_singleton {p : Predicate} (filled : p.isEmpty = false) (params : Params) :
    ((Predicate.all [p]).build params).2 = (p.build params).2 := by
  simp [Predicate.build, Predicate.buildParts, filled]

theorem refined_restrict (column : Text) (op : Operator) (v : Json) :
    Refined q (q.restrict column op (.value v)) := ⟨rfl, rfl, rfl, rfl, rfl⟩

namespace Unfiltered

variable (base : Unfiltered config q) {column name : Text} {op : Operator} {v : Json}

include base

theorem filters_restrict (column : Text) (op : Operator) (v : Json) :
    (q.restrict column op (.value v)).filters = .ofEntries [.plain ⟨column, op, v⟩] := by
  simp only [restrict, take, base.none]
  rfl

/-- Both calls bind the values of their filter after those of the statement. -/
theorem exists_bound : ∃ params : Params,
    (∀ column op v p, (⟨column, op, v⟩ : Filter).predicate config = .ok p →
      Compiles config (q.restrict column op (.value v)) (.all [p]) (p.build params).2.values) ∧
    ∀ column name v n, (Negated.ofOperator column name v).predicate config = .ok n →
      Compiles config (q.not column name (.value v)) (.all [n]) (n.build params).2.values := by
  obtain ⟨params, each⟩ := base.exists_params
  refine ⟨params, fun column op v p holds => ?_, fun column name v n holds => ?_⟩
  · rw [← build_all_singleton (Filter.compiled_predicate holds).filled]
    exact (each _ _ (refined_restrict ..) (base.filters_restrict ..)).2 p holds
  · rw [← build_all_singleton (Negated.compiled_predicate holds).filled]
    exact (each _ _ (refined_not ..) (base.filters_not ..)).2 n holds

theorem exists_predicate (compiles : ∃ s, (q.restrict column op (.value v)).toSql config = .ok s) :
    ∃ p, (⟨column, op, v⟩ : Filter).predicate config = .ok p := by
  obtain ⟨s, written⟩ := compiles
  have same := base.isOk_eq (refined_restrict column op v) (base.filters_restrict column op v)
  rw [written, FilterSet.Entry.predicate] at same
  cases holds : (⟨column, op, v⟩ : Filter).predicate config with
  | error cause =>
    rw [holds] at same
    cases same
  | ok p => exact ⟨p, rfl⟩

/-- With the value that the negated call takes, the typed call selects the complement. -/
theorem complementary_taken (known : Operator.parse? name = some op) {p : Predicate}
    (holds : (⟨column, op, Operand.taken op v⟩ : Filter).predicate config = .ok p) :
    Complementary config (q.restrict column op (.value (Operand.taken op v)))
      (q.not column name (.value v)) := by
  obtain ⟨params, typed, negation⟩ := base.exists_bound
  have agree := Filter.agree_negation config ⟨column, op, Operand.taken op v⟩
  rw [holds] at agree
  obtain ⟨n, negated, opposed⟩ := agree.exists_ok
  rw [← Negated.predicate, ← Negated.ofOperator_of_known known] at negated
  have compiled := negation column name v n negated
  rw [opposed.bound] at compiled
  refine ⟨_, _, _, typed _ _ _ _ holds, compiled, fun assigned => ?_⟩
  simpa [truth, truths] using opposed.contrary assigned

/-- Both calls bind one value each, so equal parameters are equal values. -/
theorem taken_eq_self {t sql : Text} (compares : op ∈ Filter.comparing)
    (known : Operator.parse? name = some op) (named : Ident.quote column = .ok sql)
    (complementary : Complementary config (q.restrict column op (.value (.str t)))
      (q.not column name (.value (.str t)))) :
    Operand.taken op (.str t) = .str t := by
  obtain ⟨p, holds, given⟩ := Filter.exists_predicate_of_comparing compares named config (.str t)
  obtain ⟨p', holds', took⟩ := Filter.exists_predicate_of_comparing compares named config
    (Operand.taken op (.str t))
  obtain ⟨_, _, params, first, second, -⟩ := complementary
  obtain ⟨_, _, params', first', second', -⟩ := base.complementary_taken known holds'
  obtain rfl := second.params_eq second'
  obtain ⟨start, typed, -⟩ := base.exists_bound
  have same := (first.params_eq (typed _ _ _ _ holds)).symm.trans
    (first'.params_eq (typed _ _ _ _ holds'))
  obtain given | ⟨⟨⟩, -⟩ := given
  rw [given] at same
  obtain took | ⟨-, took⟩ := took
  · rw [took] at same
    simpa using same.symm
  · rw [took] at same
    simp at same

/-- A text that the grammar reads as something else is compared with by the typed call alone. -/
theorem not_complementary {t sql : Text} (compares : op ∈ Filter.comparing)
    (known : Operator.parse? name = some op) (named : Ident.quote column = .ok sql)
    (other : Operand.taken op (.str t) ≠ .str t) :
    (∃ s, (q.restrict column op (.value (.str t))).toSql config = .ok s) ∧
      ¬ Complementary config (q.restrict column op (.value (.str t)))
        (q.not column name (.value (.str t))) := by
  obtain ⟨params, typed, -⟩ := base.exists_bound
  obtain ⟨p, holds, -⟩ := Filter.exists_predicate_of_comparing compares named config (.str t)
  obtain ⟨sql, written⟩ := (typed _ _ _ _ holds).written
  exact ⟨⟨_, written⟩, fun both => other (base.taken_eq_self compares known named both)⟩

end Unfiltered

/-- A negated call selects the complement of the typed call with the value that it takes, and so
that of the typed call with its own value just when this value stands for itself. -/
theorem not_complements {column name : Text} {op : Operator} {v : Json}
    (base : Unfiltered config q) (typed : Typed op v) (known : Operator.parse? name = some op)
    (compiles : ∃ s, (q.restrict column op (.value v)).toSql config = .ok s) :
    (Complementary config (q.restrict column op (.value v)) (q.not column name (.value v)) ↔
      Operand.Kept op v) ∧
    Complementary config (q.restrict column op (.value (Operand.taken op v)))
      (q.not column name (.value v)) := by
  obtain ⟨p, holds⟩ := base.exists_predicate compiles
  obtain ⟨sql, named, -⟩ := bind_eq_ok_iff.1 holds
  rw [Filter.quotedColumn_eq_ok_iff] at named
  have single (t : Text) (same : v = .str t) : op ∈ Filter.comparing := by
    cases typed with
    | list items => cases same
    | single compares => exact compares
  have kept : Operand.taken op v = v ↔ Operand.Kept op v :=
    Operand.taken_eq_self_iff fun t same list => by
      have compares := single t same
      simp [list, Filter.comparing] at compares
  have complement : Complementary config (q.restrict column op (.value (Operand.taken op v)))
      (q.not column name (.value v)) := by
    cases typed with
    | list items => exact base.complementary_taken known holds
    | single compares v =>
      obtain ⟨p', holds', -⟩ :=
        Filter.exists_predicate_of_comparing compares named config (Operand.taken op v)
      exact base.complementary_taken known holds'
  refine ⟨⟨fun both => kept.1 ?_, fun stands => ?_⟩, complement⟩
  · cases v with
    | str t => exact base.taken_eq_self (single t rfl) known named both
    | _ => rfl
  · rwa [kept.2 stands] at complement

theorem deleteAnns_complements : Unfiltered "english" (ofTable "users").delete ∧
    Typed .like (.str "ann %") ∧ Operator.parse? "like" = some .like ∧
      Complementary "english"
        ((ofTable "users").delete.restrict "name" .like (.value (.str "ann %")))
        ((ofTable "users").delete.not "name" "like" (.value (.str "ann %"))) := by
  have base : Unfiltered "english" (ofTable "users").delete :=
    ⟨rfl, rfl, ⟨"DELETE FROM \"users\"", []⟩, by decide +kernel⟩
  have typed : Typed .like (.str "ann %") := .single (by decide) _
  have known : Operator.parse? "like" = some .like := by decide
  have literal : Operand.Literal .like "ann %" :=
    ⟨by decide, by decide, fun _ => by decide, fun listed => absurd listed (by decide)⟩
  have compiles : ∃ s, ((ofTable "users").delete.restrict "name" .like
      (.value (.str "ann %"))).toSql "english" = .ok s :=
    ⟨⟨"DELETE FROM \"users\" WHERE \"name\" LIKE $1", [.str "ann %"]⟩, by decide +kernel⟩
  exact ⟨base, typed, known, (not_complements base typed known compiles).1.2 literal⟩

/-- The typed call compiles, and the negated one does not select its complement. -/
def Uncomplemented (op : Operator) (name t : Text) : Prop :=
  Operator.parse? name = some op ∧
    (∃ s, ((ofTable "games").restrict "a" op (.value (.str t))).toSql "english" = .ok s) ∧
      ¬ Complementary "english" ((ofTable "games").restrict "a" op (.value (.str t)))
        ((ofTable "games").not "a" name (.value (.str t)))

/-- Blanks, quotes, stars, and lists for an array: a text that the negated call reads as another
value. -/
theorem read_texts_uncomplemented :
    Uncomplemented .eq "eq" " x" ∧ Uncomplemented .gt "gt" "\"x\"" ∧
      Uncomplemented .like "like" "x*" ∧ Uncomplemented .overlaps "overlaps" "\x7bx\x7d" := by
  have named : Ident.quote "a" = .ok "\"a\"" := by decide +kernel
  refine ⟨⟨by decide, unfiltered_games.not_complementary (by decide) (by decide) named ?_⟩,
    ⟨by decide, unfiltered_games.not_complementary (by decide) (by decide) named ?_⟩,
    ⟨by decide, unfiltered_games.not_complementary (by decide) (by decide) named ?_⟩,
    ⟨by decide, unfiltered_games.not_complementary (by decide) (by decide) named ?_⟩⟩
  all_goals decide +kernel

end Query

end FluentQuery

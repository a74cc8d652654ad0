import FluentQuery.Proofs.Predicate.Written

/-! What filters compile to. Whatever the operator and however an or-expression nests its groups,
the predicate is a tree as filters write it and holds at least one condition; an or-expression
without items does not compile. -/
namespace FluentQuery

namespace Predicate

/-- A tree as filters write it that holds a condition. -/
structure Compiled (p : Predicate) : Prop where
  written : p.Written
  filled : p.isEmpty = false

theorem areEmpty_eq_false {parts : List Predicate} (filled : parts ≠ [])
    (each : ∀ p ∈ parts, p.Compiled) : areEmpty parts = false := by
  rw [Bool.eq_false_iff, ne_eq, areEmpty_iff]
  intro empty
  obtain ⟨p, member⟩ := List.exists_mem_of_ne_nil parts filled
  have holds := (each p member).filled
  rw [empty p member] at holds
  cases holds

namespace Compiled

theorem all {parts : List Predicate} (filled : parts ≠ []) (each : ∀ p ∈ parts, p.Compiled) :
    Compiled (.all parts) :=
  ⟨.all fun p member => (each p member).written, areEmpty_eq_false filled each⟩

theorem any {parts : List Predicate} (filled : parts ≠ []) (each : ∀ p ∈ parts, p.Compiled) :
    Compiled (.any parts) :=
  ⟨.any fun p member => (each p member).written, areEmpty_eq_false filled each⟩

theorem not {p : Predicate} (compiled : p.Compiled) : Compiled (.not p) :=
  ⟨.not compiled.written, compiled.filled⟩

section

variable {name column : Text} (quoted : Ident.quote name = .ok column)

include quoted

theorem compare {symbol : Text} (known : IsSymbol symbol) (v : Json) :
    Compiled (.compare column symbol v none) :=
  ⟨.compare quoted known v (by simp), rfl⟩

theorem containment {symbol : Text} (known : IsSymbol symbol) (v : Json) :
    Compiled (Filter.containment column symbol v) := by
  refine ⟨.compare quoted known v fun c member => ?_, rfl⟩
  split at member
  · cases member
    decide
  · cases member

theorem inList (values : List Json) : Compiled (.inList column values) := by
  unfold Predicate.inList
  split
  · exact ⟨.never, rfl⟩
  · exact ⟨.among quoted values false, rfl⟩

theorem notInList (values : List Json) : Compiled (.notInList column values) := by
  unfold Predicate.notInList
  split
  · exact ⟨.always, rfl⟩
  · exact ⟨.among quoted values true, rfl⟩

theorem state {keyword : Text} (known : keyword ∈ Sql.Condition.keywords) (negated : Bool) :
    Compiled (.state column keyword negated) :=
  ⟨.state quoted known negated, rfl⟩

end

end Compiled

end Predicate

open Predicate

namespace Filter

variable {config : Text} {f : Filter} {p : Predicate}

theorem quotedColumn_eq_ok_iff {sql : Text} :
    f.quotedColumn = .ok sql ↔ Ident.quote f.column = .ok sql := by
  unfold quotedColumn
  cases Ident.quote f.column <;> simp

theorem mem_of_lookup {pairs : List (Text × Text)} {key word : Text}
    (found : pairs.lookup key = some word) : word ∈ pairs.map Prod.snd := by
  obtain ⟨before, after, rfl, -⟩ := List.lookup_eq_some_iff.1 found
  simp

theorem mem_keywords {v : Json} {word : Text} (read : keyword v = .ok word) :
    word ∈ Sql.Condition.keywords := by
  unfold keyword at read
  split at read
  · cases read
    decide
  · cases read
    decide
  · cases read
    decide
  · split at read
    · next found =>
      cases read
      exact mem_of_lookup found
    · cases read
  · cases read

theorem compiled_predicate (compiles : f.predicate config = .ok p) : p.Compiled := by
  obtain ⟨column, named, rest⟩ := bind_eq_ok_iff.1 compiles
  have quoted := quotedColumn_eq_ok_iff.1 named
  cases op : f.op <;> simp only [op] at rest
  case is =>
    obtain ⟨word, read, rfl⟩ := map_eq_ok_iff.1 rest
    exact .state quoted (mem_keywords read) false
  case among =>
    obtain ⟨values, -, rfl⟩ := map_eq_ok_iff.1 rest
    exact .inList quoted values
  case contains =>
    cases rest
    exact .containment quoted (by decide) _
  case containedBy =>
    cases rest
    split
    · exact ⟨.never, rfl⟩
    · exact .containment quoted (by decide) _
  case overlaps =>
    cases rest
    split
    · exact ⟨.never, rfl⟩
    · exact .compare quoted (by decide) _
  case search kind own =>
    cases rest
    exact ⟨.search quoted kind _ _, rfl⟩
  all_goals
    cases rest
    exact .compare quoted (by decide) _

theorem compiled_negation (compiles : f.negation config = .ok p) : p.Compiled := by
  obtain ⟨column, named, rest⟩ := bind_eq_ok_iff.1 compiles
  have quoted := quotedColumn_eq_ok_iff.1 named
  cases op : f.op <;> simp only [op] at rest
  case is =>
    obtain ⟨word, read, rfl⟩ := map_eq_ok_iff.1 rest
    exact .state quoted (mem_keywords read) true
  case among =>
    obtain ⟨values, -, rfl⟩ := map_eq_ok_iff.1 rest
    exact .notInList quoted values
  case eq | neq | like | ilike =>
    cases rest
    exact .compare quoted (by decide) _
  -- no other operator has an opposite
  all_goals
    obtain ⟨positive, holds, rfl⟩ := map_eq_ok_iff.1 rest
    exact (compiled_predicate holds).not

end Filter

theorem Negated.compiled_predicate {config : Text} {n : Negated} {p : Predicate}
    (compiles : n.predicate config = .ok p) : p.Compiled := by
  cases n with
  | known f => exact Filter.compiled_negation compiles
  | fallback f =>
    obtain ⟨positive, holds, rfl⟩ := map_eq_ok_iff.1 compiles
    exact (Filter.compiled_predicate holds).not

namespace Logic

variable {config : Text}

theorem compiled_clause {item : Text} {p : Predicate}
    (compiles : clausePredicate config item = .ok p) : p.Compiled := by
  unfold clausePredicate at compiles
  split at compiles
  · cases compiles
  · split at compiles
    · exact Filter.compiled_negation compiles
    · exact Filter.compiled_predicate compiles

theorem Group.compiled {g : Group} {parts : List Predicate} (filled : parts ≠ [])
    (each : ∀ p ∈ parts, p.Compiled) : (g.predicate parts).Compiled := by
  unfold Group.predicate
  cases g.conjunctive <;> cases g.negated
  · exact .any filled each
  · exact (Compiled.any filled each).not
  · exact .all filled each
  · exact (Compiled.all filled each).not

/-- A list has items and each of them is compiled; so is each single item. -/
theorem compiled_list_item (config : Text) :
    (∀ raw parts, list config raw = .ok parts → parts ≠ [] ∧ ∀ p ∈ parts, p.Compiled) ∧
      ∀ text p, item config text = .ok p → p.Compiled := by
  apply list.mutual_induct
  case case1 =>
    intro raw none parts compiles
    rw [list, if_pos none] at compiles
    cases compiles
  case case2 =>
    intro raw some ih parts compiles
    rw [list, if_neg some] at compiles
    constructor
    · rintro rfl
      have same := (mapM_eq_ok_iff.1 compiles).length_eq
      exact some (by simpa using same)
    · intro p member
      obtain ⟨⟨piece, among⟩, -, compiles⟩ := exists_of_mem_mapM compiles member
      exact ih piece among p compiles
  case case3 =>
    intro text g group ih p compiles
    unfold item at compiles
    split at compiles
    · next other again =>
      obtain rfl : other = g := Option.some.inj (again.symm.trans group)
      obtain ⟨parts, listed, rfl⟩ := map_eq_ok_iff.1 compiles
      obtain ⟨filled, each⟩ := ih parts listed
      exact Group.compiled filled each
    · next none => cases none.symm.trans group
  case case4 =>
    intro text clause p compiles
    unfold item at compiles
    split at compiles
    · next g group => cases group.symm.trans clause
    · exact compiled_clause compiles

theorem compiled_parse {raw : Text} {p : Predicate} (compiles : parse config raw = .ok p) :
    p.Compiled := by
  obtain ⟨parts, listed, rfl⟩ := map_eq_ok_iff.1 compiles
  obtain ⟨filled, each⟩ := (compiled_list_item config).1 raw parts listed
  exact .any filled each

end Logic

/-- A set of filters compiles to one conjunction, which is empty only without filters. -/
theorem FilterSet.compiled_predicate {config : Text} {s : FilterSet} {p : Predicate}
    (compiles : s.predicate config = .ok p) :
    ∃ parts, p = .all parts ∧ (∀ c ∈ parts, c.Compiled) ∧ (parts = [] ↔ s.isEmpty = true) := by
  obtain ⟨plain, plains, rest⟩ := bind_eq_ok_iff.1 compiles
  obtain ⟨groups, grouped, rest⟩ := bind_eq_ok_iff.1 rest
  obtain ⟨negated, negations, last⟩ := bind_eq_ok_iff.1 rest
  cases last
  refine ⟨_, rfl, ?_, ?_⟩
  · intro c member
    rcases List.mem_append.1 member with member | member
    · rcases List.mem_append.1 member with member | member
      · obtain ⟨f, -, holds⟩ := exists_of_mem_mapM plains member
        exact Filter.compiled_predicate holds
      · obtain ⟨raw, -, holds⟩ := exists_of_mem_mapM grouped member
        exact Logic.compiled_parse holds
    · obtain ⟨n, -, holds⟩ := exists_of_mem_mapM negations member
      exact Negated.compiled_predicate holds
  · have lengths := (mapM_eq_ok_iff.1 plains).length_eq
    have groupLengths := (mapM_eq_ok_iff.1 grouped).length_eq
    have negatedLengths := (mapM_eq_ok_iff.1 negations).length_eq
    simp only [isEmpty, Bool.and_eq_true, List.isEmpty_iff, ← List.length_eq_zero_iff, lengths,
      groupLengths, negatedLengths, List.length_append, Nat.add_eq_zero_iff]

theorem FilterSet.written_predicate {config : Text} {s : FilterSet} {p : Predicate}
    (compiles : s.predicate config = .ok p) : p.Written := by
  obtain ⟨parts, rfl, each, -⟩ := compiled_predicate compiles
  exact .all fun c member => (each c member).written

end FluentQuery

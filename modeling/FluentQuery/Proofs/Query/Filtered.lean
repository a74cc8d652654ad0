import FluentQuery.Proofs.Query.Sound
import FluentQuery.Query.Call

/-! Filters do not vanish. A set of filters compiles to one conjunction with exactly one condition
for each recorded filter, none of which renders to nothing; and a statement that filters apply to
has a WHERE clause just when a filter was recorded. -/
namespace FluentQuery

namespace FilterSet

/-- A call that records a filter. -/
inductive Entry where
  | plain (filter : Filter)
  | group (raw : Text)
  | negated (column name : Text) (value : Json)

namespace Entry

def predicate (config : Text) : Entry → Except Invalid Predicate
  | .plain filter => filter.predicate config
  | .group raw => Logic.parse config raw
  | .negated column name value => (Negated.ofOperator column name value).predicate config

def plain? : Entry → Option Filter
  | .plain filter => some filter
  | _ => none

def group? : Entry → Option Text
  | .group raw => some raw
  | _ => none

def negated? : Entry → Option Negated
  | .negated column name value => some (.ofOperator column name value)
  | _ => none

end Entry

def record (s : FilterSet) : Entry → FilterSet
  | .plain filter => s.push filter
  | .group raw => s.pushGroup raw
  | .negated column name value => s.pushNegated (.ofOperator column name value)

def ofEntries (entries : List Entry) : FilterSet :=
  entries.foldl record empty

/-- Plain filters first and negated ones last, those of one kind as they were recorded. -/
def inOrder (entries : List Entry) : List Entry :=
  entries.filter (·.plain?.isSome) ++ entries.filter (·.group?.isSome) ++
    entries.filter (·.negated?.isSome)

variable {config : Text}

theorem foldl_record (entries : List Entry) (s : FilterSet) :
    entries.foldl record s = ⟨s.plain ++ entries.filterMap Entry.plain?,
      s.groups ++ entries.filterMap Entry.group?,
      s.negated ++ entries.filterMap Entry.negated?⟩ := by
  induction entries generalizing s with
  | nil => simp
  | cons entry rest ih =>
    rw [List.foldl_cons, ih]
    cases entry <;>
      simp [record, push, pushGroup, pushNegated, List.filterMap_cons, Entry.plain?, Entry.group?,
        Entry.negated?]

theorem ofEntries_eq (entries : List Entry) : ofEntries entries =
    ⟨entries.filterMap Entry.plain?, entries.filterMap Entry.group?,
      entries.filterMap Entry.negated?⟩ :=
  foldl_record entries empty

theorem perm_inOrder (entries : List Entry) : (inOrder entries).Perm entries := by
  unfold inOrder
  induction entries with
  | nil => exact .nil
  | cons entry rest ih =>
    cases entry with
    | plain filter => simpa [List.filter_cons, Entry.plain?, Entry.group?, Entry.negated?] using ih
    | group raw =>
      simp only [List.filter_cons, Entry.plain?, Entry.group?, Entry.negated?, Option.isSome_none,
        Option.isSome_some, if_true, Bool.false_eq_true, if_false]
      rw [List.append_assoc, List.cons_append]
      refine List.perm_middle.trans (.cons _ ?_)
      rwa [← List.append_assoc]
    | negated column name value =>
      simp only [List.filter_cons, Entry.plain?, Entry.group?, Entry.negated?, Option.isSome_none,
        Option.isSome_some, if_true, Bool.false_eq_true, if_false]
      exact List.perm_middle.trans (.cons _ ih)

theorem isEmpty_ofEntries (entries : List Entry) :
    (ofEntries entries).isEmpty = true ↔ entries = [] := by
  rw [ofEntries_eq]
  cases entries with
  | nil => simp [isEmpty]
  | cons entry rest => cases entry <;> simp [isEmpty, Entry.plain?, Entry.group?, Entry.negated?]

theorem mapM_filterMap {β : Type} {pick : Entry → Option β} {compile : β → Except Invalid Predicate}
    (same : ∀ entry b, pick entry = some b → entry.predicate config = compile b)
    (entries : List Entry) : (entries.filterMap pick).mapM compile =
      (entries.filter fun e => (pick e).isSome).mapM (Entry.predicate config) := by
  induction entries with
  | nil => rfl
  | cons entry rest ih =>
    cases picked : pick entry with
    | none => rw [List.filterMap_cons_none picked, List.filter_cons_of_neg (by simp [picked]), ih]
    | some b =>
      rw [List.filterMap_cons_some picked, List.filter_cons_of_pos (by simp [picked]),
        List.mapM_cons, List.mapM_cons, same entry b picked, ih]

/-- Recorded filters compile one by one, in their order, or the first fault is that of the set. -/
theorem predicate_ofEntries (config : Text) (entries : List Entry) :
    (ofEntries entries).predicate config =
      ((inOrder entries).mapM (Entry.predicate config)).map .all := by
  have plain : ∀ entry f, Entry.plain? entry = some f →
      entry.predicate config = Filter.predicate config f := by
    rintro ⟨⟩ _ ⟨⟩
    rfl
  have group : ∀ entry raw, Entry.group? entry = some raw →
      entry.predicate config = Logic.parse config raw := by
    rintro ⟨⟩ _ ⟨⟩
    rfl
  have negated : ∀ entry n, Entry.negated? entry = some n →
      entry.predicate config = Negated.predicate config n := by
    rintro ⟨⟩ _ ⟨⟩
    rfl
  rw [predicate, ofEntries_eq, inOrder, List.mapM_append, List.mapM_append, mapM_filterMap plain,
    mapM_filterMap group, mapM_filterMap negated]
  generalize (entries.filter fun e => e.plain?.isSome).mapM (Entry.predicate config) = first
  generalize (entries.filter fun e => e.group?.isSome).mapM (Entry.predicate config) = second
  generalize (entries.filter fun e => e.negated?.isSome).mapM (Entry.predicate config) = third
  cases first with
  | error cause => rfl
  | ok plain =>
    cases second with
    | error cause => rfl
    | ok groups => cases third <;> rfl

theorem compiled_entry {entry : Entry} {p : Predicate}
    (compiles : entry.predicate config = .ok p) : p.Compiled := by
  cases entry with
  | plain filter => exact Filter.compiled_predicate compiles
  | group raw => exact Logic.compiled_parse compiles
  | negated column name value => exact Negated.compiled_predicate compiles

end FilterSet

/-- A statement of the query that its filters apply to. -/
inductive Query.Restricts (q : Query) (config : Text) : Statement → Prop where
  | main {list : Option Text} {s : Statement} (takes : q.action.takesFilters = true)
      (listed : IsList list) (written : q.mainStatement config list = .ok s) : Restricts q config s
  | count {s : Statement} (written : q.countStatement config = .ok s) : Restricts q config s
  | plan {s : Statement} (written : q.planStatement config = .ok s) : Restricts q config s

theorem Query.Restricts.framed {q : Query} {config : Text} {s : Statement}
    (restricts : q.Restricts config s) : ∃ T, s = Template.statement T ∧ q.Framed config T := by
  cases restricts with
  | main takes listed written =>
    rw [mainStatement_eq] at written
    obtain ⟨T, templated, rfl⟩ := map_eq_ok_iff.1 written
    exact ⟨T, rfl, framed_mainTemplate listed takes templated⟩
  | count written =>
    rw [countStatement_eq] at written
    obtain ⟨T, templated, rfl⟩ := map_eq_ok_iff.1 written
    exact ⟨T, rfl, framed_countTemplate templated⟩
  | plan written =>
    rw [planStatement_eq] at written
    obtain ⟨T, templated, rfl⟩ := map_eq_ok_iff.1 written
    exact ⟨T, rfl, framed_planTemplate templated⟩

namespace FilterSet

/-- No filter vanishes: each recorded one has its own condition in the conjunction and its own text
in the SQL, a statement has a WHERE clause just when one was recorded, and only empty trees render
to nothing, which then take no parameter. -/
theorem filters_stand (config : Text) :
    (∀ entries p, (ofEntries entries).predicate config = .ok p →
      (inOrder entries).Perm entries ∧ ∃ parts, p = .all parts ∧
        List.Forall₂ (fun entry c => entry.predicate config = .ok c ∧ c.isEmpty = false)
          (inOrder entries) parts ∧
        ∀ params, ∃ texts, (p.build params).1 = Text.join " AND " texts ∧
          List.Forall₂ (fun c t => t ≠ [] ∧ ∃ n, t = c.operand.text n) parts texts) ∧
    (∀ entries, (ofEntries entries).isEmpty = true ↔ entries = []) ∧
    (∀ q s, Query.Restricts q config s →
      (Sql.HasWord "WHERE" s.sql ↔ q.filters.isEmpty = false) ∧
      ∃ front p params back, q.filters.predicate config = .ok p ∧ s.sql = front ++
        (if q.filters.isEmpty then [] else (" WHERE " : Text) ++ (p.build params).1) ++ back) ∧
    ∀ (p : Predicate) params, (p.isEmpty = true ↔ (p.build params).1 = []) ∧
      (p.isEmpty = true → (p.build params).2 = params) := by
  refine ⟨fun entries p compiles => ⟨perm_inOrder entries, ?_⟩, isEmpty_ofEntries, ?_, ?_⟩
  · rw [predicate_ofEntries] at compiles
    obtain ⟨parts, walked, rfl⟩ := map_eq_ok_iff.1 compiles
    have each := mapM_eq_ok_iff.1 walked
    refine ⟨parts, rfl, each.imp fun entry c compiles =>
      ⟨compiles, (compiled_entry compiles).filled⟩, fun params => ?_⟩
    have filled : ∀ c ∈ parts, c.isEmpty = false := fun c member => by
      obtain ⟨entry, -, compiles⟩ := exists_of_mem_mapM walked member
      exact (compiled_entry compiles).filled
    rw [Predicate.build_eq_fill]
    exact ⟨_, Template.text_join _ _ _, Predicate.forall₂_texts_templates filled _⟩
  · intro q s restricts
    obtain ⟨T, rfl, framed⟩ := restricts.framed
    exact ⟨framed.hasWord_iff 1, framed.exists_where⟩
  · intro p params
    refine ⟨Predicate.build_eq_nil_iff.symm, fun empty => ?_⟩
    rw [Predicate.build_of_isEmpty empty]

end FilterSet

namespace Query

def deleteYoung : Query :=
  ((ofTable "users").delete.not "name" "eq" (.value (.str "ann"))).restrict "age" .lt
    (.value (.int 3))

def deleteYoungStatement : Statement :=
  ⟨"DELETE FROM \"users\" WHERE \"age\" < $1 AND \"name\" != $2", [.int 3, .str "ann"]⟩

theorem deleteYoung_filtered :
    Restricts deleteYoung "english" deleteYoungStatement ∧
      deleteYoung.filters.isEmpty = false ∧ Sql.HasWord "WHERE" deleteYoungStatement.sql := by
  have written : deleteYoung.mainStatement "english" none = .ok deleteYoungStatement := by
    decide +kernel
  have restricts : Restricts deleteYoung "english" deleteYoungStatement := .main rfl .none written
  have filled : deleteYoung.filters.isEmpty = false := rfl
  obtain ⟨-, -, clauses, -⟩ := FilterSet.filters_stand "english"
  exact ⟨restricts, filled, (clauses _ _ restricts).1.2 filled⟩

end Query

end FluentQuery

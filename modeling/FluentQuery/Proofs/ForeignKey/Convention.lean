import FluentQuery.Proofs.ForeignKey.Resolved

/-! Hints that are no key's name but follow the naming convention `{table}_{column}_fkey`. Tables
and columns may hold underscores themselves, so that one name can be that of a column of the source
and of a column of the related table as well; it is then read as the source's. -/
namespace FluentQuery

namespace Plan

variable {source table column hint stem : Text}

/-- The name by convention of the key on a column of a table. -/
def conventional (table column : Text) : Text :=
  table ++ '_' :: column ++ "_fkey"

theorem stem?_eq_some_iff : stem? hint = some stem ↔ hint = stem ++ "_fkey" := by
  unfold stem?
  rw [Option.map_eq_some_iff]
  constructor
  · rintro ⟨back, stripped, rfl⟩
    have spelled := congrArg List.reverse (Text.isPrefixOf?_eq_some.1 stripped)
    rwa [List.reverse_reverse, List.reverse_append, List.reverse_reverse] at spelled
  · rintro rfl
    refine ⟨stem.reverse, ?_, List.reverse_reverse stem⟩
    rw [Text.isPrefixOf?_eq_some, List.reverse_append]

theorem columnOf?_eq_some_iff :
    columnOf? table stem = some column ↔ column ≠ [] ∧ stem = table ++ '_' :: column := by
  have spelled (rest : Text) :
      (table ++ ['_']).isPrefixOf? stem = some rest ↔ stem = table ++ '_' :: rest := by
    rw [Text.isPrefixOf?_eq_some, List.append_assoc, List.singleton_append]
  unfold columnOf?
  split
  · next bare =>
    rw [spelled] at bare
    subst bare
    simp [eq_comm]
  · next filled =>
    rw [spelled]
    constructor
    · intro same
      refine ⟨?_, same⟩
      rintro rfl
      exact filled ((spelled []).2 same)
    · exact And.right

theorem columnOf?_eq_none_iff :
    columnOf? table stem = none ↔ ∀ column, column ≠ [] → stem ≠ table ++ '_' :: column := by
  simp only [Option.eq_none_iff_forall_ne_some, ne_eq, columnOf?_eq_some_iff, not_and]

theorem stem?_conventional (table column : Text) :
    stem? (conventional table column) = some (table ++ '_' :: column) :=
  stem?_eq_some_iff.2 rfl

/-- Two names are the same just when they are before the suffix. -/
theorem conventional_inj {other : Text} :
    conventional table column = conventional source other ↔
      table ++ '_' :: column = source ++ '_' :: other :=
  List.append_left_inj _

theorem ofConvention?_source (table : Text) (filled : column ≠ []) :
    ofConvention? (conventional source column) source table =
      some ⟨.manyToOne, column, "id", table⟩ := by
  have read : columnOf? source (source ++ '_' :: column) = some column :=
    columnOf?_eq_some_iff.2 ⟨filled, rfl⟩
  rw [ofConvention?, stem?_conventional]
  simp only [read]

/-- The name of a column of the related table is read as such unless it can be read as that of a
column of the source. -/
theorem ofConvention?_table (source : Text) (filled : column ≠ []) :
    ofConvention? (conventional table column) source table =
      some (match columnOf? source (table ++ '_' :: column) with
        | some other => ⟨.manyToOne, other, "id", table⟩
        | none => ⟨.oneToMany, "id", column, table⟩) := by
  have read : columnOf? table (table ++ '_' :: column) = some column :=
    columnOf?_eq_some_iff.2 ⟨filled, rfl⟩
  rw [ofConvention?, stem?_conventional]
  simp only [read]
  cases columnOf? source (table ++ '_' :: column) <;> rfl

end Plan

namespace Resolution

open Plan (conventional)

/-- If no key has the hint's name, the name by convention of a column of the source leads to one row
by that column, whatever else it could mean; and that of a column of the related table leads to the
rows with that column just when it is not the name of a column of the source as well. -/
theorem convention_resolved {column : Text} (filled : column ≠ []) (g : Graph) (guessing : Bool)
    (source : Text) (r : Reference) :
    (r.hint = some (conventional source column) →
      (∀ k ∈ g, k.name ≠ conventional source column) →
      resolve g guessing source r = .found ⟨.manyToOne, column, "id", r.table⟩) ∧
    (r.hint = some (conventional r.table column) →
      (∀ k ∈ g, k.name ≠ conventional r.table column) →
      (resolve g guessing source r = .found ⟨.oneToMany, "id", column, r.table⟩ ↔
        ∀ other, other ≠ [] → conventional r.table column ≠ conventional source other)) := by
  constructor
  · intro hinted unknown
    apply resolve_of_byHint
    rw [byHint_of_unknown hinted unknown, Plan.ofConvention?_source r.table filled]
  · intro hinted unknown
    simp only [ne_eq, Plan.conventional_inj]
    rw [← Plan.columnOf?_eq_none_iff]
    have read : byHint g r source = _ :=
      (byHint_of_unknown hinted unknown).trans (Plan.ofConvention?_table source filled)
    rw [resolve_of_byHint read]
    cases Plan.columnOf? source (r.table ++ '_' :: column) <;> simp

def likesByName : Reference :=
  ⟨"likes", "likes", some (conventional "likes" "post_id"), false, "*"⟩

theorem likesByName_resolved :
    ("post_id" : Text) ≠ [] ∧ likesByName.hint = some (conventional likesByName.table "post_id") ∧
      (∀ k ∈ newsroom, k.name ≠ conventional likesByName.table "post_id") ∧
      resolve newsroom true "posts" likesByName =
        .found ⟨.oneToMany, "id", "post_id", "likes"⟩ := by
  have filled : ("post_id" : Text) ≠ [] := by decide
  have unknown : ∀ k ∈ newsroom, k.name ≠ conventional likesByName.table "post_id" := by decide
  refine ⟨filled, rfl, unknown, ?_⟩
  refine ((convention_resolved filled newsroom true "posts" likesByName).2 rfl unknown).2 ?_
  intro other _ same
  have first : 'l' = 'p' := (List.cons.inj same).1
  exact absurd first (by decide)

/-- From `user`, by a name that two columns have: `user_id` of `user_roles` and `roles_user_id` of
`user`. -/
def rolesByName : Reference :=
  ⟨"user_roles", "user_roles", some (conventional "user_roles" "user_id"), false, "*"⟩

/-- The related table's column is not found by its name, which the source's column has as well. -/
theorem rolesByName_misread :
    ("user_roles" : Text) ≠ "user" ∧ ("user_id" : Text) ≠ [] ∧
      rolesByName.table = "user_roles" ∧
      rolesByName.hint = some (conventional "user_roles" "user_id") ∧
      conventional "user_roles" "user_id" = conventional "user" "roles_user_id" ∧
      resolve [] true "user" rolesByName =
        .found ⟨.manyToOne, "roles_user_id", "id", "user_roles"⟩ ∧
      ∀ localColumn,
        resolve [] true "user" rolesByName ≠
          .found ⟨.oneToMany, localColumn, "user_id", "user_roles"⟩ := by
  have read : resolve [] true "user" rolesByName =
      .found ⟨.manyToOne, "roles_user_id", "id", "user_roles"⟩ := by decide
  refine ⟨by decide, by decide, rfl, rfl, rfl, read, fun localColumn other => ?_⟩
  cases read.symm.trans other

end Resolution

end FluentQuery

import FluentQuery.Projection
import FluentQuery.Proofs.Job

/-! Which select lists can be made. The columns of the caller are read one by one; a required
column that they do not offer is added, and this is possible only if its name can be written. -/
namespace FluentQuery

theorem Text.join_eq_nil_iff {sep : Text} {parts : List Text} (filled : ∀ t ∈ parts, t ≠ []) :
    join sep parts = [] ↔ parts = [] := by
  cases parts with
  | nil => simp
  | cons t rest =>
    have first := filled t List.mem_cons_self
    cases rest with
    | nil => simp [first]
    | cons u rest => simp [join_cons_cons, first]

namespace Ident

theorem partsFrom_ne_nil {whole rest : Text} {names : List Text}
    (parsed : partsFrom whole rest = .ok names) : names ≠ [] := by
  rw [partsFrom] at parsed
  split at parsed
  · cases parsed
  · cases parsed
    simp
  · split at parsed
    · cases parsed
    · split at parsed
      · cases parsed
      · split at parsed
        · cases parsed
        · cases parsed
          simp

theorem quotePart_ne_nil (t : Text) : quotePart t ≠ [] := by
  simp [quotePart]

theorem sql_ne_nil {t : Text} {i : Ident} (parsed : parse t = .ok i) : i.sql ≠ [] := by
  unfold parse at parsed
  split at parsed
  · cases parsed
  · split at parsed
    · cases parsed
    · obtain ⟨names, read, rfl⟩ := map_eq_ok_iff.1 parsed
      rw [sql, ne_eq, Text.join_eq_nil_iff]
      · simpa using partsFrom_ne_nil read
      · intro part member
        obtain ⟨name, -, rfl⟩ := List.mem_map.1 member
        exact quotePart_ne_nil name

theorem quote_ne_nil {t sql : Text} (quoted : quote t = .ok sql) : sql ≠ [] := by
  obtain ⟨i, parsed, rfl⟩ := map_eq_ok_iff.1 quoted
  exact sql_ne_nil parsed

end Ident

theorem Column.sql_ne_nil {token : Text} {column : Column}
    (parsed : Column.parse token = .ok column) : column.sql ≠ [] := by
  unfold Column.parse at parsed
  split at parsed
  · cases parsed
    simp
  · simp only at parsed
    split at parsed
    · cases parsed
    · next ident read =>
      split at parsed
      · cases parsed
      · split at parsed
        · cases parsed
        · cases parsed
          simp [Ident.sql_ne_nil read]

namespace Projection

theorem quoted_eq_ok_iff {t sql : Text} : quoted t = .ok sql ↔ Ident.quote t = .ok sql := by
  unfold quoted
  cases Ident.quote t <;> simp

theorem addition_sql_ne_nil {o : Offer} {column : Text} {a : Addition}
    (added : addition o column = .ok a) : a.sql ≠ [] := by
  obtain ⟨sql, written, rest⟩ := bind_eq_ok_iff.1 added
  have filled := Ident.quote_ne_nil (quoted_eq_ok_iff.1 written)
  split at rest
  · obtain ⟨name, -, last⟩ := bind_eq_ok_iff.1 rest
    cases last
    simp [filled]
  · cases rest
    exact filled

/-- A column that a select list can carry in addition to what it offers. -/
def Nameable (o : Offer) (column : Text) : Prop :=
  ∃ a, addition o column = .ok a

/-- The projection of columns and additions. -/
def of (columns : List Column) (additions : List Addition) : Projection where
  sql := Text.join ", " (columns.map Column.sql ++ additions.map Addition.sql)
  added := additions.map Addition.key
  keys := additions.filterMap fun a => a.hides.map fun column => (column, a.key)

theorem make_eq_ok_iff {s : Selection} {required : List Text} {p : Projection} :
    make s required = .ok p ↔ ∃ columns additions,
      s.columnTokens.mapM Column.parse = .ok columns ∧
      (missing (offer columns) required).mapM (addition (offer columns)) = .ok additions ∧
      p = of columns additions := by
  rw [make, bind_eq_ok_iff]
  refine exists_congr fun columns => ?_
  constructor
  · rintro ⟨parsed, rest⟩
    obtain ⟨additions, added, last⟩ := bind_eq_ok_iff.1 rest
    exact ⟨additions, parsed, added, (Except.ok.inj last).symm⟩
  · rintro ⟨additions, parsed, added, rfl⟩
    exact ⟨parsed, bind_eq_ok_iff.2 ⟨additions, added, rfl⟩⟩

variable {s : Selection} {columns : List Column} {required : List Text}

/-- The select list can be made just when all missing columns can be named. -/
theorem exists_make_iff (parsed : s.columnTokens.mapM Column.parse = .ok columns) :
    (∃ p, make s required = .ok p) ↔
      ∀ column ∈ missing (offer columns) required, Nameable (offer columns) column := by
  unfold Nameable
  rw [← exists_mapM_eq_ok_iff]
  constructor
  · rintro ⟨p, made⟩
    obtain ⟨others, additions, again, added, -⟩ := make_eq_ok_iff.1 made
    obtain rfl : others = columns := Except.ok.inj (again.symm.trans parsed)
    exact ⟨additions, added⟩
  · rintro ⟨additions, added⟩
    exact ⟨of columns additions, make_eq_ok_iff.2 ⟨columns, additions, parsed, added, rfl⟩⟩

/-- A select list is empty only without columns. -/
theorem sql_eq_nil_iff {p : Projection} (parsed : s.columnTokens.mapM Column.parse = .ok columns)
    (made : make s required = .ok p) :
    p.sql = [] ↔ columns = [] ∧ missing (offer columns) required = [] := by
  obtain ⟨others, additions, again, added, rfl⟩ := make_eq_ok_iff.1 made
  obtain rfl : others = columns := Except.ok.inj (again.symm.trans parsed)
  rw [of, Text.join_eq_nil_iff]
  · simp only [List.append_eq_nil_iff, List.map_eq_nil_iff]
    refine and_congr_right fun _ => ?_
    rw [← List.length_eq_zero_iff, ← List.length_eq_zero_iff, (mapM_eq_ok_iff.1 added).length_eq]
  · intro sql member
    rcases List.mem_append.1 member with member | member
    · obtain ⟨column, among, rfl⟩ := List.mem_map.1 member
      obtain ⟨token, -, read⟩ := exists_of_mem_mapM parsed among
      exact Column.sql_ne_nil read
    · obtain ⟨a, among, rfl⟩ := List.mem_map.1 member
      obtain ⟨column, -, read⟩ := exists_of_mem_mapM added among
      exact addition_sql_ne_nil read

/-! Row keys -/

/-- The row key of a required column: its own name, or a private one if that is taken. -/
def Offer.keyOf (o : Offer) (column : Text) : Text :=
  if o.isShadowed column then privateMark ++ column else column

theorem addition_eq {o : Offer} {column : Text} {a : Addition} (added : addition o column = .ok a) :
    a.key = o.keyOf column ∧ a.hides = if o.isShadowed column then some column else none := by
  obtain ⟨sql, -, rest⟩ := bind_eq_ok_iff.1 added
  unfold Offer.keyOf
  split at rest
  · next shadowed =>
    obtain ⟨name, -, last⟩ := bind_eq_ok_iff.1 rest
    cases last
    simp [shadowed]
  · next free =>
    cases rest
    simp [free]

theorem map_key_of_additions {o : Offer} {columns : List Text} {additions : List Addition}
    (added : columns.mapM (addition o) = .ok additions) :
    additions.map Addition.key = columns.map o.keyOf := by
  induction mapM_eq_ok_iff.1 added with
  | nil => rfl
  | cons first later ih =>
    rw [List.map_cons, List.map_cons, (addition_eq first).1, ih (mapM_eq_ok_iff.2 later)]

/-- A shadowed column is never on offer. -/
theorem mem_missing_of_shadowed {o : Offer} {column : Text} (shadowed : o.isShadowed column = true)
    (member : column ∈ required) : column ∈ missing o required := by
  simp [missing, List.mem_filter, member, Offer.has, shadowed]

theorem lookup_hidden {o : Offer} {names : List Text} {additions : List Addition}
    (added : names.mapM (addition o) = .ok additions) (column : Text) :
    (additions.filterMap fun a => a.hides.map fun hidden => (hidden, a.key)).lookup column =
      if column ∈ names ∧ o.isShadowed column = true then some (privateMark ++ column)
      else none := by
  induction mapM_eq_ok_iff.1 added with
  | nil => simp
  | @cons name a names additions first later ih =>
    have rest := ih (mapM_eq_ok_iff.2 later)
    obtain ⟨key, hides⟩ := addition_eq first
    rw [List.filterMap_cons, hides]
    by_cases shadowed : o.isShadowed name = true
    · simp only [shadowed, if_true, Option.map_some, List.lookup_cons, rest, key, Offer.keyOf]
      by_cases same : column = name
      · simp [same, shadowed]
      · simp [same, beq_eq_false_iff_ne.2 same]
    · simp only [shadowed, Bool.false_eq_true, if_false, Option.map_none, rest]
      by_cases same : column = name
      · subst same
        simp [shadowed]
      · simp [same]

/-- Where the stored value of a required column stands in a fetched row. -/
theorem keyOf_of_mem {additions : List Addition}
    (added : (missing (offer columns) required).mapM (addition (offer columns)) = .ok additions)
    {column : Text} (member : column ∈ required) :
    (of columns additions).keyOf column = (offer columns).keyOf column := by
  rw [Projection.keyOf, of, lookup_hidden added, Offer.keyOf]
  by_cases shadowed : (offer columns).isShadowed column = true
  · simp [shadowed, mem_missing_of_shadowed shadowed member]
  · simp [shadowed]

end Projection

end FluentQuery

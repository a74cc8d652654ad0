import FluentQuery.Proofs.Relation.Batched

/-! Values and the names they are grouped under. No two values share a name, whatever they look
like as text: so a list of names is as good as one of values. The values of a column are asked for
once each, in the order of the rows that bring them up, and a group holds the rows of one value. -/
namespace FluentQuery.Relation

open NestedLoop

/-! The values that are asked for -/

/-- Values stand in the order of the first items that have them. -/
theorem findIdx_lt_of_idxOf_lt {α β : Type} [DecidableEq β] {f : α → Option β} {items : List α}
    {a b : β} (before : (items.filterMap f).idxOf a < (items.filterMap f).idxOf b) :
    items.findIdx (fun x => f x = some a) < items.findIdx (fun x => f x = some b) := by
  induction items with
  | nil => exact absurd before (Nat.lt_irrefl 0)
  | cons item rest ih =>
    rw [List.findIdx_cons, List.findIdx_cons]
    rw [List.filterMap_cons] at before
    cases value : f item with
    | none =>
      rw [value] at before
      simpa using ih before
    | some c =>
      have later : c ≠ b := by
        rintro rfl
        simp [value] at before
      by_cases first : c = a
      · simp [first, first ▸ later]
      · rw [value] at before
        dsimp only at before
        rw [List.idxOf_cons_ne _ first, List.idxOf_cons_ne _ later] at before
        simpa [first, later] using ih (Nat.lt_of_succ_lt_succ before)

theorem pairwise_findIdx_distinctKeys (column : Text) (rows : List Row) :
    (distinctKeys column rows).Pairwise fun v w =>
      rows.findIdx (fun row => Row.get? column row = some v) <
        rows.findIdx (fun row => Row.get? column row = some w) := by
  have ordered := pairwise_idxOf_eraseDups
    ((rows.filterMap (Row.get? column)).filter fun v => v ≠ .null)
  rw [← distinctKeys_eq, List.filter_filterMap] at ordered
  have same : ∀ v ∈ distinctKeys column rows, ∀ row : Row,
      (Row.get? column row).filter (fun v => decide (v ≠ .null)) = some v ↔
        Row.get? column row = some v := by
    intro v asked row
    rw [Option.filter_eq_some_iff, decide_eq_true_eq]
    exact and_iff_left (mem_distinctKeys.1 asked).1
  refine ordered.imp_of_mem fun {v w} first second before => ?_
  have earlier := findIdx_lt_of_idxOf_lt before
  simpa only [same v first, same w second] using earlier

/-! Groups -/

/-- A related row as a parent gets it. -/
def shown (l : Lookup) (row : Row) : Row :=
  if l.added.contains l.matchKey then Row.erase l.matchKey row else row

theorem keyed_of_get? {link : Link} {l : Lookup} {row : Row} {v : Json} {key : Text}
    (holds : Row.get? l.matchKey row = some v) (named : joinKey v = some key) :
    keyed link l row = .ok (key, shown l row) := by
  have found : keyIn row l.matchKey = some key := by rw [keyIn, holds, Option.bind_some, named]
  rw [keyed, found]
  rfl

section

variable (link : Link) {l : Lookup} {rows : List Row}
  (joins : ∀ row ∈ rows, (Row.get? l.matchKey row).getD .null ≠ .null)
include joins

/-- The rows under the name of a value are those that hold it. -/
theorem exists_matching : ∃ pairs, rows.mapM (keyed link l) = .ok pairs ∧
    ∀ v, matching pairs (joinKey v) =
      (partners l.matchKey v rows).map fun row => .obj (shown l row) := by
  induction rows with
  | nil =>
    refine ⟨[], rfl, fun v => ?_⟩
    unfold matching partners
    cases joinKey v <;> simp
  | cons row rest ih =>
    obtain ⟨pairs, grouped, found⟩ := ih fun row member => joins row (List.mem_cons_of_mem _ member)
    have joined := joins row List.mem_cons_self
    obtain ⟨v, holds⟩ : ∃ v, Row.get? l.matchKey row = some v := by
      refine Option.ne_none_iff_exists'.1 fun none => joined ?_
      rw [none, Option.getD_none]
    rw [holds, Option.getD_some] at joined
    obtain ⟨key, named⟩ := Option.ne_none_iff_exists'.1 (mt joinKey_eq_none_iff.1 joined)
    refine ⟨(key, shown l row) :: pairs, ?_, fun w => ?_⟩
    · rw [List.mapM_cons, keyed_of_get? holds named, grouped]
      rfl
    · by_cases null : w = .null
      · rw [null, partners, if_pos rfl]
        rfl
      · obtain ⟨other, named'⟩ := Option.ne_none_iff_exists'.1 (mt joinKey_eq_none_iff.1 null)
        have same : key = other ↔ v = w := by
          rw [← Option.some_inj, ← named, ← named']
          exact ⟨joinKey_inj joined, congrArg joinKey⟩
        have later := found w
        rw [named', partners, if_neg null] at later
        rw [named', partners, if_neg null]
        unfold matching at later ⊢
        by_cases equal : v = w
        · simp [holds, equal, same.2 equal, ← later]
        · simp [holds, equal, mt same.1 equal, ← later]

theorem exists_valuesFor : ∃ pairs, rows.mapM (keyed link l) = .ok pairs ∧
    ∀ parents, valuesFor link parents pairs = parents.map fun parent =>
      gather link.plan.direction
        ((partners l.matchKey ((Row.get? link.localKey parent).getD .null) rows).map fun row =>
          .obj (shown l row)) := by
  obtain ⟨pairs, grouped, found⟩ := exists_matching link joins
  refine ⟨pairs, grouped, fun parents => List.map_congr_left fun parent _ => ?_⟩
  rw [keyIn_eq, found]

end

/-- Different values have different names. So the values of a column that join are asked for once
each, in the order of the first rows that hold them, and a parent gets the related rows that hold
its own value, in their order, and no others. -/
theorem joinKeys_apart :
    (∀ v w : Json, v ≠ .null → joinKey v = joinKey w → v = w) ∧
    (∀ column rows,
      (distinctKeys column rows).Nodup ∧
      (∀ v, v ∈ distinctKeys column rows ↔
        v ≠ .null ∧ ∃ row ∈ rows, Row.get? column row = some v) ∧
      (distinctKeys column rows).Pairwise fun v w =>
        rows.findIdx (fun row => Row.get? column row = some v) <
          rows.findIdx (fun row => Row.get? column row = some w)) ∧
    (∀ (link : Link) (l : Lookup) (rows : List Row),
      (∀ row ∈ rows, (Row.get? l.matchKey row).getD .null ≠ .null) →
      ∃ pairs, rows.mapM (keyed link l) = .ok pairs ∧
        ∀ parents, valuesFor link parents pairs = parents.map fun parent =>
          gather link.plan.direction
            ((partners l.matchKey ((Row.get? link.localKey parent).getD .null) rows).map fun row =>
              .obj (shown l row))) := by
  refine ⟨fun _ _ => joinKey_inj, fun column rows => ?_, fun link _ _ => exists_valuesFor link⟩
  exact ⟨nodup_distinctKeys column rows, fun _ => mem_distinctKeys,
    pairwise_findIdx_distinctKeys column rows⟩

/-- Notes under a number, under texts that look like it or like its name, and under a list. -/
def taggedNotes : List Row :=
  [[("tag", .int 1), ("title", .str "a")], [("tag", .str "1"), ("title", .str "b")],
    [("tag", .str "n:1"), ("title", .str "c")], [("tag", .int 1), ("title", .str "d")],
    [("tag", .arr [.str "1"]), ("title", .str "e")]]

def notesOfTag : Link :=
  ⟨⟨"notes", "notes", none, false, "title"⟩, ⟨.oneToMany, "id", "tag", "notes"⟩, "id"⟩

def notesLookup : Lookup :=
  ⟨"\"title\", \"tag\"", "\"notes\"", "\"tag\"", [], "tag", ["tag"], 100⟩

theorem taggedNotes_apart :
    joinKey (.int 1) ≠ joinKey (.str "n:1") ∧
    (∀ row ∈ taggedNotes, (Row.get? notesLookup.matchKey row).getD .null ≠ .null) ∧
    ∃ pairs, taggedNotes.mapM (keyed notesOfTag notesLookup) = .ok pairs ∧
      valuesFor notesOfTag [[("id", .int 1)], [("id", .str "n:1")], [("id", .null)]] pairs =
        [.arr [.obj [("title", .str "a")], .obj [("title", .str "d")]],
          .arr [.obj [("title", .str "c")]], .arr []] := by
  obtain ⟨apart, -, grouped⟩ := joinKeys_apart
  have joins : ∀ row ∈ taggedNotes, (Row.get? notesLookup.matchKey row).getD .null ≠ .null := by
    decide
  obtain ⟨pairs, keyedAs, values⟩ := grouped notesOfTag notesLookup taggedNotes joins
  have numbered : (.int 1 : Json) ≠ .null := by decide
  refine ⟨fun same => ?_, joins, pairs, keyedAs, ?_⟩
  · cases apart _ _ numbered same
  · rw [values]
    decide

end FluentQuery.Relation

import FluentQuery.Proofs.Json.JoinKey
import FluentQuery.Proofs.Row

/-! The keys that a reference asks for. Each value that joins something is asked for once, and in
one batch, so every row of a table that holds one of them is fetched exactly once. -/
namespace FluentQuery.Relation

variable {column : Text} {rows : List Row} {v : Json}

/-- The values of a column that join, with their keys. -/
theorem mem_keyedValues {pair : Text × Json} :
    pair ∈ ((rows.filterMap (Row.get? column)).filterMap fun v =>
        (joinKey v).map fun key => (key, v)) ↔
      joinKey pair.2 = some pair.1 ∧ ∃ row ∈ rows, Row.get? column row = some pair.2 := by
  obtain ⟨key, v⟩ := pair
  simp only [List.mem_filterMap, Option.map_eq_some_iff, Prod.mk.injEq]
  constructor
  · rintro ⟨w, found, k, joins, rfl, rfl⟩
    exact ⟨joins, found⟩
  · rintro ⟨joins, found⟩
    exact ⟨v, found, key, joins, rfl, rfl⟩

theorem mem_distinctKeys :
    v ∈ distinctKeys column rows ↔ v ≠ .null ∧ ∃ row ∈ rows, Row.get? column row = some v := by
  unfold distinctKeys
  rw [List.mem_map]
  constructor
  · rintro ⟨pair, kept, rfl⟩
    obtain ⟨joins, found⟩ := mem_keyedValues.1 ((eraseDupsBy_sublist _ _).subset kept)
    refine ⟨fun null => ?_, found⟩
    rw [null] at joins
    cases joins
  · rintro ⟨joins, found⟩
    obtain ⟨key, eq⟩ := Option.ne_none_iff_exists'.1 (mt joinKey_eq_none_iff.1 joins)
    have among := mem_keyedValues.2 (⟨eq, found⟩ : joinKey (key, v).2 = some (key, v).1 ∧ _)
    have listed := List.mem_map_of_mem (f := Prod.fst) among
    rw [← (nodup_map_eraseDupsBy Prod.fst _).2] at listed
    obtain ⟨pair, kept, same⟩ := List.mem_map.1 listed
    obtain ⟨other, -⟩ := mem_keyedValues.1 ((eraseDupsBy_sublist _ _).subset kept)
    refine ⟨pair, kept, (joinKey_inj joins ?_).symm⟩
    rw [eq, other, same]

theorem nodup_distinctKeys (column : Text) (rows : List Row) :
    (distinctKeys column rows).Nodup := by
  unfold distinctKeys
  have once := (nodup_map_eraseDupsBy Prod.fst
    ((rows.filterMap (Row.get? column)).filterMap fun v => (joinKey v).map fun key => (key, v))).1
  rw [List.Nodup, List.pairwise_map] at once ⊢
  refine once.imp_of_mem fun {p q} first second apart same => apart ?_
  have left := (mem_keyedValues.1 ((eraseDupsBy_sublist _ _).subset first)).1
  have right := (mem_keyedValues.1 ((eraseDupsBy_sublist _ _).subset second)).1
  rw [same, right] at left
  exact (Option.some.inj left).symm

/-- If the first parts tell the same items apart as the second do, either serve to tell which
come again. -/
theorem map_snd_eraseDupsBy {items : List (Text × Json)}
    (apart : ∀ a ∈ items, ∀ b ∈ items, a.1 = b.1 ↔ a.2 = b.2) :
    (items.eraseDupsBy fun a b => a.1 == b.1).map Prod.snd = (items.map Prod.snd).eraseDups := by
  match items with
  | [] => rfl
  | item :: rest =>
    have fewer : ∀ b ∈ rest.filter (fun b => (b.1 == item.1) = false), b ∈ item :: rest :=
      fun b kept => List.mem_cons_of_mem _ (List.mem_of_mem_filter kept)
    have later := map_snd_eraseDupsBy fun a first b second =>
      apart a (fewer a first) b (fewer b second)
    rw [List.eraseDupsBy_cons, List.map_cons, later, List.map_cons, List.eraseDups_cons,
      List.filter_map]
    congr 3
    refine List.filter_congr fun b among => ?_
    have same := apart b (List.mem_cons_of_mem _ among) item List.mem_cons_self
    by_cases equal : b.2 = item.2
    · simp [equal, same.2 equal]
    · simp [equal, mt same.1 equal]
termination_by items.length
decreasing_by exact Nat.lt_succ_of_le (List.length_filter_le _ _)

/-- The keys are the values other than null, each once, as they first appear. -/
theorem distinctKeys_eq (column : Text) (rows : List Row) : distinctKeys column rows =
    ((rows.filterMap (Row.get? column)).filter fun v => v ≠ .null).eraseDups := by
  have values : ((rows.filterMap (Row.get? column)).filterMap fun v =>
      (joinKey v).map fun key => (key, v)).map Prod.snd =
        (rows.filterMap (Row.get? column)).filter fun v => v ≠ .null := by
    rw [List.map_filterMap, ← List.filterMap_eq_filter]
    refine List.filterMap_congr fun v _ => ?_
    by_cases null : v = .null
    · simp [null, joinKey, Option.guard]
    · obtain ⟨key, named⟩ := Option.ne_none_iff_exists'.1 (mt joinKey_eq_none_iff.1 null)
      simp [null, named, Option.guard]
  rw [← values]
  refine map_snd_eraseDupsBy fun a first b second => ?_
  have left := (mem_keyedValues.1 first).1
  have right := (mem_keyedValues.1 second).1
  constructor
  · intro same
    refine joinKey_inj (fun null => ?_) (left.trans (same ▸ right.symm))
    rw [null] at left
    cases left
  · intro same
    exact Option.some.inj (left.symm.trans (same ▸ right))

/-! Batches -/

theorem flatten_batches {α : Type} (size : Nat) (items : List α) :
    (batches size items).flatten = items := by
  induction items using batches.induct size with
  | case1 => rw [batches, if_pos rfl, List.flatten_nil]
  | case2 items filled ih =>
    rw [batches, if_neg filled, List.flatten_cons, ih, List.take_append_drop]

/-- Every batch but the last is full. -/
theorem length_batches {α : Type} (size : Nat) (items : List α) :
    (batches size items).length = (items.length + max size 1 - 1) / max size 1 := by
  have positive : 0 < max size 1 := Nat.lt_of_lt_of_le Nat.one_pos (Nat.le_max_right ..)
  induction items using batches.induct size with
  | case1 =>
    rw [batches, if_pos rfl, List.length_nil, List.length_nil, Nat.zero_add]
    exact (Nat.div_eq_of_lt (Nat.sub_lt positive Nat.one_pos)).symm
  | case2 items filled ih =>
    have some_ := List.length_pos_iff.2 filled
    rw [batches, if_neg filled, List.length_cons, ih, List.length_drop]
    obtain more | last := Nat.lt_or_ge (max size 1) items.length
    · have step : items.length + max size 1 - 1 =
          items.length - max size 1 + max size 1 - 1 + max size 1 := by omega
      rw [step, Nat.add_div_right _ positive]
    · rw [Nat.sub_eq_zero_of_le last, Nat.zero_add,
        Nat.div_eq_of_lt (Nat.sub_lt positive Nat.one_pos)]
      exact (Nat.div_eq_of_lt_le (by omega) (by omega)).symm

theorem length_of_mem_batches {α : Type} {size : Nat} {items part : List α}
    (member : part ∈ batches size items) : 1 ≤ part.length ∧ part.length ≤ max size 1 := by
  induction items using batches.induct size with
  | case1 =>
    rw [batches, if_pos rfl] at member
    cases member
  | case2 items filled ih =>
    rw [batches, if_neg filled] at member
    obtain rfl | later := List.mem_cons.1 member
    · have some_ := List.length_pos_iff.2 filled
      rw [List.length_take]
      omega
    · exact ih later

theorem nil_notMem_batches (size : Nat) (keys : List Json) : [] ∉ batches size keys :=
  fun member => Nat.not_lt_zero 0 (length_of_mem_batches member).1

/-- The rows of a table that hold one of the keys. -/
def having (column : Text) (keys : List Json) (rows : List Row) : List Row :=
  rows.filter fun row => keys.any fun key => Row.get? column row = some key

theorem mem_having {column : Text} {keys : List Json} {rows : List Row} {row : Row} :
    row ∈ having column keys rows ↔ row ∈ rows ∧ ∃ key ∈ keys, Row.get? column row = some key := by
  simp [having]

theorem filter_having_of_mem {keys : List Json} (member : v ∈ keys) (rows : List Row) :
    (having column keys rows).filter (fun row => Row.get? column row = some v) =
      rows.filter fun row => Row.get? column row = some v := by
  rw [having, List.filter_filter]
  refine List.filter_congr fun row _ => ?_
  by_cases holds : Row.get? column row = some v
  · simp only [holds, decide_true, Bool.true_and, List.any_eq_true, decide_eq_true_eq]
    exact ⟨v, member, rfl⟩
  · simp [holds]

theorem filter_having_of_notMem {keys : List Json} (absent : v ∉ keys) (rows : List Row) :
    (having column keys rows).filter (fun row => Row.get? column row = some v) = [] := by
  rw [having, List.filter_filter, List.filter_eq_nil_iff]
  intro row _ both
  simp only [Bool.and_eq_true, decide_eq_true_eq, List.any_eq_true] at both
  obtain ⟨holds, key, member, other⟩ := both
  rw [holds] at other
  exact absent (Option.some.inj other ▸ member)

/-- Over disjoint batches, the rows with one of the keys are those of the table, in its order. -/
theorem filter_flatMap_having {parts : List (List Json)} (once : parts.flatten.Nodup)
    (member : v ∈ parts.flatten) (rows : List Row) :
    (parts.flatMap (having column · rows)).filter (fun row => Row.get? column row = some v) =
      rows.filter fun row => Row.get? column row = some v := by
  induction parts with
  | nil => cases member
  | cons part rest ih =>
    rw [List.flatten_cons, List.nodup_append] at once
    rw [List.flatMap_cons, List.filter_append]
    by_cases first : v ∈ part
    · have later : v ∉ rest.flatten := fun again => once.2.2 v first v again rfl
      have none : (rest.flatMap (having column · rows)).filter
          (fun row => Row.get? column row = some v) = [] := by
        rw [List.filter_flatMap, List.flatMap_eq_nil_iff]
        intro other among
        apply filter_having_of_notMem
        exact fun inside => later (List.mem_flatten.2 ⟨other, among, inside⟩)
      rw [filter_having_of_mem first, none, List.append_nil]
    · have later : v ∈ rest.flatten := by simpa [first] using member
      rw [filter_having_of_notMem first, List.nil_append, ih once.2.1 later]

end FluentQuery.Relation

import FluentQuery.Relation
import Mathlib.Data.List.Induction
import Mathlib.Data.List.Nodup

/-! Rows as ordered maps: what putting, erasing and stripping do to keys, values and order. Rows of
a table have no key twice, which `Distinct` says. The other members of a row are those that a
filter on keys keeps; that they stay is `filter_put` and its likes. -/
namespace FluentQuery

/-! First occurrences -/

section

variable {α κ : Type} [BEq κ] [LawfulBEq κ]

/-- Keeping the first item of each name keeps no name twice, and each that there was. -/
theorem nodup_map_eraseDupsBy (f : α → κ) (items : List α) :
    ((items.eraseDupsBy fun a b => f a == f b).map f).Nodup ∧
      ∀ name, name ∈ (items.eraseDupsBy fun a b => f a == f b).map f ↔ name ∈ items.map f := by
  match items with
  | [] => simp
  | item :: rest =>
    obtain ⟨once, same⟩ :=
      nodup_map_eraseDupsBy f (rest.filter fun b => (f b == f item) = false)
    rw [List.eraseDupsBy_cons, List.map_cons, List.nodup_cons]
    refine ⟨⟨fun again => ?_, once⟩, fun name => ?_⟩
    · rw [same] at again
      obtain ⟨a, member, equal⟩ := List.mem_map.1 again
      simp [List.mem_filter, equal] at member
    · rw [List.mem_cons, same]
      by_cases head : name = f item
      · simp [head]
      · simp only [head, List.map_cons, List.mem_cons, false_or, List.mem_map, List.mem_filter,
          decide_eq_true_eq, beq_eq_false_iff_ne]
        constructor
        · rintro ⟨a, ⟨member, -⟩, rfl⟩
          exact ⟨a, member, rfl⟩
        · rintro ⟨a, member, rfl⟩
          exact ⟨a, ⟨member, head⟩, rfl⟩
termination_by items.length
decreasing_by exact Nat.lt_succ_of_le (List.length_filter_le _ _)

theorem eraseDupsBy_sublist (r : α → α → Bool) (items : List α) :
    (items.eraseDupsBy r).Sublist items := by
  match items with
  | [] => simp
  | item :: rest =>
    rw [List.eraseDupsBy_cons]
    exact ((eraseDupsBy_sublist r _).trans List.filter_sublist).cons_cons item
termination_by items.length
decreasing_by exact Nat.lt_succ_of_le (List.length_filter_le _ _)

theorem nodup_eraseDups (names : List κ) : names.eraseDups.Nodup := by
  have once := (nodup_map_eraseDupsBy id names).1
  rwa [List.map_id] at once

theorem eraseDups_of_nodup {names : List κ} (once : names.Nodup) : names.eraseDups = names := by
  induction names with
  | nil => rfl
  | cons name rest ih =>
    obtain ⟨new, once⟩ := List.nodup_cons.1 once
    have others : rest.filter (fun b => !b == name) = rest :=
      List.filter_eq_self.2 fun b member => by simpa using ne_of_mem_of_not_mem member new
    rw [List.eraseDups_cons, others, ih once]

/-- What is kept of a list stands in the order of the first occurrences. -/
theorem pairwise_idxOf_eraseDups (names : List κ) :
    names.eraseDups.Pairwise fun a b => names.idxOf a < names.idxOf b := by
  induction names using List.reverseRecOn with
  | nil => exact .nil
  | append_singleton names last ih =>
    have known {a : κ} (member : a ∈ names.eraseDups) : a ∈ names := List.mem_eraseDups.1 member
    have kept : names.eraseDups.Pairwise
        fun a b => (names ++ [last]).idxOf a < (names ++ [last]).idxOf b := by
      refine ih.imp_of_mem fun first second before => ?_
      rwa [List.idxOf_append_of_mem (known first), List.idxOf_append_of_mem (known second)]
    rw [List.eraseDups_append]
    by_cases again : last ∈ names
    · have gone : [last].removeAll names = [] := by simp [List.removeAll, again]
      rwa [gone, List.eraseDups_nil, List.append_nil]
    · have new : [last].removeAll names = [last] := by simp [List.removeAll, again]
      have single : [last].eraseDups = [last] := by simp [List.eraseDups_cons]
      rw [new, single, List.pairwise_append]
      refine ⟨kept, List.pairwise_singleton _ _, fun a first b second => ?_⟩
      obtain rfl := List.mem_singleton.1 second
      rw [List.idxOf_append_of_mem (known first), List.idxOf_append_of_notMem again]
      have within := List.idxOf_lt_length_of_mem (known first)
      omega

end

namespace Row

/-- No key stands twice. -/
def Distinct (row : Row) : Prop := row.keys.Nodup

instance (row : Row) : Decidable row.Distinct :=
  inferInstanceAs (Decidable row.keys.Nodup)

/-! Keys -/

@[simp] theorem keys_nil : keys [] = [] := rfl

@[simp] theorem keys_cons (key : Text) (value : Json) (row : Row) :
    keys ((key, value) :: row) = key :: keys row := rfl

@[simp] theorem keys_append (row rest : Row) : keys (row ++ rest) = keys row ++ keys rest :=
  List.map_append

theorem get?_eq_none_iff {key : Text} {row : Row} : get? key row = none ↔ key ∉ keys row := by
  induction row with
  | nil => simp [get?]
  | cons pair rest ih =>
    obtain ⟨k, v⟩ := pair
    by_cases h : k = key
    · simp [get?, h]
    · simp [get?, h, ih, Ne.symm h]

theorem exists_get? {key : Text} {row : Row} (member : key ∈ keys row) :
    ∃ value, get? key row = some value :=
  Option.ne_none_iff_exists'.1 fun none => get?_eq_none_iff.1 none member

theorem get?_eq_some_iff {row : Row} (distinct : row.Distinct) {key : Text} {value : Json} :
    get? key row = some value ↔ (key, value) ∈ row := by
  induction row with
  | nil => simp [get?]
  | cons pair rest ih =>
    obtain ⟨k, v⟩ := pair
    obtain ⟨new, distinct⟩ := List.nodup_cons.1 distinct
    by_cases h : k = key
    · subst h
      have absent : (k, value) ∉ rest :=
        fun member => new (List.mem_map.2 ⟨_, member, rfl⟩)
      simp [get?, absent, eq_comm]
    · simp [get?, h, Ne.symm h, ih distinct]

theorem get?_append_of_notMem {key : Text} {row : Row} (rest : Row) (absent : key ∉ keys row) :
    get? key (row ++ rest) = get? key rest := by
  induction row with
  | nil => rfl
  | cons pair row ih =>
    obtain ⟨k, v⟩ := pair
    simp only [keys_cons, List.mem_cons, not_or] at absent
    simp [get?, Ne.symm absent.1, ih absent.2]

theorem get?_append_of_mem {key : Text} {row : Row} (rest : Row) (member : key ∈ keys row) :
    get? key (row ++ rest) = get? key row := by
  induction row with
  | nil => cases member
  | cons pair row ih =>
    obtain ⟨k, v⟩ := pair
    by_cases h : k = key
    · simp [get?, h]
    · have : key ∈ keys row := by simpa [Ne.symm h] using member
      simp [get?, h, ih this]

theorem get?_append_of_notMem_right {key : Text} (row : Row) {rest : Row}
    (absent : key ∉ keys rest) : get? key (row ++ rest) = get? key row := by
  by_cases member : key ∈ keys row
  · exact get?_append_of_mem rest member
  · rw [get?_append_of_notMem rest member, get?_eq_none_iff.2 absent, get?_eq_none_iff.2 member]

/-! Erasing -/

theorem keys_erase (key : Text) (row : Row) : keys (erase key row) = (keys row).erase key := by
  induction row with
  | nil => rfl
  | cons pair rest ih =>
    obtain ⟨k, v⟩ := pair
    by_cases h : k = key
    · simp [erase, h]
    · simp [erase, h, ih]

theorem notMem_keys_erase {key : Text} {row : Row} (distinct : row.Distinct) :
    key ∉ keys (erase key row) := by
  rw [keys_erase]
  exact distinct.not_mem_erase

theorem Distinct.erase {row : Row} (distinct : row.Distinct) (key : Text) :
    (Row.erase key row).Distinct := by
  unfold Distinct
  rw [keys_erase]
  exact List.Nodup.erase key distinct

theorem erase_append_of_notMem {key : Text} {row : Row} (rest : Row) (absent : key ∉ keys row) :
    erase key (row ++ rest) = row ++ erase key rest := by
  induction row with
  | nil => rfl
  | cons pair row ih =>
    obtain ⟨k, v⟩ := pair
    simp only [keys_cons, List.mem_cons, not_or] at absent
    simp [erase, Ne.symm absent.1, ih absent.2]

/-- The members whose keys are not erased stay, with their values and in their order. -/
theorem filter_erase {kept : Text → Bool} {key : Text} (gone : kept key = false) (row : Row) :
    (erase key row).filter (kept ·.1) = row.filter (kept ·.1) := by
  induction row with
  | nil => rfl
  | cons pair rest ih =>
    obtain ⟨k, v⟩ := pair
    by_cases h : k = key
    · subst h; simp [erase, gone]
    · simp [erase, h, List.filter_cons, ih]

/-! Putting -/

theorem mem_keys_put {key other : Text} {value : Json} {row : Row} :
    other ∈ keys (put key value row) ↔ other = key ∨ other ∈ keys row := by
  rw [keys_put]
  split
  · constructor
    · exact .inr
    · rintro (rfl | member) <;> assumption
  · simp [or_comm]

theorem put_of_notMem {key : Text} {row : Row} (value : Json) (absent : key ∉ keys row) :
    put key value row = row ++ [(key, value)] := by
  induction row with
  | nil => rfl
  | cons pair rest ih =>
    obtain ⟨k, v⟩ := pair
    simp only [keys_cons, List.mem_cons, not_or] at absent
    simp [put, Ne.symm absent.1, ih absent.2]

theorem erase_put_of_ne {key other : Text} (apart : key ≠ other) (value : Json) (row : Row) :
    erase key (put other value row) = put other value (erase key row) := by
  induction row with
  | nil => simp [put, erase, Ne.symm apart]
  | cons pair rest ih =>
    obtain ⟨k, v⟩ := pair
    by_cases hk : k = key
    · subst hk; simp [put, erase, apart]
    · by_cases ho : k = other
      · subst ho; simp [put, erase, hk]
      · simp [put, erase, hk, ho, ih]

theorem erase_put_self (key : Text) (value : Json) (row : Row) :
    erase key (put key value row) = erase key row := by
  induction row with
  | nil => simp [put, erase]
  | cons pair rest ih =>
    obtain ⟨k, v⟩ := pair
    by_cases h : k = key
    · subst h; simp [put, erase]
    · simp [put, erase, h, ih]

theorem filter_put {kept : Text → Bool} {key : Text} (gone : kept key = false) (value : Json)
    (row : Row) : (put key value row).filter (kept ·.1) = row.filter (kept ·.1) := by
  induction row with
  | nil => simp [put, gone]
  | cons pair rest ih =>
    obtain ⟨k, v⟩ := pair
    by_cases h : k = key
    · subst h; simp [put, gone]
    · simp [put, h, List.filter_cons, ih]

/-! Putting one pair after the other -/

def putAll (pairs : List (Text × Json)) (row : Row) : Row :=
  pairs.foldl (fun row pair => put pair.1 pair.2 row) row

theorem ofPairs_eq_putAll (pairs : List (Text × Json)) : ofPairs pairs = putAll pairs [] := rfl

@[simp] theorem putAll_nil (row : Row) : putAll [] row = row := rfl

@[simp] theorem putAll_cons (key : Text) (value : Json) (pairs : List (Text × Json)) (row : Row) :
    putAll ((key, value) :: pairs) row = putAll pairs (put key value row) := rfl

theorem putAll_append (pairs more : List (Text × Json)) (row : Row) :
    putAll (pairs ++ more) row = putAll more (putAll pairs row) :=
  List.foldl_append

theorem mem_keys_putAll {key : Text} {pairs : List (Text × Json)} {row : Row} :
    key ∈ keys (putAll pairs row) ↔ key ∈ pairs.map Prod.fst ∨ key ∈ keys row := by
  induction pairs generalizing row with
  | nil => simp
  | cons pair rest ih =>
    obtain ⟨k, v⟩ := pair
    simp only [putAll_cons, ih, mem_keys_put, List.map_cons, List.mem_cons]
    exact ⟨by rintro (h | h | h) <;> simp [h], by rintro ((h | h) | h) <;> simp [h]⟩

theorem get?_putAll_of_notMem {key : Text} {pairs : List (Text × Json)}
    (absent : key ∉ pairs.map Prod.fst) (row : Row) :
    get? key (putAll pairs row) = get? key row := by
  induction pairs generalizing row with
  | nil => rfl
  | cons pair rest ih =>
    obtain ⟨k, v⟩ := pair
    simp only [List.map_cons, List.mem_cons, not_or] at absent
    rw [putAll_cons, ih absent.2, get?_put_of_ne absent.1]

/-- A key that is put has the value of one of its pairs. -/
theorem get?_putAll_of_mem {key : Text} {pairs : List (Text × Json)}
    (member : key ∈ pairs.map Prod.fst) (row : Row) :
    ∃ value, (key, value) ∈ pairs ∧ get? key (putAll pairs row) = some value := by
  induction pairs generalizing row with
  | nil => cases member
  | cons pair rest ih =>
    obtain ⟨k, v⟩ := pair
    rw [putAll_cons]
    by_cases later : key ∈ rest.map Prod.fst
    · obtain ⟨value, found, got⟩ := ih later (put k v row)
      exact ⟨value, List.mem_cons_of_mem _ found, got⟩
    · obtain rfl : key = k := by simpa [later] using member
      exact ⟨v, List.mem_cons_self, by rw [get?_putAll_of_notMem later, get?_put_self]⟩

theorem get?_putAll {key : Text} {value : Json} {pairs : List (Text × Json)}
    (once : (pairs.map Prod.fst).Nodup) (member : (key, value) ∈ pairs) (row : Row) :
    get? key (putAll pairs row) = some value := by
  obtain ⟨other, found, got⟩ := get?_putAll_of_mem (List.mem_map_of_mem member) row
  have same := List.inj_on_of_nodup_map once member found rfl
  rw [got, ← (Prod.mk.inj same).2]

theorem erase_putAll_of_notMem {key : Text} {pairs : List (Text × Json)}
    (absent : key ∉ pairs.map Prod.fst) (row : Row) :
    erase key (putAll pairs row) = putAll pairs (erase key row) := by
  induction pairs generalizing row with
  | nil => rfl
  | cons pair rest ih =>
    obtain ⟨k, v⟩ := pair
    simp only [List.map_cons, List.mem_cons, not_or] at absent
    rw [putAll_cons, ih absent.2, erase_put_of_ne absent.1, putAll_cons]

theorem filter_putAll {kept : Text → Bool} {pairs : List (Text × Json)}
    (gone : ∀ pair ∈ pairs, kept pair.1 = false) (row : Row) :
    (putAll pairs row).filter (kept ·.1) = row.filter (kept ·.1) := by
  induction pairs generalizing row with
  | nil => rfl
  | cons pair rest ih =>
    obtain ⟨first, later⟩ := List.forall_mem_cons.1 gone
    rw [putAll_cons, ih later, filter_put first]

/-- Pairs with new keys go to the end as they are. -/
theorem putAll_eq_append {pairs : List (Text × Json)} {row : Row}
    (once : (pairs.map Prod.fst).Nodup) (fresh : ∀ key ∈ pairs.map Prod.fst, key ∉ keys row) :
    putAll pairs row = row ++ pairs := by
  induction pairs generalizing row with
  | nil => simp
  | cons pair rest ih =>
    obtain ⟨k, v⟩ := pair
    obtain ⟨new, once⟩ := List.nodup_cons.1 once
    obtain ⟨first, later⟩ := List.forall_mem_cons.1 fresh
    rw [putAll_cons, put_of_notMem v first, ih once, List.append_assoc, List.singleton_append]
    intro key member
    rw [keys_append, List.mem_append, not_or]
    exact ⟨later key member, fun same => new (List.mem_singleton.1 same ▸ member)⟩

end Row

/-! Stripping -/

namespace Relation

open Row

@[simp] theorem strip_nil (row : Row) : strip [] row = row := rfl

@[simp] theorem strip_cons (key : Text) (rest : List Text) (row : Row) :
    strip (key :: rest) row = strip rest (erase key row) := rfl

theorem mem_keys_of_strip {stripped : List Text} {key : Text} {row : Row}
    (member : key ∈ keys (strip stripped row)) : key ∈ keys row := by
  induction stripped generalizing row with
  | nil => exact member
  | cons first rest ih =>
    have := ih member
    rw [keys_erase] at this
    exact List.mem_of_mem_erase this

theorem notMem_keys_strip {stripped : List Text} {key : Text} {row : Row} (distinct : row.Distinct)
    (member : key ∈ stripped) : key ∉ keys (strip stripped row) := by
  induction stripped generalizing row with
  | nil => cases member
  | cons first rest ih =>
    rcases List.mem_cons.1 member with rfl | member
    · exact fun found => notMem_keys_erase distinct (mem_keys_of_strip found)
    · exact ih (distinct.erase first) member

theorem get?_strip_of_notMem {stripped : List Text} {key : Text} (absent : key ∉ stripped)
    (row : Row) : get? key (strip stripped row) = get? key row := by
  induction stripped generalizing row with
  | nil => rfl
  | cons first rest ih =>
    simp only [List.mem_cons, not_or] at absent
    rw [strip_cons, ih absent.2, get?_erase_of_ne absent.1]

theorem filter_strip {kept : Text → Bool} {stripped : List Text}
    (gone : ∀ key ∈ stripped, kept key = false) (row : Row) :
    (strip stripped row).filter (kept ·.1) = row.filter (kept ·.1) := by
  induction stripped generalizing row with
  | nil => rfl
  | cons first rest ih =>
    obtain ⟨one, later⟩ := List.forall_mem_cons.1 gone
    rw [strip_cons, ih later, filter_erase one]

theorem strip_eq_nil {stripped : List Text} {row : Row} (distinct : row.Distinct)
    (all : ∀ key ∈ keys row, key ∈ stripped) : strip stripped row = [] := by
  have none : keys (strip stripped row) = [] := by
    refine List.eq_nil_iff_forall_not_mem.2 fun key member => ?_
    exact notMem_keys_strip distinct (all key (mem_keys_of_strip member)) member
  exact List.map_eq_nil_iff.1 none

theorem strip_append_of_notMem {stripped : List Text} {row : Row} (rest : Row)
    (absent : ∀ key ∈ stripped, key ∉ keys row) :
    strip stripped (row ++ rest) = row ++ strip stripped rest := by
  induction stripped generalizing rest with
  | nil => rfl
  | cons first more ih =>
    obtain ⟨one, later⟩ := List.forall_mem_cons.1 absent
    rw [strip_cons, erase_append_of_notMem rest one, ih _ later, strip_cons]

end Relation

end FluentQuery

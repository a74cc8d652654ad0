import FluentQuery.Proofs.Query.Inserted

/-! What an upsert overwrites. On conflict it sets the inserted columns that are not spelled in the
target, each to its proposed value. Names that are spelled in two ways can so be set although they
are in the target, or be set twice; that one of the two happens is all that can go wrong. -/
namespace FluentQuery

open Sql (Conflict Insertion)
open Ident (Valid partsOf)

/-! First occurrences of images -/

section

variable {α β : Type} [BEq α] [LawfulBEq α] [BEq β] [LawfulBEq β]

/-- The images outside the images of a target are those of the items outside it just when no such
image is in there after all or comes twice. -/
theorem eraseDups_filter_map_iff (f : α → β) (items target : List α) :
    ((items.map f).filter fun b => !(target.map f).contains b).eraseDups =
        (items.filter fun a => !target.contains a).map f ↔
      (∀ a ∈ items.filter fun a => !target.contains a, f a ∉ target.map f) ∧
        ((items.filter fun a => !target.contains a).map f).Nodup := by
  constructor
  · intro same
    refine ⟨fun a member => ?_, same ▸ nodup_eraseDups _⟩
    have image := same ▸ List.mem_map_of_mem (f := f) member
    simpa using (List.mem_filter.1 (List.mem_eraseDups.1 image)).2
  · rintro ⟨apart, once⟩
    have outside : ∀ a ∈ items, (!(target.map f).contains (f a)) = !target.contains a := by
      intro a member
      by_cases targeted : a ∈ target
      · simp [targeted, List.mem_map_of_mem targeted]
      · have other := apart a (List.mem_filter.2 ⟨member, by simpa using targeted⟩)
        simp only [targeted, other, List.elem_eq_mem, decide_false]
    have kept : items.filter ((fun b => !(target.map f).contains b) ∘ f) =
        items.filter fun a => !target.contains a := List.filter_congr outside
    rw [List.filter_map, kept]
    exact eraseDups_of_nodup once

end

namespace Sql

/-- The columns that are not in a target, each once. -/
def remaining (columns target : List (List Text)) : List (List Text) :=
  (columns.filter fun c => !target.contains c).eraseDups

/-- On conflict just the columns outside the target are set, each once and to its proposed value;
where none of them is left, or duplicates are ignored, nothing is done. -/
def Conflict.Overwrites (c : Conflict) (columns : List (List Text)) (ignore : Bool) : Prop :=
  c.updates =
    if ignore || (remaining columns c.target).isEmpty then none
    else some ((remaining columns c.target).map fun column => (column, column))

def Insertion.Overwrites (i : Insertion) (ignore : Bool) : Prop :=
  ∃ c, i.conflict = some c ∧ c.Overwrites i.columns ignore

theorem Insertion.overwrites_iff {i : Insertion} {c : Conflict} {ignore : Bool}
    (given : i.conflict = some c) : i.Overwrites ignore ↔ c.Overwrites i.columns ignore := by
  simp only [Overwrites, given, Option.some.injEq, exists_eq_left']

end Sql

namespace Query

/-- What is set on conflict is what should be, just when the spelling of a name does not matter. -/
theorem overwrites_conflictOf_iff (columns : List Text) (options : UpsertOptions) :
    (conflictOf columns options).Overwrites (columns.map partsOf) options.ignoreDuplicates ↔
      options.ignoreDuplicates = true ∨ untargeted columns options = [] ∨
        (∀ name ∈ untargeted columns options,
          partsOf name ∉ (conflictOf columns options).target) ∧
          ((untargeted columns options).map partsOf).Nodup := by
  have same : Sql.remaining (columns.map partsOf) (conflictOf columns options).target =
      (untargeted columns options).map partsOf ↔
        (∀ name ∈ untargeted columns options,
          partsOf name ∉ (conflictOf columns options).target) ∧
          ((untargeted columns options).map partsOf).Nodup :=
    eraseDups_filter_map_iff partsOf columns (conflictTarget options)
  rw [Conflict.Overwrites, ← same]
  generalize Sql.remaining (columns.map partsOf) (conflictOf columns options).target = others at *
  simp only [conflictOf]
  generalize untargeted columns options = kept at *
  cases options.ignoreDuplicates with
  | true => simp
  | false =>
    rcases eq_or_ne kept [] with rfl | some_kept
    · have none : others = [] := same.2 ⟨by simp, by simp⟩
      simp [none]
    · have twice : kept.map (fun name => (partsOf name, partsOf name)) =
          (kept.map partsOf).map fun column => (column, column) := by
        rw [List.map_map]
        rfl
      have injective : Function.Injective fun column : List Text => (column, column) :=
        fun _ _ equal => (Prod.mk.inj equal).1
      rw [if_neg (by simpa using some_kept), twice]
      constructor
      · intro equal
        split at equal
        · cases equal
        · exact .inr (.inr (injective.list_map (Option.some.inj equal)).symm)
      · intro conditions
        obtain rfl : others = kept.map partsOf := by simpa [some_kept] using conditions
        rw [if_neg (by simpa using some_kept)]

variable {q : Query} {rows : List Row} {options : UpsertOptions} {list : Option Text}

/-- What an upsert sets on conflict. It is what it should be, with names compared as the columns
that they stand for, just when nothing is set, or no set column is in the target and none is set
twice; so it is wherever no two names stand for one column. -/
theorem upsert_overwrites_iff (upserts : q.action = .upsert rows options) {config : Text}
    {s : Statement} (compiled : q.mainStatement config list = .ok s) :
    ∃ ins c, Insertion.read? s.bound s.sql = some ins ∧ ins.conflict = some c ∧
      (insertColumns rows).mapM Ident.parse = .ok (ins.columns.map Ident.mk) ∧
      (conflictTarget options).mapM Ident.parse = .ok (c.target.map Ident.mk) ∧
      (c.updates =
        if options.ignoreDuplicates || (untargeted (insertColumns rows) options).isEmpty then none
        else some ((untargeted (insertColumns rows) options).map fun name =>
          (partsOf name, partsOf name))) ∧
      (ins.Overwrites options.ignoreDuplicates ↔
        options.ignoreDuplicates = true ∨ untargeted (insertColumns rows) options = [] ∨
          (∀ name ∈ untargeted (insertColumns rows) options, partsOf name ∉ c.target) ∧
            ((untargeted (insertColumns rows) options).map partsOf).Nodup) ∧
      ((∀ a ∈ insertColumns rows ++ conflictTarget options,
          ∀ b ∈ insertColumns rows ++ conflictTarget options, partsOf a = partsOf b → a = b) →
        ins.Overwrites options.ignoreDuplicates) := by
  have inserts : q.action.inserted? = some (rows, some options) := by rw [upserts]; rfl
  rw [mainStatement_of_inserted inserts] at compiled
  have able := exists_insertStatement_iff_insertable.1 ⟨s, compiled⟩
  have exact_iff := (Insertion.overwrites_iff
    (i := q.insertion rows (some options) list) rfl).trans
      (overwrites_conflictOf_iff (insertColumns rows) options)
  refine ⟨_, _, read?_insertStatement compiled, rfl, mapM_parse_of_valid able.columns,
    mapM_parse_of_valid (able.target options rfl), rfl, exact_iff, fun single => ?_⟩
  have among {name : Text} (kept : name ∈ untargeted (insertColumns rows) options) :
      name ∈ insertColumns rows ++ conflictTarget options :=
    List.mem_append_left _ (List.mem_of_mem_filter kept)
  refine exact_iff.2 (.inr (.inr ⟨fun name kept targeted => ?_, ?_⟩))
  · obtain ⟨other, member, equal⟩ := List.mem_map.1 targeted
    obtain rfl := single other (List.mem_append_right _ member) name (among kept) equal
    simpa [member] using (List.mem_filter.1 kept).2
  · refine ((nodup_eraseDups _).filter _).map_on fun a first b second equal => ?_
    exact single a (among first) b (among second) equal

/-- The one column of the row is the target, where it is spelled in quotes. -/
def upsertUser : Query :=
  (Query.ofTable "users").upsert (.value (.obj [("userId", .int 1)])) ⟨some "\"userId\"", false⟩

def userStatement : Statement where
  sql := "INSERT INTO \"users\" (\"userId\") VALUES ($1) ON CONFLICT (\"userId\") " ++
    "DO UPDATE SET \"userId\" = EXCLUDED.\"userId\""
  params := [.int 1]

theorem upsertUser_overwrites_target :
    upsertUser.mainStatement Config.standard.searchConfig none = .ok userStatement ∧
      ∃ ins c, Insertion.read? userStatement.bound userStatement.sql = some ins ∧
        ins.conflict = some c ∧ c.target = [[("userId" : Text)]] ∧
        c.updates = some [([("userId" : Text)], [("userId" : Text)])] ∧ ¬ins.Overwrites false := by
  have compiled : upsertUser.mainStatement Config.standard.searchConfig none =
      .ok userStatement := by
    decide +kernel
  have kept : untargeted (insertColumns [[("userId", .int 1)]]) ⟨some "\"userId\"", false⟩ =
      [("userId" : Text)] := by
    decide
  have column : partsOf "userId" = [("userId" : Text)] := by decide +kernel
  have parsed : (conflictTarget ⟨some "\"userId\"", false⟩).mapM Ident.parse =
      .ok ([[("userId" : Text)]].map Ident.mk) := by
    decide +kernel
  obtain ⟨ins, c, read, given, -, named, updates, exact_iff, -⟩ :=
    upsert_overwrites_iff (q := upsertUser) rfl compiled
  have target : c.target = [[("userId" : Text)]] :=
    (List.map_injective_iff.2 fun _ _ equal => Ident.mk.inj equal)
      (Except.ok.inj (named.symm.trans parsed))
  rw [kept] at updates exact_iff
  refine ⟨compiled, ins, c, read, given, target, ?_, fun overwrites => ?_⟩
  · rw [updates, List.map_singleton, column]
    rfl
  · rcases exact_iff.1 overwrites with ignored | none | ⟨apart, -⟩
    · cases ignored
    · cases none
    · refine apart "userId" List.mem_cons_self ?_
      rw [column, target]
      exact List.mem_cons_self

end Query

end FluentQuery

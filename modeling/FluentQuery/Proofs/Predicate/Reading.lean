import FluentQuery.Proofs.Predicate.Compiled
import FluentQuery.Proofs.Predicate.Truth
import FluentQuery.Proofs.Sql.Operand

/-! The SQL of a predicate means what its tree means. Read with NOT before AND before OR and with
brackets, it is a condition with the truth value that the tree has without its empty groups,
whatever the truth values of its comparisons are. -/
namespace FluentQuery

open Sql.Condition

namespace Predicate

/-! Trees without empty groups -/

theorem pruneAll_eq_filterMap (parts : List Predicate) :
    pruneAll parts = parts.filterMap prune := by
  induction parts with
  | nil => rfl
  | cons p rest ih =>
    rw [pruneAll, ih]
    cases pruned : p.prune with
    | none => rw [List.filterMap_cons_none pruned]
    | some kept => rw [List.filterMap_cons_some pruned]

theorem pruneAll_eq_nil_iff {parts : List Predicate}
    (each : ∀ p ∈ parts, p.prune = none ↔ p.isEmpty = true) :
    pruneAll parts = [] ↔ areEmpty parts = true := by
  rw [pruneAll_eq_filterMap, List.filterMap_eq_nil_iff, areEmpty_iff]
  exact forall₂_congr each

/-- Nothing is left of the empty trees only. -/
theorem prune_eq_none_iff (p : Predicate) : p.prune = none ↔ p.isEmpty = true := by
  induction p using induct with
  | all parts ih => simp [prune, isEmpty, pruneAll_eq_nil_iff ih]
  | any parts ih => simp [prune, isEmpty, pruneAll_eq_nil_iff ih]
  | not inner ih => simp [prune, isEmpty, ih]
  | _ => simp [prune, isEmpty]

theorem truths_eq_map (assigned : Predicate → Truth) (parts : List Predicate) :
    truths assigned parts = parts.map (truth assigned) := by
  induction parts with
  | nil => rfl
  | cons p rest ih => rw [truths, ih, List.map_cons]

/-- The condition has the truth value of what is left of the tree. -/
def Means (q p : Predicate) : Prop :=
  ∃ kept, p.prune = some kept ∧ ∀ assigned, q.truth assigned = kept.truth assigned

theorem Means.refl {p : Predicate} (kept : p.prune = some p) : Means p p :=
  ⟨p, kept, fun _ => rfl⟩

theorem Means.not {q p : Predicate} (means : Means q p) : Means (.not q) (.not p) := by
  obtain ⟨kept, pruned, same⟩ := means
  refine ⟨.not kept, by rw [prune, pruned]; rfl, fun assigned => ?_⟩
  rw [truth, truth, same]

theorem truth_someOf (assigned : Predicate → Truth) (groups : List (List Predicate)) :
    (someOf groups).truth assigned =
      Truth.any (groups.map fun items => Truth.all (items.map (truth assigned))) := by
  rw [someOf, truth, truths_eq_map, List.map_map]
  congr 1
  refine List.map_congr_left fun items _ => ?_
  rw [Function.comp_apply, truth, truths_eq_map]

theorem Means.single {q p : Predicate} (means : Means q p) : Means (someOf [[q]]) p := by
  obtain ⟨kept, pruned, same⟩ := means
  refine ⟨kept, pruned, fun assigned => ?_⟩
  rw [truth_someOf]
  simpa using same assigned

variable {items parts : List Predicate}

theorem means_all (filled : areEmpty parts = false)
    (same : ∀ assigned, items.map (truth assigned) = (pruneAll parts).map (truth assigned)) :
    Means (someOf [items]) (.all parts) := by
  have some : pruneAll parts ≠ [] := by
    rw [ne_eq, pruneAll_eq_nil_iff fun p _ => prune_eq_none_iff p, filled]
    decide
  refine ⟨.all (pruneAll parts), by rw [prune, if_neg some], fun assigned => ?_⟩
  rw [truth_someOf, truth, truths_eq_map, ← same]
  simp

theorem means_any (filled : areEmpty parts = false)
    (same : ∀ assigned, items.map (truth assigned) = (pruneAll parts).map (truth assigned)) :
    Means (someOf (items.map fun q => [q])) (.any parts) := by
  have some : pruneAll parts ≠ [] := by
    rw [ne_eq, pruneAll_eq_nil_iff fun p _ => prune_eq_none_iff p, filled]
    decide
  refine ⟨.any (pruneAll parts), by rw [prune, if_neg some], fun assigned => ?_⟩
  rw [truth_someOf, truth, truths_eq_map, ← same, List.map_map]
  simp [Function.comp_def]

/-! Reading -/

variable {bound : Nat → Option Json} {n : Nat} {p : Predicate}

/-- As a part of a group the tree is read as an operand with its meaning. -/
def ReadsPart (bound : Nat → Option Json) (n : Nat) (p : Predicate) : Prop :=
  ∃ q, Reads bound (p.operand.text n) q ∧ Means q p

/-- By itself the tree is read as a condition with its meaning. -/
def ReadsTree (bound : Nat → Option Json) (n : Nat) (p : Predicate) : Prop :=
  ∃ groups, ReadsAll bound (p.template.text n) groups ∧ Means (someOf groups) p

theorem ReadsTree.both (group : p.isGroup = true) (reads : ReadsTree bound n p) :
    ReadsTree bound n p ∧ ReadsPart bound n p := by
  obtain ⟨groups, read, means⟩ := reads
  refine ⟨⟨groups, read, means⟩, someOf groups, ?_, means⟩
  rw [operand, if_pos group, Template.text_bracketed]
  exact .bracketed read

theorem ReadsPart.both (single : p.isGroup = false) (reads : ReadsPart bound n p) :
    ReadsTree bound n p ∧ ReadsPart bound n p := by
  obtain ⟨q, read, means⟩ := reads
  refine ⟨⟨[[q]], ?_, means.single⟩, q, read, means⟩
  rw [operand, if_neg (by simp [single])] at read
  exact .single read

@[simp] theorem values_operand (p : Predicate) : p.operand.values = p.template.values := by
  unfold operand
  split
  · exact Template.values_bracketed _
  · rfl

/-- The parts that are not empty are read one by one. -/
theorem exists_reads_templates (each : ∀ p ∈ parts, p.isEmpty = false → ∀ n,
      Binds bound n p.template.values → ReadsPart bound n p)
    (binds : Binds bound n ((templates parts).flatMap Template.values)) :
    ∃ items, List.Forall₂ (Reads bound) (Template.texts n (templates parts)) items ∧
      ∀ assigned, items.map (truth assigned) = (pruneAll parts).map (truth assigned) := by
  induction parts generalizing n with
  | nil => exact ⟨[], .nil, fun _ => rfl⟩
  | cons p rest ih =>
    obtain ⟨first, later⟩ := List.forall_mem_cons.1 each
    rw [templates] at binds ⊢
    rw [pruneAll]
    split at binds
    · next empty =>
      rw [if_pos empty, (prune_eq_none_iff p).2 empty]
      exact ih later binds
    · next filled =>
      rw [if_neg filled]
      change Binds bound n (p.operand.values ++ _) at binds
      change ∃ items, List.Forall₂ _ (Template.texts n (p.operand :: templates rest)) items ∧ _
      obtain ⟨own, behind⟩ := binds.append
      rw [values_operand] at own
      obtain ⟨q, read, kept, pruned, same⟩ := first (by simpa using filled) n own
      obtain ⟨items, reads, sames⟩ := ih later behind
      refine ⟨q :: items, .cons read reads, fun assigned => ?_⟩
      rw [pruned, List.map_cons, List.map_cons, same, sames]

theorem texts_templates_filled (filled : areEmpty parts = false) (n : Nat) :
    Template.texts n (templates parts) ≠ [] := by
  rw [ne_eq, Template.texts_eq_nil_iff, templates_eq_nil_iff, filled]
  decide

namespace ReadsPart

variable {name column : Text} (quoted : Ident.quote name = .ok column)

include quoted

theorem compare {symbol : Text} {value : Json} {cast : Option Text} (known : IsSymbol symbol)
    (casts : ∀ c ∈ cast, IsName c) (binds : bound n = some value) :
    ReadsPart bound n (.compare column symbol value cast) := by
  have spelled : (Predicate.compare column symbol value cast).operand.text n =
      column ++ ' ' :: (symbol ++ ' ' :: '$' :: (Nat.toDigits 10 n ++ suffix cast)) := by
    change (Predicate.compare column symbol value cast).template.text n = _
    cases cast <;> simp [template, suffix]
  refine ⟨_, ?_, .refl rfl⟩
  rw [spelled]
  refine .of_test quoted fun rest ends => ?_
  simpa using test?_compare known casts binds ends

theorem state {keyword : Text} (known : keyword ∈ keywords) (negated : Bool) :
    ReadsPart bound n (.state column keyword negated) := by
  have spelled : (Predicate.state column keyword negated).operand.text n =
      column ++ ' ' :: ((if negated then "IS NOT " else "IS " : Text) ++ keyword) := by
    change (Predicate.state column keyword negated).template.text n = _
    cases negated <;> simp [template]
  refine ⟨_, ?_, .refl rfl⟩
  rw [spelled]
  refine .of_test quoted fun rest _ => ?_
  rw [List.append_assoc]
  exact test?_state known negated rest

theorem among {values : List Json} (binds : Binds bound n values) (negated : Bool) :
    ReadsPart bound n (.among column values negated) := by
  by_cases none : values = []
  · subst none
    cases negated with
    | true => exact ⟨.always, .always, _, rfl, fun _ => rfl⟩
    | false => exact ⟨.never, .never, _, rfl, fun _ => rfl⟩
  · have spelled : (Predicate.among column values negated).operand.text n = column ++ ' ' ::
        ((if negated then "NOT IN (" else "IN (" : Text) ++
          (Text.join ", " (Template.texts n (values.map fun v => [.value v])) ++ [')'])) := by
      change (Predicate.among column values negated).template.text n = _
      cases negated <;> simp [template, none, Predicate.bracketed]
    refine ⟨_, ?_, .refl rfl⟩
    rw [spelled]
    refine .of_test quoted fun rest _ => ?_
    rw [List.append_assoc, List.append_assoc]
    exact test?_among none binds negated rest

theorem search (kind : SearchKind) {config : Text} {query : Json}
    (binds : Binds bound n [.str config, query]) :
    ReadsPart bound n (.search column kind.function config query) := by
  have spelled : (Predicate.search column kind.function config query).operand.text n =
      column ++ ' ' :: (("@@ " : Text) ++ (kind.function ++ '(' :: ('$' :: Nat.toDigits 10 n ++
        (("::regconfig, " : Text) ++ ('$' :: Nat.toDigits 10 (n + 1) ++ [')']))))) := by
    change (Predicate.search column kind.function config query).template.text n = _
    simp [template, Template.bracketed]
  refine ⟨_, ?_, .refl rfl⟩
  rw [spelled]
  refine .of_test quoted fun rest _ => ?_
  simpa using test?_search kind binds rest

end ReadsPart

/-- A tree that is not empty is read with its meaning, alone and as a part of a group. -/
theorem reads_tree (written : p.Written) (filled : p.isEmpty = false)
    (binds : Binds bound n p.template.values) : ReadsTree bound n p ∧ ReadsPart bound n p := by
  induction written generalizing n with
  | @all parts _ ih =>
    rw [template, Template.values_join] at binds
    obtain ⟨items, reads, same⟩ := exists_reads_templates
      (fun p member filled n binds => (ih p member filled binds).2) binds
    refine ReadsTree.both rfl ⟨[items], ?_, means_all filled same⟩
    rw [template, Template.text_join]
    exact .all (texts_templates_filled filled n) reads
  | @any parts _ ih =>
    rw [template, Template.values_join] at binds
    obtain ⟨items, reads, same⟩ := exists_reads_templates
      (fun p member filled n binds => (ih p member filled binds).2) binds
    refine ReadsTree.both rfl ⟨items.map fun q => [q], ?_, means_any filled same⟩
    rw [template, Template.text_join]
    exact .any (texts_templates_filled filled n) reads
  | @not inner _ ih =>
    have some : ¬ inner.isEmpty = true := by
      rw [Bool.not_eq_true]
      exact filled
    rw [template, if_neg some, Template.values_sql, Template.values_bracketed] at binds
    obtain ⟨⟨groups, read, means⟩, -⟩ := ih (Bool.eq_false_iff.2 some) binds
    have spelled : (Predicate.not inner).operand.text n =
        "NOT " ++ Predicate.bracketed (inner.template.text n) := by
      change (Predicate.not inner).template.text n = _
      rw [template, if_neg some, Template.text_sql, Template.text_bracketed]
    refine ReadsPart.both rfl ⟨.not (someOf groups), ?_, means.not⟩
    rw [spelled]
    exact .not (.bracketed read)
  | compare quoted known value casts =>
    exact ReadsPart.both rfl (.compare quoted known casts binds.cons.1)
  | state quoted known negated => exact ReadsPart.both rfl (.state quoted known negated)
  | @among name column quoted values negated =>
    have listed : (Predicate.among column values negated).template.values = values := by
      rw [template]
      split
      · next none => rw [none]; rfl
      · rw [Template.values_sql, Template.values_bracketed, Template.values_join,
          Template.flatMap_values]
    rw [listed] at binds
    exact ReadsPart.both rfl (.among quoted binds negated)
  | search quoted kind config query => exact ReadsPart.both rfl (.search quoted kind binds)
  | always => exact ReadsPart.both rfl ⟨.always, .always, .refl rfl⟩
  | never => exact ReadsPart.both rfl ⟨.never, .never, .refl rfl⟩

end Predicate

/-- The value that the placeholder of a number stands for. -/
def Params.bound (p : Params) (k : Nat) : Option Json :=
  if k ≤ p.offset then none else p.values[k - p.offset - 1]?

theorem Params.binds_pushAll (p : Params) (vs : List Json) :
    Binds (p.pushAll vs).bound p.next vs := by
  intro i within
  have later : ¬ p.next + i ≤ (p.pushAll vs).offset := by
    simp only [next, pushAll]
    omega
  have place : p.next + i - (p.pushAll vs).offset - 1 = p.values.length + i := by
    simp only [next, pushAll]
    omega
  rw [bound, if_neg later, place, values_pushAll, List.getElem?_append_right (by omega),
    Nat.add_sub_cancel_left]

namespace Predicate

/-- Whenever a tree renders to something, this is read as a condition, and the condition has the
truth value of the tree without its empty groups, whatever the values of its comparisons. Columns
have to be quoted; so they are in every tree that filters compile to. -/
theorem read_build :
    (∀ (p : Predicate) params, p.Written → (p.build params).1 ≠ [] → ∃ q kept,
      read? (p.build params).2.bound (p.build params).1 = some q ∧ p.prune = some kept ∧
        ∀ assigned, q.truth assigned = kept.truth assigned) ∧
    ∀ (s : FilterSet) config p, s.predicate config = .ok p → p.Written := by
  refine ⟨fun p params written shown => ?_, fun s config p => FilterSet.written_predicate⟩
  have filled : p.isEmpty = false := by
    rwa [ne_eq, build_eq_nil_iff, Bool.not_eq_true] at shown
  rw [build_eq_fill]
  obtain ⟨⟨groups, reads, kept, pruned, same⟩, -⟩ :=
    reads_tree written filled (params.binds_pushAll p.template.values)
  exact ⟨someOf groups, kept, reads.read?, pruned, same⟩

/-- Neither owned nor public, with an empty group beside it. -/
def neitherOf : Predicate :=
  .all [.not (.any [.compare "\"owner\"" "=" (.int 1) none, .state "\"public\"" "TRUE" false]),
    .any []]

theorem neitherOf_written : neitherOf.Written := by
  have owner : Ident.quote "owner" = .ok "\"owner\"" := by decide +kernel
  have isPublic : Ident.quote "public" = .ok "\"public\"" := by decide +kernel
  refine .all (List.forall_mem_cons.2 ⟨.not (.any ?_), List.forall_mem_singleton.2 (.any ?_)⟩)
  · have compared : Written (.compare "\"owner\"" "=" (.int 1) none) :=
      .compare owner (by decide) _ (by simp)
    have stated : Written (.state "\"public\"" "TRUE" false) :=
      .state isPublic (by decide) false
    exact List.forall_mem_cons.2 ⟨compared, List.forall_mem_singleton.2 stated⟩
  · exact List.forall_mem_nil _

theorem read_neitherOf :
    neitherOf.Written ∧
      (neitherOf.build .empty).1 = "NOT (\"owner\" = $1 OR \"public\" IS TRUE)" ∧
      ∃ q kept, read? (neitherOf.build .empty).2.bound (neitherOf.build .empty).1 = some q ∧
        neitherOf.prune = some kept ∧ ∀ assigned, q.truth assigned = kept.truth assigned := by
  have sql : (neitherOf.build .empty).1 = "NOT (\"owner\" = $1 OR \"public\" IS TRUE)" := by
    decide +kernel
  refine ⟨neitherOf_written, sql, read_build.1 neitherOf .empty neitherOf_written ?_⟩
  rw [sql]
  decide

end Predicate

end FluentQuery

import FluentQuery.ForeignKey

/-! Which foreign key a reference follows. Without a hint it is a key between the two tables: one
that starts at the source if there is any, and of several the one on the column named after the
label; keys elsewhere in the graph play no part. With a hint it is the first key of that name, and
the tables of this key are not asked for. -/
namespace FluentQuery

/-! First items -/

/-- The item has the property, and none before it in the list has it. -/
def First {α : Type} (p : α → Prop) (items : List α) (a : α) : Prop :=
  ∃ before after, items = before ++ a :: after ∧ p a ∧ ∀ b ∈ before, ¬ p b

section

variable {α : Type} {p : α → Prop} {items : List α} {a : α}

theorem First.mem (first : First p items a) : a ∈ items ∧ p a := by
  obtain ⟨before, after, rfl, has, -⟩ := first
  exact ⟨by simp, has⟩

variable [DecidablePred p]

theorem first_iff_find? : First p items a ↔ items.find? (fun a => p a) = some a := by
  rw [List.find?_eq_some_iff_append]
  constructor
  · rintro ⟨before, after, same, has, none⟩
    exact ⟨decide_eq_true has, before, after, same, by simpa using none⟩
  · rintro ⟨has, before, after, same, none⟩
    exact ⟨before, after, same, of_decide_eq_true has, by simpa using none⟩

theorem exists_first (existing : ∃ a ∈ items, p a) : ∃ a, First p items a := by
  obtain ⟨a, member, has⟩ := existing
  cases found : items.find? fun a => p a with
  | none => exact absurd has (by simpa using List.find?_eq_none.1 found a member)
  | some b => exact ⟨b, first_iff_find?.2 found⟩

theorem find?_eq_none_of_forall (lacking : ∀ a ∈ items, ¬ p a) :
    items.find? (fun a => p a) = none :=
  List.find?_eq_none.2 (by simpa using lacking)

end

/-! Keys between two tables -/

namespace ForeignKey

/-- The key starts at the one table and ends at the other. -/
def Runs (start finish : Text) (k : ForeignKey) : Prop :=
  k.fromTable = start ∧ k.toTable = finish

/-- The key runs between the two tables, in one direction or the other. -/
def Links (source table : Text) (k : ForeignKey) : Prop :=
  k.Runs source table ∨ k.Runs table source

instance (start finish : Text) : DecidablePred (Runs start finish) :=
  fun k => inferInstanceAs (Decidable (k.fromTable = start ∧ k.toTable = finish))

instance (source table : Text) : DecidablePred (Links source table) :=
  fun k => inferInstanceAs (Decidable (k.Runs source table ∨ k.Runs table source))

/-- Where a key leads from the source: to its end if it starts there, and else to its start. -/
def farTable (source : Text) (k : ForeignKey) : Text :=
  if k.fromTable = source then k.toTable else k.fromTable

end ForeignKey

variable {g : Graph} {guessing : Bool} {source table hint : Text} {r : Reference} {k : ForeignKey}
  {plan : Plan}

namespace Plan

/-- The plan of a key between two tables: to one row where the key starts at the source. -/
inductive Follows (source table : Text) (k : ForeignKey) : Plan → Prop where
  | out (runs : k.Runs source table) :
      Follows source table k ⟨.manyToOne, k.fromColumn, k.toColumn, table⟩
  | back (runs : k.Runs table source) (apart : table ≠ source) :
      Follows source table k ⟨.oneToMany, k.toColumn, k.fromColumn, table⟩

theorem along_out (runs : k.Runs source table) :
    along source k = ⟨.manyToOne, k.fromColumn, k.toColumn, table⟩ := by
  obtain ⟨rfl, rfl⟩ := runs
  rw [along, if_pos rfl]

theorem along_back (runs : k.Runs table source) (apart : table ≠ source) :
    along source k = ⟨.oneToMany, k.toColumn, k.fromColumn, table⟩ := by
  obtain ⟨rfl, rfl⟩ := runs
  rw [along, if_neg apart]

theorem foreignTable_along (source : Text) (k : ForeignKey) :
    (along source k).foreignTable = k.farTable source := by
  unfold along ForeignKey.farTable
  split <;> rfl

/-- The plan along a key between two tables is the plan of that key. -/
theorem follows_along (links : k.Links source table) : Follows source table k (along source k) := by
  rcases links with out | back
  · rw [along_out out]
    exact .out out
  · by_cases apart : table = source
    · subst apart
      rw [along_out back]
      exact .out back
    · rw [along_back back apart]
      exact .back back apart

theorem Follows.foreignTable_eq (follows : Follows source table k plan) :
    plan.foreignTable = table := by
  cases follows <;> rfl

end Plan

namespace Resolution

open Plan (along Follows)

/-! The key that is taken -/

/-- Among the keys with a property, the first one on the column that the label suggests if there is
any, and else the first. -/
def Taken (label : Text) (p : ForeignKey → Prop) (g : Graph) (k : ForeignKey) : Prop :=
  First (fun k => p k ∧ k.fromColumn = label ++ "_id") g k ∨
    (∀ k ∈ g, p k → k.fromColumn ≠ label ++ "_id") ∧ First p g k

theorem Taken.mem {label : Text} {p : ForeignKey → Prop} (taken : Taken label p g k) :
    k ∈ g ∧ p k := by
  rcases taken with preferred | ⟨-, first⟩
  · exact ⟨preferred.mem.1, preferred.mem.2.1⟩
  · exact first.mem

section

variable {label : Text} {p : ForeignKey → Prop} [DecidablePred p]

theorem pick_filter (label : Text) (g : Graph) :
    pick label (g.filter fun k => p k) =
      (g.find? fun k => p k ∧ k.fromColumn = label ++ "_id").or (g.find? fun k => p k) := by
  have both : (fun k : ForeignKey => decide (decide (p k) = true ∧
      decide (k.fromColumn = preferredColumn label) = true)) =
        fun k => decide (p k ∧ k.fromColumn = label ++ "_id") := by
    funext k
    simp only [decide_eq_true_eq]
    rfl
  rw [pick, List.find?_filter, List.head?_filter, both]

theorem exists_taken (label : Text) (existing : ∃ k ∈ g, p k) :
    ∃ k, Taken label p g k ∧ pick label (g.filter fun k => p k) = some k := by
  by_cases preferred : ∃ k ∈ g, p k ∧ k.fromColumn = label ++ "_id"
  · obtain ⟨k, first⟩ := exists_first preferred
    refine ⟨k, .inl first, ?_⟩
    rw [pick_filter, first_iff_find?.1 first, Option.some_or]
  · have lacking : ∀ k ∈ g, ¬ (p k ∧ k.fromColumn = label ++ "_id") :=
      fun k member both => preferred ⟨k, member, both⟩
    obtain ⟨k, first⟩ := exists_first existing
    refine ⟨k, .inr ⟨fun k member has column => lacking k member ⟨has, column⟩, first⟩, ?_⟩
    rw [pick_filter, find?_eq_none_of_forall lacking, Option.none_or, first_iff_find?.1 first]

theorem pick_eq_none (lacking : ∀ k ∈ g, ¬ p k) : pick label (g.filter fun k => p k) = none := by
  have empty : (g.filter fun k => p k) = [] := List.filter_eq_nil_iff.2 (by simpa using lacking)
  rw [empty]
  rfl

end

/-! By the tables -/

theorem outgoing_eq (g : Graph) (source table : Text) :
    outgoing g source table = g.filter fun k => k.Runs source table := rfl

theorem incoming_eq (g : Graph) (source table : Text) :
    incoming g source table = g.filter fun k => k.Runs table source := rfl

theorem byTables_of_outgoing (existing : ∃ k ∈ g, k.Runs source r.table) :
    ∃ k, Taken r.label (·.Runs source r.table) g k ∧
      byTables g r source = some ⟨.manyToOne, k.fromColumn, k.toColumn, r.table⟩ := by
  obtain ⟨k, taken, picked⟩ := exists_taken r.label existing
  refine ⟨k, taken, ?_⟩
  rw [byTables, outgoing_eq, picked, Option.some_or, Option.map_some, Plan.along_out taken.mem.2]

theorem byTables_of_incoming (lacking : ∀ k ∈ g, ¬ k.Runs source r.table)
    (existing : ∃ k ∈ g, k.Runs r.table source) :
    ∃ k, Taken r.label (·.Runs r.table source) g k ∧
      byTables g r source = some ⟨.oneToMany, k.toColumn, k.fromColumn, r.table⟩ := by
  obtain ⟨k, taken, picked⟩ := exists_taken r.label existing
  obtain ⟨member, runs⟩ := taken.mem
  have apart : r.table ≠ source := by
    intro same
    rw [same] at runs lacking
    exact lacking k member runs
  refine ⟨k, taken, ?_⟩
  rw [byTables, outgoing_eq, pick_eq_none lacking, incoming_eq, picked, Option.none_or,
    Option.map_some, Plan.along_back runs apart]

theorem byTables_eq_none (lacking : ∀ k ∈ g, ¬ k.Links source r.table) :
    byTables g r source = none := by
  have noOut : ∀ k ∈ g, ¬ k.Runs source r.table := fun k member out => lacking k member (.inl out)
  have noBack : ∀ k ∈ g, ¬ k.Runs r.table source :=
    fun k member back => lacking k member (.inr back)
  rw [byTables, outgoing_eq, pick_eq_none noOut, incoming_eq, pick_eq_none noBack]
  rfl

/-- Only the keys between the two tables are looked at. -/
theorem byTables_congr {other : Graph}
    (same : (other.filter fun k => k.Links source r.table) =
      g.filter fun k => k.Links source r.table) :
    byTables other r source = byTables g r source := by
  have among {p : ForeignKey → Prop} [DecidablePred p] (linking : ∀ k, p k → k.Links source r.table)
      (g : Graph) : (g.filter fun k => p k) =
        (g.filter fun k => k.Links source r.table).filter fun k => p k := by
    rw [List.filter_filter]
    refine List.filter_congr fun k _ => ?_
    by_cases has : p k
    · simp [has, linking k has]
    · simp [has]
  rw [byTables, byTables, outgoing_eq, outgoing_eq, incoming_eq, incoming_eq,
    among (fun _ => .inl) other, among (fun _ => .inr) other, same, ← among (fun _ => .inl) g,
    ← among (fun _ => .inr) g]

theorem foreignTable_of_byTables (found : byTables g r source = some plan) :
    plan.foreignTable = r.table := by
  by_cases out : ∃ k ∈ g, k.Runs source r.table
  · obtain ⟨k, -, same⟩ := byTables_of_outgoing out
    cases same.symm.trans found
    rfl
  · have noOut : ∀ k ∈ g, ¬ k.Runs source r.table := fun k member runs => out ⟨k, member, runs⟩
    by_cases back : ∃ k ∈ g, k.Runs r.table source
    · obtain ⟨k, -, same⟩ := byTables_of_incoming noOut back
      cases same.symm.trans found
      rfl
    · have lacking : ∀ k ∈ g, ¬ k.Links source r.table := by
        rintro k member (runs | runs)
        · exact noOut k member runs
        · exact back ⟨k, member, runs⟩
      cases (byTables_eq_none lacking).symm.trans found

/-! By the hint -/

theorem resolve_of_byHint (found : byHint g r source = some plan) :
    resolve g guessing source r = .found plan := by
  rw [resolve, found, Option.some_or]

theorem resolve_of_byTables (unhinted : byHint g r source = none)
    (found : byTables g r source = some plan) : resolve g guessing source r = .found plan := by
  rw [resolve, unhinted, Option.none_or, found]

/-- The first key of the hint's name is followed. -/
theorem resolve_of_first (guessing : Bool) (source : Text) (hinted : r.hint = some hint)
    (first : First (·.name = hint) g k) :
    resolve g guessing source r = .found (along source k) := by
  apply resolve_of_byHint
  rw [byHint, hinted]
  simp only [first_iff_find?.1 first]

theorem byHint_of_unknown (hinted : r.hint = some hint) (unknown : ∀ k ∈ g, k.name ≠ hint) :
    byHint g r source = Plan.ofConvention? hint source r.table := by
  have lacking : g.find? (fun k => k.name = hint) = none := find?_eq_none_of_forall unknown
  rw [byHint, hinted]
  simp only [lacking]

theorem foreignTable_of_convention (found : Plan.ofConvention? hint source table = some plan) :
    plan.foreignTable = table := by
  unfold Plan.ofConvention? at found
  split at found
  · cases found
  · split at found
    · cases found
      rfl
    · obtain ⟨column, -, rfl⟩ := Option.map_eq_some_iff.1 found
      rfl

/-- Unless a key has the hint's name, a reference leads to the table that it names. -/
theorem foreignTable_of_unknown (unknown : ∀ k ∈ g, r.hint ≠ some k.name)
    (planned : (resolve g guessing source r).plan? = some plan) : plan.foreignTable = r.table := by
  unfold resolve at planned
  split at planned
  · next found =>
    cases planned
    rcases Option.or_eq_some_iff.1 found with named | ⟨-, linked⟩
    · cases hinted : r.hint with
      | none => simp [byHint, hinted] at named
      | some hint =>
        rw [byHint_of_unknown hinted fun k member same => unknown k member (same ▸ hinted)] at named
        exact foreignTable_of_convention named
    · exact foreignTable_of_byTables linked
  · split at planned
    · cases planned
      rfl
    · cases planned

/-- What a hint asks for: the plan of a key of its name between the two tables if there is one, and
in any case the table that the reference names. -/
structure HintFollowed (g : Graph) (guessing : Bool) (source : Text) (r : Reference)
    (hint : Text) : Prop where
  linked : (∃ k ∈ g, k.name = hint ∧ k.Links source r.table) →
    ∃ k ∈ g, k.name = hint ∧
      ∃ plan, resolve g guessing source r = .found plan ∧ Follows source r.table k plan
  related : ∀ plan, (resolve g guessing source r).plan? = some plan → plan.foreignTable = r.table

/-- The first key of its name decides whether a hint is followed. -/
theorem HintFollowed.of_first (hinted : r.hint = some hint)
    (followed : HintFollowed g guessing source r hint) (first : First (·.name = hint) g k) :
    k.farTable source = r.table ∧
      ((∃ l ∈ g, l.name = hint ∧ l.Links source r.table) →
        ∃ l ∈ g, l.name = hint ∧ Follows source r.table l (along source k)) := by
  have found := resolve_of_first guessing source hinted first
  refine ⟨?_, fun existing => ?_⟩
  · rw [← Plan.foreignTable_along]
    exact followed.related _ (by rw [found]; rfl)
  · obtain ⟨l, member, named, plan, planned, follows⟩ := followed.linked existing
    cases found.symm.trans planned
    exact ⟨l, member, named, follows⟩

theorem HintFollowed.intro_first (hinted : r.hint = some hint)
    (each : ∀ k, First (·.name = hint) g k → k.farTable source = r.table ∧
      ((∃ l ∈ g, l.name = hint ∧ l.Links source r.table) →
        ∃ l ∈ g, l.name = hint ∧ Follows source r.table l (along source k))) :
    HintFollowed g guessing source r hint where
  linked := by
    rintro ⟨l, member, named, links⟩
    obtain ⟨k, first⟩ := exists_first (p := (·.name = hint)) ⟨l, member, named⟩
    obtain ⟨k', member', named', follows⟩ := (each k first).2 ⟨l, member, named, links⟩
    exact ⟨k', member', named', _, resolve_of_first guessing source hinted first, follows⟩
  related := by
    intro plan planned
    by_cases known : ∃ k ∈ g, k.name = hint
    · obtain ⟨k, first⟩ := exists_first known
      rw [resolve_of_first guessing source hinted first] at planned
      cases planned
      rw [Plan.foreignTable_along]
      exact (each k first).1
    · refine foreignTable_of_unknown (fun k member same => ?_) planned
      exact known ⟨k, member, (Option.some.inj (hinted.symm.trans same)).symm⟩

/-- A hint is followed just when the first key of its name, if any, leads from the source to the
table of the reference and, should keys of that name link the two tables, has the plan of one of
them. It is followed if all keys of its name link the two tables. -/
theorem hint_followed_iff (hinted : r.hint = some hint) (g : Graph) (guessing : Bool)
    (source : Text) :
    (HintFollowed g guessing source r hint ↔
      ∀ k, First (·.name = hint) g k → k.farTable source = r.table ∧
        ((∃ l ∈ g, l.name = hint ∧ l.Links source r.table) →
          ∃ l ∈ g, l.name = hint ∧ Follows source r.table l (along source k))) ∧
    ((∀ k ∈ g, k.name = hint → k.Links source r.table) →
      HintFollowed g guessing source r hint) := by
  refine ⟨⟨fun followed k first => followed.of_first hinted first, .intro_first hinted⟩,
    fun all => .intro_first hinted fun k first => ?_⟩
  obtain ⟨member, named⟩ := first.mem
  have follows := Plan.follows_along (all k member named)
  refine ⟨?_, fun _ => ⟨k, member, named, follows⟩⟩
  rw [← Plan.foreignTable_along]
  exact follows.foreignTable_eq

/-- A name that is given twice: once between the two tables of the reference, and before that
elsewhere. -/
def sharedName : Graph :=
  [⟨"author_fk", "comments", "author", "users", "id"⟩,
    ⟨"author_fk", "posts", "author", "profiles", "id"⟩]

def authorByName : Reference :=
  ⟨"author", "profiles", some "author_fk", false, "username"⟩

theorem sharedName_misleads :
    authorByName.hint = some "author_fk" ∧
      (∃ k ∈ sharedName, k.name = "author_fk" ∧ k.Links "posts" authorByName.table) ∧
      resolve sharedName true "posts" authorByName =
        .found ⟨.oneToMany, "id", "author", "comments"⟩ ∧
      ¬ HintFollowed sharedName true "posts" authorByName "author_fk" := by
  have first : First (·.name = ("author_fk" : Text)) sharedName
      ⟨"author_fk", "comments", "author", "users", "id"⟩ :=
    ⟨[], _, rfl, rfl, by simp⟩
  refine ⟨rfl, by decide, by decide, fun followed => ?_⟩
  obtain ⟨far, -⟩ := (hint_followed_iff rfl sharedName true "posts").1.1 followed _ first
  exact absurd far (by decide)

/-- Without a hint, a reference follows a key from the source to its table if there is one, else a
key from its table to the source if there is one, and else the guess if guessing is allowed. It
leads to its table in every case, and keys that do not link the two tables make no difference:
graphs that agree when these are left out give the same. -/
theorem resolve_unhinted (unhinted : r.hint = none) (g : Graph) (guessing : Bool) (source : Text) :
    ((∃ k ∈ g, k.Runs source r.table) →
      ∃ k, Taken r.label (·.Runs source r.table) g k ∧
        resolve g guessing source r =
          .found ⟨.manyToOne, k.fromColumn, k.toColumn, r.table⟩) ∧
    ((∀ k ∈ g, ¬ k.Runs source r.table) → (∃ k ∈ g, k.Runs r.table source) →
      ∃ k, Taken r.label (·.Runs r.table source) g k ∧
        resolve g guessing source r =
          .found ⟨.oneToMany, k.toColumn, k.fromColumn, r.table⟩) ∧
    ((∀ k ∈ g, ¬ k.Links source r.table) →
      resolve g guessing source r =
        if guessing then .guessed ⟨.manyToOne, r.label ++ "_id", "id", r.table⟩
        else .unresolved) ∧
    (∀ plan, (resolve g guessing source r).plan? = some plan → plan.foreignTable = r.table) ∧
    ∀ other : Graph,
      (other.filter fun k => k.Links source r.table) =
        (g.filter fun k => k.Links source r.table) →
      resolve other guessing source r = resolve g guessing source r := by
  have byTablesOnly (g : Graph) : byHint g r source = none := by rw [byHint, unhinted]
  refine ⟨fun existing => ?_, fun lacking existing => ?_, fun lacking => ?_, fun plan planned => ?_,
    fun other same => ?_⟩
  · obtain ⟨k, taken, found⟩ := byTables_of_outgoing existing
    exact ⟨k, taken, resolve_of_byTables (byTablesOnly g) found⟩
  · obtain ⟨k, taken, found⟩ := byTables_of_incoming lacking existing
    exact ⟨k, taken, resolve_of_byTables (byTablesOnly g) found⟩
  · rw [resolve, byTablesOnly, byTables_eq_none lacking]
    rfl
  · refine foreignTable_of_unknown (fun k _ named => ?_) planned
    cases unhinted.symm.trans named
  · rw [resolve, resolve, byTablesOnly, byTablesOnly, byTables_congr same]

/-- Two keys from posts to profiles, and one that has nothing to do with them. -/
def newsroom : Graph :=
  [⟨"posts_author_id_fkey", "posts", "author_id", "profiles", "id"⟩,
    ⟨"comments_post_id_fkey", "comments", "post_id", "posts", "id"⟩,
    ⟨"posts_editor_id_fkey", "posts", "editor_id", "profiles", "id"⟩]

def editor : Reference :=
  ⟨"editor", "profiles", none, false, "username"⟩

theorem editor_resolved :
    editor.hint = none ∧
      resolve newsroom true "posts" editor =
        .found ⟨.manyToOne, "editor_id", "id", "profiles"⟩ ∧
      ∀ other : Graph,
        (other.filter fun k => k.Links "posts" editor.table) =
          (newsroom.filter fun k => k.Links "posts" editor.table) →
        resolve other true "posts" editor =
          .found ⟨.manyToOne, "editor_id", "id", "profiles"⟩ := by
  have found : resolve newsroom true "posts" editor =
      .found ⟨.manyToOne, "editor_id", "id", "profiles"⟩ := by decide
  obtain ⟨-, -, -, -, elsewhere⟩ := resolve_unhinted (r := editor) rfl newsroom true "posts"
  exact ⟨rfl, found, fun other same => (elsewhere other same).trans found⟩

end Resolution

end FluentQuery

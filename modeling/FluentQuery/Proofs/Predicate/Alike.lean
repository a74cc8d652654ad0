import FluentQuery.Filter.Set
import FluentQuery.Proofs.Predicate.Template

/-! Filters that differ in their values alone. The relation `R` between the values at corresponding
places is left open: with the relation that always holds, two filters are alike if they have the
same shape. Alike filters compile to the same SQL with related values, or fail alike. -/
namespace FluentQuery

variable {R : Json → Json → Prop}

/-! Steps that fail together -/

/-- Both succeed, with related results, or both fail for the same cause. -/
inductive Agree {ε α β : Type} (P : α → β → Prop) : Except ε α → Except ε β → Prop
  | ok {a : α} {b : β} (related : P a b) : Agree P (.ok a) (.ok b)
  | error (cause : ε) : Agree P (.error cause) (.error cause)

namespace Agree

variable {ε α β γ δ : Type} {P : α → β → Prop} {Q : γ → δ → Prop}

theorem refl {P : α → α → Prop} (related : ∀ a, P a a) (x : Except ε α) : Agree P x x := by
  cases x with
  | ok a => exact .ok (related a)
  | error cause => exact .error cause

theorem exists_ok {a : α} {y : Except ε β} (agree : Agree P (.ok a) y) :
    ∃ b, y = .ok b ∧ P a b := by
  cases agree with
  | ok related => exact ⟨_, rfl, related⟩

theorem error_iff {x : Except ε α} {y : Except ε β} (agree : Agree P x y) (cause : ε) :
    x = .error cause ↔ y = .error cause := by
  cases agree <;> simp

theorem bind {x : Except ε α} {y : Except ε β} {f : α → Except ε γ} {g : β → Except ε δ}
    (agree : Agree P x y) (step : ∀ a b, P a b → Agree Q (f a) (g b)) :
    Agree Q (x >>= f) (y >>= g) := by
  cases agree with
  | ok related => exact step _ _ related
  | error cause => exact .error cause

theorem map {x : Except ε α} {y : Except ε β} {f : α → γ} {g : β → δ} (agree : Agree P x y)
    (step : ∀ a b, P a b → Q (f a) (g b)) : Agree Q (x.map f) (y.map g) := by
  cases agree with
  | ok related => exact .ok (step _ _ related)
  | error cause => exact .error cause

/-- A step that both share. -/
theorem same_bind {x : Except ε α} {f : α → Except ε γ} {g : α → Except ε δ}
    (step : ∀ a, Agree Q (f a) (g a)) : Agree Q (x >>= f) (x >>= g) :=
  (refl (fun _ => rfl) x).bind fun a _ same => same ▸ step a

theorem mapM {f : α → Except ε γ} {g : β → Except ε δ} {as : List α} {bs : List β}
    (each : List.Forall₂ (fun a b => Agree Q (f a) (g b)) as bs) :
    Agree (List.Forall₂ Q) (as.mapM f) (bs.mapM g) := by
  induction each with
  | nil => exact .ok .nil
  | cons first later ih =>
    rw [List.mapM_cons, List.mapM_cons]
    exact first.bind fun c d head => ih.bind fun cs ds tail => .ok (.cons head tail)

end Agree

/-! Templates -/

inductive Piece.Alike (R : Json → Json → Prop) : Piece → Piece → Prop
  | sql (t : Text) : Alike R (.sql t) (.sql t)
  | value {v w : Json} (related : R v w) : Alike R (.value v) (.value w)

namespace Template

variable {T U T' U' : Template}

/-- The same SQL with related values in the same places. -/
def Alike (R : Json → Json → Prop) : Template → Template → Prop :=
  List.Forall₂ (Piece.Alike R)

namespace Alike

theorem refl (same : ∀ v, R v v) (T : Template) : Alike R T T :=
  List.forall₂_same.2 fun
    | .sql t, _ => .sql t
    | .value v, _ => .value (same v)

theorem text_eq (alike : Alike R T U) (n : Nat) : T.text n = U.text n := by
  induction alike generalizing n with
  | nil => rfl
  | cons piece later ih =>
    cases piece with
    | sql t => rw [text_sql, text_sql, ih]
    | value related => rw [text_value, text_value, ih]

theorem values (alike : Alike R T U) : List.Forall₂ R T.values U.values := by
  induction alike with
  | nil => exact .nil
  | cons piece later ih =>
    cases piece with
    | sql t => exact ih
    | value related => exact .cons related ih

theorem nil : Alike R [] [] :=
  List.Forall₂.nil

theorem sql (t : Text) (alike : Alike R T U) : Alike R (.sql t :: T) (.sql t :: U) :=
  .cons (.sql t) alike

theorem value {v w : Json} (related : R v w) (alike : Alike R T U) :
    Alike R (.value v :: T) (.value w :: U) :=
  .cons (.value related) alike

theorem append (first : Alike R T U) (second : Alike R T' U') : Alike R (T ++ T') (U ++ U') :=
  List.rel_append first second

theorem bracketed (alike : Alike R T U) : Alike R T.bracketed U.bracketed :=
  .sql _ (alike.append (.sql _ .nil))

theorem join (sep : Text) {parts others : List Template}
    (each : List.Forall₂ (Alike R) parts others) :
    Alike R (Template.join sep parts) (Template.join sep others) := by
  induction each with
  | nil => exact .nil
  | cons first later ih =>
    cases later with
    | nil => exact first
    | cons second rest => exact first.append (.sql _ ih)

/-- Templates that hold one value each. -/
theorem singles {vs ws : List Json} (related : List.Forall₂ R vs ws) :
    List.Forall₂ (Alike R) (vs.map fun v => [.value v]) (ws.map fun w => [.value w]) :=
  List.forall₂_map_left_iff.2 (List.forall₂_map_right_iff.2
    (related.imp fun _ _ h => value h nil))

end Alike

end Template

/-! Trees -/

namespace Predicate

/-- Trees with alike templates that a group treats in the same way. -/
structure Alike (R : Json → Json → Prop) (p q : Predicate) : Prop where
  empty : p.isEmpty = q.isEmpty
  group : p.isGroup = q.isGroup
  body : p.template.Alike R q.template

variable {p q : Predicate} {parts others : List Predicate}

theorem Alike.refl (same : ∀ v, R v v) (p : Predicate) : Alike R p p :=
  ⟨rfl, rfl, .refl same _⟩

theorem areEmpty_alike (each : List.Forall₂ (Alike R) parts others) :
    areEmpty parts = areEmpty others := by
  induction each with
  | nil => rfl
  | cons first later ih => rw [areEmpty, areEmpty, first.empty, ih]

theorem templates_alike (each : List.Forall₂ (Alike R) parts others) :
    List.Forall₂ (Template.Alike R) (templates parts) (templates others) := by
  induction each with
  | nil => exact .nil
  | cons first later ih =>
    rw [templates, templates, first.empty, first.group]
    split
    · exact ih
    · refine .cons ?_ ih
      split
      · exact first.body.bracketed
      · exact first.body

namespace Alike

theorem all (each : List.Forall₂ (Alike R) parts others) : Alike R (.all parts) (.all others) :=
  ⟨areEmpty_alike each, rfl, .join _ (templates_alike each)⟩

theorem not (alike : Alike R p q) : Alike R (.not p) (.not q) := by
  refine ⟨alike.empty, rfl, ?_⟩
  rw [Predicate.template, Predicate.template, alike.empty]
  split
  · exact .nil
  · exact .sql _ alike.body.bracketed

variable {v w : Json} {vs ws : List Json}

theorem compare (column symbol : Text) (cast : Option Text) (related : R v w) :
    Alike R (.compare column symbol v cast) (.compare column symbol w cast) :=
  ⟨rfl, rfl, .sql _ (.value related (.sql _ .nil))⟩

theorem search (column function config : Text) (same : R (.str config) (.str config))
    (related : R v w) :
    Alike R (.search column function config v) (.search column function config w) :=
  ⟨rfl, rfl, .sql _ (.bracketed (.value same (.sql _ (.value related .nil))))⟩

theorem among (column : Text) (negated : Bool) (related : List.Forall₂ R vs ws) :
    Alike R (.among column vs negated) (.among column ws negated) := by
  refine ⟨rfl, rfl, ?_⟩
  cases related with
  | nil => exact .sql _ .nil
  | cons first later =>
    rw [template, template, if_neg (List.cons_ne_nil _ _), if_neg (List.cons_ne_nil _ _)]
    exact .sql _ (.bracketed (.join _ (Template.Alike.singles (.cons first later))))

theorem inList (column : Text) (related : List.Forall₂ R vs ws) :
    Alike R (inList column vs) (inList column ws) := by
  cases related with
  | nil => exact ⟨rfl, rfl, .sql _ .nil⟩
  | cons first later => exact among column false (.cons first later)

theorem notInList (column : Text) (related : List.Forall₂ R vs ws) :
    Alike R (notInList column vs) (notInList column ws) := by
  cases related with
  | nil => exact ⟨rfl, rfl, .sql _ .nil⟩
  | cons first later => exact among column true (.cons first later)

end Alike

end Predicate

/-! Filters -/

/-- Related values of one shape, as the operator sees it. `IS` writes its value into the SQL and so
bears no other one. A list is looked up item by item, and whether it has any items shows. -/
def Operator.Alike (R : Json → Json → Prop) : Operator → Json → Json → Prop
  | .is, v, w => v = w
  | .among, v, w => v = w ∨ ∃ vs ws, v = .arr vs ∧ w = .arr ws ∧ vs.length = ws.length ∧
      ∀ pair ∈ vs.zip ws, R pair.1 pair.2
  | .containedBy, v, w | .overlaps, v, w =>
    R v w ∧ v.isObject = w.isObject ∧ (v = .arr [] ↔ w = .arr [])
  | _, v, w => R v w ∧ v.isObject = w.isObject

structure Filter.Alike (R : Json → Json → Prop) (f g : Filter) : Prop where
  column : f.column = g.column
  op : f.op = g.op
  value : f.op.Alike R f.value g.value

/-- A negated filter binds its value like the filter that it holds. -/
def Negated.filter : Negated → Filter
  | .known f | .fallback f => f

def Negated.isKnown : Negated → Bool
  | .known _ => true
  | .fallback _ => false

structure Negated.Alike (R : Json → Json → Prop) (m n : Negated) : Prop where
  known : m.isKnown = n.isKnown
  filter : m.filter.Alike R n.filter

structure FilterSet.Alike (R : Json → Json → Prop) (s t : FilterSet) : Prop where
  plain : List.Forall₂ (Filter.Alike R) s.plain t.plain
  groups : s.groups = t.groups
  negated : List.Forall₂ (Negated.Alike R) s.negated t.negated

namespace Filter

variable {f g : Filter}

theorem containment_alike (column symbol : Text) {v w : Json} (related : R v w)
    (object : v.isObject = w.isObject) :
    Predicate.Alike R (containment column symbol v) (containment column symbol w) := by
  rw [containment, containment, object]
  exact .compare _ _ _ related

theorem members_alike (same : ∀ v, R v v) {v w : Json} (alike : Operator.among.Alike R v w) :
    Agree (List.Forall₂ R) (members v) (members w) := by
  obtain rfl | ⟨vs, ws, rfl, rfl, long, each⟩ := alike
  · exact .refl (fun vs => List.forall₂_same.2 fun v _ => same v) _
  · exact .ok (List.forall₂_iff_zip.2 ⟨long, fun member => each _ member⟩)

theorem predicate_alike (config : Text) (same : ∀ v, R v v) (alike : f.Alike R g) :
    Agree (Predicate.Alike R) (f.predicate config) (g.predicate config) := by
  obtain ⟨column, op, v⟩ := f
  obtain ⟨other, symbol, w⟩ := g
  obtain ⟨rfl, rfl, value⟩ : column = other ∧ op = symbol ∧ op.Alike R v w :=
    ⟨alike.column, alike.op, alike.value⟩
  refine Agree.same_bind fun sql => ?_
  cases op with
  | is =>
    obtain rfl : v = w := value
    exact .refl (.refl same) _
  | among => exact (members_alike same value).map fun _ _ => .inList sql
  | contains => exact .ok (containment_alike sql _ value.1 value.2)
  | containedBy =>
    obtain ⟨related, object, empty⟩ := value
    by_cases none : v = .arr []
    · simp only [none, empty.1 none, if_true]
      exact .ok (.refl same _)
    · simp only [none, mt empty.2 none, if_false]
      exact .ok (containment_alike sql _ related object)
  | overlaps =>
    obtain ⟨related, object, empty⟩ := value
    by_cases none : v = .arr []
    · simp only [none, empty.1 none, if_true]
      exact .ok (.refl same _)
    · simp only [none, mt empty.2 none, if_false]
      exact .ok (.compare sql _ _ related)
  | search kind own => exact .ok (.search sql _ _ (same _) value.1)
  | eq | neq | gt | gte | lt | lte | like | ilike => exact .ok (.compare sql _ _ value.1)

theorem negation_alike (config : Text) (same : ∀ v, R v v) (alike : f.Alike R g) :
    Agree (Predicate.Alike R) (f.negation config) (g.negation config) := by
  have positive := predicate_alike config same alike
  obtain ⟨column, op, v⟩ := f
  obtain ⟨other, symbol, w⟩ := g
  obtain ⟨rfl, rfl, value⟩ : column = other ∧ op = symbol ∧ op.Alike R v w :=
    ⟨alike.column, alike.op, alike.value⟩
  refine Agree.same_bind fun sql => ?_
  cases op with
  | is =>
    obtain rfl : v = w := value
    exact .refl (.refl same) _
  | among => exact (members_alike same value).map fun _ _ => .notInList sql
  | eq | neq | like | ilike => exact .ok (.compare sql _ _ value.1)
  | gt | gte | lt | lte | contains | containedBy | overlaps | search =>
    exact positive.map fun _ _ => .not

end Filter

theorem Negated.predicate_alike (config : Text) (same : ∀ v, R v v) {m n : Negated}
    (alike : m.Alike R n) :
    Agree (Predicate.Alike R) (m.predicate config) (n.predicate config) := by
  obtain ⟨known, filter⟩ := alike
  cases m with
  | known f =>
    cases n with
    | known g => exact Filter.negation_alike config same filter
    | fallback g => cases known
  | fallback f =>
    cases n with
    | known g => cases known
    | fallback g => exact (Filter.predicate_alike config same filter).map fun _ _ => .not

/-- Alike sets of filters compile to alike trees. -/
theorem FilterSet.predicate_alike (config : Text) (same : ∀ v, R v v) {s t : FilterSet}
    (alike : s.Alike R t) :
    Agree (Predicate.Alike R) (s.predicate config) (t.predicate config) := by
  have plain := Agree.mapM (alike.plain.imp fun _ _ => Filter.predicate_alike config same)
  have negated := Agree.mapM (alike.negated.imp fun _ _ => Negated.predicate_alike config same)
  rw [predicate, predicate, alike.groups]
  refine plain.bind fun ps qs first => Agree.same_bind fun groups => ?_
  refine negated.bind fun ms ns last => ?_
  have between : List.Forall₂ (Predicate.Alike R) groups groups :=
    List.forall₂_same.2 fun p _ => .refl same p
  exact .ok (.all (List.rel_append (List.rel_append first between) last))

end FluentQuery

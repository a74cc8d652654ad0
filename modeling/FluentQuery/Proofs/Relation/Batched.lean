import FluentQuery.Proofs.Relation.MatchKey
import FluentQuery.Proofs.Relation.NestedLoop

/-! Batched references join as a nested loop does. A fetched row carries what the caller selected
and the columns that its match and its references need; nested references are resolved on all
fetched rows together, and each row is then matched by its stored value. -/
namespace FluentQuery.Relation

open Projection (offer missing addition)
open NestedLoop (partners lacks joined valueOf join)

variable {b : Backend} {parents : List Row}

/-! One row and its references -/

/-- What a relation gives one parent is the value of its reference; without one it is null. -/
structure Stands (b : Backend) (parents : List Row) (parent : Row) (r : Reference) (x : Relation)
    (v : Option Json) : Prop where
  reference : x.reference = r
  value : (x.given b parents).map (· parent) = v
  empty : v = none → x.emptyValue = .null

section

variable {parent : Row} {references : List Reference} {relation : Reference → Relation}
  {value : Reference → Option Json}

theorem value_grant {r : Reference} {x : Relation} {v : Option Json}
    (stands : Stands b parents parent r x v) :
    (x.grant (x.given b parents)).value parent = v.getD .null ∧
      (x.grant (x.given b parents)).required = (r.inner && v.isSome) := by
  obtain ⟨rfl, rfl, empty⟩ := stands
  cases given : x.given b parents with
  | none =>
    rw [given] at empty
    exact ⟨empty rfl, by simp [grant]⟩
  | some f => simp [grant]

theorem pairs_grants (stands : ∀ r ∈ references, Stands b parents parent r (relation r) (value r)) :
    Grant.pairs (grants b (references.map relation) parents) parent =
      references.map fun r => (r.label, (value r).getD .null) := by
  rw [Grant.pairs, grants, List.map_map, List.map_map]
  refine List.map_congr_left fun r member => ?_
  have stood := stands r member
  simp only [Function.comp_apply, label_grant, stood.reference, (value_grant stood).1]

theorem wanted_eq_not_lacks {r : Reference} {x : Relation} {v : Option Json}
    (stands : Stands b parents parent r x v) :
    (!(x.grant (x.given b parents)).required ||
      isPresent (some ((x.grant (x.given b parents)).value parent))) = !lacks r v := by
  rw [(value_grant stands).1, (value_grant stands).2, lacks]
  cases v with
  | none => simp
  | some v =>
    have : isPresent (some v) = !(decide (v = .null) || decide (v = .arr [])) := by
      rw [Bool.eq_iff_iff, ← Bool.not_eq_false, isPresent_eq_false_iff]
      simp
    cases r.inner <;> simp [this]

theorem keeps_grants (once : (references.map Reference.label).Nodup)
    (stands : ∀ r ∈ references, Stands b parents parent r (relation r) (value r))
    (stripped : List Text) :
    Grant.keeps (grants b (references.map relation) parents) stripped parent =
      !references.any fun r => lacks r (value r) := by
  have labels : (grants b (references.map relation) parents).map Grant.label =
      references.map Reference.label := by
    rw [labels_grants, List.map_map]
    exact List.map_congr_left fun r member => congrArg Reference.label (stands r member).reference
  rw [Grant.keeps_eq_all (labels ▸ once), grants, List.all_map, List.all_map,
    List.not_any_eq_all_not, Bool.eq_iff_iff, List.all_eq_true, List.all_eq_true]
  refine forall₂_congr fun r member => ?_
  rw [← wanted_eq_not_lacks (stands r member)]
  rfl

/-- The parents that stay, with what they are given, are the joined rows. -/
theorem joined_eq (once : (references.map Reference.label).Nodup)
    (stands : ∀ r ∈ references, Stands b parents parent r (relation r) (value r))
    (stripped : List Text) (row : Row) :
    joined (references.map fun r => (r, value r)) row =
      if Grant.keeps (grants b (references.map relation) parents) stripped parent then
        some (Row.putAll (Grant.pairs (grants b (references.map relation) parents) parent) row)
      else none := by
  rw [joined, keeps_grants once stands, pairs_grants stands, List.any_map, List.map_map]
  simp only [Function.comp_def]
  cases references.any fun r => lacks r (value r) <;> rfl

end

theorem filterMap_ite {α β : Type} (p : α → Bool) (f : α → β) (items : List α) :
    (items.filterMap fun a => if p a then some (f a) else none) = (items.filter p).map f := by
  induction items with
  | nil => rfl
  | cons a rest ih => by_cases holds : p a <;> simp [holds, ih]

/-! Statements -/

theorem make_eq_ok {config : Config} {terms : List OrderTerm} {link : Link} {body : Selection}
    {required : List Text} {l : Lookup} {p : Projection}
    (made : Lookup.make config terms link body required = .ok (l, p)) :
    Projection.make body (link.plan.foreignColumn :: required) = .ok p ∧
      l.matchKey = p.keyOf link.plan.foreignColumn ∧ l.added = p.added := by
  obtain ⟨projection, projected, rest⟩ := bind_eq_ok_iff.1 made
  obtain ⟨table, -, rest⟩ := bind_eq_ok_iff.1 rest
  obtain ⟨column, -, rest⟩ := bind_eq_ok_iff.1 rest
  obtain ⟨order, -, last⟩ := bind_eq_ok_iff.1 rest
  obtain ⟨rfl, rfl⟩ := Prod.mk.inj (Except.ok.inj last)
  exact ⟨projected, rfl, rfl⟩

/-- The rows of all batches are those of the table that hold one of the keys of the batch. -/
theorem found_of_answered {l : Lookup} {column : Text} {rows : List Row} {fetch : Row → Row}
    (answered : ∀ keys, keys ≠ [] →
      b.query (l.statement keys) = .ok ((having column keys rows).map fetch)) (keys : List Json) :
    found b l keys =
      .ok (((batches l.batchSize keys).flatMap (having column · rows)).map fetch) := by
  have each : (batches l.batchSize keys).mapM (fun batch => b.query (l.statement batch)) =
      .ok ((batches l.batchSize keys).map fun batch => (having column batch rows).map fetch) := by
    rw [mapM_eq_ok_iff, List.forall₂_map_right_iff, List.forall₂_same]
    intro batch member
    exact answered batch fun empty => nil_notMem_batches _ _ (empty ▸ member)
  rw [found, each]
  simp only [Except.map, List.flatMap_def, List.map_flatten, List.map_map]
  rfl

/-! A fetched row -/

theorem keyIn_eq (row : Row) (key : Text) :
    keyIn row key = joinKey ((Row.get? key row).getD .null) := by
  unfold keyIn
  cases Row.get? key row <;> rfl

section Fetched

variable {store : Store} {columns : List Column} {required : List Text}
  {additions : List Projection.Addition} {row : Row} {link : Link} {l : Lookup}
  (unreserved : Store.Unreserved columns required row)
  (added : (missing (offer columns) required).mapM (addition (offer columns)) = .ok additions)
  (matchKey : l.matchKey = (offer columns).keyOf link.plan.foreignColumn)
  (extra : l.added = (missing (offer columns) required).map (offer columns).keyOf)

include unreserved added extra

/-- What is stripped early and the match key, if it was added, are together all added columns. -/
theorem strip_early_fetch :
    (if l.added.contains l.matchKey then
        Row.erase l.matchKey (strip l.early (store.fetch columns additions row))
      else strip l.early (store.fetch columns additions row)) = store.select columns row := by
  split
  · next hidden =>
    have both : Row.erase l.matchKey (strip l.early (store.fetch columns additions row)) =
        strip (l.early ++ [l.matchKey]) (store.fetch columns additions row) := by
      simp [strip]
    rw [both]
    apply Store.strip_fetch unreserved added
    intro key
    rw [List.contains_iff_mem] at hidden
    rw [← extra, Lookup.early, List.mem_append, List.mem_filter, List.mem_singleton]
    by_cases same : key = l.matchKey
    · simp [same, hidden]
    · simp [same]
  · next own =>
    apply Store.strip_fetch unreserved added
    intro key
    rw [← extra, Lookup.early, List.mem_filter]
    refine and_iff_left_of_imp fun member => decide_eq_true fun same => own ?_
    exact List.contains_iff_mem.2 (same ▸ member)

include matchKey

/-- Once its references are attached, a fetched row is matched by its stored value, and what is
left of it is what the caller selected with what the references gave. -/
theorem keyed_attach_fetch (distinct : row.Distinct) (needed : link.plan.foreignColumn ∈ required)
    {given : List Grant} (apart : l.matchKey ∉ given.map Grant.label) {key : Text}
    (stored : joinKey ((Row.get? link.plan.foreignColumn row).getD .null) = some key) :
    keyed link l (Grant.attach given l.early (store.fetch columns additions row)) =
      .ok (key, Row.putAll (Grant.pairs given (store.fetch columns additions row))
        (store.select columns row)) := by
  have found : keyIn (Grant.attach given l.early (store.fetch columns additions row)) l.matchKey =
      some key := by
    rw [keyIn_attach_of_notMem apart, keyIn_eq, matchKey,
      Store.get?_fetch unreserved added distinct needed, stored]
  have absent : l.matchKey ∉
      (Grant.pairs given (store.fetch columns additions row)).map Prod.fst := by
    rwa [Grant.labels_pairs]
  rw [keyed, found]
  simp only [Grant.attach, Row.erase_putAll_of_notMem absent]
  rw [← strip_early_fetch unreserved added extra]
  split <;> rfl

end Fetched

/-! The rows of one reference -/

section Node

variable {store : Store} {g : Graph} {config : Config} {terms : List OrderTerm} {plan : Plan}
  {r : Reference}

/-- What a stored row of the plan's table is joined to. -/
def joinStored (store : Store) (g : Graph) (guessing : Bool) (terms : List OrderTerm) (plan : Plan)
    (r : Reference) (row : Row) : Option Row :=
  join store g guessing terms plan.foreignTable (fun column => (Row.get? column row).getD .null)
    (Selection.parse r.body).references (store.select (Selection.parse r.body).plain row)

/-- The partners of a value that is asked for are among the rows of the batches. -/
theorem partners_eq {column : Text} {v : Json} {parts : List (List Json)}
    (once : parts.flatten.Nodup) (member : v ∈ parts.flatten) (joins : v ≠ .null)
    (rows : List Row) :
    partners column v rows =
      (parts.flatMap (having column · rows)).filter fun row => Row.get? column row = some v := by
  rw [partners, if_neg joins, filter_flatMap_having once member]

/-- The matches of a name among the kept rows. -/
theorem matching_kept {hits : List Row} {name : Row → Text} {kept holds : Row → Bool}
    {final : Row → Row} {key : Text} (same : ∀ row ∈ hits, name row = key ↔ holds row = true) :
    matching ((hits.filter kept).map fun row => (name row, final row)) (some key) =
      (hits.filter holds).filterMap fun row =>
        (if kept row then some (final row) else none).map .obj := by
  have named : hits.filter (fun row => decide (name row = key) && kept row) =
      hits.filter fun row => kept row && holds row := by
    refine List.filter_congr fun row member => ?_
    rw [Bool.and_comm, Bool.eq_iff_iff, Bool.and_eq_true, Bool.and_eq_true, decide_eq_true_iff,
      same row member]
  have each : (fun row => (if kept row then some (final row) else none).map Json.obj) =
      fun row => if kept row then some (Json.obj (final row)) else none := by
    funext row
    split <;> rfl
  rw [each, filterMap_ite, List.filter_filter, ← named]
  simp only [matching, List.filter_map, List.map_map, List.filter_filter]
  rfl

/-- A fetched row holds the stored values of the columns under their keys. -/
def Carries (keyOf : Text → Text) (columns : List Text) (fetched row : Row) : Prop :=
  ∀ column ∈ columns,
    (Row.get? (keyOf column) fetched).getD .null = (Row.get? column row).getD .null

/-- The name under which a stored row is matched. -/
def nameIn (column : Text) (row : Row) : Text :=
  (joinKey ((Row.get? column row).getD .null)).getD []

theorem labels_nested (b : Backend) (source : Text) (keyOf : Text → Text)
    (references : List Reference) (rows : List Row) :
    (grants b (references.map (build g config terms source keyOf)) rows).map Grant.label =
      references.map Reference.label := by
  rw [labels_grants, List.map_map]
  refine List.map_congr_left fun s _ => ?_
  rw [Function.comp_apply, reference_build]

/-- No nested label is the key of the matched value. -/
theorem Served.matchKey_notMem (served : Served store b g config terms plan r)
    (o : Projection.Offer) :
    o.keyOf plan.foreignColumn ∉ (Selection.parse r.body).references.map Reference.label := by
  intro found
  obtain ⟨s, member, same⟩ := List.mem_map.1 found
  unfold Projection.Offer.keyOf at same
  split at same
  · apply served.plain s member
    rw [same]
    exact Store.reserved_append plan.foreignColumn
  · exact served.apart s member same

section

variable (served : Served store b g config terms plan r) {localKey : Text} {l : Lookup}
  {p : Projection}
  (made : (Link.mk r plan localKey).lookup g config terms = .ok (l, p))
  (nested : ∀ s ∈ (Selection.parse r.body).references, ∀ {rows : List Row} {fetched row : Row},
    fetched ∈ rows → Carries p.keyOf (neededColumns g config.guessKeys plan r) fetched row →
    Stands b rows fetched s (build g config terms plan.foreignTable p.keyOf s)
      (valueOf store g config.guessKeys terms plan.foreignTable
        (fun column => (Row.get? column row).getD .null) s))

include served made nested

/-- Every fetched row is matched by its stored value, and the rows that nested references keep are
the joined ones. -/
theorem keyedRows_of_served : ∃ fetch : Row → Row,
    (∀ keys, keys ≠ [] → b.query (l.statement keys) =
      .ok ((having plan.foreignColumn keys (store.relatedRows terms plan r)).map fetch)) ∧
    ∀ hits : List Row,
      (∀ row ∈ hits, row ∈ store.relatedRows terms plan r ∧
        (Row.get? plan.foreignColumn row).getD .null ≠ .null) →
      ∃ (kept : Row → Bool) (final : Row → Row),
        keyedRows b ⟨r, plan, localKey⟩ l ((Selection.parse r.body).references.map
            (build g config terms plan.foreignTable p.keyOf)) (hits.map fetch) =
          .ok ((hits.filter kept).map fun row => (nameIn plan.foreignColumn row, final row)) ∧
        ∀ row ∈ hits, joinStored store g config.guessKeys terms plan r row =
          if kept row then some (final row) else none := by
  obtain ⟨other, q, additions, again, added, answered⟩ := served.answered
  have unreserved := served.unreserved
  rw [← store.relatedRows_eq] at answered unreserved
  obtain ⟨rfl, rfl⟩ : l = other ∧ p = q := Prod.mk.inj (Except.ok.inj (made.symm.trans again))
  obtain ⟨projected, matchKey, extra⟩ := make_eq_ok made
  obtain ⟨columns, others, parsed, addedAgain, rfl⟩ := Projection.make_eq_ok_iff.1 projected
  obtain rfl : (Selection.parse r.body).plain = columns := by
    rw [Selection.plain, parsed]
    rfl
  obtain rfl : additions = others := Except.ok.inj (added.symm.trans addedAgain)
  have keyOf : ∀ column ∈ neededColumns g config.guessKeys plan r,
      (Projection.of (Selection.parse r.body).plain additions).keyOf column =
        (offer (Selection.parse r.body).plain).keyOf column :=
    fun column => Projection.keyOf_of_mem added
  rw [keyOf _ List.mem_cons_self] at matchKey
  refine ⟨_, answered, fun hits stored => ?_⟩
  have stands : ∀ row ∈ hits, ∀ s ∈ (Selection.parse r.body).references,
      Stands b (hits.map (store.fetch (Selection.parse r.body).plain additions))
        (store.fetch (Selection.parse r.body).plain additions row) s
        (build g config terms plan.foreignTable
          (Projection.of (Selection.parse r.body).plain additions).keyOf s)
        (valueOf store g config.guessKeys terms plan.foreignTable
          (fun column => (Row.get? column row).getD .null) s) := by
    intro row member s among
    refine nested s among (List.mem_map_of_mem member) fun column needed => ?_
    obtain ⟨inside, -⟩ := stored row member
    rw [keyOf column needed]
    exact Store.get?_fetch (unreserved row inside) added (store.distinct _ _ row inside) needed
  rw [keyedRows, finish_eq, List.filter_map, List.map_map]
  refine ⟨_, fun row => Row.putAll (Grant.pairs _ (store.fetch _ additions row))
    (store.select _ row), ?_,
    fun row member => joined_eq served.labels (stands row member) l.early _⟩
  rw [mapM_eq_ok_iff, List.forall₂_map_left_iff, List.forall₂_map_right_iff]
  refine List.forall₂_same.2 fun row member => ?_
  obtain ⟨inside, joins⟩ := stored row (List.mem_of_mem_filter member)
  obtain ⟨key, named⟩ := Option.ne_none_iff_exists'.1 (mt joinKey_eq_none_iff.1 joins)
  rw [nameIn, named]
  refine keyed_attach_fetch (unreserved row inside) added matchKey ?_
    (store.distinct _ _ row inside) List.mem_cons_self ?_ named
  · rw [extra]
    exact Projection.map_key_of_additions added
  · rw [labels_nested, matchKey]
    exact served.matchKey_notMem _

/-- The statements of all batches are answered, and the matches of a value are its joined
partners. -/
theorem matching_of_served {keys : List Json} (once : keys.Nodup) (joins : ∀ v ∈ keys, v ≠ .null) :
    ∃ pairs, (found b l keys >>= keyedRows b ⟨r, plan, localKey⟩ l
        ((Selection.parse r.body).references.map
          (build g config terms plan.foreignTable p.keyOf))) = .ok pairs ∧
      ∀ v, v = .null ∨ v ∈ keys → matching pairs (joinKey v) =
        (partners plan.foreignColumn v (store.relatedRows terms plan r)).filterMap fun row =>
          (joinStored store g config.guessKeys terms plan r row).map .obj := by
  obtain ⟨fetch, answered, keyedAs⟩ := keyedRows_of_served served made nested
  have parts : (batches l.batchSize keys).flatten = keys := flatten_batches _ _
  have stored : ∀ row ∈ (batches l.batchSize keys).flatMap
        (having plan.foreignColumn · (store.relatedRows terms plan r)),
      row ∈ store.relatedRows terms plan r ∧
        (Row.get? plan.foreignColumn row).getD .null ≠ .null := by
    intro row member
    obtain ⟨batch, among, hit⟩ := List.mem_flatMap.1 member
    obtain ⟨inside, key, asked, holds⟩ := mem_having.1 hit
    refine ⟨inside, ?_⟩
    rw [holds]
    exact joins key (parts ▸ List.mem_flatten.2 ⟨batch, among, asked⟩)
  obtain ⟨kept, final, gives, joinedRow⟩ := keyedAs _ stored
  refine ⟨_, by rw [found_of_answered answered, ok_bind, gives], fun v asked => ?_⟩
  by_cases null : v = .null
  · rw [null, partners, if_pos rfl]
    rfl
  · have member : v ∈ (batches l.batchSize keys).flatten := by
      rw [parts]
      exact asked.resolve_left null
    obtain ⟨key, named⟩ := Option.ne_none_iff_exists'.1 (mt joinKey_eq_none_iff.1 null)
    have same : ∀ row ∈ (batches l.batchSize keys).flatMap
          (having plan.foreignColumn · (store.relatedRows terms plan r)),
        nameIn plan.foreignColumn row = key ↔
          decide (Row.get? plan.foreignColumn row = some v) = true := by
      intro row hit
      obtain ⟨w, holds⟩ : ∃ w, Row.get? plan.foreignColumn row = some w := by
        obtain ⟨batch, -, hit⟩ := List.mem_flatMap.1 hit
        obtain ⟨-, w, -, holds⟩ := mem_having.1 hit
        exact ⟨w, holds⟩
      obtain ⟨-, notNull⟩ := stored row hit
      rw [holds] at notNull
      obtain ⟨other, joinsAs⟩ := Option.ne_none_iff_exists'.1 (mt joinKey_eq_none_iff.1 notNull)
      rw [nameIn, holds, joinsAs, decide_eq_true_iff, Option.some_inj]
      constructor
      · rintro rfl
        exact joinKey_inj notNull (joinsAs.trans named.symm)
      · rintro rfl
        exact Option.some.inj (joinsAs.symm.trans named)
    rw [named, matching_kept same, partners_eq (parts.symm ▸ once) member null]
    refine List.filterMap_congr fun row hit => ?_
    rw [joinedRow row (List.mem_of_mem_filter hit)]

end

end Node

/-! Trees of references -/

section Tree

variable {store : Store} {g : Graph} {config : Config} {terms : List OrderTerm} {source : Text}
  {r : Reference}

/-- A parent's value joins nothing or is asked for. -/
theorem null_or_mem_distinctKeys (key : Text) {parent : Row} (member : parent ∈ parents) :
    (Row.get? key parent).getD .null = .null ∨
      (Row.get? key parent).getD .null ∈ distinctKeys key parents := by
  refine or_iff_not_imp_left.2 fun joins => mem_distinctKeys.2 ⟨joins, parent, member, ?_⟩
  cases found : Row.get? key parent with
  | none =>
    rw [found] at joins
    exact absurd rfl joins
  | some v => rfl

/-- What the batched code gives a parent through a reference is its value in the nested loop. -/
theorem stands_build (sound : Sound store b g config terms source r) :
    ∀ {keyOf : Text → Text} {parents : List Row} {parent : Row} {cell : Text → Json},
      parent ∈ parents →
      (∀ plan, (Resolution.resolve g config.guessKeys source r).plan? = some plan →
        (Row.get? (keyOf plan.localColumn) parent).getD .null = cell plan.localColumn) →
      Stands b parents parent r (build g config terms source keyOf r)
        (valueOf store g config.guessKeys terms source cell r) := by
  -- On the tree of references. The parents change from level to level, so what is carried along is
  -- only where the local value of a parent stands.
  induction sound with
  | unplanned unplanned =>
    intro keyOf parents parent cell _ _
    rw [build_of_unplanned unplanned, NestedLoop.valueOf_of_unplanned unplanned]
    exact ⟨rfl, rfl, fun _ => rfl⟩
  | @planned source r plan planned served _ ih =>
    intro keyOf parents parent cell member reads
    obtain ⟨l, p, -, written, -⟩ := served.answered
    -- The key of the parents is no part of the statement.
    have made : (Link.mk r plan (keyOf plan.localColumn)).lookup g config terms = .ok (l, p) :=
      written
    have nested : ∀ s ∈ (Selection.parse r.body).references, ∀ {rows : List Row}
        {fetched row : Row}, fetched ∈ rows →
        Carries p.keyOf (neededColumns g config.guessKeys plan r) fetched row →
        Stands b rows fetched s (build g config terms plan.foreignTable p.keyOf s)
          (valueOf store g config.guessKeys terms plan.foreignTable
            (fun column => (Row.get? column row).getD .null) s) := by
      intro s among rows fetched row inside agrees
      refine ih s among inside fun plan' planned' => agrees _ ?_
      refine List.mem_cons_of_mem _ (List.mem_filterMap.2 ⟨s, among, ?_⟩)
      rw [planned']
      rfl
    rw [build_of_made planned made, NestedLoop.valueOf_of_planned planned,
      NestedLoop.related_eq_gather, List.map_filterMap]
    refine ⟨rfl, ?_, nofun⟩
    have asked := null_or_mem_distinctKeys (keyOf plan.localColumn) member
    rw [given]
    split
    · next idle =>
      rw [idle, reads plan planned] at asked
      have null := asked.resolve_right List.not_mem_nil
      rw [null, partners, if_pos rfl, List.filterMap_nil, gather_nil]
      rfl
    · next wanted =>
      obtain ⟨pairs, gives, joinedTo⟩ := matching_of_served served made nested
        (nodup_distinctKeys (keyOf plan.localColumn) parents)
        fun v among => (mem_distinctKeys.1 among).1
      have found : matching pairs (keyIn parent (keyOf plan.localColumn)) = _ :=
        (congrArg _ (keyIn_eq ..)).trans (joinedTo _ asked)
      rw [gives]
      refine congrArg some (congrArg (gather plan.direction) ?_)
      rw [found, reads plan planned]
      rfl

/-! Runs -/

end Tree

/-- Comments point to posts and to their authors. -/
def blog : Graph :=
  [⟨"comments_post_fkey", "comments", "post", "posts", "id"⟩,
    ⟨"comments_author_fkey", "comments", "author", "profiles", "id"⟩]

/-- Four comments, the third of an author who is not known, and two profiles. -/
def blogStore : Store where
  rows table _ :=
    if table = "comments" then
      [[("body", .str "a"), ("post", .int 1), ("author", .int 7)],
        [("body", .str "b"), ("post", .int 2), ("author", .int 8)],
        [("body", .str "c"), ("post", .int 1), ("author", .int 9)],
        [("body", .str "d"), ("post", .int 1), ("author", .int 8)]]
    else [[("id", .int 7), ("username", .str "u")], [("id", .int 8), ("username", .str "w")]]
  distinct table _ row member := by
    unfold Row.Distinct
    split at member <;> revert row <;> decide
  derived _ _ := .null

def commentsWithAuthors : Reference :=
  ⟨"comments", "comments", none, false, "body, author:profiles!inner(username)"⟩

/-- Answers from the store: the comments of posts, and else profiles. -/
def blogBackend : Backend where
  query s :=
    if ("SELECT \"body\"" : Text).isPrefixOf s.sql then
      .ok ((having "post" s.params (blogStore.rows "comments" [])).map
        (blogStore.fetch [⟨"\"body\"", some "body", true⟩]
          [⟨"\"post\"", "post", none⟩, ⟨"\"author\"", "author", none⟩]))
    else
      .ok ((having "id" s.params (blogStore.rows "profiles" [])).map
        (blogStore.fetch [⟨"\"username\"", some "username", true⟩] [⟨"\"id\"", "id", none⟩]))
  execute _ := .ok 0
  batch _ := .ok ()
  graph := .ok blog

def inPairs : Config := { Config.standard with batchSize := 2 }

def authorOfComment : Reference :=
  ⟨"author", "profiles", none, true, "username"⟩

theorem blog_unreserved {columns : List Column} {needed : List Text} {table : Text}
    (outputs : ∀ c ∈ columns, ∀ name ∈ c.output, ¬ Reserved name)
    (required : ∀ column ∈ needed, ¬ Reserved column) (row : Row)
    (member : row ∈ blogStore.rows table []) : Store.Unreserved columns needed row where
  outputs := outputs
  required := required
  stored := by
    revert row
    simp only [blogStore]
    split <;> decide

theorem plan_comments :
    (Resolution.resolve blog inPairs.guessKeys "posts" commentsWithAuthors).plan? =
      some ⟨.oneToMany, "id", "post", "comments"⟩ := by
  decide +kernel

theorem plan_author :
    (Resolution.resolve blog inPairs.guessKeys "comments" authorOfComment).plan? =
      some ⟨.manyToOne, "author", "id", "profiles"⟩ := by
  decide +kernel

theorem parse_commentsWithAuthors :
    Selection.parse commentsWithAuthors.body = ⟨"body", [authorOfComment]⟩ := by
  decide +kernel

theorem parse_authorOfComment : Selection.parse authorOfComment.body = ⟨"username", []⟩ := by
  decide +kernel

theorem plain_body : Selection.plain ⟨"body", [authorOfComment]⟩ =
    [⟨"\"body\"", some "body", true⟩] := by
  decide +kernel

theorem plain_username : Selection.plain ⟨"username", []⟩ =
    [⟨"\"username\"", some "username", true⟩] := by
  decide +kernel

theorem served_comments : Served blogStore blogBackend blog inPairs []
    ⟨.oneToMany, "id", "post", "comments"⟩ commentsWithAuthors := by
  have needed : neededColumns blog inPairs.guessKeys ⟨.oneToMany, "id", "post", "comments"⟩
      commentsWithAuthors = ["post", "author"] := by decide +kernel
  constructor
  · rw [parse_commentsWithAuthors]
    decide
  · rw [parse_commentsWithAuthors]
    decide
  · rw [parse_commentsWithAuthors]
    decide
  · rw [parse_commentsWithAuthors, plain_body, needed]
    exact blog_unreserved (by decide) (by decide)
  · rw [needed, parse_commentsWithAuthors, plain_body]
    exact ⟨⟨"\"body\", \"post\", \"author\"", "\"comments\"", "\"post\"", [], "post",
        ["post", "author"], 2⟩, ⟨"\"body\", \"post\", \"author\"", ["post", "author"], []⟩,
      [⟨"\"post\"", "post", none⟩, ⟨"\"author\"", "author", none⟩], by decide +kernel,
      by decide +kernel, fun keys _ => rfl⟩

theorem served_author : Served blogStore blogBackend blog inPairs []
    ⟨.manyToOne, "author", "id", "profiles"⟩ authorOfComment := by
  have needed : neededColumns blog inPairs.guessKeys ⟨.manyToOne, "author", "id", "profiles"⟩
      authorOfComment = ["id"] := by decide +kernel
  constructor
  · rw [parse_authorOfComment]
    decide
  · rw [parse_authorOfComment]
    decide
  · rw [parse_authorOfComment]
    decide
  · rw [parse_authorOfComment, plain_username, needed]
    exact blog_unreserved (by decide) (by decide)
  · rw [needed, parse_authorOfComment, plain_username]
    exact ⟨⟨"\"username\", \"id\"", "\"profiles\"", "\"id\"", [], "id", ["id"], 2⟩,
      ⟨"\"username\", \"id\"", ["id"], []⟩, [⟨"\"id\"", "id", none⟩], by decide +kernel,
      by decide +kernel, fun keys _ => rfl⟩

theorem sound_comments :
    Sound blogStore blogBackend blog inPairs [] "posts" commentsWithAuthors := by
  refine .planned plan_comments served_comments ?_
  rw [parse_commentsWithAuthors]
  refine List.forall_mem_singleton.2 (.planned plan_author served_author ?_)
  rw [parse_authorOfComment]
  exact List.forall_mem_nil _

/-- Four posts; two have the same key, and one has no comments. -/
def blogPosts : List Row :=
  [[("title", .str "p"), ("id", .int 1)], [("title", .str "q"), ("id", .int 2)],
    [("title", .str "r"), ("id", .int 3)], [("title", .str "s"), ("id", .int 1)]]

def commentBy (body username : Text) : Json :=
  .obj [("body", .str body), ("author", .obj [("username", .str username)])]

/-- The third comment is gone, as its author is not known, and so are the keys of the posts. -/
def joinedPosts : List Row :=
  [[("title", .str "p"), ("comments", .arr [commentBy "a" "u", commentBy "d" "w"])],
    [("title", .str "q"), ("comments", .arr [commentBy "b" "w"])],
    [("title", .str "r"), ("comments", .arr [])],
    [("title", .str "s"), ("comments", .arr [commentBy "a" "u", commentBy "d" "w"])]]

end FluentQuery.Relation

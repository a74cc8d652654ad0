import FluentQuery.Proofs.Client
import FluentQuery.Proofs.Relation.Values

/-! The key of a related row is read after nested references have been attached to it. What they
attach is never a plain value, so a nested label that is the match key hides the stored value, and
without such a label the stored value is there. Parents hold plain values, as a rule: a hidden key
then leaves every one of them without related rows. -/
namespace FluentQuery

namespace Json

/-- A text, a number or a truth value. -/
def isScalar : Json → Bool
  | .str _ | .int _ | .float _ | .bool _ => true
  | .null | .arr _ | .obj _ => false

end Json

/-- The lookup of a link, with the projection of the body of its reference. -/
def Link.lookup (g : Graph) (config : Config) (terms : List OrderTerm) (link : Link) :
    Except Invalid (Lookup × Projection) :=
  let body := Selection.parse link.reference.body
  Lookup.make config terms link body
    (Relation.localColumns g config.guessKeys link.plan.foreignTable body.references)

namespace Relation

/-! What is attached -/

theorem joinKey_ne_of_isScalar {v w : Json} (plain : v.isScalar = true)
    (other : w.isScalar = false) : joinKey w ≠ joinKey v := by
  cases v <;> cases w <;> simp_all [Json.isScalar, joinKey]

theorem gather_nil (d : Direction) : gather d [] = d.emptyValue := by
  cases d <;> rfl

theorem isScalar_emptyValue (d : Direction) : d.emptyValue.isScalar = false := by
  cases d <;> rfl

theorem isScalar_gather (d : Direction) (related : List (Text × Row)) (key : Option Text) :
    (gather d (matching related key)).isScalar = false := by
  cases d with
  | oneToMany => rfl
  | manyToOne =>
    cases key with
    | none => rfl
    | some key =>
      simp only [gather, matching]
      cases related.filter (fun r => r.1 = key) <;> rfl

theorem isScalar_grant {b : Backend} {r : Relation} {parents : List Row} (parent : Row) :
    ((r.grant (r.given b parents)).value parent).isScalar = false := by
  cases r with
  | unresolved r => rfl
  | broken link notices cause =>
    rw [given]
    split <;> exact isScalar_emptyValue _
  | ready link notices l nested =>
    rw [given]
    split
    · exact isScalar_emptyValue _
    · split
      · exact isScalar_emptyValue _
      · exact isScalar_gather _ _ _

/-! The nested references of a body -/

section

variable {g : Graph} {config : Config} {terms : List OrderTerm} {source : Text}
  {keyOf : Text → Text} {r : Reference}

theorem build_of_unplanned
    (unplanned : (Resolution.resolve g config.guessKeys source r).plan? = none) :
    build g config terms source keyOf r = .unresolved r := by
  rw [build, unplanned]

theorem build_of_made {plan : Plan} {l : Lookup} {p : Projection}
    (planned : (Resolution.resolve g config.guessKeys source r).plan? = some plan)
    (made : (Link.mk r plan (keyOf plan.localColumn)).lookup g config terms = .ok (l, p)) :
    build g config terms source keyOf r = .ready ⟨r, plan, keyOf plan.localColumn⟩
      (notices g config.guessKeys plan.foreignTable (Selection.parse r.body).references) l
      ((Selection.parse r.body).references.map
        (build g config terms plan.foreignTable p.keyOf)) := by
  unfold Link.lookup at made
  rw [build, planned]
  simp only [made, List.map_attach_eq_pmap, List.pmap_eq_map]

end

theorem reference_build (g : Graph) (config : Config) (terms : List OrderTerm) (source : Text)
    (keyOf : Text → Text) (r : Reference) :
    (build g config terms source keyOf r).reference = r := by
  rw [build]
  split
  · rfl
  · simp only
    split <;> rfl

theorem references_of_build {g : Graph} {config : Config} {terms : List OrderTerm} {source : Text}
    {keyOf : Text → Text} {r : Reference} {link : Link} {notices : List Event} {l : Lookup}
    {nested : List Relation}
    (built : build g config terms source keyOf r = .ready link notices l nested) :
    nested.map reference = (Selection.parse r.body).references := by
  rw [build] at built
  split at built
  · cases built
  · simp only at built
    split at built
    · cases built
    · obtain ⟨-, -, -, rfl⟩ := Relation.ready.inj built
      rw [List.map_map]
      refine Eq.trans (List.map_congr_left fun s _ => ?_) (List.attach_map_subtype_val _)
      exact reference_build ..

/-! Keys after nested resolution -/

/-- The row is matched by the value that it had at first, and what references attached to it is
still there. -/
def Matched (link : Link) (l : Lookup) (references : List Reference) (row resolved : Row) : Prop :=
  ∃ key final, keyed link l resolved = .ok (key, final) ∧ keyIn row l.matchKey = some key ∧
    ∀ s ∈ references, s.label ∈ final.keys

theorem keyIn_of_keyed {link : Link} {l : Lookup} {row final : Row} {key : Text}
    (matched : keyed link l row = .ok (key, final)) : keyIn row l.matchKey = some key := by
  unfold keyed at matched
  split at matched
  · next found =>
    obtain ⟨rfl, -⟩ := Prod.mk.inj (Except.ok.inj matched)
    exact found
  · cases matched

theorem matchKey_notMem_early (l : Lookup) : l.matchKey ∉ l.early := by
  simp [Lookup.early]

variable {given : List Grant} {l : Lookup}

theorem keyIn_attach_of_notMem (apart : l.matchKey ∉ given.map Grant.label) (row : Row) :
    keyIn (Grant.attach given l.early row) l.matchKey = keyIn row l.matchKey := by
  rw [keyIn, keyIn, Grant.attach, Row.get?_putAll_of_notMem, get?_strip_of_notMem]
  · exact matchKey_notMem_early l
  · rwa [Grant.labels_pairs]

theorem keyIn_attach_of_mem (member : l.matchKey ∈ given.map Grant.label) (row : Row) :
    ∃ g ∈ given, keyIn (Grant.attach given l.early row) l.matchKey = joinKey (g.value row) := by
  rw [← Grant.labels_pairs given row] at member
  obtain ⟨value, paired, got⟩ := Row.get?_putAll_of_mem member (strip l.early row)
  obtain ⟨g, among, same⟩ := List.mem_map.1 paired
  obtain ⟨-, rfl⟩ := Prod.mk.inj same
  exact ⟨g, among, by rw [keyIn, Grant.attach, got]; rfl⟩

/-- Taking out the match key leaves the other labels in place. -/
theorem label_mem_keys {link : Link} {row final : Row} {key label : Text}
    (matched : keyed link l (Grant.attach given l.early row) = .ok (key, final))
    (member : label ∈ given.map Grant.label) (apart : label ≠ l.matchKey) :
    label ∈ final.keys := by
  have attached : label ∈ (Grant.attach given l.early row).keys := by
    rw [Grant.attach, Row.mem_keys_putAll, Grant.labels_pairs]
    exact .inl member
  unfold keyed at matched
  split at matched
  · obtain ⟨-, rfl⟩ := Prod.mk.inj (Except.ok.inj matched)
    split
    · rw [Row.keys_erase]
      exact (List.mem_erase_of_ne apart).2 attached
    · exact attached
  · cases matched

/-- A nested label that is the match key hides a stored scalar; without one, every row is matched
as it was stored. -/
theorem matched_attach {link : Link} {references : List Reference} {row : Row}
    (labels : given.map Grant.label = references.map Reference.label)
    (lists : ∀ g ∈ given, (g.value row).isScalar = false)
    (joined : (keyIn row l.matchKey).isSome) :
    ((∀ s ∈ references, s.label ≠ l.matchKey) →
        Matched link l references row (Grant.attach given l.early row)) ∧
      (Matched link l references row (Grant.attach given l.early row) →
        (∀ s ∈ references, s.label ≠ l.matchKey) ∨
          ∃ v, Row.get? l.matchKey row = some v ∧ v.isScalar = false) := by
  have mem_labels : ∀ {label},
      (∃ s ∈ references, s.label = label) ↔ label ∈ given.map Grant.label := by
    intro label
    rw [labels, List.mem_map]
  constructor
  · intro free
    have apart : l.matchKey ∉ given.map Grant.label := by
      rw [← mem_labels]
      rintro ⟨s, member, same⟩
      exact free s member same
    obtain ⟨key, found⟩ := Option.isSome_iff_exists.1 joined
    have keyedAs : ∃ final, keyed link l (Grant.attach given l.early row) = .ok (key, final) := by
      simp only [keyed, keyIn_attach_of_notMem apart, found]
      exact ⟨_, rfl⟩
    obtain ⟨final, matched⟩ := keyedAs
    refine ⟨key, final, matched, found, fun s member => ?_⟩
    exact label_mem_keys matched (mem_labels.1 ⟨s, member, rfl⟩) (free s member)
  · rintro ⟨key, final, matched, found, -⟩
    by_cases member : l.matchKey ∈ given.map Grant.label
    · obtain ⟨g, among, read⟩ := keyIn_attach_of_mem member row
      rw [keyIn_of_keyed matched] at read
      obtain ⟨v, stored, joins⟩ := Option.bind_eq_some_iff.1 found
      refine .inr ⟨v, stored, ?_⟩
      refine Bool.eq_false_iff.2 fun plain => ?_
      exact joinKey_ne_of_isScalar plain (lists g among) (read.symm.trans joins.symm)
    · refine .inl fun s among same => member ?_
      exact mem_labels.1 ⟨s, among, same⟩

/-! A hidden key -/

theorem matching_eq_nil {pairs : List (Text × Row)} {key : Option Text}
    (apart : ∀ p ∈ pairs, key ≠ some p.1) : matching pairs key = [] := by
  cases key with
  | none => rfl
  | some key =>
    rw [matching, List.map_eq_nil_iff, List.filter_eq_nil_iff]
    intro p member same
    exact apart p member (congrArg some (of_decide_eq_true same).symm)

/-- A row is not matched by a plain value once a label has hidden its own. -/
theorem keyIn_ne_of_hidden {link : Link} {row final parent : Row} {key : Text}
    (member : l.matchKey ∈ given.map Grant.label)
    (lists : ∀ g ∈ given, (g.value row).isScalar = false)
    (matched : keyed link l (Grant.attach given l.early row) = .ok (key, final))
    (plain : ∀ v, Row.get? link.localKey parent = some v → v = .null ∨ v.isScalar = true) :
    keyIn parent link.localKey ≠ some key := by
  intro found
  obtain ⟨v, stored, joins⟩ := Option.bind_eq_some_iff.1 found
  obtain ⟨g, among, read⟩ := keyIn_attach_of_mem member row
  rw [keyIn_of_keyed matched] at read
  rcases plain v stored with rfl | scalar
  · cases joins
  · exact joinKey_ne_of_isScalar scalar (lists g among) (read.symm.trans joins.symm)

/-- Where a label hides the match key, parents with plain values get no related row. -/
theorem valuesFor_of_hidden {link : Link} {rows parents : List Row} {pairs : List (Text × Row)}
    (member : l.matchKey ∈ given.map Grant.label)
    (lists : ∀ g ∈ given, ∀ row, (g.value row).isScalar = false)
    (matched : (rows.map (Grant.attach given l.early)).mapM (keyed link l) = .ok pairs)
    (plain : ∀ parent ∈ parents, ∀ v, Row.get? link.localKey parent = some v →
      v = .null ∨ v.isScalar = true) :
    valuesFor link parents pairs = parents.map fun _ => link.plan.direction.emptyValue := by
  refine List.map_congr_left fun parent inside => ?_
  rw [matching_eq_nil, gather_nil]
  intro p among
  obtain ⟨_, resolved, named⟩ := exists_of_mem_mapM matched among
  obtain ⟨row, -, rfl⟩ := List.mem_map.1 resolved
  exact keyIn_ne_of_hidden member (fun g other => lists g other row) named (plain parent inside)

/-! Runs -/

/-- The values of a relation once its statements are answered. -/
theorem value_values_ready {b : Backend} {link : Link} (notices : List Event)
    {nested : List Relation} {parents rows : List Row}
    (fetched : found b l (distinctKeys link.localKey parents) = .ok rows) :
    (values (.ready link notices l nested) parents).value b =
      (keyedRows b link l nested rows).toOption.map (valuesFor link parents) := by
  have gathered : ∀ pairs : List (Text × Row), (parents.map fun parent =>
      gather link.plan.direction (matching pairs (keyIn parent link.localKey))) =
        valuesFor link parents pairs := fun pairs => rfl
  rw [value_values, given, fetched, ok_bind]
  split
  · next idle =>
    rw [idle, found, batches, if_pos rfl] at fetched
    obtain rfl : rows = [] := (Except.ok.inj fetched).symm
    rw [keyedRows, finish_eq]
    change _ = some (parents.map fun parent => gather _ (matching [] _))
    refine congrArg some (List.map_congr_left fun parent _ => ?_)
    rw [matching_eq_nil (List.forall_mem_nil _), gather_nil]
  · cases keyedRows b link l nested rows with
    | error e => rfl
    | ok pairs => exact congrArg some (gathered pairs)

section

variable {g : Graph} {config : Config} {terms : List OrderTerm} {source : Text}
  {keyOf : Text → Text} {r : Reference} {link : Link} {notices : List Event}
  {nested : List Relation}

theorem labels_of_build
    (built : build g config terms source keyOf r = .ready link notices l nested) (b : Backend)
    (rows : List Row) : (grants b nested rows).map Grant.label =
      (Selection.parse r.body).references.map Reference.label := by
  rw [labels_grants, ← references_of_build built, List.map_map]
  rfl

theorem isScalar_grants {b : Backend} {rows : List Row} :
    ∀ given ∈ grants b nested rows, ∀ row, (given.value row).isScalar = false := by
  intro given among row
  obtain ⟨s, -, rfl⟩ := List.mem_map.1 among
  exact isScalar_grant row

end

/-- The rows that the statements of a reference return are kept or dropped by its own references,
resolved, and matched as they then are. If no label in the body is the match key, each of them is
matched by its stored value and has what its references gave it; for stored scalars only if so.
Where a label hides the match key, parents with plain values get nothing, or the reference
fails. -/
theorem run_values_matched {σ : Type} {c : Client σ} {b : Backend}
    (gives : ∀ s, c.Gives b (.query .relation s)) {g : Graph} {config : Config}
    {terms : List OrderTerm} {source : Text} {keyOf : Text → Text} {r : Reference} {link : Link}
    {notices : List Event} {l : Lookup} {nested : List Relation}
    (built : build g config terms source keyOf r = .ready link notices l nested)
    {parents rows : List Row} (fetched : found b l (distinctKeys link.localKey parents) = .ok rows)
    (joined : ∀ row ∈ rows, (keyIn row l.matchKey).isSome) :
    let references := (Selection.parse r.body).references
    let kept := rows.filter (Grant.keeps (grants b nested rows) l.early)
    let resolved := Grant.attach (grants b nested rows) l.early
    let answer := (c.run (values (build g config terms source keyOf r) parents)).2
    (c.run (resolve nested l.early rows)).2 = some (kept.map resolved) ∧
      answer =
        some (((kept.map resolved).mapM (keyed link l)).toOption.map (valuesFor link parents)) ∧
      (∀ row ∈ rows,
        ((∀ s ∈ references, s.label ≠ l.matchKey) → Matched link l references row (resolved row)) ∧
        (Matched link l references row (resolved row) →
          (∀ s ∈ references, s.label ≠ l.matchKey) ∨
            ∃ v, Row.get? l.matchKey row = some v ∧ v.isScalar = false)) ∧
      ((∃ s ∈ references, s.label = l.matchKey) →
        (∀ parent ∈ parents, ∀ v, Row.get? link.localKey parent = some v →
          v = .null ∨ v.isScalar = true) →
        answer = some none ∨
          answer = some (some (parents.map fun _ => link.plan.direction.emptyValue))) := by
  intro references kept resolved answer
  have asks : ∀ {α : Type} {job : Job α}, job.Within IsRelated →
      (c.run job).2 = some (job.value b) := by
    intro α job within
    apply Client.run_eq_value within
    rintro _ ⟨s, rfl⟩
    exact gives s
  have labels := labels_of_build built b rows
  have answered : answer =
      some (((kept.map resolved).mapM (keyed link l)).toOption.map (valuesFor link parents)) := by
    refine (asks (within_values _ parents)).trans ?_
    rw [← finish_eq, ← keyedRows, built, ← value_values_ready notices fetched]
  refine ⟨?_, answered, fun row member => ?_, fun hidden plain => ?_⟩
  · rw [asks (within_resolve nested l.early rows), value_resolve]
  · exact matched_attach labels (fun given among => isScalar_grants given among row)
      (joined row member)
  · have member : l.matchKey ∈ (grants b nested rows).map Grant.label := by
      rw [labels]
      exact List.mem_map.2 hidden
    rw [answered]
    cases matched : (kept.map resolved).mapM (keyed link l) with
    | error e => exact .inl rfl
    | ok pairs =>
      refine .inr (congrArg (some ∘ some) ?_)
      exact valuesFor_of_hidden member isScalar_grants matched plain

/-- Comments point to the profiles of their authors. -/
def comments : Graph := [⟨"comments_author_fkey", "comments", "author", "profiles", "id"⟩]

/-- The comments of profiles, each with a reference under the name of the column that points to
the profile. -/
def hiddenAuthor : Reference :=
  ⟨"comments", "comments", none, false, "body, author:profiles(username)"⟩

def commentLink : Link := ⟨hiddenAuthor, ⟨.oneToMany, "id", "author", "comments"⟩, "id"⟩

def commentLookup : Lookup :=
  ⟨"\"body\", \"author\"", "\"comments\"", "\"author\"", [], "author", ["author"], 1000⟩

def commentProjection : Projection := ⟨"\"body\", \"author\"", ["author"], []⟩

def nestedAuthor : Reference := ⟨"author", "profiles", none, false, "username"⟩

def authorLink : Link := ⟨nestedAuthor, ⟨.manyToOne, "author", "id", "profiles"⟩, "author"⟩

def authorLookup : Lookup :=
  ⟨"\"username\", \"id\"", "\"profiles\"", "\"id\"", [], "id", ["id"], 1000⟩

def authorRelation : Relation := .ready authorLink [] authorLookup []

def commentRow : Row := [("body", .str "hi"), ("author", .int 1)]

/-- One comment, and the profile that wrote it. -/
def annSaysHi : Backend where
  query s :=
    if ("SELECT \"body\"" : Text).isPrefixOf s.sql then .ok [commentRow]
    else .ok [[("username", .str "ann"), ("id", .int 1)]]
  execute _ := .ok 0
  batch _ := .ok ()
  graph := .ok comments

theorem build_nestedAuthor :
    build comments .standard [] "comments" commentProjection.keyOf nestedAuthor =
      authorRelation := by
  have plan : (Resolution.resolve comments Config.standard.guessKeys "comments" nestedAuthor).plan?
      = some authorLink.plan := by
    decide +kernel
  have body : Selection.parse nestedAuthor.body = ⟨"username", []⟩ := by
    decide +kernel
  have made : authorLink.lookup comments .standard [] =
      .ok (authorLookup, ⟨"\"username\", \"id\"", ["id"], []⟩) := by
    decide +kernel
  rw [build_of_made plan made, body]
  rfl

theorem build_hiddenAuthor :
    build comments .standard [] "profiles" id hiddenAuthor =
      .ready commentLink [] commentLookup [authorRelation] := by
  have plan : (Resolution.resolve comments Config.standard.guessKeys "profiles" hiddenAuthor).plan?
      = some commentLink.plan := by
    decide +kernel
  have body : Selection.parse hiddenAuthor.body = ⟨"body", [nestedAuthor]⟩ := by
    decide +kernel
  have made : commentLink.lookup comments .standard [] =
      .ok (commentLookup, commentProjection) := by
    decide +kernel
  have silent : notices comments Config.standard.guessKeys commentLink.plan.foreignTable
      (Selection.parse hiddenAuthor.body).references = [] := by
    decide +kernel
  rw [build_of_made plan made, silent, body]
  exact congrArg (fun nested => ready commentLink [] commentLookup [nested]) build_nestedAuthor

def oneProfile : List Row := [[("id", .int 1)]]

/-- The comment gets its author, who is found by the key that stands in it. -/
theorem grants_authorRelation : grants annSaysHi [authorRelation] [commentRow] =
    [⟨"author", fun parent =>
      gather .manyToOne (matching [("n:1", [("username", .str "ann")])] (keyIn parent "author")),
      false⟩] := by
  have batch : batches authorLookup.batchSize (distinctKeys authorLink.localKey [commentRow]) =
      [[.int 1]] := by
    decide +kernel
  rw [grants, List.map_singleton, authorRelation, given, if_neg (by decide), found, batch]
  rfl

/-- The author of the comment stands where its profile's key stood, so the profile has no
comment. -/
theorem run_hiddenAuthor_matched :
    let c := annSaysHi.client .standard
    let references := (Selection.parse hiddenAuthor.body).references
    let withAuthor : Row := [("body", .str "hi"), ("author", .obj [("username", .str "ann")])]
    (∀ s, c.Gives annSaysHi (.query .relation s)) ∧
    build comments .standard [] "profiles" id hiddenAuthor =
      .ready commentLink [] commentLookup [authorRelation] ∧
    found annSaysHi commentLookup (distinctKeys commentLink.localKey oneProfile) =
      .ok [commentRow] ∧
    (∀ row ∈ [commentRow], (keyIn row commentLookup.matchKey).isSome) ∧
    (c.run (resolve [authorRelation] commentLookup.early [commentRow])).2 = some [withAuthor] ∧
    ¬ Matched commentLink commentLookup references commentRow withAuthor ∧
    (c.run (values (build comments .standard [] "profiles" id hiddenAuthor) oneProfile)).2 =
      some (some [.arr []]) := by
  intro c references withAuthor
  have gives : ∀ s, c.Gives annSaysHi (.query .relation s) :=
    fun s => annSaysHi.client_gives _ _ nofun
  have fetched : found annSaysHi commentLookup (distinctKeys commentLink.localKey oneProfile) =
      .ok [commentRow] := by
    have batch : batches commentLookup.batchSize (distinctKeys commentLink.localKey oneProfile) =
        [[.int 1]] := by
      decide +kernel
    rw [found, batch]
    rfl
  have joined : ∀ row ∈ [commentRow], (keyIn row commentLookup.matchKey).isSome := by
    rw [List.forall_mem_singleton]
    decide +kernel
  obtain ⟨resolves, answers, matched, -⟩ :=
    run_values_matched gives build_hiddenAuthor fetched joined
  rw [grants_authorRelation] at resolves answers matched
  obtain ⟨author, among, hides⟩ : ∃ s ∈ references, s.label = commentLookup.matchKey := by
    decide
  refine ⟨gives, build_hiddenAuthor, fetched, joined, ?_, ?_, ?_⟩
  · exact resolves
  · intro stored
    rcases (matched commentRow List.mem_cons_self).2 stored with free | ⟨v, found, list⟩
    · exact free author among hides
    · cases found
      cases list
  · exact answers

end Relation

end FluentQuery

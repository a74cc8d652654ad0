import FluentQuery.Query.Run
import FluentQuery.Proofs.Projection
import FluentQuery.Proofs.Relation.Frame

/-! What references can do to the statement that carries them. They only add columns to its select
list, so it is sent just when these columns can be named, and then every ending has the rows; when
they cannot, the query ends with a validation error before its main statement. -/
namespace FluentQuery

namespace Attempt

variable {α : Type} (b : Backend)

@[simp] theorem value_run_valid (r : Except Invalid α) :
    (valid r).run.value b = r.mapError .invalid := by
  cases r <;> rfl

@[simp] theorem asked_run_pure (v : α) : (pure v : Attempt α).run.asked b = [] := rfl

@[simp] theorem asked_run_valid (r : Except Invalid α) : (valid r).run.asked b = [] := by
  cases r <;> rfl

@[simp] theorem asked_run_query (kind : StatementKind) (s : Statement) :
    (query kind s).run.asked b = [.query kind s] := rfl

@[simp] theorem asked_run_graph : (ask .graph).run.asked b = [.graph] := rfl

@[simp] theorem asked_run_reportAll (events : List Event) :
    (reportAll events).run.asked b = [] := by
  rw [reportAll, ExceptT.run_lift, Job.asked_map, Job.asked_reportAll]

@[simp] theorem asked_run_lift (t : Job α) :
    (ExceptT.lift t : Attempt α).run.asked b = t.asked b := by
  rw [ExceptT.run_lift, Job.asked_map]

end Attempt

namespace Query

variable {b : Backend} {config : Config} {q : Query}

/-! Main statements -/

theorem exists_insertStatement_iff {rows : List Row} {conflict : Option UpsertOptions}
    {list : Text} :
    (∃ s, q.insertStatement rows conflict (some list) = .ok s) ↔
      (∃ s, q.insertStatement rows conflict (some ['*']) = .ok s) ∧ list ≠ [] := by
  unfold insertStatement
  cases q.tableSql with
  | error cause => simp [bind, Except.bind]
  | ok table =>
    cases valuesSql rows with
    | error cause => simp [bind, Except.bind]
    | ok values =>
      cases conflict with
      | none => cases list <;> simp [bind, Except.bind, returningSql]
      | some options =>
        cases clause : conflictSql (insertColumns rows) options with
        | error cause => simp [bind, Except.bind, clause]
        | ok text => cases list <;> simp [bind, Except.bind, clause, returningSql]

theorem exists_updateStatement_iff {searchConfig : Text} {patch : Row} {list : Text} :
    (∃ s, q.updateStatement searchConfig patch (some list) = .ok s) ↔
      (∃ s, q.updateStatement searchConfig patch (some ['*']) = .ok s) ∧ list ≠ [] := by
  unfold updateStatement
  split
  · simp
  · cases assignments patch .empty with
    | error cause => simp [bind, Except.bind]
    | ok sets =>
      cases q.tableSql with
      | error cause => simp [bind, Except.bind]
      | ok table =>
        cases condition : q.whereSql searchConfig sets.2 with
        | error cause => simp [bind, Except.bind, condition]
        | ok clause => cases list <;> simp [bind, Except.bind, condition, returningSql]

theorem exists_deleteStatement_iff {searchConfig list : Text} :
    (∃ s, q.deleteStatement searchConfig (some list) = .ok s) ↔
      (∃ s, q.deleteStatement searchConfig (some ['*']) = .ok s) ∧ list ≠ [] := by
  unfold deleteStatement
  cases q.tableSql with
  | error cause => simp [bind, Except.bind]
  | ok table =>
    cases q.whereSql searchConfig .empty with
    | error cause => simp [bind, Except.bind]
    | ok clause => cases list <;> simp [bind, Except.bind, returningSql]

theorem exists_selectStatement_iff {searchConfig list : Text} :
    (∃ s, q.selectStatement searchConfig list = .ok s) ↔
      ∃ s, q.selectStatement searchConfig ['*'] = .ok s := by
  unfold selectStatement
  cases q.tableSql with
  | error cause => simp [bind, Except.bind]
  | ok table =>
    cases q.whereSql searchConfig .empty with
    | error cause => simp [bind, Except.bind]
    | ok clause =>
      cases orderBySql q.mainOrders with
      | error cause => simp [bind, Except.bind]
      | ok order => exact ⟨fun _ => ⟨_, rfl⟩, fun _ => ⟨_, rfl⟩⟩

/-- Whether the main statement can be written depends on its select list only in that a mutation
has to return something. -/
theorem exists_mainStatement_iff {searchConfig list : Text} :
    (∃ s, q.mainStatement searchConfig (some list) = .ok s) ↔
      (∃ s, q.mainStatement searchConfig (some ['*']) = .ok s) ∧
        (q.action.isMutation → list ≠ []) := by
  unfold mainStatement
  cases q.action with
  | select => simpa [Action.isMutation] using exists_selectStatement_iff
  | insert rows => simpa [Action.isMutation] using exists_insertStatement_iff
  | upsert rows options => simpa [Action.isMutation] using exists_insertStatement_iff
  | update patch => simpa [Action.isMutation] using exists_updateStatement_iff
  | delete => simpa [Action.isMutation] using exists_deleteStatement_iff

/-- A main statement names its table. -/
theorem exists_sourceTable {searchConfig : Text} {list : Option Text}
    (compiles : ∃ s, q.mainStatement searchConfig list = .ok s) :
    ∃ source, q.sourceTable = .ok source := by
  have named : ∃ sql, q.tableSql = .ok sql := by
    obtain ⟨s, written⟩ := compiles
    unfold mainStatement at written
    split at written
    · obtain ⟨sql, named, -⟩ := bind_eq_ok_iff.1 written
      exact ⟨sql, named⟩
    · obtain ⟨sql, named, -⟩ := bind_eq_ok_iff.1 written
      exact ⟨sql, named⟩
    · obtain ⟨sql, named, -⟩ := bind_eq_ok_iff.1 written
      exact ⟨sql, named⟩
    · unfold updateStatement at written
      split at written
      · cases written
      · obtain ⟨sets, -, rest⟩ := bind_eq_ok_iff.1 written
        obtain ⟨sql, named, -⟩ := bind_eq_ok_iff.1 rest
        exact ⟨sql, named⟩
    · obtain ⟨sql, named, -⟩ := bind_eq_ok_iff.1 written
      exact ⟨sql, named⟩
  obtain ⟨sql, named⟩ := named
  unfold tableSql Ident.quote at named
  unfold sourceTable
  cases parsed : Ident.parse q.table with
  | ok i => exact ⟨i.name, rfl⟩
  | error fault =>
    rw [parsed] at named
    cases named

/-! Fetching -/

/-- The relations of a selection in rows that a projection has fetched. -/
def relations (config : Config) (q : Query) (s : Selection) (g : Graph) (source : Text)
    (p : Projection) : List Relation :=
  s.references.map (Relation.build g config q.foreignOrders source p.keyOf)

variable {s : Selection} {g : Graph} {source : Text}

/-- The columns that the references of a selection read. -/
def required (config : Config) (s : Selection) (g : Graph) (source : Text) : List Text :=
  Relation.localColumns g config.guessKeys source s.references

/-- Once the main statement can be written it is asked, and its rows follow the references. -/
theorem fetchAlong_of_written {p : Projection} {main : Statement} {rows : List Row}
    (made : Projection.make s (required config s g source) = .ok p)
    (written : q.mainStatement config.searchConfig (some p.sql) = .ok main)
    (answered : b.query main = .ok rows) :
    (q.fetchAlong config s g source).run.value b =
        .ok ((Relation.resolve (relations config q s g source p) p.added rows).value b) ∧
      .query q.kind main ∈ (q.fetchAlong config s g source).run.asked b := by
  rw [required] at made
  constructor
  · simp only [fetchAlong, Attempt.value_run_bind, Attempt.value_run_reportAll,
      Attempt.value_run_valid, Attempt.value_run_query, Attempt.value_run_lift, made, written,
      answered, Except.mapError, ok_bind]
    rfl
  · simp only [fetchAlong, Attempt.asked_run_bind, Attempt.value_run_reportAll,
      Attempt.value_run_valid, Attempt.value_run_query, made, written, answered, Except.mapError,
      Attempt.asked_run_query, Attempt.asked_run_reportAll, Attempt.asked_run_valid]
    simp

/-- A main statement that cannot be written is not asked. -/
theorem fetchAlong_of_stuck {cause : Invalid}
    (stuck : (Projection.make s (required config s g source) >>= fun p =>
      q.mainStatement config.searchConfig (some p.sql)) = .error cause) :
    (q.fetchAlong config s g source).run.value b = .error (.invalid cause) ∧
      (q.fetchAlong config s g source).run.asked b = [] := by
  rw [required] at stuck
  simp only [fetchAlong, Attempt.value_run_bind, Attempt.asked_run_bind,
    Attempt.value_run_reportAll, Attempt.value_run_valid, Attempt.asked_run_reportAll,
    Attempt.asked_run_valid]
  cases made : Projection.make s
      (Relation.localColumns g config.guessKeys source s.references) with
  | error other =>
    rw [made] at stuck
    obtain rfl : other = cause := Except.error.inj stuck
    exact ⟨rfl, rfl⟩
  | ok p =>
    rw [made] at stuck
    have stuck : q.mainStatement config.searchConfig (some p.sql) = .error cause := stuck
    simp only [Except.mapError, ok_bind, stuck]
    exact ⟨rfl, rfl⟩

/-- Without references it makes no difference which foreign keys there are. -/
theorem fetchAlong_of_isEmpty (config : Config) (q : Query) (g : Graph) (source : Text)
    (none : s.references = []) : q.fetchAlong config s g source = q.fetchAlong config s [] [] := by
  simp only [fetchAlong, none, Relation.notices, Relation.localColumns, List.filterMap_nil,
    List.map_nil]

theorem fetch_eq (config : Config) (columns : Text) (loaded : b.graph = .ok g)
    (named : q.sourceTable = .ok source) :
    (q.fetch config columns).run.value b =
        (q.fetchAlong config (Selection.parse columns) g source).run.value b ∧
      ∀ kind statement, .query kind statement ∈ (q.fetch config columns).run.asked b ↔
        .query kind statement ∈
          (q.fetchAlong config (Selection.parse columns) g source).run.asked b := by
  simp only [fetch]
  split
  · next empty =>
    have alike := fetchAlong_of_isEmpty config q g source (List.isEmpty_iff.1 empty)
    rw [alike]
    exact ⟨rfl, fun _ _ => Iff.rfl⟩
  · have value : (Attempt.ask .graph : Attempt Graph).run.value b = .ok g := loaded
    have asked : (Attempt.ask .graph : Attempt Graph).run.asked b = [.graph] := rfl
    simp only [Attempt.value_run_bind, Attempt.asked_run_bind, value, asked,
      Attempt.value_run_valid, named, Attempt.asked_run_valid, Except.mapError, ok_bind]
    exact ⟨trivial, by simp⟩

/-! Attempts -/

/-- The select list of the rows that the query fetches; none if it fetches no rows. -/
def fetched? (q : Query) : Option Text :=
  if q.action.isMutation then if q.writesNothing then none else q.columns
  else if q.head then none else some (q.columns.getD ['*'])

/-- The request of a statement that counts. -/
def IsCount (r : Request) : Prop :=
  ∃ s, r = .query .count s

theorem within_ofExcept {α : Type} {allowed : Request → Prop} (x : Except Error α) :
    (MonadExcept.ofExcept x : Attempt α).run.Within allowed := by
  cases x <;> trivial

theorem within_valid {α : Type} {allowed : Request → Prop} (x : Except Invalid α) :
    (Attempt.valid x).run.Within allowed := by
  cases x <;> trivial

theorem within_countRows (mode : CountMode) : (q.countRows config mode).run.Within IsCount := by
  have exactly : (q.countExactly config).run.Within IsCount := by
    refine Attempt.within_run_bind (within_valid _) fun s => ?_
    exact Attempt.within_run_bind ⟨⟨_, rfl⟩, fun _ => trivial⟩ fun _ => within_ofExcept _
  have estimated : (q.estimate config).run.Within IsCount := by
    refine Attempt.within_run_bind (within_valid _) fun s => ?_
    exact Attempt.within_run_bind ⟨⟨_, rfl⟩, fun _ => trivial⟩ fun _ => within_ofExcept _
  cases mode with
  | exact => exact exactly
  | planned => exact estimated
  | estimated =>
    refine Attempt.within_run_bind estimated fun n => ?_
    split
    · exact exactly
    · trivial

theorem kind_ne_count : q.kind ≠ .count := by
  unfold kind
  cases q.action <;> simp

/-- What is counted before the main statement. -/
def counts (config : Config) (q : Query) : Attempt (Option Int) :=
  q.count.mapM (q.countRows config)

theorem within_counts : (q.counts config).run.Within IsCount := by
  unfold counts
  cases q.count with
  | none => trivial
  | some mode =>
    exact Attempt.within_run_bind (within_countRows mode) fun _ => trivial

/-- The rows that a query attempts to fetch are its outcome, with some count. -/
theorem attempt_of_fetched {columns : Text} (accepted : q.deferred = none)
    (fetches : q.fetched? = some columns)
    (counted : q.action.isMutation = false → ∃ n, (q.counts config).run.value b = .ok n) :
    (∃ count : List Row → Option Int, (q.attempt config).run.value b =
        ((q.fetch config columns).run.value b).map fun rows => ⟨some rows, count rows⟩) ∧
      ∀ s, .query q.kind s ∈ (q.attempt config).run.asked b ↔
        .query q.kind s ∈ (q.fetch config columns).run.asked b := by
  unfold fetched? at fetches
  simp only [attempt, accepted]
  cases mutates : q.action.isMutation with
  | true =>
    simp only [mutates, if_true] at fetches ⊢
    split at fetches
    · cases fetches
    · next writes =>
      simp only [runMutation, writes, Bool.false_eq_true, if_false, fetches]
      refine ⟨⟨fun rows => q.count.map fun _ => signedCount rows.length, ?_⟩, fun s => ?_⟩
      · rw [Attempt.value_run_bind]
        cases (q.fetch config columns).run.value b <;> rfl
      · rw [Attempt.asked_run_bind]
        cases (q.fetch config columns).run.value b <;> simp
  | false =>
    simp only [mutates, Bool.false_eq_true, if_false] at fetches ⊢
    split at fetches
    · cases fetches
    · next heads =>
      obtain ⟨n, known⟩ := counted mutates
      obtain rfl := Option.some.inj fetches
      have selects : q.runSelect config = q.counts config >>= fun count =>
          q.fetch config (q.columns.getD ['*']) >>= fun rows => pure ⟨some rows, count⟩ := by
        simp only [runSelect, counts, heads, Bool.false_eq_true, if_false]
      rw [selects]
      refine ⟨⟨fun _ => n, ?_⟩, fun s => ?_⟩
      · rw [Attempt.value_run_bind, known, ok_bind, Attempt.value_run_bind]
        cases (q.fetch config (q.columns.getD ['*'])).run.value b <;> rfl
      · have apart : .query q.kind s ∉ (q.counts config).run.asked b := by
          intro member
          obtain ⟨t, same⟩ := Job.allowed_of_asked b within_counts member
          exact kind_ne_count (Request.query.inj same).1
        simp only [Attempt.asked_run_bind, known, List.mem_append]
        cases (q.fetch config (q.columns.getD ['*'])).run.value b <;> simp [apart]

/-! Runs -/

/-- Apart from its references, a query that fetches rows is in order: nothing that it was called
with was refused, its plain columns can be read, and the rest of its main statement can be
written. -/
structure InOrder (config : Config) (q : Query) (columns : Text) (plain : List Column) : Prop where
  accepted : q.deferred = none
  fetches : q.fetched? = some columns
  parsed : (Selection.parse columns).columnTokens.mapM Column.parse = .ok plain
  compiles : ∃ s, q.mainStatement config.searchConfig (some ['*']) = .ok s

/-- The select list can carry what references need: the columns that it does not offer can be
named, and a mutation returns at least one column. -/
def Sendable (q : Query) (plain : List Column) (needed : List Text) : Prop :=
  (∀ column ∈ Projection.missing (Projection.offer plain) needed,
      Projection.Nameable (Projection.offer plain) column) ∧
    (q.action.isMutation → plain ≠ [] ∨ Projection.missing (Projection.offer plain) needed ≠ [])

variable {columns : Text} {plain : List Column}

theorem exists_main_iff (sound : InOrder config q columns plain) {needed : List Text} :
    (∃ main, (Projection.make (Selection.parse columns) needed >>= fun p =>
        q.mainStatement config.searchConfig (some p.sql)) = .ok main) ↔
      Sendable q plain needed := by
  rw [Sendable, ← Projection.exists_make_iff sound.parsed]
  constructor
  · rintro ⟨main, both⟩
    obtain ⟨p, made, written⟩ := bind_eq_ok_iff.1 both
    refine ⟨⟨p, made⟩, fun mutates => ?_⟩
    have filled := (exists_mainStatement_iff.1 ⟨main, written⟩).2 mutates
    rw [ne_eq, Projection.sql_eq_nil_iff sound.parsed made] at filled
    exact Decidable.not_and_iff_not_or_not.1 filled
  · rintro ⟨⟨p, made⟩, returns⟩
    have filled : q.action.isMutation → p.sql ≠ [] := by
      intro mutates
      rw [ne_eq, Projection.sql_eq_nil_iff sound.parsed made]
      exact Decidable.not_and_iff_not_or_not.2 (returns mutates)
    obtain ⟨main, written⟩ := exists_mainStatement_iff.2 ⟨sound.compiles, filled⟩
    exact ⟨main, bind_eq_ok_iff.2 ⟨p, made, written⟩⟩

/-- Each ending of the query runs to what it makes of the result. -/
def Ends {σ : Type} (c : Client σ) (config : Config) (q : Query) (result : Except Error Yield) :
    Prop :=
  (c.run (q.execute config)).2 = some (allRows result) ∧
    (c.run (q.single config)).2 = some (oneRow false result) ∧
    (c.run (q.maybeSingle config)).2 = some (oneRow true result)

theorem ends_of_value {σ : Type} {c : Client σ} (gives : ∀ r, c.Gives b r)
    {result : Except Error Yield} (value : (q.attempt config).run.value b = result) :
    Ends c config q result := by
  have runs : ∀ {α : Type} (t : Job α), (c.run t).2 = some (t.value b) :=
    fun t => Client.run_eq_value t.within_true fun r _ => gives r
  have performed : (q.perform config).value b = result := by
    rw [perform, Job.value_bind, value]
  refine ⟨?_, ?_, ?_⟩
  · rw [runs, execute, Job.value_map, performed]
  · rw [runs, single, Job.value_map, performed]
  · rw [runs, maybeSingle, Job.value_map, performed]

theorem asked_perform : (q.perform config).asked b = (q.attempt config).run.asked b := by
  rw [perform, Job.asked_bind, Job.asked_reportAll, List.nil_append]

/-- As long as the columns that references need can be named, references fail nothing: the main
statement is asked, every ending has the rows that come of its answer, and a reference that fails
or cannot be written leaves its empty value and changes nothing else; only an inner reference
that cannot be written drops all rows if there is nothing to look up. If some needed column cannot
be named, the main statement is not asked and every ending has a validation error. -/
theorem run_along_references {σ : Type} {c : Client σ} {b : Backend} (gives : ∀ r, c.Gives b r)
    {config : Config} {q : Query} {columns : Text} {plain : List Column} {g : Graph}
    (sound : InOrder config q columns plain) (loaded : b.graph = .ok g)
    (counted : q.action.isMutation = false → ∃ n, (q.counts config).run.value b = .ok n)
    (answered : ∀ list main, q.mainStatement config.searchConfig (some list) = .ok main →
      ∃ rows, b.query main = .ok rows) :
    ∃ source, q.sourceTable = .ok source ∧
    let s := Selection.parse columns
    let needed := required config s g source
    (Sendable q plain needed → ∃ p main rows result count,
      Projection.make s needed = .ok p ∧
      q.mainStatement config.searchConfig (some p.sql) = .ok main ∧
      .query q.kind main ∈ (q.perform config).asked b ∧ b.query main = .ok rows ∧
      (c.run (Relation.resolve (relations config q s g source p) p.added rows)).2 = some result ∧
      Ends c config q (.ok ⟨some result, count⟩) ∧
      ∀ front r back, relations config q s g source p = front ++ r :: back →
        r.reference.label ∉ (front ++ back).map (·.reference.label) →
        (r.Fails b rows ∨ r.IsBroken ∧ r.reference.inner = false →
          ∃ without, (c.run (Relation.resolve (front ++ back) p.added rows)).2 = some without ∧
            List.Forall₂ (Relation.SameBut r.reference.label) result
              (without.map (Row.put r.reference.label r.emptyValue))) ∧
        (¬ r.Fails b rows → r.IsBroken → r.reference.inner = true → result = [])) ∧
    (¬ Sendable q plain needed →
      (∀ main, .query q.kind main ∉ (q.perform config).asked b) ∧
        ∃ cause, Ends c config q (.error (.invalid cause))) := by
  obtain ⟨source, named⟩ := exists_sourceTable sound.compiles
  refine ⟨source, named, ?_⟩
  intro s needed
  have runs : ∀ {α : Type} (t : Job α), (c.run t).2 = some (t.value b) :=
    fun t => Client.run_eq_value t.within_true fun r _ => gives r
  obtain ⟨⟨count, attempted⟩, asks⟩ := attempt_of_fetched sound.accepted sound.fetches counted
  obtain ⟨fetched, asked⟩ := fetch_eq config columns loaded named
  rw [← exists_main_iff sound]
  constructor
  · rintro ⟨main, both⟩
    obtain ⟨p, made, written⟩ := bind_eq_ok_iff.1 both
    obtain ⟨rows, found⟩ := answered p.sql main written
    obtain ⟨value, member⟩ := fetchAlong_of_written made written found
    let resolved := (Relation.resolve (relations config q s g source p) p.added rows).value b
    refine ⟨p, main, rows, resolved, count resolved, made, written, ?_, found, runs _, ?_, ?_⟩
    · rwa [asked_perform, asks, asked]
    · apply ends_of_value gives
      rw [attempted, fetched, value]
      rfl
    · intro front r back parts apart
      simp only [resolved, parts]
      refine ⟨fun idle => ⟨_, runs _, ?_⟩, ?_⟩
      · apply Relation.resolve_sameBut apart
        rcases idle with fails | ⟨⟨link, notices, cause, rfl⟩, optional⟩
        · exact Relation.grant_of_fails fails
        · exact Relation.grant_of_broken optional
      · rintro works ⟨link, notices, cause, rfl⟩ inner
        have idle := Decidable.not_not.1 (mt Relation.fails_broken_iff.2 works)
        exact Relation.resolve_of_idle apart inner idle p.added
  · intro stuck
    obtain ⟨cause, fails⟩ : ∃ cause, (Projection.make s needed >>= fun p =>
        q.mainStatement config.searchConfig (some p.sql)) = .error cause := by
      cases both : Projection.make s needed >>= fun p =>
          q.mainStatement config.searchConfig (some p.sql) with
      | error cause => exact ⟨cause, rfl⟩
      | ok main => exact absurd ⟨main, both⟩ stuck
    obtain ⟨value, nothing⟩ := fetchAlong_of_stuck (b := b) fails
    refine ⟨fun main member => ?_, cause, ?_⟩
    · rw [asked_perform, asks, asked, nothing] at member
      cases member
    · apply ends_of_value gives
      rw [attempted, fetched, value]
      rfl

/-- Every statement finds one post. -/
def onePost (g : Graph) : Backend where
  query _ := .ok [[("title", .str "t")]]
  execute _ := .ok 0
  batch _ := .ok ()
  graph := .ok g

/-- Posts point to their authors by a column whose name is no plain identifier. -/
def posts : Graph := [⟨"posts_author_fkey", "posts", "author id", "profiles", "id"⟩]

def postsWithAuthors : Query :=
  (ofTable "posts").select "title, author:profiles(username)"

theorem postsWithAuthors_inOrder :
    InOrder .standard postsWithAuthors "title, author:profiles(username)"
      [⟨"\"title\"", some "title", true⟩] where
  accepted := rfl
  fetches := rfl
  parsed := by decide +kernel
  compiles := ⟨⟨"SELECT * FROM \"posts\"", []⟩, by decide +kernel⟩

theorem postsWithAuthors_not_sendable :
    ¬ Sendable postsWithAuthors [⟨"\"title\"", some "title", true⟩]
      (required .standard (Selection.parse "title, author:profiles(username)") posts "posts") := by
  intro sendable
  have missing : Projection.missing (Projection.offer [⟨"\"title\"", some "title", true⟩])
      (required .standard (Selection.parse "title, author:profiles(username)") posts "posts") =
        ["author id"] := by
    decide +kernel
  have refused : Projection.addition (Projection.offer [⟨"\"title\"", some "title", true⟩])
      "author id" = .error (.ident (.character ' ' "author id")) := by
    decide +kernel
  obtain ⟨a, named⟩ := sendable.1 "author id" (by rw [missing]; exact List.mem_singleton_self _)
  rw [refused] at named
  cases named

theorem run_postsWithAuthors :
    let c := (onePost posts).client .standard
    let columns : Text := "title, author:profiles(username)"
    let plain : List Column := [⟨"\"title\"", some "title", true⟩]
    (∀ r, c.Gives (onePost posts) r) ∧ InOrder .standard postsWithAuthors columns plain ∧
    (onePost posts).graph = .ok posts ∧
    (postsWithAuthors.action.isMutation = false →
      ∃ n, (postsWithAuthors.counts .standard).run.value (onePost posts) = .ok n) ∧
    (∀ list main, postsWithAuthors.mainStatement Config.standard.searchConfig (some list) =
      .ok main → ∃ rows, (onePost posts).query main = .ok rows) ∧
    (∀ main, .query postsWithAuthors.kind main ∉
      (postsWithAuthors.perform .standard).asked (onePost posts)) ∧
    ∃ cause, Ends c .standard postsWithAuthors (.error (.invalid cause)) := by
  intro c columns plain
  have gives : ∀ r, c.Gives (onePost posts) r :=
    fun r => (onePost posts).client_gives .standard r fun _ => ⟨posts, rfl⟩
  have counted : postsWithAuthors.action.isMutation = false →
      ∃ n, (postsWithAuthors.counts .standard).run.value (onePost posts) = .ok n :=
    fun _ => ⟨none, rfl⟩
  have answered : ∀ list main,
      postsWithAuthors.mainStatement Config.standard.searchConfig (some list) = .ok main →
        ∃ rows, (onePost posts).query main = .ok rows :=
    fun _ _ _ => ⟨_, rfl⟩
  obtain ⟨source, named, -, stuck⟩ :=
    run_along_references gives postsWithAuthors_inOrder rfl counted answered
  have table : postsWithAuthors.sourceTable = .ok "posts" := by decide +kernel
  obtain rfl : source = "posts" := Except.ok.inj (named.symm.trans table)
  exact ⟨gives, postsWithAuthors_inOrder, rfl, counted, answered,
    stuck postsWithAuthors_not_sendable⟩

end Query

end FluentQuery

import FluentQuery.Proofs.Query.Course
import FluentQuery.Proofs.Relation.Batched

/-! Related rows are never fetched one parent at a time. In every run of a query each reference of
its select list that has a plan and can be written is fetched once, at its place in the list: for
the distinct values in all rows that the reference above has fetched, in batches. -/
namespace FluentQuery.Query

open FluentQuery.Relation (at? askedAt parentsAt distinctValues BindsEach)

/-- What a relation asks for, if it can be written: each of the values of its parents once. -/
def FetchesOnce (config : Config) : Relation → List Row → List Exchange → Prop
  | .ready link _ l _, parents, asked =>
    ∃ parts, BindsEach config.batchSize (distinctValues link.localKey parents) l asked parts
  | .unresolved _, _, asked | .broken .., _, asked => asked = []

/-- The lookups of a query after its main statement has found the rows. Each is marked with the
place of its reference in the select list, and none of these places lies deeper than the list is
long. Whether a reference is looked up is decided by its plan in the table above it, and by whether
its lookup can be written. -/
structure Followed (config : Config) (q : Query) (loads : List Exchange) (main : Statement)
    (rows : List Row) (marked : List (List Nat × Exchange)) (columns source : Text) (g : Graph)
    (p : Projection) : Prop where
  prepared : q.Prepared config loads columns g source p main
  placed : ∀ x ∈ marked, x.1.length ≤ columns.length ∧
    ∃ r, at? (q.relations config (Selection.parse columns) g source p) x.1 = some r
  listed : ∀ place r, at? (q.relations config (Selection.parse columns) g source p) place = some r →
    (Selection.parse columns).at? place = some r.reference
  chosen : ∀ place r, at? (q.relations config (Selection.parse columns) g source p) place = some r →
    ∃ table, (Selection.parse columns).sourceAt? g config.guessKeys source place = some table ∧
      r.Chosen g config q.foreignOrders table
  once : ∀ place r, at? (q.relations config (Selection.parse columns) g source p) place = some r →
    FetchesOnce config r (parentsAt rows marked place) (askedAt marked place)

variable {config : Config} {q : Query} {loads mains relations : List Exchange}

/-- The lookups after the main statement are those of its references; without rows there are
none. -/
theorem Main.followed (main : q.Main config loads mains relations) :
    relations = [] ∧ (∀ s rows, mains ≠ [⟨.query q.kind s, .ok rows⟩]) ∨
      ∃ s rows marked columns source g p, mains = [⟨.query q.kind s, .ok rows⟩] ∧
        relations = marked.map Prod.snd ∧
        q.Followed config loads s rows marked columns source g p := by
  cases main with
  | none | changing | failing => exact .inl ⟨rfl, by simp⟩
  | fetching prepared follows =>
    obtain ⟨marked, rfl, tree⟩ := Relation.follows_of_resolve follows
    refine .inr ⟨_, _, marked, _, _, _, _, rfl, rfl, prepared, fun x member => ?_,
      fun place r found => (Relation.at?_build found).1, fun place r found => ?_,
      fun place r found => ?_⟩
    · obtain ⟨r, found⟩ := tree.placed x member
      have deep := Selection.length_of_at? (Relation.at?_build found).1
      exact ⟨Nat.le_of_add_right_le deep, r, found⟩
    · obtain ⟨-, table, keyOf, above, built⟩ := Relation.at?_build found
      exact ⟨table, above, built ▸ Relation.chosen_build ..⟩
    · have asks := tree.asks place r found
      cases r with
      | unresolved | broken => exact asks
      | ready link notices l nested =>
        obtain ⟨-, table, keyOf, -, built⟩ := Relation.at?_build found
        exact ⟨_, Relation.Batched.bindsEach (built ▸ Relation.made_build ..) asks⟩

section Clients

variable {σ α : Type} {e : Executor σ} {c : Client (σ × List Script.Record)}

end Clients

/-- Posts with their comments and the authors of these. -/
def discussedPosts : Query :=
  (ofTable "posts").select "id, comments(body, author:profiles!inner(username))"

end FluentQuery.Query

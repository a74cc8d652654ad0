import FluentQuery.Proofs.Job.Trace
import FluentQuery.Proofs.Query.Asked
import FluentQuery.Proofs.Relation.Keys
import FluentQuery.Proofs.Relation.MatchKey

/-! Each reference of a tree is fetched once, and asks for each key once. The exchanges of a run are
marked with the places of the references that make them: those of one place are the batches of the
distinct keys in all rows that the reference above has fetched, in their order. Nothing is assumed
of the answers, of the rows or of the foreign keys. -/
namespace FluentQuery

/-! Places -/

/-- The reference at a place: its number, or a place in the body of the one with the first
number. -/
def Selection.at? (s : Selection) : List Nat → Option Reference
  | [] => none
  | [i] => s.references[i]?
  | i :: j :: place => s.references[i]?.bind fun r => (parse r.body).at? (j :: place)

/-- However the references are nested, the text is longer than the way down to one of them. -/
theorem Selection.length_of_at? {t : Text} {place : List Nat} {r : Reference}
    (found : (parse t).at? place = some r) : place.length + r.body.length ≤ t.length := by
  induction place generalizing t with
  | nil => cases found
  | cons i rest ih =>
    cases rest with
    | nil =>
      have inside := length_of_mem_parse (List.mem_of_getElem? found)
      rw [List.length_singleton]
      omega
    | cons j place =>
      obtain ⟨above, first, below⟩ := Option.bind_eq_some_iff.1 found
      have inside := length_of_mem_parse (List.mem_of_getElem? first)
      have deeper := ih below
      rw [List.length_cons]
      omega

/-- The table in whose rows the reference at a place stands: that of the query, or the one that the
reference above leads to. -/
def Selection.sourceAt? (s : Selection) (g : Graph) (guessing : Bool) (source : Text) :
    List Nat → Option Text
  | [] => none
  | [_] => some source
  | i :: j :: place =>
    s.references[i]?.bind fun above =>
      (Resolution.resolve g guessing source above).plan?.bind fun plan =>
        (parse above.body).sourceAt? g guessing plan.foreignTable (j :: place)

theorem Lookup.batchSize_of_make {config : Config} {terms : List OrderTerm} {link : Link}
    {body : Selection} {required : List Text} {l : Lookup} {p : Projection}
    (makes : make config terms link body required = .ok (l, p)) :
    l.batchSize = max config.batchSize 1 := by
  obtain ⟨projection, -, rest⟩ := bind_eq_ok_iff.1 makes
  obtain ⟨table, -, rest⟩ := bind_eq_ok_iff.1 rest
  obtain ⟨column, -, rest⟩ := bind_eq_ok_iff.1 rest
  obtain ⟨order, -, last⟩ := bind_eq_ok_iff.1 rest
  cases last
  rfl

namespace Relation

/-- A reference in rows of `source` is unresolved if it has no plan, and broken if its lookup cannot
be written; else it is ready. -/
inductive Chosen (g : Graph) (config : Config) (terms : List OrderTerm) (source : Text) :
    Relation → Prop where
  | unresolved {r : Reference}
      (unplanned : (Resolution.resolve g config.guessKeys source r).plan? = none) :
      Chosen g config terms source (.unresolved r)
  | broken {link : Link} {notices : List Event} {cause : Invalid}
      (planned : (Resolution.resolve g config.guessKeys source link.reference).plan? =
        some link.plan)
      (fails : link.lookup g config terms = .error cause) :
      Chosen g config terms source (.broken link notices cause)
  | ready {link : Link} {notices : List Event} {l : Lookup} {p : Projection}
      {nested : List Relation}
      (planned : (Resolution.resolve g config.guessKeys source link.reference).plan? =
        some link.plan)
      (makes : link.lookup g config terms = .ok (l, p)) :
      Chosen g config terms source (.ready link notices l nested)

theorem chosen_build (g : Graph) (config : Config) (terms : List OrderTerm) (source : Text)
    (keyOf : Text → Text) (r : Reference) :
    (build g config terms source keyOf r).Chosen g config terms source := by
  fun_cases build g config terms source keyOf r with
  | case1 unplanned => exact .unresolved unplanned
  | case2 plan planned link body reports cause fails => exact .broken planned fails
  | case3 plan planned link body reports l p makes => exact .ready planned makes

def nested : Relation → List Relation
  | .ready _ _ _ nested => nested
  | .unresolved _ | .broken .. => []

/-- The relation at a place in a tree. -/
def at? (relations : List Relation) : List Nat → Option Relation
  | [] => none
  | [i] => relations[i]?
  | i :: j :: place => relations[i]?.bind fun r => at? r.nested (j :: place)

/-- The relations that a tree of references is built to stand at the places of their references,
each of them built in the table there. -/
theorem at?_build {g : Graph} {config : Config} {terms : List OrderTerm} {s : Selection}
    {source : Text} {keyOf : Text → Text} {place : List Nat} {r : Relation}
    (found : at? (s.references.map (build g config terms source keyOf)) place = some r) :
    s.at? place = some r.reference ∧ ∃ table keyOf,
      s.sourceAt? g config.guessKeys source place = some table ∧
        r = build g config terms table keyOf r.reference := by
  induction place generalizing s source keyOf with
  | nil => cases found
  | cons i rest ih =>
    cases rest with
    | nil =>
      obtain ⟨reference, first, rfl⟩ := Option.map_eq_some_iff.1
        ((List.getElem?_map ..).symm.trans found)
      rw [reference_build]
      exact ⟨first, source, keyOf, rfl, rfl⟩
    | cons j place =>
      obtain ⟨above, first, below⟩ := Option.bind_eq_some_iff.1 found
      obtain ⟨reference, listed, rfl⟩ := Option.map_eq_some_iff.1
        ((List.getElem?_map ..).symm.trans first)
      rw [build] at below
      split at below
      · cases place <;> cases below
      · next plan planned =>
        simp only at below
        split at below
        · cases place <;> cases below
        · simp only [nested, List.map_attach_eq_pmap, List.pmap_eq_map] at below
          rw [Selection.at?, Selection.sourceAt?, listed, Option.bind_some, Option.bind_some,
            planned, Option.bind_some]
          exact ih below

/-! Exchanges of one reference -/

/-- The exchanges that are marked with a place. -/
def askedAt (marked : List (List Nat × Exchange)) (place : List Nat) : List Exchange :=
  (marked.filter fun x => x.1 = place).map Prod.snd

/-- The rows of all answers, or none if one is missing. -/
def gathered (asked : List Exchange) : List Row :=
  if ∀ x ∈ asked, x.error? = none then asked.flatMap Exchange.rows else []

/-- The rows of the reference above a place; those of the query if there is none. -/
def parentsAt (rows : List Row) (marked : List (List Nat × Exchange)) (place : List Nat) :
    List Row :=
  match place.dropLast with
  | [] => rows
  | above => gathered (askedAt marked above)

def batchRequest (l : Lookup) (keys : List Json) : Request :=
  .query .relation (l.statement keys)

/-- The batches of the keys of the parents are asked in order, all of them unless one fails. -/
structure Batched (link : Link) (l : Lookup) (parents : List Row) (asked : List Exchange) :
    Prop where
  requests : asked.map Exchange.request <+:
    (batches l.batchSize (distinctKeys link.localKey parents)).map (batchRequest l)
  unbroken : Exchange.Unbroken asked
  complete : (∀ x ∈ asked, x.error? = none) →
    asked.length = (batches l.batchSize (distinctKeys link.localKey parents)).length

/-- Only a relation that can be written asks for anything. -/
def Asks : Relation → List Row → List Exchange → Prop
  | .ready link _ l _, parents, asked => Batched link l parents asked
  | .unresolved _, _, asked | .broken .., _, asked => asked = []

theorem batched_of_idle {link : Link} {l : Lookup} {parents : List Row}
    (idle : distinctKeys link.localKey parents = []) : Batched link l parents [] := by
  refine ⟨List.nil_prefix, Exchange.unbroken_nil, fun _ => ?_⟩
  rw [idle, batches, if_pos rfl]
  rfl

/-- Without parents there is nothing to ask for. -/
theorem asks_nil (r : Relation) : r.Asks [] [] := by
  cases r with
  | unresolved | broken => rfl
  | ready link notices l nested => exact batched_of_idle rfl

theorem gathered_of_error {asked : List Exchange} {x : Exchange} {e : Error} (member : x ∈ asked)
    (failed : x.error? = some e) : gathered asked = [] := by
  refine if_neg fun answered => ?_
  cases (answered x member).symm.trans failed

/-! A whole tree -/

/-- Every exchange is made by a relation of the tree, and each relation asks for the keys of its
parents. -/
structure Follows (relations : List Relation) (rows : List Row)
    (marked : List (List Nat × Exchange)) : Prop where
  placed : ∀ x ∈ marked, ∃ r, at? relations x.1 = some r
  asks : ∀ place r, at? relations place = some r →
    r.Asks (parentsAt rows marked place) (askedAt marked place)

variable {relations : List Relation} {rows parents : List Row}
  {marked front back : List (List Nat × Exchange)} {place : List Nat}

theorem askedAt_woven (woven : Interleaves front back marked) (place : List Nat) :
    Interleaves (askedAt front place) (askedAt back place) (askedAt marked place) :=
  (woven.filter _).map _

theorem askedAt_eq_nil (others : ∀ x ∈ marked, x.1 ≠ place) : askedAt marked place = [] := by
  rw [askedAt, List.filter_eq_nil_iff.2 fun x member => by simpa using others x member,
    List.map_nil]

/-- Marked anew one by one, exchanges are found at their new places. -/
theorem askedAt_map {move : List Nat → List Nat}
    (single : ∀ x ∈ marked, ∀ p, move x.1 = move p → x.1 = p) (place : List Nat) :
    askedAt (marked.map fun x => (move x.1, x.2)) (move place) = askedAt marked place := by
  rw [askedAt, List.filter_map, List.map_map, askedAt]
  refine congrArg (List.map Prod.snd) (List.filter_congr fun x member => ?_)
  rw [Bool.eq_iff_iff, Function.comp_apply, decide_eq_true_iff, decide_eq_true_iff]
  exact ⟨single x member place, congrArg move⟩

theorem follows_of_idle (idle : ∀ r ∈ relations, r.Asks rows []) : Follows relations rows [] := by
  refine ⟨List.forall_mem_nil _, fun place r found => ?_⟩
  match place with
  | [] => cases found
  | [i] => exact idle r (List.mem_of_getElem? found)
  | i :: j :: place => exact asks_nil r

theorem parentsAt_cons_cons (rows : List Row) (marked : List (List Nat × Exchange)) (i j : Nat)
    (place : List Nat) : parentsAt rows marked (i :: j :: place) =
      gathered (askedAt marked (i :: (j :: place).dropLast)) := rfl

/-- The place of a relation behind one more. -/
def later : List Nat → List Nat
  | [] => []
  | i :: place => (i + 1) :: place

theorem later_inj {place other : List Nat} (same : later place = later other) : place = other := by
  cases place <;> cases other <;> simp_all [later]

theorem at?_cons_zero (r : Relation) (relations : List Relation) (place : List Nat) :
    at? (r :: relations) (0 :: place) = at? [r] (0 :: place) := by
  cases place <;> rfl

theorem at?_cons_succ (r : Relation) (relations : List Relation) (i : Nat) (place : List Nat) :
    at? (r :: relations) ((i + 1) :: place) = at? relations (i :: place) := by
  cases place <;> rfl

theorem at?_singleton {r s : Relation} (found : at? [r] place = some s) :
    ∃ rest, place = 0 :: rest := by
  match place with
  | [] => cases found
  | 0 :: rest => exact ⟨rest, rfl⟩
  | (i + 1) :: [] | (i + 1) :: j :: rest => cases found

/-- A relation and the ones behind it, side by side. -/
theorem Follows.cons {r : Relation} (first : Follows [r] rows front)
    (others : Follows relations rows back)
    (woven : Interleaves front (back.map fun x => (later x.1, x.2)) marked) :
    Follows (r :: relations) rows marked := by
  have head (place : List Nat) : askedAt marked (0 :: place) = askedAt front (0 :: place) := by
    have split := askedAt_woven woven (0 :: place)
    have apart : askedAt (back.map fun x => (later x.1, x.2)) (0 :: place) = [] := by
      refine askedAt_eq_nil fun x member => ?_
      obtain ⟨⟨p, y⟩, -, rfl⟩ := List.mem_map.1 member
      cases p <;> simp [later]
    rw [apart] at split
    exact split.eq_of_nil_right
  have tail (i : Nat) (place : List Nat) :
      askedAt marked ((i + 1) :: place) = askedAt back (i :: place) := by
    have split := askedAt_woven woven (later (i :: place))
    have apart : askedAt front (later (i :: place)) = [] := by
      refine askedAt_eq_nil fun x member same => ?_
      obtain ⟨s, found⟩ := first.placed x member
      obtain ⟨rest, zero⟩ := at?_singleton found
      rw [same] at zero
      cases zero
    rw [askedAt_map fun _ _ _ => later_inj, apart] at split
    exact split.eq_of_nil_left
  constructor
  · intro x member
    obtain front | back := woven.mem_iff.1 member
    · obtain ⟨s, found⟩ := first.placed x front
      obtain ⟨rest, zero⟩ := at?_singleton found
      exact ⟨s, by rw [zero, at?_cons_zero, ← zero, found]⟩
    · obtain ⟨⟨p, y⟩, among, rfl⟩ := List.mem_map.1 back
      obtain ⟨s, found⟩ := others.placed _ among
      cases p with
      | nil => cases found
      | cons i place => exact ⟨s, (at?_cons_succ ..).trans found⟩
  · intro place s found
    match place with
    | [] => cases found
    | 0 :: place =>
      rw [at?_cons_zero] at found
      have asks := first.asks _ s found
      rw [head]
      cases place with
      | nil => exact asks
      | cons j place => rwa [parentsAt_cons_cons, head, ← parentsAt_cons_cons rows]
    | (i + 1) :: place =>
      rw [at?_cons_succ] at found
      have asks := others.asks _ s found
      rw [tail]
      cases place with
      | nil => exact asks
      | cons j place => rwa [parentsAt_cons_cons, tail, ← parentsAt_cons_cons rows]

/-- A relation, and then its nested ones on all rows that it has fetched. -/
theorem Batched.follows {link : Link} {notices : List Event} {l : Lookup} {inner : List Relation}
    {asked : List Exchange} (batched : Batched link l parents asked)
    (follows : Follows inner (gathered asked) marked) :
    Follows [.ready link notices l inner] parents
      ((asked.map fun x => ([0], x)) ++ marked.map fun x => (0 :: x.1, x.2)) := by
  generalize whole : (asked.map fun x => (([0] : List Nat), x)) ++
    marked.map (fun x => (0 :: x.1, x.2)) = all
  have own : askedAt all [0] = asked := by
    have deeper : askedAt (marked.map fun x => (0 :: x.1, x.2)) [0] = [] := by
      refine askedAt_eq_nil fun x member same => ?_
      obtain ⟨y, among, rfl⟩ := List.mem_map.1 member
      obtain ⟨s, found⟩ := follows.placed y among
      rw [(List.cons.inj same).2] at found
      cases found
    rw [← whole, askedAt, List.filter_append, List.map_append, ← askedAt, ← askedAt, deeper,
      List.append_nil]
    simp [askedAt, List.filter_map, Function.comp_def]
  have below (j : Nat) (place : List Nat) :
      askedAt all (0 :: j :: place) = askedAt marked (j :: place) := by
    rw [← whole, askedAt, List.filter_append, List.map_append, ← askedAt, ← askedAt,
      askedAt_eq_nil (by simp), List.nil_append]
    have single : ∀ x ∈ marked, ∀ p, List.cons 0 x.1 = 0 :: p → x.1 = p :=
      fun _ _ _ same => (List.cons.inj same).2
    exact askedAt_map single (j :: place)
  constructor
  · intro x member
    rw [← whole, List.mem_append] at member
    obtain here | deeper := member
    · obtain ⟨y, -, rfl⟩ := List.mem_map.1 here
      exact ⟨_, rfl⟩
    · obtain ⟨⟨p, y⟩, among, rfl⟩ := List.mem_map.1 deeper
      obtain ⟨s, found⟩ := follows.placed _ among
      cases p with
      | nil => cases found
      | cons j place => exact ⟨s, found⟩
  · intro place s found
    obtain ⟨rest, rfl⟩ := at?_singleton found
    cases rest with
    | nil =>
      cases found
      rw [own]
      exact batched
    | cons j place =>
      have asks := follows.asks (j :: place) s found
      rw [below, parentsAt_cons_cons]
      cases place with
      | nil => rwa [show (0 :: [j].dropLast) = [0] from rfl, own]
      | cons k place =>
        rwa [show (0 :: (j :: k :: place).dropLast) = 0 :: j :: (k :: place).dropLast from rfl,
          below]

/-! Runs -/

/-- The batches are asked in order until one fails. -/
theorem batches_of_trace {l : Lookup} {parts : List (List Json)} {trace : List Exchange}
    {found : Except Error (List Row)} (goes : (related l parts).run.Trace trace found) :
    Exchange.Unbroken trace ∧
      ((∃ e, found = .error e ∧ (∃ x ∈ trace, x.error? = some e) ∧
          trace.map Exchange.request <+: parts.map (batchRequest l)) ∨
        found = .ok (trace.flatMap Exchange.rows) ∧ (∀ x ∈ trace, x.error? = none) ∧
          trace.map Exchange.request = parts.map (batchRequest l)) := by
  induction parts generalizing trace found with
  | nil =>
    obtain ⟨rfl, rfl⟩ := Attempt.trace_pure.1 goes
    exact ⟨Exchange.unbroken_nil, .inr ⟨rfl, List.forall_mem_nil _, rfl⟩⟩
  | cons keys rest ih =>
    rw [related] at goes
    obtain ⟨e, rfl, rfl⟩ | ⟨rows, back, rfl, next⟩ := Attempt.trace_ask_bind.1 goes
    · refine ⟨Exchange.unbroken_singleton _, .inl ⟨e, rfl, ⟨_, List.mem_singleton_self _, rfl⟩, ?_⟩⟩
      exact List.prefix_append _ _
    · have answered : ∀ x ∈ [(⟨.query .relation (l.statement keys), .ok rows⟩ : Exchange)],
          x.error? = none := List.forall_mem_singleton.2 rfl
      obtain ⟨others, more, rfl⟩ := Attempt.trace_bind_pure.1 next
      obtain ⟨unbroken, ⟨e, rfl, ⟨x, member, error⟩, asked⟩ | ⟨rfl, all, asked⟩⟩ := ih more
      · refine ⟨unbroken.prepend answered, .inl ⟨e, rfl, ?_⟩⟩
        exact ⟨⟨x, List.mem_cons_of_mem _ member, error⟩, List.cons_prefix_cons.2 ⟨rfl, asked⟩⟩
      · refine ⟨unbroken.prepend answered, .inr ⟨rfl, ?_, congrArg (List.cons _) asked⟩⟩
        exact List.forall_mem_append.2 ⟨answered, all⟩

/-- Without keys nothing is asked. -/
theorem follows_of_unasked {r : Relation} (idle : r.Asks parents []) : Follows [r] parents [] :=
  follows_of_idle (List.forall_mem_singleton.2 idle)

mutual

/-- On the tree of relations: in every run, one relation asks for the keys of its parents, and then
its nested ones follow on all rows that it has got. -/
theorem follows_of_values : (r : Relation) → (parents : List Row) →
    {trace : List Exchange} → {given : Option (List Json)} →
    (values r parents).Trace trace given →
      ∃ marked, marked.map Prod.snd = trace ∧ Follows [r] parents marked
  | .unresolved _, parents, _, _, goes => by
    obtain ⟨rfl, -⟩ := goes
    exact ⟨[], rfl, follows_of_unasked rfl⟩
  | .broken link notices cause, parents, _, _, goes => by
    rw [values] at goes
    split at goes
    · obtain ⟨rfl, -⟩ := goes
      exact ⟨[], rfl, follows_of_unasked rfl⟩
    · rw [Job.trace_reportAll_bind, Job.trace_report_bind] at goes
      obtain ⟨rfl, -⟩ := goes
      exact ⟨[], rfl, follows_of_unasked rfl⟩
  | .ready link notices l nested, parents, trace, _, goes => by
    rw [values] at goes
    split at goes
    · next idle =>
      obtain ⟨rfl, -⟩ := goes
      exact ⟨[], rfl, follows_of_unasked (batched_of_idle idle)⟩
    · rw [Job.trace_reportAll_bind, Job.trace_bind] at goes
      obtain ⟨front, found, back, asks, rfl, goes⟩ := goes
      obtain ⟨unbroken, ⟨e, rfl, ⟨x, member, failed⟩, asked⟩ | ⟨rfl, answered, asked⟩⟩ :=
        batches_of_trace asks
      · -- What was answered before the failure is not followed.
        rw [Job.trace_report_bind] at goes
        obtain ⟨rfl, -⟩ := goes
        have batched : Batched link l parents front := by
          refine ⟨asked, unbroken, fun all => ?_⟩
          cases (all x member).symm.trans failed
        have none : Follows nested (gathered front) [] := by
          rw [gathered_of_error member failed]
          exact follows_of_idle fun r _ => asks_nil r
        exact ⟨_, by simp, batched.follows none⟩
      · obtain ⟨inner, values, last, runs, rfl, ends⟩ := Job.trace_bind.1 goes
        obtain ⟨marked, rfl, follows⟩ := follows_of_jobs nested (gathered front) <| by
          rwa [gathered, if_pos answered]
        have silent : last = [] := by
          split at ends
          · exact ends.1
          · exact ends.1
        subst silent
        have batched : Batched link l parents front := by
          refine ⟨asked ▸ List.prefix_refl _, unbroken, fun _ => ?_⟩
          rw [← List.length_map, asked, List.length_map]
        exact ⟨_, by simp [Function.comp_def], batched.follows follows⟩

theorem follows_of_jobs : (relations : List Relation) → (rows : List Row) → {order : Order} →
    {trace : List Exchange} → {given : List (Option (List Json))} →
    (Job.chain order (jobs relations rows)).Trace trace given →
      ∃ marked, marked.map Prod.snd = trace ∧ Follows relations rows marked
  | [], _, _, _, _, goes => by
    obtain ⟨rfl, -⟩ := goes
    exact ⟨[], rfl, follows_of_idle (List.forall_mem_nil _)⟩
  | r :: rest, rows, _, _, _, goes => by
    obtain ⟨l, _, m, _, n, _, one, others, woven, rfl, rfl, -⟩ := goes
    obtain ⟨front, rfl, first⟩ := follows_of_values r rows one
    obtain ⟨back, rfl, behind⟩ := follows_of_jobs rest rows others
    rw [show back.map Prod.snd = (back.map fun x => (later x.1, x.2)).map Prod.snd by
      simp [Function.comp_def]] at woven
    obtain ⟨marked, merged, rfl⟩ := woven.of_map
    exact ⟨marked, (List.append_nil _).symm, first.cons behind merged⟩

end

theorem follows_of_resolve {stripped : List Text} {trace : List Exchange} {final : List Row}
    (goes : (resolve relations stripped rows).Trace trace final) :
    ∃ marked, marked.map Prod.snd = trace ∧ Follows relations rows marked := by
  obtain ⟨front, _, _, runs, rfl, rfl, -⟩ := Job.trace_bind.1 goes
  obtain ⟨marked, rfl, follows⟩ := follows_of_jobs relations rows runs
  exact ⟨marked, (List.append_nil _).symm, follows⟩

/-- Everything that is asked on the way is a lookup. -/
theorem Follows.lookup (follows : Follows relations rows marked) {x : List Nat × Exchange}
    (member : x ∈ marked) : ∃ l keys, x.2.request = .query .relation (Lookup.statement l keys) := by
  obtain ⟨r, found⟩ := follows.placed x member
  have asked : x.2 ∈ askedAt marked x.1 :=
    List.mem_map_of_mem (List.mem_filter.2 ⟨member, decide_eq_true rfl⟩)
  have asks := follows.asks x.1 r found
  cases r with
  | unresolved | broken =>
    rw [show askedAt marked x.1 = [] from asks] at asked
    cases asked
  | ready link notices l nested =>
    have listed := asks.requests.subset (List.mem_map_of_mem asked)
    obtain ⟨keys, -, same⟩ := List.mem_map.1 listed
    exact ⟨l, keys, same.symm⟩

/-! Values -/

/-- The values of a column other than null, each once, as they first appear. -/
def distinctValues (column : Text) (rows : List Row) : List Json :=
  ((rows.filterMap (Row.get? column)).filter fun v => v ≠ .null).eraseDups

/-- Statements that bind these values, each of them once and in this order: as few as there can be
with so many values in each. There may be fewer if one fails, and then no more follow. -/
structure BindsEach (size : Nat) (values : List Json) (l : Lookup) (asked : List Exchange)
    (parts : List (List Json)) : Prop where
  once : values.Nodup
  whole : parts.flatten = values
  sizes : ∀ part ∈ parts, 1 ≤ part.length ∧ part.length ≤ max size 1
  number : parts.length = (values.length + max size 1 - 1) / max size 1
  bound : ∀ part ∈ parts, (l.statement part).params = part
  requests : asked.map Exchange.request <+:
    parts.map fun part => .query .relation (l.statement part)
  unbroken : Exchange.Unbroken asked
  complete : (∀ x ∈ asked, x.error? = none) → asked.length = parts.length

theorem Batched.bindsEach {config : Config} {link : Link} {notices : List Event} {l : Lookup}
    {inner : List Relation} {asked : List Exchange}
    (made : (Relation.ready link notices l inner).Made config)
    (batched : Batched link l parents asked) :
    BindsEach config.batchSize (distinctValues link.localKey parents) l asked
      (batches l.batchSize (distinctKeys link.localKey parents)) := by
  have size : max l.batchSize 1 = max config.batchSize 1 := by
    cases made with
    | ready makes each =>
      rw [Lookup.batchSize_of_make makes]
      exact Nat.max_eq_left (Nat.le_max_right ..)
  have same : distinctValues link.localKey parents = distinctKeys link.localKey parents :=
    (distinctKeys_eq ..).symm
  constructor
  · exact same ▸ nodup_distinctKeys ..
  · exact (flatten_batches ..).trans same.symm
  · exact fun part member => size ▸ length_of_mem_batches member
  · rw [same, ← size]
    exact length_batches ..
  · exact fun _ _ => rfl
  · exact batched.requests
  · exact batched.unbroken
  · exact batched.complete

end Relation

end FluentQuery

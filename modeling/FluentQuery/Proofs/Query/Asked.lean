import FluentQuery.Routine
import FluentQuery.Proofs.Query.References
import FluentQuery.Proofs.Query.Sound

/-! Which statements are sent. A statement that is compiled numbers a sound template; and whatever
is answered, a query and the call of a stored function ask for nothing but such statements and for
the foreign keys. -/
namespace FluentQuery

/-- The statements that are made from what a caller gives, or the faults there, each with its
template. -/
inductive Compiles (config : Config) :
    Except Invalid Statement → Except Invalid Template → Prop where
  | main (q : Query) {list : Option Text} (listed : Query.IsList list) :
      Compiles config (q.mainStatement config.searchConfig list)
        (q.mainTemplate config.searchConfig list)
  | count (q : Query) :
      Compiles config (q.countStatement config.searchConfig) (q.countTemplate config.searchConfig)
  | plan (q : Query) :
      Compiles config (q.planStatement config.searchConfig) (q.planTemplate config.searchConfig)
  | lookup {terms : List OrderTerm} {link : Link} {body : Selection} {required : List Text}
      {l : Lookup} {p : Projection}
      (makes : Lookup.make config terms link body required = .ok (l, p)) (keys : List Json) :
      Compiles config (.ok (l.statement keys)) (.ok (l.template keys))
  | routine (name : Text) (row : Row) :
      Compiles config (Routine.statement name row) (Routine.template name row)

variable {config : Config}

namespace Compiles

variable {made : Except Invalid Statement} {template : Except Invalid Template} {s : Statement}

theorem eq_map (compiles : Compiles config made template) :
    made = template.map Template.statement := by
  cases compiles with
  | main q => exact q.mainStatement_eq _ _
  | count q => exact q.countStatement_eq _
  | plan q => exact q.planStatement_eq _
  | lookup _ keys => exact congrArg Except.ok (Lookup.statement_eq _ keys)
  | routine name row => exact Routine.statement_eq name row

theorem sound {T : Template} (compiles : Compiles config made template)
    (templated : template = .ok T) : Template.Sound true T := by
  cases compiles with
  | main q listed => exact Query.sound_mainTemplate listed templated
  | count q => exact (Query.framed_countTemplate templated).sound
  | plan q => exact (Query.framed_planTemplate templated).sound
  | lookup makes keys =>
    cases templated
    exact Lookup.sound_template makes keys
  | routine name row => exact (Routine.sound_template templated).weaken

/-- A compiled statement is one fragment of SQL with the placeholders of its parameters. -/
theorem fragment (compiles : Compiles config made template) (compiled : made = .ok s) :
    Sql.Fragment true s.sql (List.range' 1 s.params.length) := by
  rw [compiles.eq_map] at compiled
  obtain ⟨T, templated, rfl⟩ := map_eq_ok_iff.1 compiled
  exact compiles.sound templated 1

end Compiles

def Statement.IsCompiled (config : Config) (s : Statement) : Prop :=
  ∃ template, Compiles config (.ok s) template

theorem Compiles.isCompiled {made : Except Invalid Statement} {template : Except Invalid Template}
    {s : Statement} (compiles : Compiles config made template) (compiled : made = .ok s) :
    s.IsCompiled config :=
  ⟨template, compiled ▸ compiles⟩

theorem Query.isList_of_plainList {q : Query} {list : Option Text}
    (listed : q.plainList = .ok list) : IsList list := by
  unfold plainList at listed
  split at listed
  · obtain ⟨p, made, rfl⟩ := map_eq_ok_iff.1 listed
    exact .made made
  · cases listed
    split
    · exact .none
    · exact .star

theorem Query.isCompiled_toSql {q : Query} {s : Statement}
    (compiled : q.toSql config.searchConfig = .ok s) : s.IsCompiled config := by
  unfold toSql at compiled
  split at compiled
  · cases compiled
  · split at compiled
    · next written =>
      cases compiled
      obtain ⟨list, listed, main⟩ := bind_eq_ok_iff.1 written
      exact (Compiles.main q (isList_of_plainList listed)).isCompiled main
    · cases compiled

/-! Requests -/

/-- The request of such a statement, or of the foreign keys. -/
def Request.Asks (sent : Statement → Prop) : Request → Prop
  | .query _ s | .execute _ s => sent s
  | .batch _ => False
  | .graph => True

theorem Request.Asks.imp {sent weaker : Statement → Prop} (implies : ∀ s, sent s → weaker s)
    {r : Request} (asks : r.Asks sent) : r.Asks weaker := by
  cases r with
  | query kind s => exact implies s asks
  | execute kind s => exact implies s asks
  | batch sql => exact asks
  | graph => trivial

def Request.IsCompiled (config : Config) : Request → Prop :=
  Asks (Statement.IsCompiled config)

theorem Attempt.within_query {kind : StatementKind} {s : Statement}
    (compiled : s.IsCompiled config) : (query kind s).run.Within (Request.IsCompiled config) :=
  ⟨compiled, fun _ => trivial⟩

namespace Relation

/-- Every lookup in the tree is made for its link. -/
inductive Made (config : Config) : Relation → Prop where
  | unresolved (r : Reference) : Made config (.unresolved r)
  | broken (link : Link) (notices : List Event) (cause : Invalid) :
      Made config (.broken link notices cause)
  | ready {terms : List OrderTerm} {link : Link} {body : Selection} {required : List Text}
      {lookup : Lookup} {p : Projection} {notices : List Event} {nested : List Relation}
      (makes : Lookup.make config terms link body required = .ok (lookup, p))
      (each : ∀ r ∈ nested, Made config r) : Made config (.ready link notices lookup nested)

theorem made_build (g : Graph) (config : Config) (terms : List OrderTerm) (source : Text)
    (keyOf : Text → Text) (r : Reference) : Made config (build g config terms source keyOf r) := by
  fun_induction build g config terms source keyOf r with
  | case1 => exact .unresolved _
  | case2 => exact .broken _ _ _
  | case3 source keyOf r plan found link body reports lookup p makes ih =>
    refine .ready makes fun nested member => ?_
    obtain ⟨⟨s, among⟩, -, rfl⟩ := List.mem_map.1 member
    exact ih s among

theorem within_related_made {terms : List OrderTerm} {link : Link} {body : Selection}
    {required : List Text} {l : Lookup} {p : Projection}
    (makes : Lookup.make config terms link body required = .ok (l, p)) (parts : List (List Json)) :
    (related l parts).run.Within (Request.IsCompiled config) := by
  induction parts with
  | nil => trivial
  | cons keys rest ih =>
    rw [related]
    refine Attempt.within_run_bind (Attempt.within_query ⟨_, .lookup makes keys⟩) fun rows => ?_
    exact Attempt.within_run_bind ih fun _ => trivial

theorem within_values_made {r : Relation} (made : r.Made config) (parents : List Row) :
    (values r parents).Within (Request.IsCompiled config) := by
  induction made generalizing parents with
  | unresolved r => trivial
  | broken link notices cause =>
    rw [values]
    split
    · trivial
    · exact Job.within_bind (Job.within_reportAll _) fun _ => trivial
  | ready makes each ih =>
    rw [values]
    split
    · trivial
    · refine Job.within_bind (Job.within_reportAll _) fun _ =>
        Job.within_bind (within_related_made makes _) fun found => ?_
      cases found with
      | error e => trivial
      | ok rows =>
        refine Job.within_bind (Job.within_chain _ fun t member => ?_) fun _ => ?_
        · rw [jobs_eq_map] at member
          obtain ⟨r, among, rfl⟩ := List.mem_map.1 member
          exact ih r among rows
        · split <;> trivial

theorem within_resolve_made {relations : List Relation} (each : ∀ r ∈ relations, r.Made config)
    (stripped : List Text) (parents : List Row) :
    (resolve relations stripped parents).Within (Request.IsCompiled config) := by
  refine Job.within_bind (Job.within_chain _ fun t member => ?_) fun _ => trivial
  rw [jobs_eq_map] at member
  obtain ⟨r, among, rfl⟩ := List.mem_map.1 member
  exact within_values_made (each r among) parents

end Relation

/-! Runs -/

namespace Query

variable (config) (q : Query)

theorem within_countExactly : (q.countExactly config).run.Within (Request.IsCompiled config) :=
  Attempt.within_run_valid_bind fun _ compiled =>
    Attempt.within_run_bind (Attempt.within_query ((Compiles.count q).isCompiled compiled)) fun _ =>
      within_ofExcept _

theorem within_estimate : (q.estimate config).run.Within (Request.IsCompiled config) :=
  Attempt.within_run_valid_bind fun _ compiled =>
    Attempt.within_run_bind (Attempt.within_query ((Compiles.plan q).isCompiled compiled)) fun _ =>
      within_ofExcept _

theorem within_counting (mode : CountMode) :
    (q.countRows config mode).run.Within (Request.IsCompiled config) := by
  cases mode with
  | exact => exact within_countExactly config q
  | planned => exact within_estimate config q
  | estimated =>
    refine Attempt.within_run_bind (within_estimate config q) fun n => ?_
    split
    · exact within_countExactly config q
    · trivial

theorem within_fetchAlong (s : Selection) (g : Graph) (source : Text) :
    (q.fetchAlong config s g source).run.Within (Request.IsCompiled config) := by
  refine Attempt.within_run_bind (Job.within_bind (Job.within_reportAll _) fun _ => trivial)
    fun _ => ?_
  refine Attempt.within_run_valid_bind fun p made => ?_
  refine Attempt.within_run_valid_bind fun main compiled => ?_
  have asked := (Compiles.main q (.made made)).isCompiled compiled
  refine Attempt.within_run_bind (Attempt.within_query asked) fun rows => ?_
  refine Job.within_bind (Relation.within_resolve_made (fun r member => ?_) _ _) fun _ => trivial
  obtain ⟨reference, -, rfl⟩ := List.mem_map.1 member
  exact Relation.made_build ..

theorem within_fetch (columns : Text) :
    (q.fetch config columns).run.Within (Request.IsCompiled config) := by
  simp only [fetch]
  split
  · exact within_fetchAlong config q _ _ _
  · refine Attempt.within_run_bind ⟨trivial, fun _ => trivial⟩ fun g => ?_
    exact Attempt.within_run_valid_bind fun source _ => within_fetchAlong config q _ _ _

theorem within_attempt : (q.attempt config).run.Within (Request.IsCompiled config) := by
  unfold attempt
  split
  · trivial
  · split
    · unfold runMutation
      split
      · trivial
      · split
        · exact Attempt.within_run_bind (within_fetch config q _) fun _ => trivial
        · refine Attempt.within_run_valid_bind fun s compiled => ?_
          have asked := (Compiles.main q .none).isCompiled compiled
          exact Attempt.within_run_bind ⟨asked, fun _ => trivial⟩ fun _ => trivial
    · refine Attempt.within_run_bind ?_ fun count => ?_
      · cases q.count with
        | none => trivial
        | some mode =>
          exact Attempt.within_run_bind (within_counting config q mode) fun _ => trivial
      · split
        · trivial
        · exact Attempt.within_run_bind (within_fetch config q _) fun _ => trivial

/-- A query asks for compiled statements and for the foreign keys, and for nothing else. -/
theorem within_perform : (q.perform config).Within (Request.IsCompiled config) :=
  Job.within_bind (Job.within_reportAll _) fun _ => within_attempt config q

end Query

theorem Routine.within_call (config : Config) (name : Text) (a : Argument) :
    (call name a).Within (Request.IsCompiled config) := by
  refine Job.within_bind ?_ fun
    | .ok _ => trivial
    | .error _ => trivial
  cases a with
  | failing message => trivial
  | value v =>
    change (Attempt.valid (arguments v) >>= _).run.Within (Request.IsCompiled config)
    refine Attempt.within_run_valid_bind fun members _ => ?_
    refine Attempt.within_run_valid_bind fun s compiled => ?_
    have asked : s.IsCompiled config := (Compiles.routine name members).isCompiled compiled
    exact Attempt.within_run_bind (Attempt.within_query asked) fun _ => trivial

end FluentQuery

import FluentQuery.Proofs.GraphCache.Callers

/-! The graph that is kept is current. It comes from a load that succeeded and that began after the
last invalidation; a load that fails, loses its leader or is overtaken by an invalidation keeps
nothing. -/
namespace FluentQuery.GraphCache

variable {r s t : Scene} {i : Nat} {ticket : Ticket} {front back moves since : List Move} {m : Move}

/-- A leader led before, or has just begun. -/
theorem Step.led_cases (step : Step s m t) (leads : t.callers i = .leading ticket) :
    s.callers i = .leading ticket ∨ m.begins? = some (i, ticket) := by
  have entered {entry : Entry} (leads : entry.caller = .leading ticket) :
      entry = .lead ticket := by
    cases entry <;> cases leads
    rfl
  by_cases own : m.caller? = some i
  · cases step with
    | call idle enters | retry waits gone enters =>
      cases own
      have begins := entered ((Function.update_self ..).symm.trans leads)
      exact .inr (by rw [begins, Move.begins?])
    | invalidate => cases own
    | share | finish | leave | abandon =>
      cases own
      cases (Function.update_self ..).symm.trans leads
  · exact .inl ((step.callers_of_ne own).symm.trans leads)

theorem Run.began_of_leading (run : Run r moves s) (leads : s.callers i = .leading ticket) :
    r.callers i = .leading ticket ∨ ∃ since, Began moves i ticket since := by
  induction run with
  | refl => exact .inl leads
  | @step moves s t m run step ih =>
    obtain before | begins := step.led_cases leads
    · exact (ih before).imp_right fun ⟨since, began⟩ => ⟨_, began.append [m]⟩
    · exact .inr ⟨[], moves, m, rfl, begins⟩

/-- A load is of the present generation just when no invalidation came since it began. -/
theorem Run.generation_iff (run : Run r moves s) (began : Began moves i ticket since) :
    ticket.generation ≤ s.graphs.generation ∧
      (ticket.generation = s.graphs.generation ↔ .invalidate ∉ since) := by
  induction run generalizing since with
  | refl =>
    obtain ⟨front, m, whole, -⟩ := began
    simp at whole
  | @step moves s t m run step ih =>
    obtain ⟨rfl, begins⟩ | ⟨earlier, rfl, before⟩ := began.snoc_cases
    · obtain ⟨-, -, generation, -⟩ := step.begins begins
      have other : m ≠ .invalidate := by
        rintro rfl
        cases begins
      rw [step.generation_of_ne other, generation]
      simp
    · obtain ⟨bound, present⟩ := ih before
      by_cases forgets : m = .invalidate
      · subst forgets
        cases step
        refine ⟨Nat.le_succ_of_le bound, fun same => ?_, fun never => ?_⟩
        · exact absurd (same ▸ bound) (Nat.not_succ_le_self _)
        · simp at never
      · rw [step.generation_of_ne forgets, present]
        exact ⟨bound, by simp [Ne.symm forgets]⟩

theorem Step.dropped_stays (step : Step s m t) (dropped : s.callers i = .dropped) :
    t.callers i = .dropped := by
  by_cases own : m.caller? = some i
  · cases step with
    | call before _ | retry before _ _ | share before _ | finish before _ =>
      cases own
      cases before.symm.trans dropped
    | leave | abandon =>
      cases own
      exact Function.update_self ..
    | invalidate => cases own
  · exact (step.callers_of_ne own).trans dropped

theorem Run.dropped_of_mem (run : Run r moves s) (member : .drop i ∈ moves) :
    s.callers i = .dropped := by
  induction run with
  | refl => cases member
  | step run step ih =>
    obtain before | now := List.mem_append.1 member
    · exact step.dropped_stays (ih before)
    · obtain rfl := List.mem_singleton.1 now
      cases step <;> exact Function.update_self ..

/-- What is kept was loaded since the last invalidation. -/
theorem Run.kept (run : Run .start moves s) {graph : Graph}
    (cached : s.graphs.cached = some graph) :
    ∃ i ticket since later, Began moves i ticket (since ++ .finish i ticket (.ok graph) :: later) ∧
      .invalidate ∉ since ∧ .invalidate ∉ later := by
  induction run with
  | refl => cases cached
  | @step moves s t m run step ih =>
    obtain same | ⟨-, none⟩ | ⟨i, ticket, kept, rfl, leads, present, some⟩ := step.cached_cases
    · obtain ⟨i, ticket, since, later, began, first, last⟩ := ih (same ▸ cached)
      have other : m ≠ .invalidate := by
        rintro rfl
        cases step
        cases cached
      refine ⟨i, ticket, since, later ++ [m], by simpa using began.append [m], first, ?_⟩
      simpa [last] using Ne.symm other
    · cases none.symm.trans cached
    · cases some.symm.trans cached
      obtain idle | ⟨since, began⟩ := run.began_of_leading leads
      · cases idle
      · exact ⟨i, ticket, since, [], began.append _, (run.generation_iff began).2.1 present,
          List.not_mem_nil⟩

/-- What began before an invalidation has it among the moves that followed. -/
theorem Began.after (began : Began (front ++ .invalidate :: back) i ticket since)
    (never : .invalidate ∉ since) : Began back i ticket since := by
  obtain ⟨earlier, rfl, -⟩ | later := began.append_cases
  · simp at never
  · exact later.tail rfl

/-- The graph that is kept comes from a load that succeeded and began after the last invalidation;
only such a load, still led, and invalidations ever change it; and after an invalidation none is
kept until a load that began since has succeeded. -/
theorem kept_graph_current (run : Run .start moves s) :
    (∀ graph, s.graphs.cached = some graph → ∃ i ticket since later,
      Began moves i ticket (since ++ .finish i ticket (.ok graph) :: later) ∧
        .invalidate ∉ since ∧ .invalidate ∉ later) ∧
    (∀ m t, Step s m t → t.graphs.cached = s.graphs.cached ∨
      m = .invalidate ∧ t.graphs.cached = none ∨
      ∃ i ticket graph, m = .finish i ticket (.ok graph) ∧ t.graphs.cached = some graph ∧
        (∃ since, Began moves i ticket since) ∧
        ∀ since, Began moves i ticket since → .drop i ∉ since ∧ .invalidate ∉ since) ∧
    ∀ front back graph, moves = front ++ .invalidate :: back → s.graphs.cached = some graph →
      ∃ i ticket since later,
        Began back i ticket (since ++ .finish i ticket (.ok graph) :: later) := by
  refine ⟨fun graph => run.kept, fun m t step => ?_, ?_⟩
  · obtain same | forgot | ⟨i, ticket, graph, rfl, leads, present, kept⟩ := step.cached_cases
    · exact .inl same
    · exact .inr (.inl forgot)
    · refine .inr (.inr ⟨i, ticket, graph, rfl, kept, ?_, ?_⟩)
      · exact (run.began_of_leading leads).resolve_left fun idle => nomatch idle
      · refine fun since began => ⟨fun dropped => ?_, (run.generation_iff began).2.1 present⟩
        obtain ⟨front, m, rfl, -⟩ := began
        rw [run.dropped_of_mem (by simp [dropped])] at leads
        cases leads
  · rintro front back graph rfl cached
    obtain ⟨i, ticket, since, later, began, first, last⟩ := run.kept cached
    exact ⟨i, ticket, since, later, began.after (by simp [first, last])⟩

def authors : Graph :=
  [⟨"posts_author_fkey", "posts", "author", "profiles", "id"⟩]

/-- A load is overtaken by an invalidation, and the next one is kept. -/
def overtaken : List Move :=
  [.call 0 (.lead ⟨0, 0⟩), .invalidate, .finish 0 ⟨0, 0⟩ (.ok []), .call 1 (.lead ⟨1, 1⟩),
    .finish 1 ⟨1, 1⟩ (.ok authors)]

theorem overtaken_not_kept :
    ∃ s, Run .start overtaken s ∧ s.graphs.cached = some authors ∧
      ∃ i ticket since later, Began (overtaken.drop 2) i ticket
        (since ++ .finish i ticket (.ok authors) :: later) := by
  have led := Run.refl.step (.call rfl rfl : Step .start (.call 0 (.lead ⟨0, 0⟩)) _)
  have forgot := led.step .invalidate
  have stale := forgot.step (.finish rfl (.ok []) : Step _ (.finish 0 ⟨0, 0⟩ _) _)
  have again := stale.step (.call rfl rfl : Step _ (.call 1 (.lead ⟨1, 1⟩)) _)
  have run := again.step (.finish rfl (.ok authors) : Step _ (.finish 1 ⟨1, 1⟩ _) _)
  obtain ⟨-, -, since⟩ := kept_graph_current run
  exact ⟨_, run, rfl, since (overtaken.take 1) (overtaken.drop 2) authors rfl rfl⟩

end FluentQuery.GraphCache

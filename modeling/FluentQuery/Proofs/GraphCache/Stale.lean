import FluentQuery.Proofs.GraphCache.Kept

/-! What a caller gets that enters after an invalidation. A load of an older generation is never
kept, but it stays in flight, so a caller that enters before it ends joins it and gets its graph.
That is the only way to a stale graph. -/
namespace FluentQuery.GraphCache

variable {s t q : Scene} {i j id : Nat} {ticket : Ticket} {graph : Graph} {entry : Entry}
  {front early since moves : List Move} {m : Move}

/-- A caller has the graph, or will have it as soon as it wakes. -/
def Caller.Has (graphs : GraphCache) (graph : Graph) : Caller → Prop
  | .waiting channel => graphs.outcome? channel = some (.ok graph)
  | .returned result => result = .ok graph
  | .idle | .leading _ | .dropped => False

theorem Step.outcome_cases (step : Step s m t) {outcome : Except Text Graph}
    (there : t.graphs.outcome? id = some outcome) :
    s.graphs.outcome? id = some outcome ∨
      ∃ i ticket, m = .finish i ticket outcome ∧ s.callers i = .leading ticket := by
  have entered {graphs : GraphCache} {entry : Entry} (enters : s.graphs.enter = (graphs, entry))
      (there : graphs.outcome? id = some outcome) : s.graphs.outcome? id = some outcome := by
    obtain ⟨_, -, rfl, -⟩ | ⟨_, -, -, -, rfl, -⟩ | ⟨-, -, rfl, -⟩ := enter_cases enters
    · exact there
    · exact there
    · rw [outcome?_eq_some_iff, List.getElem?_append] at there
      rw [outcome?_eq_some_iff]
      split at there
      · exact there
      · rw [List.getElem?_singleton] at there
        split at there <;> cases there
  cases step with
  | call idle enters => exact .inl (entered enters there)
  | retry waits gone enters => exact .inl (entered enters there)
  | @finish i ticket leads result =>
    obtain before | now := outcome?_of_set rfl there
    · exact .inl before
    · cases now
      exact .inr ⟨i, ticket, rfl, leads⟩
  | abandon leads => exact .inl ((outcome?_of_set rfl there).resolve_right nofun)
  | share | leave | invalidate => exact .inl there

/-- A caller has had its graph before, takes the one that is kept, or gets one from a load that
ends. -/
theorem Step.has_cases (step : Step s m t) (has : (t.callers j).Has t.graphs graph) :
    (s.callers j).Has s.graphs graph ∨ s.graphs.cached = some graph ∨
      ∃ i ticket, m = .finish i ticket (.ok graph) ∧ s.callers i = .leading ticket := by
  have entered {graphs : GraphCache} {entry : Entry} (enters : s.graphs.enter = (graphs, entry))
      (has : entry.caller.Has graphs graph) : s.graphs.cached = some graph := by
    obtain ⟨kept, cached, -, rfl⟩ | ⟨id, -, -, running, rfl, rfl⟩ | ⟨-, -, -, rfl⟩ :=
      enter_cases enters
    · cases has
      exact cached
    · cases (isRunning_iff.1 running).symm.trans (outcome?_eq_some_iff.1 has)
    · cases has
  by_cases own : m.caller? = some j
  · cases step with
    | call idle enters | retry waits gone enters =>
      cases own
      simp only [Function.update_self] at has
      exact .inr (.inl (entered enters has))
    | share waits there =>
      cases own
      simp only [Function.update_self] at has
      cases has
      exact .inl (by rwa [waits])
    | finish leads outcome =>
      cases own
      simp only [Function.update_self] at has
      cases has
      exact .inr (.inr ⟨j, _, rfl, leads⟩)
    | leave | abandon =>
      cases own
      simp only [Function.update_self] at has
      cases has
    | invalidate => cases own
  · rw [step.callers_of_ne own] at has
    cases stands : s.callers j with
    | waiting channel =>
      rw [stands] at has
      obtain before | loaded := step.outcome_cases has
      · exact .inl before
      · exact .inr (.inr loaded)
    | returned result =>
      rw [stands] at has
      exact .inl has
    | idle | leading | dropped =>
      rw [stands] at has
      cases has

/-- Among the moves a load began, and gave the graph. -/
def Loaded (moves : List Move) (graph : Graph) : Prop :=
  ∃ i ticket since, Began moves i ticket since ∧ .finish i ticket (.ok graph) ∈ since

/-- A load that had begun before, and was led in that scene, gave the graph. -/
def Outlasted (front : List Move) (q : Scene) (moves : List Move) (graph : Graph) : Prop :=
  ∃ i ticket earlier, Began front i ticket earlier ∧ q.callers i = .leading ticket ∧
    .finish i ticket (.ok graph) ∈ moves

theorem Loaded.append (loaded : Loaded front graph) (back : List Move) :
    Loaded (front ++ back) graph := by
  obtain ⟨i, ticket, since, began, member⟩ := loaded
  exact ⟨i, ticket, _, began.append back, List.mem_append_left _ member⟩

theorem Outlasted.append (outlasted : Outlasted front q moves graph) (back : List Move) :
    Outlasted front q (moves ++ back) graph := by
  obtain ⟨i, ticket, earlier, began, leads, member⟩ := outlasted
  exact ⟨i, ticket, earlier, began, leads, List.mem_append_left _ member⟩

/-- Where the graph of a load comes from that ends now. -/
theorem Run.source_of_finish (before : Run .start (front ++ .invalidate :: early) q)
    (run : Run q moves s) (leads : s.callers i = .leading ticket) :
    Loaded (early ++ (moves ++ [.finish i ticket (.ok graph)])) graph ∨
      Outlasted front q (moves ++ [.finish i ticket (.ok graph)]) graph := by
  obtain already | ⟨since, began⟩ := run.began_of_leading leads
  · -- The load was led when the caller entered: the invalidation may have come in between.
    obtain ⟨since, began⟩ := (before.began_of_leading already).resolve_left fun h => nomatch h
    obtain ⟨earlier, -, older⟩ | later := began.append_cases
    · exact .inr ⟨i, ticket, earlier, older, already, by simp⟩
    · exact .inl ⟨i, ticket, _, (later.tail rfl).append _, by simp⟩
  · exact .inl ⟨i, ticket, _, (began.append _).prepend early, by simp⟩

theorem Run.source_of_has (before : Run .start (front ++ .invalidate :: early) q)
    (idle : q.callers j = .idle) (run : Run q moves s) (has : (s.callers j).Has s.graphs graph) :
    Loaded (early ++ moves) graph ∨ Outlasted front q moves graph := by
  induction run with
  | refl =>
    rw [idle] at has
    cases has
  | @step moves s t m run step ih =>
    obtain already | cached | ⟨i, ticket, rfl, leads⟩ := step.has_cases has
    · rw [← List.append_assoc]
      exact (ih already).imp (·.append [m]) (·.append [m])
    · -- What is kept is never of an older generation, so this way leads to a fresh graph only.
      obtain ⟨i, ticket, since, later, began, first, last⟩ := (before.trans run).kept cached
      rw [List.append_assoc, List.cons_append] at began
      have fresh : Loaded (early ++ moves) graph :=
        ⟨i, ticket, _, began.after (by simp [first, last]), by simp⟩
      rw [← List.append_assoc]
      exact .inl (fresh.append [m])
    · exact before.source_of_finish run leads

/-- A caller that enters after an invalidation gets a graph that was loaded since, or that of a
load which had begun before the invalidation and was still led when the caller entered. -/
theorem graph_after_invalidate
    (run : Run .start (front ++ .invalidate :: early ++ .call j entry :: since) s)
    (returned : s.callers j = .returned (.ok graph)) :
    Loaded (early ++ .call j entry :: since) graph ∨
      ∃ q, Run .start (front ++ .invalidate :: early) q ∧ Outlasted front q since graph := by
  obtain ⟨q, before, after⟩ := run.split
  obtain ⟨_, called, -⟩ := after.head
  have idle : q.callers j = .idle := by
    cases called
    assumption
  obtain fresh | ⟨i, ticket, earlier, began, leads, member⟩ :=
    before.source_of_has idle after (by rw [returned]; rfl)
  · exact .inl fresh
  · refine .inr ⟨q, before, i, ticket, earlier, began, leads, ?_⟩
    simpa using member

/-- A caller enters after an invalidation and joins a load from before it. -/
def lateJoin : List Move :=
  [.call 0 (.lead ⟨0, 0⟩), .invalidate, .call 1 (.wait 0), .finish 0 ⟨0, 0⟩ (.ok authors),
    .share 1 0 (.ok authors)]

theorem lateJoin_stale :
    ∃ s q, Run .start lateJoin s ∧ s.callers 1 = .returned (.ok authors) ∧
      ¬ Loaded (lateJoin.drop 2) authors ∧
      Run .start (lateJoin.take 2) q ∧ Outlasted (lateJoin.take 1) q (lateJoin.drop 3) authors := by
  have led := Run.refl.step (.call rfl rfl : Step .start (.call 0 (.lead ⟨0, 0⟩)) _)
  have forgot := led.step .invalidate
  have joined := forgot.step (.call rfl rfl : Step _ (.call 1 (.wait 0)) _)
  have loaded := joined.step (.finish rfl (.ok authors) : Step _ (.finish 0 ⟨0, 0⟩ _) _)
  have run := loaded.step (.share rfl rfl : Step _ (.share 1 0 (.ok authors)) _)
  have none : ¬ Loaded (lateJoin.drop 2) authors := by
    rintro ⟨i, ticket, since, began, -⟩
    have began := (began.tail rfl).tail rfl
    cases began.singleton.2
  obtain stale | ⟨q, before, outlasted⟩ :=
    @graph_after_invalidate _ 1 authors _ (lateJoin.take 1) [] (lateJoin.drop 3) run rfl
  · exact absurd stale none
  · exact ⟨_, q, run, rfl, none, before, outlasted⟩

end FluentQuery.GraphCache

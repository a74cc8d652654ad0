import FluentQuery.Proofs.Job.Trace
import FluentQuery.Proofs.Relation.MatchKey

/-! How many rows references leave. Whatever is answered to what they ask, attaching values neither
adds nor loses a row: rows go only at the end, where a required reference has found nothing for
them. -/
namespace FluentQuery

/-- The jobs of a list have run, each to its value. -/
theorem Job.forall₂_of_trace_all {α : Type} {jobs : List (Job α)} {trace : List Exchange}
    {values : List α} (goes : (Job.all jobs).Trace trace values) :
    List.Forall₂ (fun job value => ∃ asked, job.Trace asked value) jobs values := by
  rw [Job.all] at goes
  generalize (if jobs.length ≤ mostListed then Order.listed else .waited) = order at goes
  induction jobs generalizing trace values with
  | nil =>
    obtain ⟨-, rfl⟩ := goes
    exact .nil
  | cons job rest ih =>
    obtain ⟨l, value, m, others, n, _, first, later, -, -, -, rfl⟩ := goes
    exact .cons ⟨l, first⟩ (ih later)

namespace Relation

variable {relations : List Relation} {stripped : List Text} {rows parents : List Row}
  {given : List (Option (List Json))} {trace : List Exchange}

/-! Values for all parents -/

/-- If a relation gives values, it gives one to each parent. -/
theorem length_of_trace_values {r : Relation} {all : List Json}
    (goes : (values r parents).Trace trace (some all)) : all.length = parents.length := by
  cases r with
  | unresolved r => cases goes.2
  | broken link notices cause =>
    rw [values] at goes
    split at goes
    · rw [Option.some.inj goes.2, List.length_map]
    · rw [Job.trace_reportAll_bind, Job.trace_report_bind] at goes
      cases goes.2
  | ready link notices l nested =>
    rw [values] at goes
    split at goes
    · rw [Option.some.inj goes.2, List.length_map]
    · rw [Job.trace_reportAll_bind, Job.trace_bind] at goes
      obtain ⟨_, found, _, -, rfl, goes⟩ := goes
      cases found with
      | error e =>
        rw [Job.trace_report_bind] at goes
        cases goes.2
      | ok rows =>
        obtain ⟨_, inner, _, -, rfl, ends⟩ := Job.trace_bind.1 goes
        split at ends
        · cases ends.2
        · rw [Option.some.inj ends.2, valuesFor, List.length_map]

/-- Each of the values is none, or one for each row. -/
def Complete (rows : List Row) (given : List (Option (List Json))) : Prop :=
  ∀ all, some all ∈ given → all.length = rows.length

theorem complete_of_trace (goes : (Job.all (jobs relations rows)).Trace trace given) :
    Complete rows given := by
  intro all member
  have run := Job.forall₂_of_trace_all goes
  rw [jobs_eq_map, List.forall₂_map_left_iff] at run
  clear goes
  induction run with
  | nil => cases member
  | cons first _ ih =>
    obtain rfl | later := List.mem_cons.1 member
    · obtain ⟨asked, ends⟩ := first
      exact length_of_trace_values ends
    · exact ih later

/-! Dropped rows -/

/-- The rows with the values of all references, before any of them is dropped. -/
def attached (relations : List Relation) (stripped : List Text) (rows : List Row)
    (given : List (Option (List Json))) : List Row :=
  (List.zipWith (fun r values => r.attachment rows values) relations given).foldl
    (fun rows a => a.attach rows) (rows.map (strip stripped))

/-- Nothing stands in the row where a required reference has looked for something. -/
def isDropped (relations : List Relation) (given : List (Option (List Json))) (row : Row) : Bool :=
  (relations.zip given).any fun (r, values) =>
    r.reference.inner && values.isSome && !isPresent (Row.get? r.reference.label row)

/-- How many rows go for a required reference. -/
def dropped (relations : List Relation) (stripped : List Text) (rows : List Row)
    (given : List (Option (List Json))) : Nat :=
  (attached relations stripped rows given).countP (isDropped relations given)

theorem length_foldl_attach {attachments : List Attachment}
    (each : ∀ a ∈ attachments, a.values.length = rows.length) :
    (attachments.foldl (fun rows a => a.attach rows) rows).length = rows.length := by
  induction attachments generalizing rows with
  | nil => rfl
  | cons a rest ih =>
    rw [List.forall_mem_cons] at each
    have kept : (a.attach rows).length = rows.length := by
      rw [Attachment.attach, List.length_zipWith, each.1, Nat.min_self]
    rw [List.foldl_cons, ih (kept.symm ▸ each.2), kept]

theorem finish_eq_filter : finish relations stripped rows given =
    (attached relations stripped rows given).filter fun row => !isDropped relations given row := by
  rw [finish, attachAll, ← attached]
  refine List.filter_congr fun row _ => ?_
  rw [isDropped, List.not_any_eq_all_not, List.all_map, List.all_filter,
    ← List.map_uncurry_zip_eq_zipWith, List.all_map]
  congr 1
  funext pair
  obtain ⟨r, values⟩ := pair
  cases values <;> simp [attachment]

/-- No row is lost while values are attached, as each reference has one for each row. -/
theorem length_attached (complete : Complete rows given) :
    (attached relations stripped rows given).length = rows.length := by
  refine (length_foldl_attach fun a member => ?_).trans (List.length_map _)
  rw [← List.map_uncurry_zip_eq_zipWith, List.mem_map] at member
  obtain ⟨⟨r, values⟩, paired, rfl⟩ := member
  rw [List.length_map]
  cases values with
  | none => exact List.length_map _
  | some all => exact complete all (List.of_mem_zip paired).2

theorem length_finish (complete : Complete rows given) :
    (finish relations stripped rows given).length + dropped relations stripped rows given =
      rows.length := by
  have same : (attached relations stripped rows given).length = rows.length :=
    length_attached complete
  rw [← same, dropped, finish_eq_filter, ← List.countP_eq_length_filter,
    List.length_eq_countP_add_countP (isDropped relations given), Nat.add_comm]
  simp

/-- References of which none is required drop no row. -/
theorem dropped_of_optional (optional : ∀ r ∈ relations, r.reference.inner = false) :
    dropped relations stripped rows given = 0 := by
  refine List.countP_eq_zero.2 fun row _ => ?_
  rw [isDropped, Bool.not_eq_true, List.any_eq_false]
  rintro ⟨r, values⟩ paired
  simp [optional r (List.of_mem_zip paired).1]

end Relation

end FluentQuery

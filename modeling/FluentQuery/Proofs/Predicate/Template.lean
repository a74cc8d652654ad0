import FluentQuery.Proofs.Projection
import FluentQuery.Proofs.Sql.Template

/-! The template of a predicate: its SQL with the values in place. What is built with a list of
parameters is this template, numbered from where the list stands. A tree renders to nothing just
when it is empty, and then it takes no parameter. -/
namespace FluentQuery.Predicate

/-- Induction over a tree; in a group it is known of every part. -/
@[elab_as_elim]
theorem induct {motive : Predicate → Prop}
    (all : ∀ parts, (∀ p ∈ parts, motive p) → motive (.all parts))
    (any : ∀ parts, (∀ p ∈ parts, motive p) → motive (.any parts))
    (not : ∀ inner, motive inner → motive (.not inner))
    (compare : ∀ column symbol value cast, motive (.compare column symbol value cast))
    (state : ∀ column keyword negated, motive (.state column keyword negated))
    (among : ∀ column values negated, motive (.among column values negated))
    (search : ∀ column function config query, motive (.search column function config query))
    (always : motive .always) (never : motive .never) (p : Predicate) : motive p :=
  Predicate.rec (motive_1 := motive) (motive_2 := fun parts => ∀ p ∈ parts, motive p)
    all any not compare state among search always never (fun _ member => nomatch member)
    (fun _ _ first later => List.forall_mem_cons.2 ⟨first, later⟩) p

theorem areEmpty_iff {parts : List Predicate} :
    areEmpty parts = true ↔ ∀ p ∈ parts, p.isEmpty = true := by
  induction parts with
  | nil => simp [areEmpty]
  | cons p rest ih => simp [areEmpty, ih]

/-! Templates -/

mutual

def template : Predicate → Template
  | .all parts => Template.join " AND " (templates parts)
  | .any parts => Template.join " OR " (templates parts)
  | .not inner =>
    if inner.isEmpty then [] else .sql "NOT " :: inner.template.bracketed
  | .compare column symbol value cast =>
    [.sql (column ++ " " ++ symbol ++ " "), .value value,
      .sql (match cast with
        | some cast => "::" ++ cast
        | none => [])]
  | .state column keyword negated =>
    [.sql (column ++ (if negated then " IS NOT " else " IS ") ++ keyword)]
  | .among column values negated =>
    if values = [] then [.sql (if negated then "TRUE" else "FALSE")]
    else .sql (column ++ (if negated then " NOT IN " else " IN ")) ::
      (Template.join ", " (values.map fun v => [.value v])).bracketed
  | .search column function config query =>
    .sql (column ++ " @@ " ++ function) ::
      Template.bracketed [.value (.str config), .sql "::regconfig, ", .value query]
  | .always => [.sql "TRUE"]
  | .never => [.sql "FALSE"]

/-- The templates of the parts that are not empty, groups in brackets. -/
def templates : List Predicate → List Template
  | [] => []
  | p :: rest =>
    if p.isEmpty then templates rest
    else (if p.isGroup then p.template.bracketed else p.template) :: templates rest

end

/-- The template of a part of a group. -/
def operand (p : Predicate) : Template :=
  if p.isGroup then p.template.bracketed else p.template

theorem templates_eq (parts : List Predicate) :
    templates parts = (parts.filter fun p => !p.isEmpty).map operand := by
  induction parts with
  | nil => rfl
  | cons p rest ih =>
    rw [templates, ih]
    by_cases empty : p.isEmpty = true
    · simp [empty]
    · simp [empty, operand]

theorem templates_eq_nil_iff {parts : List Predicate} :
    templates parts = [] ↔ areEmpty parts = true := by
  rw [templates_eq, List.map_eq_nil_iff, List.filter_eq_nil_iff, areEmpty_iff]
  simp

/-- An empty tree asks for nothing. -/
theorem template_of_isEmpty {p : Predicate} (empty : p.isEmpty = true) : p.template = [] := by
  cases p with
  | all parts => rw [template, templates_eq_nil_iff.2 empty, Template.join]
  | any parts => rw [template, templates_eq_nil_iff.2 empty, Template.join]
  | not inner => rw [template, if_pos (by simpa [isEmpty] using empty)]
  | _ => cases empty

theorem text_operand_ne_nil {p : Predicate} {n : Nat} (filled : p.template.text n ≠ []) :
    p.operand.text n ≠ [] := by
  unfold operand
  split
  · simp [bracketed]
  · exact filled

/-- The parts that are left all render to something, if only empty trees render to nothing. -/
theorem texts_templates_ne_nil {parts : List Predicate} {n : Nat}
    (each : ∀ p ∈ parts, ∀ n, p.template.text n = [] → p.isEmpty = true) :
    ∀ t ∈ Template.texts n (templates parts), t ≠ [] := by
  intro t member
  obtain ⟨T, among, m, rfl⟩ := Template.exists_of_mem_texts n member
  rw [templates_eq] at among
  obtain ⟨p, kept, rfl⟩ := List.mem_map.1 among
  obtain ⟨part, filled⟩ := List.mem_filter.1 kept
  exact text_operand_ne_nil fun none => by simp [each p part m none] at filled

/-- Only an empty tree renders to nothing. -/
theorem text_template_eq_nil_iff {p : Predicate} {n : Nat} :
    p.template.text n = [] ↔ p.isEmpty = true := by
  refine ⟨?_, fun empty => by rw [template_of_isEmpty empty, Template.text_nil]⟩
  have group {sep : Text} {parts : List Predicate} {n : Nat}
      (each : ∀ p ∈ parts, ∀ n, p.template.text n = [] → p.isEmpty = true)
      (none : (Template.join sep (templates parts)).text n = []) : areEmpty parts = true := by
    rwa [Template.text_join, Text.join_eq_nil_iff (texts_templates_ne_nil each),
      Template.texts_eq_nil_iff, templates_eq_nil_iff] at none
  induction p using induct generalizing n with
  | all parts ih =>
    intro none
    rw [template] at none
    exact group (fun p member n => ih p member) none
  | any parts ih =>
    intro none
    rw [template] at none
    exact group (fun p member n => ih p member) none
  | not inner ih =>
    intro none
    rw [template] at none
    split at none
    · next empty => simpa [isEmpty] using empty
    · simp at none
  | among column values negated =>
    intro none
    rw [template] at none
    split at none
    · split at none <;> simp at none
    · simp [bracketed] at none
  | compare => intro none; simp [template] at none
  | state column keyword negated => intro none; cases negated <;> simp [template] at none
  | search => intro none; simp [template] at none
  | always => intro none; simp [template] at none
  | never => intro none; simp [template] at none

/-- Each part that is not empty has its own text. -/
theorem forall₂_texts_templates {parts : List Predicate}
    (filled : ∀ p ∈ parts, p.isEmpty = false) (n : Nat) :
    List.Forall₂ (fun p t => t ≠ [] ∧ ∃ m, t = p.operand.text m) parts
      (Template.texts n (templates parts)) := by
  induction parts generalizing n with
  | nil => exact .nil
  | cons p rest ih =>
    obtain ⟨first, later⟩ := List.forall_mem_cons.1 filled
    rw [templates, if_neg (by simp [first])]
    refine .cons ⟨text_operand_ne_nil ?_, n, rfl⟩ (ih later _)
    rw [ne_eq, text_template_eq_nil_iff, first]
    decide

/-! Building -/

theorem placeholders_eq_fillAll (values : List Json) (params : Params) :
    placeholders values params = params.fillAll (values.map fun v => [.value v]) := by
  induction values generalizing params with
  | nil => rw [placeholders, List.map_nil, Params.fillAll_nil]
  | cons v rest ih =>
    rw [placeholders, ih, List.map_cons, Params.fillAll_cons]
    simp [Params.fill, Params.placeholder, Params.push_eq_pushAll]

theorem buildParts_eq_fillAll {parts : List Predicate}
    (each : ∀ p ∈ parts, ∀ params, p.build params = params.fill p.template) (params : Params) :
    buildParts parts params = params.fillAll (templates parts) := by
  induction parts generalizing params with
  | nil => rw [buildParts, templates, Params.fillAll_nil]
  | cons p rest ih =>
    obtain ⟨first, later⟩ := List.forall_mem_cons.1 each
    rw [buildParts, templates]
    split
    · exact ih later params
    · next filled =>
      have shown : (params.fill p.template).1 ≠ [] := fun none =>
        filled (text_template_eq_nil_iff.1 none)
      simp only [first params, ih later, if_neg shown, Params.fillAll_cons]
      split <;> simp [Params.fill]

/-- A predicate builds its template, numbered from where the parameters stand. -/
theorem build_eq_fill (p : Predicate) (params : Params) :
    p.build params = params.fill p.template := by
  induction p using induct generalizing params with
  | all parts ih => rw [build, template, Params.fill_join, buildParts_eq_fillAll ih]
  | any parts ih => rw [build, template, Params.fill_join, buildParts_eq_fillAll ih]
  | not inner ih =>
    rw [build, template, ih]
    by_cases empty : inner.isEmpty = true
    · simp [Params.fill, template_of_isEmpty empty, empty]
    · simp [Params.fill, text_template_eq_nil_iff, empty]
  | compare column symbol value cast =>
    cases cast <;> simp [build, template, Params.fill, Params.placeholder, Params.push_eq_pushAll]
  | state column keyword negated => simp [build, template, Params.fill]
  | among column values negated =>
    rw [build, template]
    split
    · simp [Params.fill]
    · simp [placeholders_eq_fillAll, Params.fill, Params.fillAll]
  | search column function config query =>
    simp [build, template, Params.fill, Params.placeholder, Params.push_eq_pushAll, bracketed]
  | always => simp [build, template, Params.fill]
  | never => simp [build, template, Params.fill]

/-- A predicate that is built apart, numbered to continue some parameters, has the same SQL, and
its parameters are then taken over. -/
theorem build_eq_extend (p : Predicate) (params : Params) :
    p.build params = ((p.build (.startingAt params.next)).1,
      params.extend (p.build (.startingAt params.next)).2) := by
  have continues : (Params.startingAt params.next).next = params.next := by
    rw [Params.next_startingAt]
    exact Nat.max_eq_left (Nat.le_add_left ..)
  rw [build_eq_fill, build_eq_fill, Params.fill, Params.fill, continues]
  rfl

theorem build_eq_nil_iff {p : Predicate} {params : Params} :
    (p.build params).1 = [] ↔ p.isEmpty = true := by
  rw [build_eq_fill]
  exact text_template_eq_nil_iff

theorem build_of_isEmpty {p : Predicate} (empty : p.isEmpty = true) (params : Params) :
    p.build params = ([], params) := by
  rw [build_eq_fill, template_of_isEmpty empty]
  simp [Params.fill]

end FluentQuery.Predicate

import FluentQuery.Proofs.Filter.Logic
import FluentQuery.Proofs.Text.Balanced
import FluentQuery.Proofs.Text.Blank

/-! Groups of the filter grammar and their brackets. An item is read as a group if it opens as one
and a bracket stands at its end; whether this is the bracket that closes the group is not asked.
It is just when the text between is balanced. As clauses such items are never accepted. -/
namespace FluentQuery.Logic

/-- A group as it is written. -/
def Group.text (g : Group) : Text :=
  (if g.negated then ("not." : Text) else []) ++ (if g.conjunctive then ("and" : Text) else "or") ++
    ('(' :: g.body ++ [')'])

/-- The bracket that opens the group is closed by its last character. -/
def Group.ClosedAtEnd (b : Text.Brackets) (g : Group) : Prop :=
  b.Balanced g.body

/-- The bracket that opens the group is closed by an earlier character. -/
def Group.ClosedEarly (b : Text.Brackets) (g : Group) : Prop :=
  b.Overcloses g.body

variable {config raw t : Text} {g : Group}

theorem eq_of_positiveGroup? {negated : Bool} (group : positiveGroup? negated t = some g) :
    g.negated = negated ∧
      t = (if g.conjunctive then ("and" : Text) else "or") ++ ('(' :: g.body ++ [')']) := by
  unfold positiveGroup? at group
  split at group
  · next body enclosed =>
    cases group
    exact ⟨rfl, Text.between?_eq_some.1 enclosed⟩
  · obtain ⟨body, enclosed, rfl⟩ := Option.map_eq_some_iff.1 group
    exact ⟨rfl, Text.between?_eq_some.1 enclosed⟩

/-- Just the texts that open as a group and end in a bracket are read as one. -/
theorem group?_eq_some_iff : group? t = some g ↔ t = g.text := by
  constructor
  · intro group
    unfold group? at group
    split at group
    · next rest negated =>
      split at group
      · obtain ⟨sign, rfl⟩ := eq_of_positiveGroup? group
        rw [Text.isPrefixOf?_eq_some.1 negated, Group.text, sign, List.append_assoc]
        rfl
      · cases group
    · obtain ⟨sign, rfl⟩ := eq_of_positiveGroup? group
      rw [Group.text, sign]
      rfl
  · rintro rfl
    exact group?_group g.negated g.conjunctive g.body

/-! As clauses -/

/-- What is read as a clause has the form of one. -/
theorem exists_clauseText {text : Text} {f : Filter} {negated : Bool}
    (read : clause text = .ok (f, negated)) :
    ∃ column name raw, text = clauseText column negated name raw ∧ '.' ∉ column ∧ '.' ∉ name ∧
      f.column = Text.trim column ∧ Operator.parse? name = some f.op := by
  unfold clause at read
  split at read
  · cases read
  · next column rest front =>
    obtain ⟨rfl, dotless⟩ := Text.eq_of_cut? front
    split at read
    next sign after negation =>
    have shape : rest = (if sign then ("not." : Text) else []) ++ after := by
      split at negation
      · next starts =>
        cases negation
        exact Text.isPrefixOf?_eq_some.1 starts
      · cases negation
        rfl
    split at read
    · cases read
    · next name raw named =>
      obtain ⟨rfl, dotless'⟩ := Text.eq_of_cut? named
      split at read
      · cases read
      · next op known =>
        obtain ⟨value, -, same⟩ := map_eq_ok_iff.1 read
        cases same
        exact ⟨column, name, raw, by rw [clauseText, shape], dotless, dotless', rfl, known⟩

theorem opensGroup_word (conjunctive : Bool) (rest : Text) :
    opensGroup ((if conjunctive then ("and" : Text) else "or") ++ '(' :: rest) = true := by
  cases conjunctive <;> simp [opensGroup]

/-- A column that opens a group is no identifier. -/
theorem exists_quotedColumn_eq_error {f : Filter} {column : Text} {conjunctive : Bool}
    (opened : (if conjunctive then ("and" : Text) else "or") ++ ['('] <+: column)
    (dotless : '.' ∉ column) (trimmed : f.column = Text.trim column) :
    ∃ e, f.quotedColumn = .error e := by
  obtain ⟨first, rest, rfl, solid, bare⟩ :
      ∃ first rest, column = first :: rest ∧ Text.isBlank first = false ∧ first ≠ '"' := by
    obtain ⟨behind, rfl⟩ := opened
    cases conjunctive
    · exact ⟨'o', _, rfl, by decide, by decide⟩
    · exact ⟨'a', _, rfl, by decide, by decide⟩
  have bracket : '(' ∈ Text.trim (first :: rest) :=
    (Text.mem_trim_iff (by decide)).2 (opened.subset (by simp))
  have dotless : '.' ∉ Text.trim (first :: rest) :=
    fun member => dotless ((Text.mem_trim_iff (by decide)).1 member)
  obtain ⟨later, same⟩ := Text.exists_trim_cons solid rest
  rw [same] at bracket dotless trimmed
  obtain ⟨fault, stuck⟩ := Ident.exists_quote_eq_error bare dotless bracket (by decide)
  exact ⟨_, by rw [Filter.quotedColumn, trimmed, stuck]⟩

/-- A group is never accepted as a clause, neither for its column nor for its operator. -/
theorem exists_clausePredicate_group (config : Text) (g : Group) :
    ∃ e, clausePredicate config g.text = .error e := by
  cases read : clause g.text with
  | error e => exact ⟨e, by rw [clausePredicate, read]⟩
  | ok pair =>
    obtain ⟨f, negated⟩ := pair
    obtain ⟨column, name, raw, same, dotless, dotless', trimmed, known⟩ := exists_clauseText read
    obtain ⟨sign, conjunctive, body⟩ := g
    cases sign with
    | true =>
      have split : ("not" : Text) ++ '.' ::
          ((if conjunctive then ("and" : Text) else "or") ++ '(' :: (body ++ [')'])) =
            clauseText column negated name raw := same
      obtain ⟨-, behind⟩ := eq_of_append_cons split (by decide) dotless
      cases negated with
      | true => cases conjunctive <;> cases behind
      | false =>
        have opened := opensGroup_word conjunctive (body ++ [')'])
        rw [behind] at opened
        cases opened.symm.trans (opensGroup_eq_false known dotless')
    | false =>
      have opened : (if conjunctive then ("and" : Text) else "or") ++ ['('] <+:
          clauseText column negated name raw :=
        ⟨body ++ [')'], by rw [← same, Group.text]; simp⟩
      obtain ⟨e, stuck⟩ := exists_quotedColumn_eq_error
        (prefix_of_append_cons opened (by cases conjunctive <;> decide)) dotless trimmed
      refine ⟨e, ?_⟩
      rw [clausePredicate, read]
      cases negated with
      | true =>
        change f.negation config = _
        rw [Filter.negation, stuck]
        rfl
      | false =>
        change f.predicate config = _
        rw [Filter.predicate, stuck]
        rfl

/-! Lists within lists -/

/-- The texts that are read as lists: the whole, and what stands between the brackets of a group. -/
inductive Reached (raw : Text) : Text → Prop where
  | whole : Reached raw raw
  | body {outer t : Text} {g : Group} (reached : Reached raw outer)
      (member : t ∈ Text.splitTopLevel outer) (group : group? t = some g) : Reached raw g.body

theorem exists_item_of_list {parts : List Predicate} (accepted : list config raw = .ok parts)
    (member : t ∈ Text.splitTopLevel raw) : ∃ p, item config t = .ok p := by
  rw [list_eq config rfl (List.ne_nil_of_mem member)] at accepted
  exact exists_mapM_eq_ok_iff.1 ⟨parts, accepted⟩ t member

theorem exists_list_of_item {p : Predicate} (accepted : item config t = .ok p)
    (group : group? t = some g) :
    ∃ parts, list config g.body = .ok parts ∧ g.predicate parts = p := by
  rw [item_of_group group] at accepted
  exact map_eq_ok_iff.1 accepted

/-- Whatever is reached in a text that is accepted is accepted. -/
theorem Reached.exists_list {body : Text} {p : Predicate} (reached : Reached raw body)
    (accepted : parse config raw = .ok p) : ∃ parts, list config body = .ok parts := by
  induction reached with
  | whole => exact (map_eq_ok_iff.1 accepted).imp fun parts read => read.1
  | body reached member group ih =>
    obtain ⟨parts, outer⟩ := ih
    obtain ⟨q, inner⟩ := exists_item_of_list outer member
    exact (exists_list_of_item inner group).imp fun parts read => read.1

/-! What the scan says of a group -/

theorem Group.afterAll_text (g : Group) :
    Text.Nesting.outside.afterAll g.text = .outside ↔
      Text.Nesting.outside.afterAll g.body = .outside := by
  have front : Text.Nesting.outside.afterAll ((if g.negated then ("not." : Text) else []) ++
      (if g.conjunctive then ("and" : Text) else "or")) = .outside := by
    cases g.negated <;> cases g.conjunctive <;> rfl
  have enter : Text.Nesting.afterAll .outside ('(' :: g.body) =
      ⟨(Text.Nesting.outside.afterAll g.body).depth + 1,
        (Text.Nesting.outside.afterAll g.body).quoted⟩ :=
    Text.Nesting.afterAll_shift .outside 1 g.body
  rw [Group.text, Text.Nesting.afterAll_append, front, Text.Nesting.afterAll_append, enter]
  obtain ⟨d, quoted⟩ := Text.Nesting.outside.afterAll g.body
  cases quoted <;> simp [Text.Nesting.afterAll, Text.Nesting.after, Text.Nesting.outside]

/-- A group in an accepted text, at any depth, is read by what stands between its first bracket and
its last character, and would be refused as a clause. For any choice of the brackets that count, the
first is closed by the last character just when the scan of what stands between never closes more
than is open and ends outside; it is closed before just when the scan does close more. By the
brackets that splitting counts, it is closed in one way or the other if another item follows. -/
theorem groups_closed_iff (b : Text.Brackets) {p : Predicate} {outer : Text}
    {front more : List Text} (accepted : parse config raw = .ok p) (reached : Reached raw outer)
    (split : Text.splitTopLevel outer = front ++ t :: more) (group : group? t = some g) :
    t = g.text ∧
      (∃ parts, list config g.body = .ok parts ∧ item config t = .ok (g.predicate parts)) ∧
      (∃ e, clausePredicate config t = .error e) ∧
      (g.ClosedAtEnd b ↔ b.Scans .outside g.body .outside) ∧
      (g.ClosedEarly b ↔ ¬ b.Stays .outside g.body) ∧
      (more ≠ [] → g.ClosedAtEnd .all ∨ g.ClosedEarly .all) := by
  obtain rfl := group?_eq_some_iff.1 group
  obtain ⟨listed, outers⟩ := reached.exists_list accepted
  obtain ⟨q, read⟩ := exists_item_of_list outers (t := g.text) (by rw [split]; simp)
  obtain ⟨parts, inner, rfl⟩ := exists_list_of_item read group
  refine ⟨rfl, ⟨parts, inner, read⟩, exists_clausePredicate_group config g,
    Text.Brackets.balanced_iff, Text.Brackets.overcloses_iff, fun followed => ?_⟩
  have back : Text.Brackets.all.afterAll .outside g.body = .outside := by
    rw [Text.Brackets.afterAll_all, ← g.afterAll_text]
    exact Text.back_of_splitTopLevel split followed
  by_cases stays : Text.Brackets.all.Stays .outside g.body
  · exact .inl (Text.Brackets.balanced_iff.2 ⟨stays, back⟩)
  · exact .inr (Text.Brackets.overcloses_iff.2 stays)

/-- Two groups with a word between them are read as one clause, although the first bracket is closed
before the word. -/
theorem early_bracket_read :
    parse "english" "and(a.eq.1) or (b.eq.2)" =
        .ok (.any [.all [.compare "\"a\"" "=" (.str "1) or (b.eq.2") none]]) ∧
      (∃ e, clausePredicate "english" "and(a.eq.1) or (b.eq.2)" = .error e) ∧
      ¬ Group.ClosedAtEnd .round ⟨false, true, "a.eq.1) or (b.eq.2"⟩ ∧
      ¬ Group.ClosedAtEnd .all ⟨false, true, "a.eq.1) or (b.eq.2"⟩ := by
  have plain : Ident.Plain "a" := ⟨⟨'a', rfl, rfl⟩, by decide⟩
  have clause : clause "a.eq.1) or (b.eq.2" =
      .ok (⟨"a", .eq, .str "1) or (b.eq.2"⟩, false) := by rfl
  have body : list "english" "a.eq.1) or (b.eq.2" =
      .ok [.compare "\"a\"" "=" (.str "1) or (b.eq.2") none] := by
    have split : Text.splitTopLevel "a.eq.1) or (b.eq.2" =
        (["a.eq.1) or (b.eq.2"] : List Text) := by rfl
    rw [list_eq _ split (by simp), List.mapM_cons, item_of_clause (by rfl), clausePredicate, clause]
    exact bind_eq_ok_iff.2 ⟨_, Filter.predicate_of_plain plain "english" _, rfl⟩
  have group : group? "and(a.eq.1) or (b.eq.2)" = some ⟨false, true, "a.eq.1) or (b.eq.2"⟩ := by rfl
  have split : Text.splitTopLevel "and(a.eq.1) or (b.eq.2)" =
      [] ++ ("and(a.eq.1) or (b.eq.2)" : Text) :: [] := by rfl
  have accepted : parse "english" "and(a.eq.1) or (b.eq.2)" =
      .ok (.any [.all [.compare "\"a\"" "=" (.str "1) or (b.eq.2") none]]) := by
    rw [parse, list_eq _ split (by simp), List.nil_append, List.mapM_cons, item_of_group group,
      body]
    rfl
  obtain ⟨-, -, refused, round, -, -⟩ := groups_closed_iff .round accepted .whole split group
  obtain ⟨-, -, -, all, -, -⟩ := groups_closed_iff .all accepted .whole split group
  refine ⟨accepted, refused, fun closed => ?_, fun closed => ?_⟩
  · exact absurd ((round.1 closed).1 "a.eq.1)" (by decide)) (by decide)
  · exact absurd ((all.1 closed).1 "a.eq.1)" (by decide)) (by decide)

end FluentQuery.Logic

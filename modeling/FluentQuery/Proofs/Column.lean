import FluentQuery.Proofs.Ident.Grammar
import FluentQuery.Proofs.Sql.SelectList
import FluentQuery.Proofs.Text.Blank
import Mathlib.Data.List.Infix

/-! Identifiers as columns. A token is cut at its first colon for a label and at its first two
colons in a row for a cast, also inside double quotes. So an identifier is selected under its last
part just when it holds no colon, and under a label just when it holds no two in a row; every other
one is refused, although it is an identifier. That a cut inside quotes never gives an identifier
again, and thus never a wrong column, follows from the number of quotes before it, which is odd. -/
namespace FluentQuery

namespace Text

variable {c : Char} {sep t before after : Text}

theorem Trimmed.append_cons {s : Text} (first : Trimmed s) (second : Trimmed t) (filled : s ≠ [])
    (filled' : t ≠ []) : Trimmed (s ++ c :: t) := by
  constructor
  · rw [List.head?_append_of_ne_nil _ filled]
    exact first.1
  · rw [List.getLast?_append_of_ne_nil _ (List.cons_ne_nil c t),
      List.getLast?_cons_of_ne_nil filled']
    exact second.2

/-- Nothing is lost by a cut at a text. -/
theorem eq_of_cutText? (cut : cutText? sep t = some (before, after)) :
    t = before ++ sep ++ after := by
  fun_induction cutText? sep t generalizing before with
  | case1 empty =>
    cases cut
    rw [List.isEmpty_iff.1 empty]
    rfl
  | case2 => cases cut
  | case3 c t rest found =>
    cases cut
    exact isPrefixOf?_eq_some.1 found
  | case4 c t _ ih =>
    obtain ⟨⟨front, back⟩, later, same⟩ := Option.map_eq_some_iff.1 cut
    cases same
    rw [ih later]
    rfl

theorem cutText?_eq_none_iff : cutText? sep t = none ↔ ¬ sep <:+: t := by
  fun_induction cutText? sep t with
  | case1 empty => simp [List.isEmpty_iff.1 empty]
  | case2 filled => simpa [List.infix_nil] using filled
  | case3 c t rest found =>
    have starts : sep <+: c :: t := ⟨rest, (isPrefixOf?_eq_some.1 found).symm⟩
    simp [starts.isInfix]
  | case4 c t none ih =>
    have other : ¬ sep <+: c :: t := by
      rintro ⟨rest, same⟩
      cases none.symm.trans (isPrefixOf?_eq_some.2 same.symm)
    rw [Option.map_eq_none_iff, ih, List.infix_cons_iff, not_or]
    exact ⟨fun later => ⟨other, later⟩, And.right⟩

end Text

/-! Colons in identifiers -/

namespace Ident

variable {s t part before after : Text} {parts : List Text}

theorem notMem_bare {c : Char} (first : Letter c) (later : ∀ d ∈ t, Follower d) {special : Char}
    (foreign : isLater special = false) : special ∉ c :: t := by
  intro member
  rcases List.mem_cons.1 member with rfl | among
  · cases foreign.symm.trans (isLater_of_isFirst (isFirst_iff.2 first))
  · cases foreign.symm.trans (isLater_iff.2 (later _ among))

theorem Segment.trimmed (segment : Segment s part) : Text.Trimmed s := by
  cases segment with
  | bare first later => exact Plain.trimmed (plain_cons_iff.2 ⟨first, later⟩)
  | quoted => exact .of_ends rfl List.getLast?_concat rfl rfl

theorem Spells.trimmed (spells : Spells t parts) : Text.Trimmed t := by
  induction spells with
  | last segment => exact segment.trimmed
  | more segment rest ih => exact segment.trimmed.append_cons ih segment.ne_nil rest.ne_nil

/-- Identifiers begin with a letter or a quote. -/
theorem Spells.opens (spells : Spells t parts) : ∃ c ∈ t.head?, Letter c ∨ c = '"' := by
  have each {s part : Text} (segment : Segment s part) : ∃ c ∈ s.head?, Letter c ∨ c = '"' := by
    cases segment with
    | bare first later => exact ⟨_, rfl, .inl first⟩
    | quoted => exact ⟨_, rfl, .inr rfl⟩
  cases spells with
  | last segment => exact each segment
  | more segment rest =>
    rw [List.head?_append_of_ne_nil _ segment.ne_nil]
    exact each segment

theorem Spells.head?_ne (spells : Spells t parts) {special : Char}
    (foreign : isLater special = false) (other : special ≠ '"') : t.head? ≠ some special := by
  intro first
  obtain ⟨c, head, letter | rfl⟩ := spells.opens
  · cases first.symm.trans head
    cases foreign.symm.trans (isLater_of_isFirst (isFirst_iff.2 letter))
  · cases first.symm.trans head
    exact other rfl

/-! A colon is always inside quotes: an odd number of them stands before it, and as the whole holds
an even number, neither what stands before a colon nor what stands behind is an identifier. -/

theorem Content.count_quotes (content : Content s t) : s.count '"' % 2 = 0 := by
  induction content with
  | nil => rfl
  | single other rest ih => rwa [List.count_cons_of_ne other]
  | doubled rest ih =>
    rw [List.count_cons_self, List.count_cons_self]
    omega

theorem Content.count_quotes_before (content : Content s t) (split : s = before ++ ':' :: after) :
    before.count '"' % 2 = 0 := by
  induction content generalizing before with
  | nil => simp at split
  | single other rest ih =>
    cases before with
    | nil => rfl
    | cons c before =>
      obtain ⟨rfl, later⟩ := List.cons.inj split
      rw [List.count_cons_of_ne other]
      exact ih later
  | doubled rest ih =>
    cases before with
    | nil => cases split
    | cons c before =>
      obtain ⟨rfl, second⟩ := List.cons.inj split
      cases before with
      | nil => cases second
      | cons c before =>
        obtain ⟨rfl, later⟩ := List.cons.inj second
        rw [List.count_cons_self, List.count_cons_self]
        have := ih later
        omega

theorem Segment.count_quotes (segment : Segment s part) : s.count '"' % 2 = 0 := by
  cases segment with
  | bare first later => rw [List.count_eq_zero.2 (notMem_bare first later (by decide))]
  | quoted filled content =>
    have inner := content.count_quotes
    simp
    omega

/-- A colon in a segment is inside its quotes. -/
theorem Segment.count_quotes_before (segment : Segment s part)
    (split : s = before ++ ':' :: after) : before.count '"' % 2 = 1 := by
  cases segment with
  | bare first later =>
    have colon : ':' ∉ before ++ ':' :: after := split ▸ notMem_bare first later (by decide)
    simp at colon
  | @quoted s _ filled content =>
    cases before with
    | nil => cases split
    | cons c before =>
      obtain ⟨rfl, later⟩ : '"' = c ∧ s ++ ['"'] = before ++ ':' :: after := List.cons.inj split
      obtain rfl | ⟨back, last, rfl⟩ := List.eq_nil_or_concat' after
      · cases (List.append_inj' later rfl).2
      · rw [← List.cons_append, ← List.append_assoc] at later
        have inner := content.count_quotes_before (List.append_inj' later rfl).1
        rw [List.count_cons_self]
        omega

theorem Spells.count_quotes (spells : Spells t parts) : t.count '"' % 2 = 0 := by
  induction spells with
  | last segment => exact segment.count_quotes
  | more segment rest ih =>
    have first := segment.count_quotes
    rw [List.count_append, List.count_cons_of_ne (by decide)]
    omega

/-- A colon in an identifier is inside quotes. -/
theorem Spells.count_quotes_before (spells : Spells t parts)
    (split : t = before ++ ':' :: after) : before.count '"' % 2 = 1 := by
  induction spells generalizing before after with
  | last segment => exact segment.count_quotes_before split
  | @more s t part parts segment rest ih =>
    obtain ⟨gap, rfl, behind⟩ | ⟨gap, rfl, behind⟩ := List.append_eq_append_iff.1 split
    · cases gap with
      | nil => cases behind
      | cons c gap =>
        obtain ⟨rfl, later⟩ := List.cons.inj behind
        have first := segment.count_quotes
        have second := ih later
        rw [List.count_append, List.count_cons_of_ne (by decide)]
        omega
    · cases gap with
      | nil => cases behind
      | cons c gap =>
        obtain ⟨rfl, -⟩ := List.cons.inj behind
        exact segment.count_quotes_before rfl

end Ident

/-! Columns -/

namespace Column

open Sql (Item)

/-- The column reads what the identifier names, without a cast and under the key. -/
structure Selects (column : Column) (i : Ident) (key : Text) : Prop where
  item : ∃ label, Item.readAll? column.sql = some [.column i.parts none label] ∧
    label.getD i.name = key
  output : column.output = some key
  raw : column.raw = true ↔ key = i.name

variable {t token rest : Text} {i : Ident} {label : Option Text}

/-- A token that is cut as a name without a cast selects what the name is read as. -/
theorem exists_selects (read : Ident.parse t = .ok i) (named : token ≠ ['*'])
    (cut : cutLabel token = (label, rest)) (uncast : cutCast rest = (t, none))
    (word : ∀ l ∈ label, Text.isWord l = true) :
    ∃ column, parse token = .ok column ∧ Selects column i (label.getD i.name) := by
  have clear : label.any (fun l => !Text.isWord l) = false := by
    cases label with
    | none => rfl
    | some l => simp [word l rfl]
  have parsed : parse token = .ok
      ⟨(Item.column i.parts none (writtenLabel i none label)).text, some (label.getD i.name),
        label.getD i.name == i.name⟩ := by
    unfold parse
    rw [if_neg named, cut, text_writtenLabel]
    simp only [uncast, read, clear, Option.any_none, Bool.false_eq_true, if_false]
    rfl
  refine ⟨_, parsed, ⟨_, ?_, getD_writtenLabel i none label⟩, rfl, beq_iff_eq⟩
  have written : (Item.column i.parts none (writtenLabel i none label)).Written :=
    ⟨Sql.Condition.parts_ne_nil read, fun _ none => nomatch none⟩
  simpa using Item.readAll?_texts (List.forall_mem_singleton.2 written)

/-- A token whose name cannot be read, or whose label is no word, is refused. -/
theorem exists_parse_eq_error {name : Text} {cast : Option Text} (named : token ≠ ['*'])
    (cut : cutLabel token = (label, rest)) (cut' : cutCast rest = (name, cast))
    (stuck : (∃ fault, Ident.parse name = .error fault) ∨ ∃ l ∈ label, Text.isWord l = false) :
    ∃ e, parse token = .error e := by
  unfold parse
  rw [if_neg named, cut]
  simp only [cut']
  cases read : Ident.parse name with
  | error fault => exact ⟨_, rfl⟩
  | ok i =>
    obtain ⟨fault, other⟩ | ⟨l, rfl, strange⟩ := stuck
    · cases read.symm.trans other
    · simp only [Option.any_some, strange, Bool.not_false, if_true]
      split <;> exact ⟨_, rfl⟩

/-! Tokens that are identifiers, and identifiers under a label -/

theorem ne_star {parts : List Text} (spells : Ident.Spells t parts) : t ≠ ['*'] := by
  rintro rfl
  exact spells.head?_ne (by decide) (by decide) rfl

/-- A text with an odd number of quotes is no identifier, and no label. -/
theorem refused_of_odd {before : Text} (odd : before.count '"' % 2 = 1) :
    (∃ fault, Ident.parse (Text.trim before) = .error fault) ∧
      Text.isWord (Text.trim before) = false := by
  have odd' : (Text.trim before).count '"' % 2 = 1 := by rwa [Text.count_trim (by decide)]
  constructor
  · cases read : Ident.parse (Text.trim before) with
    | error fault => exact ⟨fault, rfl⟩
    | ok i =>
      have even := (Ident.parse_eq_ok_iff.1 read).2.count_quotes
      omega
  · rw [Bool.eq_false_iff]
    intro word
    rw [List.count_eq_zero.2 (Text.notMem_of_isWord word (by decide))] at odd'
    cases odd'

variable {parts : List Text}

theorem cutCast_of_notInfix (absent : ¬ ("::" : Text) <:+: t) : cutCast t = (t, none) := by
  rw [cutCast, Text.cutText?_eq_none_iff.2 absent]

theorem exists_cutCast_of_infix (spells : Ident.Spells t parts) (present : ("::" : Text) <:+: t) :
    ∃ before cast, cutCast t = (Text.trim before, some cast) ∧ before.count '"' % 2 = 1 := by
  cases cut : Text.cutText? "::" t with
  | none => exact absurd present (Text.cutText?_eq_none_iff.1 cut)
  | some pair =>
    obtain ⟨before, after⟩ := pair
    have split : t = before ++ ':' :: ':' :: after := by
      rw [Text.eq_of_cutText? cut]
      simp
    exact ⟨before, Text.trim after, by rw [cutCast, cut], spells.count_quotes_before split⟩

theorem cutLabel_of_notMem (absent : ':' ∉ t) : cutLabel t = (none, t) := by
  rw [cutLabel, Text.cut?_eq_none.2 absent]

/-- A word before the first colon is the label of an identifier behind it. -/
theorem cutLabel_label (spells : Ident.Spells t parts) {label : Text}
    (word : Text.isWord label = true) : cutLabel (label ++ ':' :: t) = (some label, t) := by
  have absent : ':' ∉ label := Text.notMem_of_isWord word (by decide)
  have single : t.head? ≠ some ':' := spells.head?_ne (by decide) (by decide)
  rw [cutLabel, Text.cut?_append t absent]
  simp only [if_neg single, Text.trim_eq_self (Text.trimmed_of_isWord word),
    Text.trim_eq_self spells.trimmed]

/-- The first colon is taken to end a label or to begin a cast, and both fail. -/
theorem exists_error_of_colon (spells : Ident.Spells t parts) (colon : ':' ∈ t) :
    ∃ e, parse t = .error e := by
  have named : t ≠ ['*'] := ne_star spells
  cases cut : Text.cut? ':' t with
  | none => exact absurd colon (Text.cut?_eq_none.1 cut)
  | some pair =>
    obtain ⟨before, after⟩ := pair
    obtain ⟨split, -⟩ := Text.eq_of_cut? cut
    by_cases double : after.head? = some ':'
    · -- Two colons: no label is cut, and the name before the cast has an odd number of quotes.
      obtain ⟨rest, rfl⟩ := List.head?_eq_some_iff.1 double
      have present : ("::" : Text) <:+: t := ⟨before, rest, by rw [split]; simp⟩
      have whole : cutLabel t = (none, t) := by rw [cutLabel, cut]; rfl
      obtain ⟨front, cast, cut', odd⟩ := exists_cutCast_of_infix spells present
      exact exists_parse_eq_error named whole cut' (.inl (refused_of_odd odd).1)
    · -- One colon: what stands before it would be the label, but it has a quote in it.
      have labelled : cutLabel t = (some (Text.trim before), Text.trim after) := by
        rw [cutLabel, cut]
        exact if_neg double
      have odd := spells.count_quotes_before split
      exact exists_parse_eq_error named labelled rfl (.inr ⟨_, rfl, (refused_of_odd odd).2⟩)

/-- An identifier is selected as it stands, under its last part, just when it holds no colon; under
a label it is selected just when it holds no two colons in a row. Otherwise it is refused. -/
theorem identifier_selected_iff (read : Ident.parse t = .ok i) :
    ((∃ column, parse t = .ok column ∧ Selects column i i.name) ↔ ':' ∉ t) ∧
      (':' ∈ t → ∃ e, parse t = .error e) ∧
      ∀ label, Text.isWord label = true →
        ((∃ column, parse (label ++ ':' :: t) = .ok column ∧ Selects column i label) ↔
          ¬ ("::" : Text) <:+: t) ∧
        (("::" : Text) <:+: t → ∃ e, parse (label ++ ':' :: t) = .error e) := by
  obtain ⟨-, spells⟩ := Ident.parse_eq_ok_iff.1 read
  have refused : ':' ∈ t → ∃ e, parse t = .error e := exists_error_of_colon spells
  refine ⟨⟨?_, fun absent => ?_⟩, refused, fun label word => ?_⟩
  · rintro ⟨column, parsed, -⟩ colon
    obtain ⟨e, stuck⟩ := refused colon
    cases parsed.symm.trans stuck
  · have uncast : ¬ ("::" : Text) <:+: t := fun present => absent (present.subset (by decide))
    exact exists_selects read (ne_star spells) (cutLabel_of_notMem absent)
      (cutCast_of_notInfix uncast) fun _ none => nomatch none
  · have named : label ++ ':' :: t ≠ ['*'] := fun same => by
      have short := congrArg List.length same
      have := List.length_pos_iff.2 spells.ne_nil
      simp at short
      omega
    have cut := cutLabel_label spells word
    have refused' : ("::" : Text) <:+: t → ∃ e, parse (label ++ ':' :: t) = .error e := by
      intro present
      obtain ⟨front, cast, cut', odd⟩ := exists_cutCast_of_infix spells present
      exact exists_parse_eq_error named cut cut' (.inl (refused_of_odd odd).1)
    refine ⟨⟨?_, fun absent => ?_⟩, refused'⟩
    · rintro ⟨column, parsed, -⟩ present
      obtain ⟨e, stuck⟩ := refused' present
      cases parsed.symm.trans stuck
    · refine exists_selects read named cut (cutCast_of_notInfix absent) ?_
      rintro _ ⟨⟩
      exact word

/-- A quoted part with a colon in it. -/
def rateName : Text := "games" ++ '.' :: Ident.quotePart "rate:x"

/-- The name is refused as it stands, although it is an identifier, and selected under a label. -/
theorem rateName_selected_under_label :
    Ident.parse rateName = .ok ⟨["games", "rate:x"]⟩ ∧ Text.isWord "rate" = true ∧
      ':' ∈ rateName ∧ ¬ ("::" : Text) <:+: rateName ∧
      (∃ e, parse rateName = .error e) ∧
      (¬ ∃ column, parse rateName = .ok column ∧
        Selects column ⟨["games", "rate:x"]⟩ "rate:x") ∧
      ∃ column, parse ("rate" ++ ':' :: rateName) = .ok column ∧
        Selects column ⟨["games", "rate:x"]⟩ "rate" := by
  have spells : Ident.Spells rateName ["games", "rate:x"] :=
    .more (Ident.segment_of_plain (by decide)) (.last (Ident.segment_quotePart (by decide)))
  have read : Ident.parse rateName = .ok ⟨["games", "rate:x"]⟩ :=
    Ident.parse_eq_ok_iff.2 ⟨by decide, spells⟩
  have word : Text.isWord "rate" = true := by decide
  have colon : ':' ∈ rateName := by decide
  have single : ¬ ("::" : Text) <:+: rateName := by decide
  obtain ⟨plain, refused, labelled⟩ := identifier_selected_iff read
  exact ⟨read, word, colon, single, refused colon, fun selected => plain.1 selected colon,
    (labelled "rate" word).1.2 single⟩

end Column

end FluentQuery

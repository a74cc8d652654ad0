import FluentQuery.Proofs.Filter.Literal
import FluentQuery.Proofs.Filter.Logic

/-! Quoted values, with a backslash before every quote and every backslash in them. Taken for itself
such a value is read back whatever it holds. But the scan for commas knows nothing of backslashes:
in a list a value is read back just when that scan, once inside the quotes, neither splits the value
nor leaves the quotes by its end. -/
namespace FluentQuery

namespace Text

/-- Inside double quotes that are inside no bracket. -/
def Nesting.inside : Nesting := ⟨0, true⟩

theorem Nesting.after_backslash (n : Nesting) : n.after '\\' = n :=
  after_of_flat (by decide) n

end Text

namespace Operand

/-- A backslash before every backslash and every double quote. -/
def escape (t : Text) : Text :=
  t.flatMap fun c => if c = '\\' ∨ c = '"' then ['\\', c] else [c]

def quote (t : Text) : Text :=
  '"' :: escape t ++ ['"']

theorem escape_cons (c : Char) (t : Text) :
    escape (c :: t) = (if c = '\\' ∨ c = '"' then ['\\', c] else [c]) ++ escape t := rfl

theorem unescape_escape (t : Text) : unescape (escape t) = t := by
  induction t with
  | nil => rfl
  | cons c t ih =>
    rw [escape_cons]
    split
    · change c :: unescape (escape t) = _
      rw [ih]
    · next plain =>
      rw [not_or] at plain
      rw [List.singleton_append, unescape, if_neg plain.1, ih]
      intro d rest same
      exact absurd same plain.1

theorem trim_quote (t : Text) : Text.trim (quote t) = quote t :=
  Text.trim_eq_self (.of_ends (by rfl) List.getLast?_concat rfl rfl)

/-- By itself a quoted value is read back. -/
theorem unquote_quote (t : Text) : unquote (quote t) = t := by
  have enclosed : Text.between? ['"'] '"' (quote t) = some (escape t) :=
    Text.between?_eq_some.2 rfl
  rw [unquote, trim_quote, enclosed]
  exact unescape_escape t

/-! Commas: reading a value neither adds nor drops one -/

theorem count_comma_escape (t : Text) : (escape t).count ',' = t.count ',' := by
  induction t with
  | nil => rfl
  | cons c t ih =>
    rw [escape_cons, List.count_append, ih, List.count_cons]
    split
    · next special => obtain rfl | rfl := special <;> simp
    · simp [List.count_singleton, Nat.add_comm]

theorem count_comma_quote (t : Text) : (quote t).count ',' = t.count ',' := by
  simp [quote, count_comma_escape]

theorem count_comma_unescape (t : Text) : (unescape t).count ',' = t.count ',' := by
  fun_induction unescape t with
  | case1 => rfl
  | case2 c rest ih => simp [List.count_cons, ih]
  | case3 rest alone =>
    cases rest with
    | nil => rfl
    | cons c rest => exact (alone c rest rfl rfl).elim
  | case4 c rest _ _ ih => simp [List.count_cons, ih]

theorem count_comma_unquote (t : Text) : (unquote t).count ',' = t.count ',' := by
  rw [← Text.count_trim (by decide) t]
  unfold unquote
  split
  · next inner enclosed =>
    rw [Text.between?_eq_some.1 enclosed, count_comma_unescape]
    simp
  · rfl

/-! Scanning: the backslashes do not bear on it -/

theorem afterAll_escape (n : Text.Nesting) (t : Text) : n.afterAll (escape t) = n.afterAll t := by
  induction t generalizing n with
  | nil => rfl
  | cons c t ih =>
    rw [escape_cons, Text.Nesting.afterAll_append, ih]
    split
    · change ((n.after '\\').after c).afterAll t = (n.after c).afterAll t
      rw [Text.Nesting.after_backslash]
    · rfl

theorem pieces_escape {n : Text.Nesting} {t : Text} :
    Text.pieces n (escape t) = [escape t] ↔ Text.pieces n t = [t] := by
  induction t generalizing n with
  | nil => rfl
  | cons c t ih =>
    rw [escape_cons, Text.pieces_cons_eq_singleton_iff]
    split
    · rw [List.cons_append, List.singleton_append, Text.pieces_cons_eq_singleton_iff,
        Text.pieces_cons_eq_singleton_iff, Text.Nesting.after_backslash, ih]
      simp
    · rw [List.singleton_append, Text.pieces_cons_eq_singleton_iff, ih]

theorem pieces_quote {t : Text} :
    Text.pieces .outside (quote t) = [quote t] ↔ Text.pieces .inside t = [t] := by
  have opens : Text.Nesting.after .outside '"' = .inside := rfl
  have closes (n : Text.Nesting) : Text.pieces n ['"'] = [['"']] := by
    rw [Text.pieces, if_neg (by simp)]
    rfl
  rw [quote, List.cons_append, Text.pieces_cons_eq_singleton_iff, opens,
    Text.pieces_append_eq_singleton_iff, pieces_escape]
  simp [closes]

theorem afterAll_quote {t : Text} :
    Text.Nesting.afterAll .outside (quote t) = .outside ↔
      Text.Nesting.afterAll .inside t = .inside := by
  have ends (n : Text.Nesting) : n.after '"' = .outside ↔ n = .inside := by
    obtain ⟨depth, quoted⟩ := n
    cases quoted <;> simp [Text.Nesting.after, Text.Nesting.outside, Text.Nesting.inside]
  change ((Text.Nesting.inside).afterAll (escape t ++ ['"'])) = _ ↔ _
  rw [Text.Nesting.afterAll_append, afterAll_escape]
  exact ends _

/-- Within its quotes the value is not split, and they do not end before it does. -/
def Held (t : Text) : Prop :=
  Text.WholeAt .inside t

theorem wholeAt_quote {t : Text} : Text.WholeAt .outside (quote t) ↔ Held t :=
  ⟨fun whole => ⟨pieces_quote.1 whole.whole, afterAll_quote.1 whole.back⟩,
    fun held => ⟨pieces_quote.2 held.whole, afterAll_quote.2 held.back⟩⟩

/-- Without double quotes of its own a value is held, whatever commas and brackets it has. -/
theorem held_of_notMem {t : Text} (unquoted : '"' ∉ t) : Held t := by
  induction t with
  | nil => exact .nil _
  | cons c t ih =>
    rw [List.mem_cons, not_or] at unquoted
    have stays : Text.Nesting.after .inside c = .inside := by
      simp [Text.Nesting.after, Text.Nesting.inside, Ne.symm unquoted.1]
    exact .append (.singleton stays fun comma => by cases comma.2) (ih unquoted.2)

theorem quoted_afterAll (n : Text.Nesting) (t : Text) :
    (n.afterAll t).quoted = (n.quoted ^^ decide (t.count '"' % 2 = 1)) := by
  induction t generalizing n with
  | nil => simp [Text.Nesting.afterAll]
  | cons c t ih =>
    change ((n.after c).afterAll t).quoted = _
    rw [ih]
    by_cases quote : c = '"'
    · subst quote
      rw [List.count_cons_self]
      have flips : decide ((t.count '"' + 1) % 2 = 1) = !decide (t.count '"' % 2 = 1) := by
        rw [← decide_not, decide_eq_decide]
        omega
      rw [flips, Bool.xor_not]
      exact Bool.not_xor _ _
    · have same : (n.after c).quoted = n.quoted := by
        unfold Text.Nesting.after
        split_ifs <;> rfl
      rw [same, List.count_cons_of_ne quote]

/-- In a value that is held, each double quote that ends the quotes is followed by one that begins
them again. -/
theorem Held.two_dvd_count {t : Text} (held : Held t) : 2 ∣ t.count '"' := by
  have still : (Text.Nesting.inside.afterAll t).quoted = true := by rw [held.back]; rfl
  rw [quoted_afterAll] at still
  have even : t.count '"' % 2 = 0 := by simpa [Text.Nesting.inside] using still
  exact Nat.dvd_of_mod_eq_zero even

/-- Where each of two texts is followed by a comma or by nothing, their commas tell them apart. -/
theorem eq_of_append_of_count {s t rest rest' : Text} (same : s ++ rest = t ++ rest')
    (ends : ∀ c ∈ rest.head?, c = ',') (ends' : ∀ c ∈ rest'.head?, c = ',')
    (count : s.count ',' = t.count ',') : s = t := by
  obtain ⟨between, rfl, rfl⟩ | ⟨between, rfl, rfl⟩ := List.append_eq_append_iff.1 same
  all_goals
    cases between with
    | nil => simp
    | cons c between =>
      obtain rfl : c = ',' := by first | exact ends c rfl | exact ends' c rfl
      simp at count

/-- The first piece is read as the value only if it is just the quoted value. -/
theorem eq_quote_of_unquote {t rest piece : Text} {more : List Text}
    (split : Text.pieces .outside (quote t ++ rest) = piece :: more)
    (ends : ∀ c ∈ rest.head?, c = ',') (read : unquote piece = t) : piece = quote t := by
  have count : piece.count ',' = (quote t).count ',' := by
    rw [count_comma_quote, ← read, count_comma_unquote]
  obtain ⟨-, ⟨same, -⟩ | ⟨after, same, -, -⟩⟩ := Text.pieces_eq_cons_iff.1 split
  · have same := same.trans (List.append_nil _).symm
    exact (eq_of_append_of_count same ends (by simp) count.symm).symm
  · exact (eq_of_append_of_count same ends (by simp) count.symm).symm

theorem items_of_pieces {t piece : Text} {more : List Text}
    (split : Text.pieces .outside t = piece :: more) (filled : Text.trim piece ≠ []) :
    items t = .str (unquote piece) ::
      ((more.map Text.trim).filter fun p => !p.isEmpty).map fun item => .str (unquote item) := by
  rw [items, Text.splitTopLevel, split, List.map_cons,
    List.filter_cons_of_pos (by simpa using filled), List.map_cons, unquote_trim]

/-- The first piece starts with a quote. -/
theorem exists_cons_of_pieces {t rest piece : Text} {more : List Text}
    (split : Text.pieces .outside (quote t ++ rest) = piece :: more) :
    ∃ tail, piece = '"' :: tail := by
  obtain ⟨-, ⟨same, -⟩ | ⟨after, same, -, -⟩⟩ := Text.pieces_eq_cons_iff.1 split
  all_goals
    cases piece with
    | nil => simp [quote] at same
    | cons c piece =>
      cases (List.cons.inj same).1
      exact ⟨piece, rfl⟩

theorem trim_cons_ne_nil (tail : Text) : Text.trim ('"' :: tail) ≠ [] :=
  List.ne_nil_of_mem ((Text.mem_trim_iff (by decide)).2 List.mem_cons_self)

/-- The scan keeps apart the values of a list; nothing follows the last one. -/
def Apart : List Text → Prop
  | [] => True
  | [t] => Text.pieces .inside t = [t]
  | t :: u :: rest => Held t ∧ Apart (u :: rest)

theorem items_quote_iff {t : Text} :
    items (quote t) = [.str t] ↔ Text.pieces .inside t = [t] := by
  rw [← pieces_quote]
  constructor
  · intro read
    obtain ⟨piece, more, split⟩ := List.exists_cons_of_ne_nil
      (Text.pieces_ne_nil .outside (quote t ++ []))
    obtain ⟨tail, rfl⟩ := exists_cons_of_pieces split
    have first := items_of_pieces split (trim_cons_ne_nil tail)
    rw [List.append_nil, read] at first
    have same : unquote ('"' :: tail) = t := Json.str.inj (List.cons.inj first).1.symm
    rw [eq_quote_of_unquote split (by simp) same] at split
    exact (Text.pieces_eq_cons_iff.1 split).1
  · intro whole
    rw [items_of_pieces whole (trim_cons_ne_nil _), unquote_quote]
    rfl

theorem items_quote_comma_iff {t rest : Text} {values : List Json} :
    items (quote t ++ ',' :: rest) = .str t :: values ↔ Held t ∧ items rest = values := by
  rw [← wholeAt_quote]
  constructor
  · intro read
    obtain ⟨piece, more, split⟩ := List.exists_cons_of_ne_nil
      (Text.pieces_ne_nil .outside (quote t ++ ',' :: rest))
    obtain ⟨tail, rfl⟩ := exists_cons_of_pieces split
    rw [items_of_pieces split (trim_cons_ne_nil tail)] at read
    obtain ⟨first, later⟩ := List.cons.inj read
    rw [eq_quote_of_unquote split (by simp) (Json.str.inj first)] at split
    obtain ⟨whole, ⟨same, -⟩ | ⟨after, same, back, rfl⟩⟩ := Text.pieces_eq_cons_iff.1 split
    · simp at same
    · cases List.append_cancel_left same
      exact ⟨⟨whole, back⟩, later⟩
  · rintro ⟨whole, rfl⟩
    have split := Text.pieces_eq_cons_iff.2
      ⟨whole.whole, .inr ⟨rest, rfl, whole.back, rfl⟩⟩
    rw [items_of_pieces split (trim_cons_ne_nil _), unquote_quote]
    rfl

theorem apart_of_notMem {values : List Text} (unquoted : ∀ t ∈ values, '"' ∉ t) :
    Apart values := by
  induction values with
  | nil => trivial
  | cons t rest ih =>
    rw [List.forall_mem_cons] at unquoted
    cases rest with
    | nil => exact (held_of_notMem unquoted.1).whole
    | cons u rest => exact ⟨held_of_notMem unquoted.1, ih unquoted.2⟩

theorem items_join_quote_iff (values : List Text) :
    items (Text.join [','] (values.map quote)) = values.map .str ↔ Apart values := by
  induction values with
  | nil => exact iff_of_true rfl trivial
  | cons t rest ih =>
    cases rest with
    | nil => exact items_quote_iff
    | cons u rest =>
      have text : Text.join [','] ((t :: u :: rest).map quote) =
          quote t ++ ',' :: Text.join [','] ((u :: rest).map quote) := by
        simp [Text.join_cons_cons]
      rw [text]
      exact items_quote_comma_iff.trans (and_congr_right fun _ => ih)

/-- A list of quoted values in brackets. -/
def quoteList (values : List Text) : Text :=
  '(' :: Text.join [','] (values.map quote) ++ [')']

theorem parse_quoteList (values : List Text) :
    parse .among (quoteList values) =
      .ok (.arr (items (Text.join [','] (values.map quote)))) := by
  have whole : Text.trim (quoteList values) = quoteList values :=
    Text.trim_eq_self (.of_ends (by rfl) List.getLast?_concat rfl rfl)
  have enclosed : Text.between? ['('] ')' (quoteList values) =
      some (Text.join [','] (values.map quote)) :=
    Text.between?_eq_some.2 rfl
  simp only [parse, whole, enclosed]

end Operand

namespace Logic

open Operand

variable {config column : Text}

/-- A clause is read as if its quoted operand were not trimmed. -/
theorem item_trim_eq (plain : Ident.Plain column) (rest : Text) (config : Text) :
    item config (Text.trim (clauseText column false "eq" ('"' :: rest))) =
      .ok (.compare (Ident.quotePart column) "=" (.str (unquote ('"' :: rest))) none) := by
  obtain ⟨c, first, later⟩ := plain.1
  obtain ⟨tail, rfl⟩ : ∃ tail, column = c :: tail := List.head?_eq_some_iff.1 first
  have solid : Text.isBlank c = false := plain.trimmed.1 c rfl
  have inner : Text.trim (clauseText (c :: tail) false "eq" ('"' :: rest)) =
      clauseText (c :: tail) false "eq" (Text.trim ('"' :: rest)) := by
    have split (raw : Text) : clauseText (c :: tail) false "eq" raw =
        c :: (tail ++ ".eq.") ++ raw := by
      simp [clauseText]
    rw [split, split]
    exact Text.trim_append solid (by decide) (tail ++ ".eq.") rest
  have known : Operator.parse? "eq" = some .eq := by decide
  have dotless : '.' ∉ ("eq" : Text) := by decide
  rw [inner, item_of_clause (group?_clauseText plain known dotless), clausePredicate,
    clause_clauseText plain dotless (.inr (by decide)), known]
  change (Filter.mk (c :: tail) .eq
    (.str (unquote (Text.trim (Text.trim ('"' :: rest)))))).predicate config = _
  rw [unquote_trim, unquote_trim, Filter.predicate_of_plain plain]

theorem splitTopLevel_quoted (plain : Ident.Plain column) {text tail : Text} {more : List Text}
    (split : Text.pieces .outside text = ('"' :: tail) :: more) :
    Text.splitTopLevel (clauseText column false "eq" text) =
      Text.trim (clauseText column false "eq" ('"' :: tail)) ::
        (more.map Text.trim).filter fun piece => !piece.isEmpty := by
  have front (raw : Text) : clauseText column false "eq" raw = (column ++ ".eq.") ++ raw := by
    simp [clauseText]
  have closed : Text.Closed (column ++ ".eq.") := plain.closed.append (.of_flat (by decide))
  obtain ⟨whole, back⟩ : Text.WholeAt .outside (column ++ ".eq.") := closed 0
  have filled : Text.trim ((column ++ ".eq.") ++ '"' :: tail) ≠ [] :=
    List.ne_nil_of_mem ((Text.mem_trim_iff (by decide)).2
      (List.mem_append_right _ List.mem_cons_self))
  rw [front, front, Text.splitTopLevel, Text.pieces_append whole (back.symm ▸ split), List.map_cons,
    List.filter_cons_of_pos (by simpa using filled)]

/-- Before another clause a quoted operand is read back just when the scan holds it together. -/
theorem parse_quoted_iff (plain : Ident.Plain column) (c : Clause) {p : Predicate}
    (holds : c.predicate config = .ok p) (t : Text) :
    parse config (clauseText column false "eq" (quote t ++ ',' :: c.text)) =
        .ok (.any [.compare (Ident.quotePart column) "=" (.str t) none, p]) ↔ Held t := by
  rw [← wholeAt_quote]
  constructor
  · intro read
    obtain ⟨piece, more, split⟩ := List.exists_cons_of_ne_nil
      (Text.pieces_ne_nil .outside (quote t ++ ',' :: c.text))
    obtain ⟨tail, rfl⟩ := exists_cons_of_pieces split
    rw [parse, list_eq config (splitTopLevel_quoted plain split) (by simp), List.mapM_cons,
      item_trim_eq plain, ok_bind] at read
    cases others : List.mapM (item config) ((more.map Text.trim).filter fun piece => !piece.isEmpty)
      with
    | error e =>
      rw [others] at read
      cases read
    | ok parts =>
      rw [others] at read
      generalize same : unquote ('"' :: tail) = u at read
      cases read
      rw [eq_quote_of_unquote split (by simp) same] at split
      obtain ⟨whole, ⟨same, -⟩ | ⟨-, -, back, -⟩⟩ := Text.pieces_eq_cons_iff.1 split
      · simp at same
      · exact ⟨whole, back⟩
  · intro whole
    have split : Text.pieces .outside (quote t ++ ',' :: c.text) = [quote t, c.text] :=
      Text.pieces_eq_cons_iff.2 ⟨whole.whole, .inr ⟨_, rfl, whole.back, (c.closed_text 0).whole⟩⟩
    have other : ([c.text].map Text.trim).filter (fun piece => !piece.isEmpty) = [c.text] := by
      have filled : c.text.isEmpty = false := by
        simpa using (by simp [Clause.text, clauseText] : c.text ≠ [])
      simp [Text.trim_eq_self c.trimmed_text, filled]
    rw [parse, list_eq config (splitTopLevel_quoted plain split) (by simp), other, List.mapM_cons,
      List.mapM_cons, item_trim_eq plain, c.item_text, holds]
    exact congrArg (fun u => Except.ok (Predicate.any [.compare _ "=" (.str u) none, p]))
      (unquote_quote t)

/-- Quoted values are read back, in a list and in an or-expression, just when the scan for commas
holds them together. It does so with all values that have no double quotes, whatever backslashes,
commas and brackets they have. No value with an odd number of double quotes is held apart from what
follows it. -/
theorem quoted_values_read_iff (values : List Text) (config t : Text) :
    (Operand.parse .among (quoteList values) = .ok (.arr (values.map .str)) ↔ Apart values) ∧
      (parse config ("a.eq." ++ quote t ++ ",b.eq.1") =
          .ok (.any [.compare "\"a\"" "=" (.str t) none, .compare "\"b\"" "=" (.str "1") none]) ↔
        Held t) ∧
      ((∀ u ∈ values, '"' ∉ u) → Apart values) ∧ ('"' ∉ t → Held t) ∧
        (Held t → 2 ∣ t.count '"') := by
  refine ⟨?_, ?_, apart_of_notMem, held_of_notMem, Held.two_dvd_count⟩
  · rw [parse_quoteList, Except.ok.injEq, Json.arr.injEq, items_join_quote_iff]
  · have plain : Ident.Plain "a" := ⟨⟨'a', rfl, rfl⟩, by decide⟩
    have other : Ident.Plain "b" := ⟨⟨'b', rfl, rfl⟩, by decide⟩
    let one : Clause := ⟨"b", false, "eq", .eq, "1", .str "1", other, .plain (by decide),
      .bare (by decide) ⟨by decide, by decide⟩⟩
    have holds : one.predicate config = .ok (.compare "\"b\"" "=" (.str "1") none) :=
      Filter.predicate_of_plain other config (.str "1")
    have text : "a.eq." ++ quote t ++ ",b.eq.1" =
        clauseText "a" false "eq" (quote t ++ ',' :: one.text) := by
      simp [clauseText, one, Clause.text]
    rw [text]
    exact parse_quoted_iff plain one holds t

/-- The quote in the value ends the quotes for the scan, and the comma behind it splits. -/
example : Operand.parse .among (quoteList ["a\",b"]) = .ok (.arr [.str "a", .str "b\""]) := by rfl

end Logic

end FluentQuery

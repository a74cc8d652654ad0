import FluentQuery.Proofs.Predicate.Written
import FluentQuery.Proofs.Sql.Reading

/-! Reading the operands of conditions. A comparison is read back where a blank, a closing bracket
or nothing follows it; and operands that can be read are read as one condition when they are
negated, put in brackets, or joined with AND or with OR. -/
namespace FluentQuery

namespace Sql.Condition

open Predicate (IsSymbol IsName)

/-! Comparisons -/

/-- What may stand behind an operand. -/
def Ends (rest : Text) : Prop :=
  ∀ c ∈ rest.head?, c = ' ' ∨ c = ')'

theorem Ends.blank (rest : Text) : Ends (' ' :: rest) := by
  rintro c ⟨⟩
  exact .inl rfl

theorem Ends.stop {p : Char → Bool} {rest : Text} (ends : Ends rest) (blank : p ' ' = false)
    (bracket : p ')' = false) : ∀ c ∈ rest.head?, p c = false := by
  intro c head
  rcases ends c head with rfl | rfl
  · exact blank
  · exact bracket

theorem oneOf?_eq_none {words : List Text} {t : Text}
    (apart : ∀ word ∈ words, ∃ c, word.head? = some c ∧ t.head? ≠ some c) :
    oneOf? words t = none := by
  refine List.findSome?_eq_none_iff.2 fun word member => ?_
  obtain ⟨c, first, other⟩ := apart word member
  rw [Text.isPrefixOf?_eq_none first other, Option.map_none]

theorem operator?_symbol {symbol : Text} (known : IsSymbol symbol) (rest : Text) :
    operator? (symbol ++ ' ' :: rest) = some (symbol, ' ' :: rest) := by
  rcases known with word | ⟨filled, chars⟩
  · simp only [wordOperators, List.mem_cons, List.not_mem_nil, or_false] at word
    rcases word with rfl | rfl | rfl | rfl <;> rfl
  · have stop : ∀ c ∈ (' ' :: rest).head?, isOperatorChar c = false := by
      rintro c ⟨⟩
      decide
    rw [operator?, Text.takeWhile_append_of_head? chars stop,
      Text.dropWhile_append_of_head? chars stop, if_neg filled]

variable {bound : Nat → Option Json} {name column rest : Text} {n : Nat}

theorem comparison?_none {symbol : Text} {v : Json} (known : IsSymbol symbol)
    (binds : bound n = some v) (ends : Ends rest) :
    comparison? bound column (symbol ++ ' ' :: ('$' :: Nat.toDigits 10 n ++ rest)) =
      some (.compare column symbol v none, rest) := by
  have blank : ∀ t : Text, [' '].isPrefixOf? (' ' :: t) = some t := Text.isPrefixOf?_append [' ']
  have plain : ("::" : Text).isPrefixOf? rest = none :=
    Text.isPrefixOf?_eq_none (c := ':') rfl fun head => by simpa using ends _ head
  simp only [comparison?, operator?_symbol known, blank, Option.bind_eq_bind, Option.bind_some,
    value?_placeholder binds (ends.stop rfl rfl), plain]

theorem comparison?_cast {symbol cast : Text} {v : Json} (known : IsSymbol symbol)
    (casts : IsName cast) (binds : bound n = some v) (ends : Ends rest) :
    comparison? bound column
        (symbol ++ ' ' :: ('$' :: Nat.toDigits 10 n ++ (("::" : Text) ++ (cast ++ rest)))) =
      some (.compare column symbol v (some cast), rest) := by
  have blank : ∀ t : Text, [' '].isPrefixOf? (' ' :: t) = some t := Text.isPrefixOf?_append [' ']
  have read : value? bound ('$' :: Nat.toDigits 10 n ++ (("::" : Text) ++ (cast ++ rest))) =
      some (v, ("::" : Text) ++ (cast ++ rest)) :=
    value?_placeholder binds (by rintro c ⟨⟩; rfl)
  simp only [comparison?, operator?_symbol known, blank, Option.bind_eq_bind, Option.bind_some,
    read, Text.isPrefixOf?_append, name?_append casts.1 casts.2 (ends.stop rfl rfl),
    Option.map_some]

theorem search?_symbol {symbol : Text} (known : IsSymbol symbol) (t : Text) :
    search? bound column (symbol ++ ' ' :: '$' :: t) = none := by
  unfold search?
  cases found : ("@@ " : Text).isPrefixOf? (symbol ++ ' ' :: '$' :: t) with
  | none => rfl
  | some more =>
    -- the two ways to read the text have the same operator, so that the placeholder follows it
    have symbolic : IsSymbol ("@@" : Text) := by decide
    have same : symbol ++ ' ' :: '$' :: t = ("@@" : Text) ++ ' ' :: more :=
      (Text.isPrefixOf?_eq_some.1 found).trans rfl
    have written := operator?_symbol known ('$' :: t)
    rw [same, operator?_symbol symbolic more] at written
    obtain ⟨-, rfl⟩ : ("@@" : Text) = symbol ∧ more = '$' :: t := by simpa using written
    rfl

theorem tests_symbol {symbol : Text} (known : IsSymbol symbol) (t : Text) :
    oneOf? wordTests (symbol ++ ' ' :: t) = none := by
  rcases known with word | ⟨filled, chars⟩
  · simp only [wordOperators, List.mem_cons, List.not_mem_nil, or_false] at word
    rcases word with rfl | rfl | rfl | rfl <;> rfl
  · obtain ⟨d, symbol, rfl⟩ := List.exists_cons_of_ne_nil filled
    have operator := chars d List.mem_cons_self
    have heads : ∀ word ∈ wordTests, ∃ c, word.head? = some c ∧ isOperatorChar c = false := by
      simp only [wordTests, List.forall_mem_cons]
      exact ⟨⟨'I', rfl, rfl⟩, ⟨'I', rfl, rfl⟩, ⟨'N', rfl, rfl⟩, ⟨'I', rfl, rfl⟩, by simp⟩
    refine oneOf?_eq_none fun word member => ?_
    obtain ⟨c, first, letter⟩ := heads word member
    refine ⟨c, first, ?_⟩
    rintro ⟨⟩
    cases letter.symm.trans operator

theorem test?_comparison {symbol : Text} (known : IsSymbol symbol) (t : Text) :
    test? bound column (symbol ++ ' ' :: '$' :: t) =
      comparison? bound column (symbol ++ ' ' :: '$' :: t) := by
  rw [test?, tests_symbol known, search?_symbol known]
  rfl

/-- A cast behind a placeholder. -/
def suffix : Option Text → Text
  | some cast => "::" ++ cast
  | none => []

theorem test?_compare {symbol : Text} {v : Json} {cast : Option Text} (known : IsSymbol symbol)
    (casts : ∀ c ∈ cast, IsName c) (binds : bound n = some v) (ends : Ends rest) :
    test? bound column (symbol ++ ' ' :: '$' :: (Nat.toDigits 10 n ++
        (suffix cast ++ rest))) =
      some (.compare column symbol v cast, rest) := by
  rw [test?_comparison known]
  cases cast with
  | none => exact comparison?_none known binds ends
  | some cast =>
    rw [suffix, List.append_assoc]
    exact comparison?_cast known (casts cast rfl) binds ends

theorem test?_state {keyword : Text} (known : keyword ∈ keywords) (negated : Bool) (rest : Text) :
    test? bound column
        ((if negated then "IS NOT " else "IS " : Text) ++ (keyword ++ rest)) =
      some (.state column keyword negated, rest) := by
  simp only [keywords, List.mem_cons, List.not_mem_nil, or_false] at known
  cases negated <;> rcases known with rfl | rfl | rfl | rfl <;> rfl

/-- Values are bound to the numbers from `n` on. -/
def Binds (bound : Nat → Option Json) (n : Nat) (values : List Json) : Prop :=
  ∀ i < values.length, bound (n + i) = values[i]?

namespace Binds

theorem append {values more : List Json} (binds : Binds bound n (values ++ more)) :
    Binds bound n values ∧ Binds bound (n + values.length) more := by
  constructor
  · intro i within
    rw [binds i (by simp; omega), List.getElem?_append_left within]
  · intro i within
    rw [Nat.add_assoc, binds (values.length + i) (by simp; omega),
      List.getElem?_append_right (by omega), Nat.add_sub_cancel_left]

theorem cons {v : Json} {values : List Json} (binds : Binds bound n (v :: values)) :
    bound n = some v ∧ Binds bound (n + 1) values := by
  have split : Binds bound n ([v] ++ values) := binds
  obtain ⟨first, later⟩ := split.append
  exact ⟨first 0 (by simp), later⟩

end Binds

theorem among?_bracketed {values : List Json} (filled : values ≠ []) (binds : Binds bound n values)
    (negated : Bool) (rest : Text) :
    among? bound column negated
        (Text.join ", " (Template.texts n (values.map fun v => [.value v])) ++ ')' :: rest) =
      some (.among column values negated, rest) := by
  have each : List.Forall₂ (fun t v => ∀ rest, (∀ c ∈ rest.head?, c.isDigit = false) →
        value? bound (t ++ rest) = some (v, rest))
      (Template.texts n (values.map fun v => [.value v])) values := by
    clear filled
    induction values generalizing n with
    | nil => exact .nil
    | cons v values ih =>
      obtain ⟨first, later⟩ := binds.cons
      refine .cons (fun rest stop => ?_) (ih later)
      rw [Template.text_value, Template.text_nil, List.append_nil]
      exact value?_placeholder first stop
  have read : chain ", " (value? bound) (Text.join ", " (Template.texts n
      (values.map fun v => [.value v])) ++ ')' :: rest) = some (values, ')' :: rest) := by
    refine chain_join _ (by decide) each ?_ ?_
      (Text.isPrefixOf?_eq_none (c := ',') rfl (by simp)) ?_
    · rintro more c ⟨⟩
      rfl
    · rintro c ⟨⟩
      rfl
    · rwa [ne_eq, Template.texts_eq_nil_iff, List.map_eq_nil_iff]
  rw [among?, read]
  rfl

theorem test?_among {values : List Json} (filled : values ≠ []) (binds : Binds bound n values)
    (negated : Bool) (rest : Text) :
    test? bound column ((if negated then "NOT IN (" else "IN (" : Text) ++
        (Text.join ", " (Template.texts n (values.map fun v => [.value v])) ++ ')' :: rest)) =
      some (.among column values negated, rest) := by
  cases negated with
  | true => exact among?_bracketed filled binds true rest
  | false => exact among?_bracketed filled binds false rest

theorem test?_search (kind : SearchKind) {config : Text} {query : Json}
    (binds : Binds bound n [.str config, query]) (rest : Text) :
    test? bound column (("@@ " : Text) ++ (kind.function ++ '(' ::
        ('$' :: Nat.toDigits 10 n ++ (("::regconfig, " : Text) ++
          ('$' :: Nat.toDigits 10 (n + 1) ++ ')' :: rest))))) =
      some (.search column kind.function config query, rest) := by
  obtain ⟨first, later⟩ := binds.cons
  obtain ⟨second, -⟩ := later.cons
  have named : IsName kind.function := by cases kind <;> decide
  have wordless : ∀ t, oneOf? wordTests (("@@ " : Text) ++ t) = none := fun t => rfl
  have called : ∀ t, name? (kind.function ++ '(' :: t) = some (kind.function, '(' :: t) :=
    fun t => name?_append named.1 named.2 (by rintro c ⟨⟩; rfl)
  have opening : ∀ t : Text, ['('].isPrefixOf? ('(' :: t) = some t := Text.isPrefixOf?_append ['(']
  have closing : ∀ t : Text, [')'].isPrefixOf? (')' :: t) = some t := Text.isPrefixOf?_append [')']
  have configured : ∀ t, value? bound ('$' :: Nat.toDigits 10 n ++
      (("::regconfig, " : Text) ++ t)) = some (.str config, ("::regconfig, " : Text) ++ t) :=
    fun t => value?_placeholder first (by rintro c ⟨⟩; rfl)
  have queried : ∀ t, value? bound ('$' :: Nat.toDigits 10 (n + 1) ++ ')' :: t) =
      some (query, ')' :: t) :=
    fun t => value?_placeholder second (by rintro c ⟨⟩; rfl)
  simp only [test?, wordless, search?, Text.isPrefixOf?_append, called, opening, configured,
    queried, closing, Option.bind_eq_bind, Option.bind_some, Option.some_or]

/-! Operands -/

theorem atom?_of_test {name t : Text} {p : Predicate} (quoted : Ident.quote name = .ok column)
    (test : test? bound column t = some (p, rest)) :
    atom? bound (column ++ ' ' :: t) = some (p, rest) := by
  rw [atom?, column?_quote quoted]
  exact test

theorem atom?_word {c : Char} (word rest : Text) (first : word.head? = some c) (other : c ≠ '"') :
    atom? bound (word ++ rest) = (oneOf? ["TRUE", "FALSE"] (word ++ rest)).map fun (word, rest) =>
      (if word = "TRUE" then .always else .never, rest) := by
  have bare : part? (word ++ rest) = none := by
    cases word with
    | nil => cases first
    | cons d word =>
      cases first
      exact part?.eq_2 _ fun _ quote => other (List.cons.inj quote).1
  rw [atom?, column?, chain, bare]
  rfl

/-- The text is read as the operand, whatever stands behind it. -/
def Reads (bound : Nat → Option Json) (t : Text) (p : Predicate) : Prop :=
  ∀ depth, t.length ≤ depth → ∀ rest, Ends rest →
    operand? bound depth (t ++ rest) = some (p, rest)

/-- The text is read as the condition, up to its end or to a closing bracket. -/
def ReadsAll (bound : Nat → Option Json) (t : Text) (groups : List (List Predicate)) : Prop :=
  ∀ depth, t.length ≤ depth → ∀ rest, (∀ c ∈ rest.head?, c = ')') →
    chain " OR " (chain " AND " (operand? bound depth)) (t ++ rest) = some (groups, rest)

variable {t : Text} {p : Predicate} {groups : List (List Predicate)}

theorem Reads.of_atom {c : Char} (first : t.head? = some c) (letter : c ≠ 'N') (bare : c ≠ '(')
    (read : ∀ rest, Ends rest → atom? bound (t ++ rest) = some (p, rest)) : Reads bound t p := by
  obtain ⟨d, t, rfl⟩ : ∃ d u, t = d :: u := by
    cases t with
    | nil => cases first
    | cons d t => exact ⟨d, t, rfl⟩
  cases first
  intro depth enough rest ends
  cases depth with
  | zero => simp at enough
  | succ depth =>
    have other : ("NOT " : Text).isPrefixOf? (c :: t ++ rest) = none :=
      Text.isPrefixOf?_eq_none (c := 'N') rfl (by simpa using letter)
    rw [operand?, other]
    · exact read rest ends
    · exact fun _ opens => bare (List.cons.inj opens).1

theorem Reads.of_test {name : Text} (quoted : Ident.quote name = .ok column)
    (test : ∀ rest, Ends rest → test? bound column (t ++ rest) = some (p, rest)) :
    Reads bound (column ++ ' ' :: t) p := by
  have first : (column ++ ' ' :: t).head? = some '"' := by
    rw [List.head?_append, head?_quote quoted]
    rfl
  refine .of_atom first (by decide) (by decide) fun rest ends => ?_
  rw [List.append_assoc, List.cons_append]
  exact atom?_of_test quoted (test rest ends)

theorem Reads.always : Reads bound "TRUE" .always := by
  refine .of_atom (c := 'T') rfl (by decide) (by decide) fun rest _ => ?_
  rw [atom?_word "TRUE" rest (c := 'T') rfl (by decide)]
  rfl

theorem Reads.never : Reads bound "FALSE" .never := by
  refine .of_atom (c := 'F') rfl (by decide) (by decide) fun rest _ => ?_
  rw [atom?_word "FALSE" rest (c := 'F') rfl (by decide)]
  rfl

theorem Reads.bracketed (reads : ReadsAll bound t groups) :
    Reads bound (Predicate.bracketed t) (someOf groups) := by
  intro depth enough rest ends
  cases depth with
  | zero => simp [Predicate.bracketed] at enough
  | succ depth =>
    have inner := reads depth (by simp [Predicate.bracketed] at enough; omega) (')' :: rest)
      (by rintro c ⟨⟩; rfl)
    have spelled : Predicate.bracketed t ++ rest = '(' :: (t ++ ')' :: rest) := by
      simp [Predicate.bracketed]
    have other : ("NOT " : Text).isPrefixOf? ('(' :: (t ++ ')' :: rest)) = none := rfl
    rw [spelled, operand?, other]
    simp only [inner]

theorem Reads.not (reads : Reads bound t p) : Reads bound ("NOT " ++ t) (.not p) := by
  intro depth enough rest ends
  cases depth with
  | zero => simp at enough
  | succ depth =>
    have inner := reads depth (by simp at enough; omega) rest ends
    rw [List.append_assoc, operand?, Text.isPrefixOf?_append]
    · simp only [inner, Option.map_some]
    · rintro more ⟨⟩

theorem reads_within {texts : List Text} {items : List Predicate} {depth : Nat}
    (each : List.Forall₂ (Reads bound) texts items) (short : ∀ t ∈ texts, t.length ≤ depth) :
    List.Forall₂ (fun t p => ∀ rest, Ends rest →
      operand? bound depth (t ++ rest) = some (p, rest)) texts items := by
  induction each with
  | nil => exact .nil
  | cons first _ ih =>
    obtain ⟨enough, later⟩ := List.forall_mem_cons.1 short
    exact .cons (first depth enough) (ih later)

theorem ends_of_closes (closes : ∀ c ∈ rest.head?, c = ')') : Ends rest :=
  fun c head => .inr (closes c head)

theorem stop_of_closes {sep : Text} (blank : sep.head? = some ' ')
    (closes : ∀ c ∈ rest.head?, c = ')') : sep.isPrefixOf? rest = none :=
  Text.isPrefixOf?_eq_none blank fun head => by simpa using closes _ head

theorem ReadsAll.all {texts : List Text} {items : List Predicate} (any : texts ≠ [])
    (each : List.Forall₂ (Reads bound) texts items) :
    ReadsAll bound (Text.join " AND " texts) [items] := by
  intro depth enough rest closes
  have short : ∀ t ∈ texts, t.length ≤ depth :=
    fun t member => (Text.length_le_join member).trans enough
  refine chain_last ?_ (stop_of_closes rfl closes)
  exact chain_join Ends (by decide) (reads_within each short) (fun _ => .blank _)
    (ends_of_closes closes) (stop_of_closes rfl closes) any

theorem ReadsAll.any {texts : List Text} {items : List Predicate} (any : texts ≠ [])
    (each : List.Forall₂ (Reads bound) texts items) :
    ReadsAll bound (Text.join " OR " texts) (items.map fun p => [p]) := by
  intro depth enough rest closes
  have short : ∀ t ∈ texts, t.length ≤ depth :=
    fun t member => (Text.length_le_join member).trans enough
  -- an operand is a chain of one where no AND follows it
  refine chain_join (fun rest => Ends rest ∧ (" AND " : Text).isPrefixOf? rest = none) (by decide)
    ?_ (fun _ => ⟨.blank _, rfl⟩) ⟨ends_of_closes closes, stop_of_closes rfl closes⟩
    (stop_of_closes rfl closes) any
  rw [List.forall₂_map_right_iff]
  exact (reads_within each short).imp fun t p read rest follows =>
    chain_last (read rest follows.1) follows.2

theorem ReadsAll.single (reads : Reads bound t p) : ReadsAll bound t [[p]] := by
  have alone : List.Forall₂ (Reads bound) [t] [p] := .cons reads .nil
  exact ReadsAll.all (by simp) alone

/-- A text that is read as a condition up to its end is read as a whole. -/
theorem ReadsAll.read? (reads : ReadsAll bound t groups) :
    read? bound t = some (someOf groups) := by
  have whole := reads t.length (Nat.le_refl _) [] (fun _ head => nomatch head)
  rw [List.append_nil] at whole
  rw [Condition.read?, whole]

end Sql.Condition

end FluentQuery

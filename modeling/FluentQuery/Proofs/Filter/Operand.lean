import FluentQuery.Filter
import FluentQuery.Proofs.Text.TopLevel
import FluentQuery.Text.Word

/-! Operators and operands as the filter grammar writes them. The names are those of the tables, a
text search perhaps with a word in brackets; the operands are lists of bare values, the words of
`is`, and bare values. Each is read as what was written, and leaves the list around it whole. -/
namespace FluentQuery

/-! Operators -/

namespace Operator

/-- The names of an operator in the filter grammar. -/
inductive Spelled : Text → Operator → Prop where
  | plain {name : Text} {op : Operator} (listed : (name, op) ∈ plainNames) : Spelled name op
  | search {name : Text} {kind : SearchKind} (listed : (name, kind) ∈ searchNames) :
      Spelled name (.search kind none)
  | configured {name word : Text} {kind : SearchKind} (listed : (name, kind) ∈ searchNames)
      (isWord : Text.isWord word = true) :
      Spelled (name ++ '(' :: word ++ [')']) (.search kind (some word))

/-- What no name of an operator holds. -/
def strange : List Char := '.' :: Text.structural

theorem notMem_of_isWord {word : Text} (isWord : Text.isWord word = true) :
    ∀ c ∈ word, c ∉ strange := by
  have each : ∀ d ∈ strange, Text.isWordChar d = false := by decide
  simp only [Text.isWord, Bool.and_eq_true, List.all_eq_true] at isWord
  intro c member special
  cases (isWord.2 c member).symm.trans (each c special)

theorem notMem_plainNames : ∀ pair ∈ plainNames, ∀ c ∈ pair.1, c ∉ strange := by
  decide

theorem notMem_searchNames : ∀ pair ∈ searchNames, ∀ c ∈ pair.1, c ∉ strange := by
  decide

namespace Spelled

variable {name : Text} {op : Operator}

theorem parse?_eq (spelled : Spelled name op) : parse? name = some op := by
  cases spelled with
  | plain listed =>
    have each : ∀ pair ∈ plainNames, parse? pair.1 = some pair.2 := by decide
    exact each _ listed
  | search listed =>
    have each : ∀ pair ∈ searchNames, parse? pair.1 = some (.search pair.2 none) := by decide
    exact each _ listed
  | @configured name word kind listed isWord =>
    have unopened : '(' ∉ name :=
      fun member => notMem_searchNames _ listed _ member (by decide)
    have found : searchNames.lookup name = some kind := by
      have each : ∀ pair ∈ searchNames, searchNames.lookup pair.1 = some pair.2 := by decide
      exact each _ listed
    rw [parse?, List.append_assoc, List.cons_append, Text.cut?_append _ unopened]
    simp only [Text.dropEnd?_eq_some.2 (rfl : word ++ [')'] = _), found]
    rfl

theorem dotless (spelled : Spelled name op) : '.' ∉ name := by
  intro member
  cases spelled with
  | plain listed => exact notMem_plainNames _ listed _ member (by decide)
  | search listed => exact notMem_searchNames _ listed _ member (by decide)
  | configured listed isWord =>
    simp only [List.append_assoc, List.cons_append, List.mem_append, List.mem_cons] at member
    obtain named | ⟨⟨⟩⟩ | inside | ⟨⟨⟩⟩ | ⟨⟨⟩⟩ := member
    · exact notMem_searchNames _ listed _ named (by decide)
    · exact notMem_of_isWord isWord _ inside (by decide)

theorem closed (spelled : Spelled name op) : Text.Closed name := by
  have flat {t : Text} (plain : ∀ c ∈ t, c ∉ strange) : Text.Closed t :=
    .of_flat fun c member special => plain c member (List.mem_cons_of_mem _ special)
  cases spelled with
  | plain listed => exact flat (notMem_plainNames _ listed)
  | search listed => exact flat (notMem_searchNames _ listed)
  | configured listed isWord =>
    rw [List.append_assoc]
    exact (flat (notMem_searchNames _ listed)).append
      ((flat (notMem_of_isWord isWord)).enclosed.bracket (by decide) (by decide))

end Spelled

end Operator

/-! Operands -/

namespace Operand

/-- A value that needs no quotes. -/
structure Bare (t : Text) : Prop where
  flat : ∀ c ∈ t, c ∉ Text.structural
  trimmed : Text.Trimmed t

namespace Bare

variable {t : Text}

theorem closed (bare : Bare t) : Text.Closed t := .of_flat bare.flat

theorem between?_eq_none (bare : Bare t) {opening closing : Char}
    (special : opening ∈ Text.structural) : Text.between? [opening] closing t = none := by
  rw [Option.eq_none_iff_forall_ne_some]
  intro inner enclosed
  rw [Text.between?_eq_some.1 enclosed] at bare
  exact bare.flat opening (by simp) special

theorem unquote_eq (bare : Bare t) : unquote t = t := by
  rw [unquote, Text.trim_eq_self bare.trimmed, bare.between?_eq_none (by decide)]

end Bare

/-- The values of a list, each of them bare and none of them empty. -/
def BareList (values : List Text) : Prop :=
  ∀ v ∈ values, Bare v ∧ v ≠ []

theorem BareList.closed {values : List Text} (bare : BareList values) :
    ∀ v ∈ values, Text.Closed v :=
  fun v member => (bare v member).1.closed

theorem BareList.items_eq {values : List Text} (bare : BareList values) :
    items (Text.join [','] values) = values.map .str := by
  rw [items, Text.splitTopLevel_join bare.closed (fun v member => (bare v member).1.trimmed)
    fun v member => (bare v member).2]
  refine List.map_congr_left fun v member => ?_
  rw [(bare v member).1.unquote_eq]

theorem BareList.unquoted {values : List Text} (bare : BareList values) :
    '"' ∉ Text.join [','] values := by
  intro member
  obtain comma | ⟨v, among, inside⟩ := Text.mem_join member
  · simp at comma
  · exact (bare v among).1.flat _ inside (by decide)

/-! Containers -/

/-- The operators that compare with a whole array. -/
def containers : List Operator := [.contains, .containedBy, .overlaps]

theorem parse_of_container {op : Operator} (container_ : op ∈ containers) (raw : Text) :
    parse op raw = .ok (container (Text.trim raw)) := by
  simp only [containers, List.mem_cons, List.not_mem_nil, or_false] at container_
  obtain rfl | rfl | rfl := container_ <;> rfl

/-- Without brackets and quotes nothing is tried as JSON. -/
theorem container_eq {raw : Text} (listless : raw.head? ≠ some '[') (unquoted : '"' ∉ raw) :
    container raw =
      match (Text.between? ['\x7b'] '\x7d' raw).or (Text.between? ['('] ')' raw) with
      | some inner => .arr (items inner)
      | none => .str (unquote raw) := by
  have textual : ¬ (raw.head? = some '[' ∨ raw.take 2 = ['\x7b', '"']) := by
    rintro (opened | quoted)
    · exact listless opened
    · exact unquoted (List.mem_of_mem_take (quoted ▸ List.mem_cons_of_mem _ List.mem_cons_self))
  cases found : (Text.between? ['\x7b'] '\x7d' raw).or (Text.between? ['('] ')' raw) <;>
    simp only [container, if_neg textual, found]

theorem container_of_braced {values : List Text} (bare : BareList values) :
    container ('\x7b' :: Text.join [','] values ++ ['\x7d']) = .arr (values.map .str) := by
  have unquoted : '"' ∉ '\x7b' :: Text.join [','] values ++ ['\x7d'] := by
    simp [bare.unquoted]
  have enclosed : Text.between? ['\x7b'] '\x7d' ('\x7b' :: Text.join [','] values ++ ['\x7d']) =
      some (Text.join [','] values) :=
    Text.between?_eq_some.2 rfl
  rw [container_eq (by simp) unquoted, enclosed]
  exact congrArg Json.arr bare.items_eq

theorem container_of_bare {t : Text} (bare : Bare t) : container t = .str t := by
  have absent {c : Char} (special : c ∈ Text.structural) : c ∉ t :=
    fun member => bare.flat c member special
  have listless : t.head? ≠ some '[' :=
    fun first => absent (by decide) (List.mem_of_mem_head? first)
  rw [container_eq listless (absent (by decide)), bare.between?_eq_none (by decide),
    bare.between?_eq_none (by decide), Option.or_none]
  exact congrArg Json.str bare.unquote_eq

/-! Written values -/

/-- The ways to write a value for an operator. -/
inductive Written : Operator → Text → Json → Prop where
  | list {values : List Text} (bare : BareList values) :
      Written .among ('(' :: Text.join [','] values ++ [')']) (.arr (values.map .str))
  | braced {op : Operator} {values : List Text} (container : op ∈ containers)
      (bare : BareList values) :
      Written op ('\x7b' :: Text.join [','] values ++ ['\x7d']) (.arr (values.map .str))
  | word {t : Text} (known : t ∈ (["null", "true", "false", "unknown"] : List Text)) :
      Written .is t (.str t)
  | pattern {op : Operator} {t : Text} (matches_ : op ∈ [.like, .ilike]) (bare : Bare t) :
      Written op t (.str (t.map fun c => if c = '*' then '%' else c))
  | bare {op : Operator} {t : Text} (other : op ∉ [.among, .is, .like, .ilike]) (bare : Bare t) :
      Written op t (.str t)

namespace Written

variable {op : Operator} {raw : Text} {value : Json}

theorem bare_word {t : Text} (known : t ∈ (["null", "true", "false", "unknown"] : List Text)) :
    Bare t := by
  have each : ∀ t ∈ (["null", "true", "false", "unknown"] : List Text),
      (∀ c ∈ t, c ∉ Text.structural) ∧ Text.Trimmed t := by decide
  exact ⟨(each t known).1, (each t known).2⟩

theorem trimmed (written : Written op raw value) : Text.Trimmed raw := by
  cases written with
  | list | braced => exact .of_ends (by rfl) List.getLast?_concat rfl rfl
  | word known => exact (bare_word known).trimmed
  | pattern _ bare | bare _ bare => exact bare.trimmed

theorem closed (written : Written op raw value) : Text.Closed raw := by
  cases written with
  | list bare | braced _ bare =>
    exact (Text.Enclosed.join bare.closed).bracket (by decide) (by decide)
  | word known => exact (bare_word known).closed
  | pattern _ bare | bare _ bare => exact bare.closed

/-- What is written is read back. -/
theorem parse_eq (written : Written op raw value) : parse op raw = .ok value := by
  have whole := Text.trim_eq_self written.trimmed
  cases written with
  | @list values bare =>
    have enclosed : Text.between? ['('] ')' ('(' :: Text.join [','] values ++ [')']) =
        some (Text.join [','] values) :=
      Text.between?_eq_some.2 rfl
    simp only [parse, whole, enclosed, bare.items_eq]
  | braced container bare => rw [parse_of_container container, whole, container_of_braced bare]
  | word known => simp only [parse, whole, (bare_word known).unquote_eq]
  | pattern matches_ bare =>
    simp only [List.mem_cons, List.not_mem_nil, or_false] at matches_
    obtain rfl | rfl := matches_ <;> simp only [parse, whole, bare.unquote_eq]
  | bare other bare =>
    by_cases container : op ∈ containers
    · rw [parse_of_container container, whole, container_of_bare bare]
    · cases op with
      | among | is | like | ilike => simp at other
      | contains | containedBy | overlaps => simp [containers] at container
      | _ => simp only [parse, whole, bare.unquote_eq]

end Written

end Operand

end FluentQuery

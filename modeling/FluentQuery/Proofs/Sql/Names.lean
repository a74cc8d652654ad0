import FluentQuery.Proofs.Projection
import FluentQuery.Proofs.Sql.Scan

/-! Names in SQL. What is read as an identifier holds no NUL and is written as a fragment without
placeholders; so are plain columns with their casts and labels, and the select lists made of them,
whatever columns references need besides. -/
namespace FluentQuery

/-! Identifiers -/

namespace Ident

theorem subset_of_quotedPart? {t name after : Text} (read : quotedPart? t = some (name, after)) :
    name ⊆ t ∧ after ⊆ t := by
  fun_induction quotedPart? t generalizing name with
  | case1 => cases read
  | case2 rest ih =>
    obtain ⟨⟨inner, tail⟩, later, same⟩ := Option.map_eq_some_iff.1 read
    obtain ⟨rfl, rfl⟩ := Prod.mk.inj same
    obtain ⟨named, left⟩ := ih later
    exact ⟨List.cons_subset_cons _ (List.subset_cons_of_subset _ named),
      List.subset_cons_of_subset _ (List.subset_cons_of_subset _ left)⟩
  | case3 rest =>
    cases read
    exact ⟨List.nil_subset _, List.subset_cons_self _ _⟩
  | case4 c rest _ _ ih =>
    obtain ⟨⟨inner, tail⟩, later, same⟩ := Option.map_eq_some_iff.1 read
    obtain ⟨rfl, rfl⟩ := Prod.mk.inj same
    obtain ⟨named, left⟩ := ih later
    exact ⟨List.cons_subset_cons _ named, List.subset_cons_of_subset _ left⟩

theorem subset_of_part {whole t name after : Text} (read : part whole t = .ok (name, after)) :
    name ⊆ t ∧ after ⊆ t := by
  unfold part at read
  split at read
  · split at read
    · cases read
    · cases read
    · next quoted =>
      cases read
      obtain ⟨named, left⟩ := subset_of_quotedPart? quoted
      exact ⟨List.subset_cons_of_subset _ named, List.subset_cons_of_subset _ left⟩
  · split at read
    · cases read
    · next taken =>
      split at read
      · cases read
      · split at read
        · cases read
        · cases read
          rw [← taken]
          exact ⟨(List.takeWhile_prefix _).subset, (List.dropWhile_suffix _).subset⟩

/-- An identifier is one part, or a part with a dot and an identifier behind it. -/
theorem cases_of_partsFrom {whole rest : Text} {names : List Text}
    (read : partsFrom whole rest = .ok names) :
    ∃ name after, part whole rest = .ok (name, after) ∧
      (after = [] ∧ names = [name] ∨ ∃ next more, after = '.' :: next ∧
        partsFrom whole next = .ok more ∧ names = name :: more) := by
  rw [partsFrom] at read
  split at read
  · cases read
  · next first =>
    cases read
    exact ⟨_, _, first, .inl ⟨rfl, rfl⟩⟩
  · next name c next first =>
    split at read
    · cases read
    · next dot =>
      obtain rfl := Decidable.not_not.1 dot
      split at read
      · cases read
      · split at read
        · cases read
        · next more later =>
          cases read
          exact ⟨_, _, first, .inr ⟨_, _, rfl, later, rfl⟩⟩

/-- The parts of an identifier consist of characters of its text. -/
theorem subset_of_partsFrom {whole rest : Text} {names : List Text}
    (read : partsFrom whole rest = .ok names) : ∀ name ∈ names, name ⊆ rest := by
  induction names generalizing rest with
  | nil => exact fun _ member => nomatch member
  | cons name more ih =>
    obtain ⟨_, after, first, ⟨-, alone⟩ | ⟨next, _, rfl, later, same⟩⟩ :=
      cases_of_partsFrom read
    · obtain ⟨rfl, rfl⟩ := List.cons.inj alone
      exact List.forall_mem_singleton.2 (subset_of_part first).1
    · obtain ⟨rfl, rfl⟩ := List.cons.inj same
      obtain ⟨named, left⟩ := subset_of_part first
      refine List.forall_mem_cons.2 ⟨named, fun part member => ?_⟩
      exact List.Subset.trans (ih later part member)
        (List.Subset.trans (List.subset_cons_self _ _) left)

theorem noNul_of_parse {t : Text} {i : Ident} (parsed : parse t = .ok i) :
    ∀ part ∈ i.parts, Char.ofNat 0 ∉ part := by
  unfold parse at parsed
  split at parsed
  · cases parsed
  · split at parsed
    · cases parsed
    · next clean =>
      obtain ⟨names, read, rfl⟩ := map_eq_ok_iff.1 parsed
      exact fun part member nul => clean (subset_of_partsFrom read part member nul)

/-- Parts without NUL are written as a fragment. -/
theorem fragment_sql {parts : List Text} (noNul : ∀ part ∈ parts, Char.ofNat 0 ∉ part) :
    Sql.Fragment false (sql ⟨parts⟩) [] := by
  refine .join (by decide) fun t member => ?_
  obtain ⟨part, among, rfl⟩ := List.mem_map.1 member
  exact .quotePart (noNul part among)

theorem fragment_quote {t sql : Text} (quoted : quote t = .ok sql) : Sql.Fragment false sql [] := by
  obtain ⟨i, parsed, rfl⟩ := map_eq_ok_iff.1 quoted
  exact fragment_sql (noNul_of_parse parsed)

theorem noNul_name {t : Text} {i : Ident} (parsed : parse t = .ok i) : Char.ofNat 0 ∉ i.name := by
  unfold name
  cases last : i.parts.getLast? with
  | none => simp
  | some part => exact noNul_of_parse parsed part (List.mem_of_getLast? last)

end Ident

/-! Select lists -/

theorem Text.plain_of_isWordChar {c : Char} (word : isWordChar c = true) :
    Sql.isPlain c = true ∧ c ≠ ' ' := by
  have none : ∀ d ∈ ' ' :: '"' :: '$' :: Sql.forbidden,
      d.toNat < 0x80 ∧ isAsciiWord d = false := by decide
  have other : c ∉ ' ' :: '"' :: '$' :: Sql.forbidden := by
    intro among
    obtain ⟨ascii, stranger⟩ := none c among
    rw [isWordChar_of_ascii ascii, stranger] at word
    cases word
  obtain ⟨single, plain⟩ := not_or.1 (List.mem_cons.not.1 other)
  exact ⟨Sql.isPlain_iff.2 plain, single⟩

theorem Text.isWord_plain {t : Text} (word : isWord t = true) : Sql.IsWord t := by
  simp only [isWord, Bool.and_eq_true, List.all_eq_true] at word
  exact fun c member => plain_of_isWordChar (word.2 c member)

namespace Column

theorem isWord_cast {t : Text} (cast : isCast t = true) : Sql.IsWord t := by
  unfold isCast at cast
  split at cast
  · next rest closed =>
    split at cast
    · next word opened =>
      rw [Text.dropEnd?_eq_some] at closed opened
      subst closed opened
      have brackets : Sql.IsWord ['[', ']'] := by
        unfold Sql.IsWord
        decide
      rw [List.append_assoc]
      exact (Text.isWord_plain cast).append brackets
    · cases cast
  · exact Text.isWord_plain cast

theorem fragment_suffix {c : Option Text} :
    (∀ cast ∈ c, isCast cast = true) → Sql.Fragment false (match c with
      | some c => "::" ++ c
      | none => []) [] ∧ Sql.Apart (match c with
      | some c => "::" ++ c
      | none => []) := by
  intro casts
  cases c with
  | none => exact ⟨.nil, .nil⟩
  | some c =>
    exact ⟨.plain (isWord_cast (casts c rfl)).cast, (Sql.Opens.before (by decide) c).apart⟩

theorem fragment_label {sql name : Text} (base : Sql.Fragment false sql [])
    (noNul : Char.ofNat 0 ∉ name) (renamed : Bool) :
    Sql.Fragment false (sql ++ if renamed then " AS " ++ Ident.quotePart name else []) [] := by
  cases renamed with
  | false => simpa using base
  | true =>
    rw [if_pos rfl, ← List.append_assoc]
    exact base.between (by decide) (.quotePart noNul)

theorem fragment_sql {token : Text} {column : Column} (parsed : parse token = .ok column) :
    Sql.Fragment false column.sql [] := by
  unfold parse at parsed
  split at parsed
  · cases parsed
    exact .plain (by decide)
  · simp only at parsed
    split at parsed
    · cases parsed
    · next ident read =>
      split at parsed
      · cases parsed
      · next casts =>
        split at parsed
        · cases parsed
        · next labels =>
          cases parsed
          have named : Char.ofNat 0 ∉ (cutLabel token).1.getD ident.name := by
            cases label : (cutLabel token).1 with
            | none => exact Ident.noNul_name read
            | some l =>
              rw [label] at labels
              intro nul
              have plain := (Text.isWord_plain (by simpa using labels) _ nul).1
              revert plain
              decide
          have base : Sql.Fragment false ident.sql [] :=
            Ident.fragment_sql (Ident.noNul_of_parse read)
          obtain ⟨suffix, apart⟩ := fragment_suffix (c := (cutCast (cutLabel token).2).2)
            fun c member => by
              rw [member] at casts
              simpa using casts
          have cast := base.append suffix apart
          exact fragment_label cast named _

end Column

namespace Projection

variable {p : Projection}

theorem fragment_addition {o : Offer} {column : Text} {a : Addition}
    (added : addition o column = .ok a) : Sql.Fragment false a.sql [] := by
  obtain ⟨sql, written, rest⟩ := bind_eq_ok_iff.1 added
  have first : Sql.Fragment false sql [] := Ident.fragment_quote (quoted_eq_ok_iff.1 written)
  split at rest
  · obtain ⟨name, named, last⟩ := bind_eq_ok_iff.1 rest
    cases last
    exact first.between (by decide)
      (Ident.fragment_quote (quoted_eq_ok_iff.1 named))
  · cases rest
    exact first

/-- A select list is a fragment without placeholders, whatever references need. -/
theorem fragment_sql {s : Selection} {required : List Text} (made : make s required = .ok p) :
    Sql.Fragment false p.sql [] := by
  obtain ⟨columns, additions, parsed, added, rfl⟩ := make_eq_ok_iff.1 made
  refine .join (by decide) fun t member => ?_
  rcases List.mem_append.1 member with member | member
  · obtain ⟨column, among, rfl⟩ := List.mem_map.1 member
    obtain ⟨token, -, read⟩ := exists_of_mem_mapM parsed among
    exact Column.fragment_sql read
  · obtain ⟨a, among, rfl⟩ := List.mem_map.1 member
    obtain ⟨column, -, read⟩ := exists_of_mem_mapM added among
    exact fragment_addition read

end Projection

end FluentQuery

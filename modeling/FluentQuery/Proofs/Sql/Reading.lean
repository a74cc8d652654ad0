import FluentQuery.Proofs.Sql.Condition
import FluentQuery.Proofs.Sql.Names

/-! What the reader of conditions makes of the texts that conditions consist of. Each is read back
as what was written, whatever follows, as long as it does not go on with a character that could
belong to it. -/
namespace FluentQuery

namespace Text

theorem isPrefixOf?_append (t rest : Text) : t.isPrefixOf? (t ++ rest) = some rest :=
  isPrefixOf?_eq_some.2 rfl

theorem isPrefixOf?_eq_none {c : Char} {t rest : Text} (first : t.head? = some c)
    (other : rest.head? ≠ some c) : t.isPrefixOf? rest = none := by
  cases found : t.isPrefixOf? rest with
  | none => rfl
  | some more =>
    rw [isPrefixOf?_eq_some.1 found, List.head?_append, first] at other
    exact absurd rfl other

theorem length_le_join {sep t : Text} {texts : List Text} (member : t ∈ texts) :
    t.length ≤ (join sep texts).length := by
  induction texts with
  | nil => cases member
  | cons u rest ih =>
    cases rest with
    | nil =>
      obtain rfl := List.mem_singleton.1 member
      exact Nat.le_refl _
    | cons v rest =>
      rw [join_cons_cons, List.length_append, List.length_append]
      rcases List.mem_cons.1 member with rfl | later
      · omega
      · have := ih later
        omega

end Text

namespace Sql.Condition

/-! Chains -/

section

variable {α : Type} {sep : Text} {item : Text → Option (α × Text)} {a : α} {t rest more : Text}

theorem chain_last (read : item t = some (a, rest)) (stop : sep.isPrefixOf? rest = none) :
    chain sep item t = some ([a], rest) := by
  rw [chain, read]
  simp only [stop]

theorem chain_more (read : item t = some (a, sep ++ more)) (shorter : more.length < t.length) :
    chain sep item t = (chain sep item more).map fun (items, after) => (a :: items, after) := by
  rw [chain, read]
  simp only [Text.isPrefixOf?_append, if_pos shorter]

/-- Items are read one after the other if each of them is read before a separator. -/
theorem chain_join (follows : Text → Prop) {texts : List Text} {items : List α} (filled : sep ≠ [])
    (each : List.Forall₂
      (fun t a => ∀ rest, follows rest → item (t ++ rest) = some (a, rest)) texts items)
    (between : ∀ more, follows (sep ++ more)) (last : follows rest)
    (stop : sep.isPrefixOf? rest = none) (any : texts ≠ []) :
    chain sep item (Text.join sep texts ++ rest) = some (items, rest) := by
  induction each with
  | nil => exact absurd rfl any
  | @cons t a texts items first later ih =>
    cases later with
    | nil => exact chain_last (first rest last) stop
    | @cons u b texts items second later =>
      have read := first (sep ++ (Text.join sep (u :: texts) ++ rest)) (between _)
      have shorter := List.length_pos_iff.2 filled
      rw [Text.join_cons_cons, List.append_assoc, List.append_assoc, chain_more read, ih]
      · rfl
      · simp
      · simp only [List.length_append]
        omega

end

/-! Names -/

theorem quotedPart?_doubleQuotes (part : Text) {rest : Text} (apart : rest.head? ≠ some '"') :
    Ident.quotedPart? (Ident.doubleQuotes part ++ '"' :: rest) = some (part, rest) := by
  induction part with
  | nil =>
    rw [Ident.doubleQuotes, List.flatMap_nil, List.nil_append, Ident.quotedPart?]
    intro more doubled
    exact apart (by rw [doubled]; rfl)
  | cons c part ih =>
    rw [Ident.doubleQuotes, List.flatMap_cons]
    split
    · next quote =>
      subst quote
      change (Ident.quotedPart? (Ident.doubleQuotes part ++ '"' :: rest)).map _ = _
      rw [ih]
      rfl
    · next plain =>
      rw [List.append_assoc, List.singleton_append, Ident.quotedPart?]
      · change (Ident.quotedPart? (Ident.doubleQuotes part ++ '"' :: rest)).map _ = _
        rw [ih]
        rfl
      · exact fun _ quote _ => plain quote
      · exact plain

theorem parts_ne_nil {t : Text} {i : Ident} (parsed : Ident.parse t = .ok i) : i.parts ≠ [] := by
  unfold Ident.parse at parsed
  split at parsed
  · cases parsed
  · split at parsed
    · cases parsed
    · obtain ⟨names, read, rfl⟩ := map_eq_ok_iff.1 parsed
      obtain ⟨name, after, -, ⟨-, rfl⟩ | ⟨next, more, -, -, rfl⟩⟩ := Ident.cases_of_partsFrom read
      · simp
      · simp

theorem head?_quote {name column : Text} (quoted : Ident.quote name = .ok column) :
    column.head? = some '"' := by
  obtain ⟨i, parsed, rfl⟩ := map_eq_ok_iff.1 quoted
  obtain ⟨part, parts, filled⟩ := List.exists_cons_of_ne_nil (parts_ne_nil parsed)
  rw [Ident.sql, filled]
  cases parts <;> rfl

/-- The quoted parts of a name are read back where neither a quote nor a dot follows. -/
theorem chain_sql {parts : List Text} {rest : Text} (filled : parts ≠ [])
    (apart : rest.head? ≠ some '"') (last : rest.head? ≠ some '.') :
    chain ['.'] part? (Ident.sql ⟨parts⟩ ++ rest) = some (parts, rest) := by
  refine chain_join (fun rest => rest.head? ≠ some '"') (by simp) ?_ (by simp) apart
    (Text.isPrefixOf?_eq_none rfl last) (by simpa using filled)
  rw [List.forall₂_map_left_iff, List.forall₂_same]
  intro part _ rest apart
  rw [Ident.quotePart, List.cons_append, List.cons_append, List.append_assoc]
  exact quotedPart?_doubleQuotes part apart

/-- A quoted column is read back, before a blank. -/
theorem column?_quote {name column : Text} (quoted : Ident.quote name = .ok column) (rest : Text) :
    column? (column ++ ' ' :: rest) = some (column, ' ' :: rest) := by
  obtain ⟨i, parsed, rfl⟩ := map_eq_ok_iff.1 quoted
  have read : chain ['.'] part? (i.sql ++ ' ' :: rest) = some (i.parts, ' ' :: rest) :=
    chain_sql (parts_ne_nil parsed) (by simp) (by simp)
  exact congrArg (Option.map _) read

theorem name?_append {t rest : Text} (filled : t ≠ []) (word : ∀ c ∈ t, Text.isAsciiWord c = true)
    (stop : ∀ c ∈ rest.head?, Text.isAsciiWord c = false) : name? (t ++ rest) = some (t, rest) := by
  rw [name?, Text.takeWhile_append_of_head? word stop, Text.dropWhile_append_of_head? word stop,
    if_neg filled]

/-! Placeholders -/

section

variable {bound : Nat → Option Json} {n : Nat} {v : Json} {rest : Text}

theorem value?_placeholder (known : bound n = some v)
    (stop : ∀ c ∈ rest.head?, c.isDigit = false) :
    value? bound ('$' :: Nat.toDigits 10 n ++ rest) = some (v, rest) := by
  have digits : ∀ c ∈ Nat.toDigits 10 n, c.isDigit = true := fun c => isDigit_of_mem_toDigits
  rw [List.cons_append, value?, Text.takeWhile_append_of_head? digits stop,
    Text.dropWhile_append_of_head? digits stop, if_neg Nat.toDigits_ne_nil,
    Nat.ofDigitChars_ten_toDigits, known]
  rfl

end

end Sql.Condition

end FluentQuery

import FluentQuery.Filter.Set
import FluentQuery.Proofs.Filter.Operand
import FluentQuery.Proofs.Text.Blank

/-! Texts that stand for themselves. A negated filter reads a text as the filter grammar would, so
the value it compares with is the one given unless that is a text with blanks at its ends, in
quotes, with stars in a pattern, or in the form of a list or of JSON for an array. -/
namespace FluentQuery

namespace Operand

/-! What is left of a text without its quotes -/

theorem length_unescape_le (t : Text) : (unescape t).length ≤ t.length := by
  fun_induction unescape t with
  | case1 => exact Nat.le_refl 0
  | case2 c rest ih => simp only [List.length_cons]; omega
  | case3 => exact Nat.zero_le _
  | case4 c rest _ _ ih => simpa using ih

theorem unquote_trim (t : Text) : unquote (Text.trim t) = unquote t := by
  rw [unquote, unquote, Text.trim_trim]

theorem length_unquote_le (t : Text) : (unquote t).length ≤ (Text.trim t).length := by
  unfold unquote
  split
  · next inner enclosed =>
    have shorter := length_unescape_le inner
    rw [Text.between?_eq_some.1 enclosed]
    simp only [List.length_append, List.length_cons, List.length_nil]
    omega
  · exact Nat.le_refl _

/-- Quotes do not survive. -/
theorem unquoted_of_length_le {t : Text} (long : t.length ≤ (unquote t).length) :
    Text.Trimmed t ∧ Text.between? ['"'] '"' t = none := by
  have trimmed := Text.trimmed_of_length_le (Nat.le_trans long (length_unquote_le t))
  refine ⟨trimmed, Option.eq_none_iff_forall_ne_some.2 fun inner enclosed => ?_⟩
  have shorter := length_unescape_le inner
  rw [unquote, Text.trim_eq_self trimmed, enclosed, Text.between?_eq_some.1 enclosed] at long
  simp only [List.length_append, List.length_cons, List.length_nil] at long
  omega

theorem unquote_eq_self_iff {t : Text} :
    unquote t = t ↔ Text.Trimmed t ∧ Text.between? ['"'] '"' t = none := by
  refine ⟨fun same => unquoted_of_length_le (same.symm ▸ Nat.le_refl _), fun plain => ?_⟩
  rw [unquote, Text.trim_eq_self plain.1, plain.2]

theorem starred_eq_self_iff {t : Text} :
    (t.map fun c => if c = '*' then '%' else c) = t ↔ '*' ∉ t := by
  induction t with
  | nil => simp
  | cons c t ih =>
    by_cases star : c = '*'
    · simp [star]
    · simp [star, ih, Ne.symm star]

/-! Texts that are no arrays -/

/-- What JSON for an array or an object starts with. -/
def Opens (t : Text) : Prop :=
  t.head? = some '[' ∨ t.take 2 = ['\x7b', '"']

/-- No list in braces or brackets, and no JSON. -/
structure Unlisted (t : Text) : Prop where
  unbraced : Text.between? ['\x7b'] '\x7d' t = none
  unbracketed : Text.between? ['('] ')' t = none
  unread : Opens t → Json.read? t = none

/-- What starts with a bracket or a brace is not read as a text. -/
theorem read?_ne_str {t u : Text} (opens : Opens t) :
    Json.read? t ≠ some (.str u) := by
  obtain ⟨c, rest, rfl, opening⟩ : ∃ c rest, t = c :: rest ∧ (c = '[' ∨ c = '\x7b') := by
    obtain first | first := opens <;> cases t with
    | nil => cases first
    | cons c rest => simp_all
  have value (fuel depth : Nat) (after : Text) :
      Json.value? (fuel + 1) depth (c :: rest) ≠ some (.str u, after) := by
    intro read
    obtain rfl | rfl := opening
    all_goals
      rw [Json.value?] at read
      rw [show Json.skipBlanks (_ :: rest) = _ :: rest from rfl] at read
      simp only at read
      split at read
      · cases read
      · split at read
        · cases read
        · obtain ⟨pair, -, same⟩ := Option.map_eq_some_iff.1 read
          cases same
  intro read
  unfold Json.read? at read
  split at read
  · next v after found =>
    split at read
    · cases read
      exact value _ _ _ found
    · cases read
  · cases read

theorem container_eq_str_iff {t u : Text} :
    container t = .str u ↔ Unlisted t ∧ unquote t = u := by
  unfold container
  generalize tried :
    (if t.head? = some '[' ∨ t.take 2 = ['\x7b', '"'] then Json.read? t else none) = json
  cases json with
  | some v =>
    split at tried
    · next opens =>
      refine iff_of_false (fun same : v = .str u => ?_) fun both => ?_
      · exact read?_ne_str opens (same ▸ tried)
      · cases tried.symm.trans (both.1.unread opens)
    · cases tried
  | none =>
    have unread (opens : Opens t) : Json.read? t = none := by
      split at tried
      · exact tried
      · next shut => exact absurd opens shut
    simp only
    split
    · next inner listed =>
      refine iff_of_false nofun fun both => ?_
      rw [both.1.unbraced, both.1.unbracketed] at listed
      cases listed
    · next unlisted =>
      obtain ⟨unbraced, unbracketed⟩ := Option.or_eq_none_iff.1 unlisted
      exact ⟨fun same => ⟨⟨unbraced, unbracketed, unread⟩, Json.str.inj same⟩,
        fun both => congrArg Json.str both.2⟩

/-! Values as they are given -/

/-- The value that a negated filter compares with. -/
def taken (op : Operator) (v : Json) : Json :=
  match v with
  | .str raw => match parse op raw with
    | .ok read => read
    | .error _ => v
  | other => other

/-- The grammar reads the text as itself. -/
structure Literal (op : Operator) (t : Text) : Prop where
  trimmed : Text.Trimmed t
  unquoted : Text.between? ['"'] '"' t = none
  starless : op ∈ [.like, .ilike] → '*' ∉ t
  unlisted : op ∈ containers → Unlisted t

/-- The value stands for itself, if it is a text as a literal one. -/
def Kept (op : Operator) : Json → Prop
  | .str t => Literal op t
  | _ => True

theorem taken_str_eq_self_iff {op : Operator} (single : op ≠ .among) {t : Text} :
    taken op (.str t) = .str t ↔ Literal op t := by
  by_cases listed : op ∈ containers
  · have starless : op ∉ [.like, .ilike] := by
      intro pattern
      have apart : ∀ op ∈ containers, op ∉ [.like, .ilike] := by decide
      exact apart op listed pattern
    rw [taken, parse_of_container listed]
    simp only
    rw [container_eq_str_iff, unquote_trim, unquote_eq_self_iff]
    constructor
    · rintro ⟨unlisted, trimmed, unquoted⟩
      rw [Text.trim_eq_self trimmed] at unlisted
      exact ⟨trimmed, unquoted, fun pattern => absurd pattern starless, fun _ => unlisted⟩
    · intro literal
      rw [Text.trim_eq_self literal.trimmed]
      exact ⟨literal.unlisted listed, literal.trimmed, literal.unquoted⟩
  · by_cases pattern : op ∈ [.like, .ilike]
    · have read : taken op (.str t) =
          .str ((unquote t).map fun c => if c = '*' then '%' else c) := by
        simp only [List.mem_cons, List.not_mem_nil, or_false] at pattern
        obtain rfl | rfl := pattern <;> rw [← unquote_trim] <;> rfl
      rw [read, Json.str.injEq]
      constructor
      · intro same
        have long : t.length = (unquote t).length := by
          simpa using congrArg List.length same.symm
        obtain ⟨trimmed, unquoted⟩ := unquoted_of_length_le (Nat.le_of_eq long)
        rw [unquote_eq_self_iff.2 ⟨trimmed, unquoted⟩, starred_eq_self_iff] at same
        exact ⟨trimmed, unquoted, fun _ => same, fun container => absurd container listed⟩
      · intro literal
        rw [unquote_eq_self_iff.2 ⟨literal.trimmed, literal.unquoted⟩]
        exact starred_eq_self_iff.2 (literal.starless pattern)
    · have read : taken op (.str t) = .str (unquote t) := by
        rw [← unquote_trim]
        cases op with
        | among => exact absurd rfl single
        | like | ilike => simp at pattern
        | contains | containedBy | overlaps => simp [containers] at listed
        | _ => rfl
      rw [read, Json.str.injEq, unquote_eq_self_iff]
      exact ⟨fun plain => ⟨plain.1, plain.2, fun star => absurd star pattern,
        fun container => absurd container listed⟩,
        fun literal => ⟨literal.trimmed, literal.unquoted⟩⟩

theorem taken_eq_self_iff {op : Operator} {v : Json} (single : ∀ t, v = .str t → op ≠ .among) :
    taken op v = v ↔ Kept op v := by
  cases v with
  | str t => exact taken_str_eq_self_iff (single t rfl)
  | _ => exact iff_of_true rfl trivial

end Operand

/-- A negated filter compares with the value that it takes. -/
theorem Negated.ofOperator_of_known {name : Text} {op : Operator}
    (known : Operator.parse? name = some op) (column : Text) (v : Json) :
    ofOperator column name v = .known ⟨column, op, Operand.taken op v⟩ := by
  rw [ofOperator, known]
  cases v <;> rfl

end FluentQuery

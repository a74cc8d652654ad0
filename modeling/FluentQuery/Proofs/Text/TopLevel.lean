import FluentQuery.Text.TopLevel
import Mathlib.Data.List.Basic

/-! Texts that splitting leaves whole. A text that closes its own brackets and is not split by its
commas stays one piece wherever it stands, and closed texts with commas between them are split into
just these texts. -/
namespace FluentQuery.Text

/-! Blanks -/

theorem trim_eq_self {t : Text} (trimmed : Trimmed t) : trim t = t := by
  have left : trimLeft t = t := by
    cases t with
    | nil => rfl
    | cons c t => exact List.dropWhile_cons_of_neg (by simp [trimmed.1 c rfl])
  have right : t.reverse.dropWhile isBlank = t.reverse := by
    cases back : t.reverse with
    | nil => rfl
    | cons c back' =>
      have last : t.getLast? = some c := by rw [← List.head?_reverse, back]; rfl
      exact List.dropWhile_cons_of_neg (by simp [trimmed.2 c last])
  rw [trim, left, trimRight, right, List.reverse_reverse]

/-- A text is trimmed if its two ends are. -/
theorem Trimmed.of_ends {t : Text} {first last : Char} (head : t.head? = some first)
    (back : t.getLast? = some last) (open_ : isBlank first = false) (close : isBlank last = false) :
    Trimmed t := by
  refine ⟨fun c member => ?_, fun c member => ?_⟩
  · cases head.symm.trans member
    exact open_
  · cases back.symm.trans member
    exact close

/-! Pieces -/

theorem pieces_ne_nil (n : Nesting) (t : Text) : pieces n t ≠ [] := by
  cases t with
  | nil => simp [pieces]
  | cons c rest =>
    unfold pieces
    split
    · simp
    · split <;> simp

/-- What is left whole goes before the first piece of what follows. -/
theorem pieces_append {n : Nesting} {s t piece : Text} {more : List Text}
    (whole : pieces n s = [s]) (rest : pieces (n.afterAll s) t = piece :: more) :
    pieces n (s ++ t) = (s ++ piece) :: more := by
  induction s generalizing n with
  | nil => exact rest
  | cons c s ih =>
    rw [pieces] at whole
    split at whole
    · cases whole
    · next inside =>
      split at whole
      · next none => exact absurd none (pieces_ne_nil _ _)
      · next first others same =>
        obtain ⟨⟨-, rfl⟩, rfl⟩ : (c = c ∧ first = s) ∧ others = [] := by simpa using whole
        rw [List.cons_append, pieces, if_neg inside, ih same rest]
        rfl

theorem pieces_cons_eq_singleton_iff {n : Nesting} {c : Char} {t : Text} :
    pieces n (c :: t) = [c :: t] ↔ ¬ (c = ',' ∧ n = .outside) ∧ pieces (n.after c) t = [t] := by
  rw [pieces]
  split
  · next comma => simp [comma]
  · next inside =>
    cases later : pieces (n.after c) t with
    | nil => exact absurd later (pieces_ne_nil _ _)
    | cons piece more => simp [inside]

theorem pieces_append_eq_singleton_iff {n : Nesting} {s t : Text} :
    pieces n (s ++ t) = [s ++ t] ↔ pieces n s = [s] ∧ pieces (n.afterAll s) t = [t] := by
  induction s generalizing n with
  | nil =>
    have none : pieces n [] = [[]] := rfl
    simp [none, Nesting.afterAll]
  | cons c s ih =>
    rw [List.cons_append, pieces_cons_eq_singleton_iff, pieces_cons_eq_singleton_iff, ih, and_assoc]
    rfl

/-- The first piece reaches to the end, or to a comma at which the scan stands outside. -/
theorem pieces_eq_cons_iff {n : Nesting} {t piece : Text} {more : List Text} :
    pieces n t = piece :: more ↔ pieces n piece = [piece] ∧
      (t = piece ∧ more = [] ∨
        ∃ rest, t = piece ++ ',' :: rest ∧ n.afterAll piece = .outside ∧
          pieces .outside rest = more) := by
  constructor
  · induction t generalizing n piece with
    | nil =>
      intro split
      cases split
      exact ⟨rfl, .inl ⟨rfl, rfl⟩⟩
    | cons c t ih =>
      intro split
      rw [pieces] at split
      split at split
      · next comma =>
        cases split
        obtain ⟨rfl, rfl⟩ := comma
        exact ⟨rfl, .inr ⟨t, rfl, rfl, rfl⟩⟩
      · next inside =>
        cases later : pieces (n.after c) t with
        | nil => exact absurd later (pieces_ne_nil _ _)
        | cons first others =>
          rw [later] at split
          cases split
          obtain ⟨whole, ends⟩ := ih later
          refine ⟨by rw [pieces, if_neg inside, whole], ?_⟩
          obtain ⟨rfl, rfl⟩ | ⟨rest, rfl, back, same⟩ := ends
          · exact .inl ⟨rfl, rfl⟩
          · exact .inr ⟨rest, rfl, back, same⟩
  · rintro ⟨whole, ⟨rfl, rfl⟩ | ⟨rest, rfl, back, rfl⟩⟩
    · exact whole
    · have comma : pieces (n.afterAll piece) (',' :: rest) = [] :: pieces .outside rest := by
        rw [pieces, back, if_pos ⟨rfl, rfl⟩]
      rw [pieces_append whole comma, List.append_nil]

/-- A piece that another one follows ends outside. -/
theorem back_of_pieces {t p : Text} {front more : List Text}
    (split : pieces .outside t = front ++ p :: more) (followed : more ≠ []) :
    Nesting.outside.afterAll p = .outside := by
  induction front generalizing t with
  | nil =>
    obtain ⟨-, ⟨-, none⟩ | ⟨-, -, back, -⟩⟩ := pieces_eq_cons_iff.1 split
    · exact absurd none followed
    · exact back
  | cons first front ih =>
    obtain ⟨-, ⟨-, none⟩ | ⟨rest, -, -, later⟩⟩ := pieces_eq_cons_iff.1 split
    · simp at none
    · exact ih later

/-- At this nesting the text is one piece, and it comes back to the nesting. -/
structure WholeAt (n : Nesting) (t : Text) : Prop where
  whole : pieces n t = [t]
  back : n.afterAll t = n

namespace WholeAt

variable {n : Nesting} {s t : Text} {c : Char}

theorem nil (n : Nesting) : WholeAt n [] := ⟨rfl, rfl⟩

theorem append (first : WholeAt n s) (second : WholeAt n t) : WholeAt n (s ++ t) := by
  refine ⟨pieces_append first.whole ?_, ?_⟩
  · rw [first.back, second.whole]
  · rw [Nesting.afterAll_append, first.back, second.back]

theorem singleton (same : n.after c = n) (inside : ¬ (c = ',' ∧ n = .outside)) :
    WholeAt n [c] := by
  refine ⟨?_, same⟩
  rw [pieces, if_neg inside]
  rfl

end WholeAt

/-- The characters that bear on splitting. -/
def structural : List Char := [',', '"', '(', '\x7b', '[', ')', '\x7d', ']']

theorem Nesting.after_of_flat {c : Char} (flat : c ∉ structural) (n : Nesting) : n.after c = n := by
  simp only [structural, List.mem_cons, List.not_mem_nil, not_or] at flat
  simp [Nesting.after, flat]

theorem WholeAt.of_flat {t : Text} (n : Nesting) (flat : ∀ c ∈ t, c ∉ structural) :
    WholeAt n t := by
  induction t with
  | nil => exact .nil _
  | cons c t ih =>
    rw [List.forall_mem_cons] at flat
    have comma : c ≠ ',' := fun same => flat.1 (same ▸ List.mem_cons_self)
    exact .append (.singleton (Nesting.after_of_flat flat.1 _) fun both => comma both.1)
      (ih flat.2)

theorem Nesting.afterAll_shift (n : Nesting) (k : Int) (t : Text) :
    Nesting.afterAll ⟨n.depth + k, n.quoted⟩ t =
      ⟨(n.afterAll t).depth + k, (n.afterAll t).quoted⟩ := by
  induction t generalizing n with
  | nil => rfl
  | cons c t ih =>
    have step : Nesting.after ⟨n.depth + k, n.quoted⟩ c =
        ⟨(n.after c).depth + k, (n.after c).quoted⟩ := by
      unfold Nesting.after
      split_ifs <;> simp <;> omega
    change (Nesting.after ⟨n.depth + k, n.quoted⟩ c).afterAll t = _
    rw [step, ih]
    rfl

/-- Outside quotes the text is left whole, however many brackets are open. -/
def Closed (t : Text) : Prop :=
  ∀ d : Nat, WholeAt ⟨d, false⟩ t

/-- Inside some bracket the text is left whole. -/
def Enclosed (t : Text) : Prop :=
  ∀ d : Nat, WholeAt ⟨d + 1, false⟩ t

namespace Closed

variable {s t : Text}

theorem nil : Closed [] := fun _ => .nil _

theorem append (first : Closed s) (second : Closed t) : Closed (s ++ t) :=
  fun d => (first d).append (second d)

theorem of_flat (flat : ∀ c ∈ t, c ∉ structural) : Closed t :=
  fun d => .of_flat ⟨d, false⟩ flat

theorem enclosed (closed : Closed t) : Enclosed t :=
  fun d => closed (d + 1)

end Closed

namespace Enclosed

variable {t : Text}

/-- Inside a bracket no comma splits. -/
theorem ne_outside (d : Nat) : (⟨d + 1, false⟩ : Nesting) ≠ .outside := by
  intro same
  have depth : (d : Int) + 1 = 0 := congrArg Nesting.depth same
  omega

/-- A pair of brackets closes what it encloses. -/
theorem bracket (enclosed : Enclosed t) {opening closing : Char}
    (opens : opening ∈ ['(', '\x7b', '[']) (closes : closing ∈ [')', '\x7d', ']']) :
    Closed (opening :: t ++ [closing]) := by
  intro d
  have enter : (⟨d, false⟩ : Nesting).after opening = ⟨d + 1, false⟩ := by
    simp only [List.mem_cons, List.not_mem_nil, or_false] at opens
    obtain rfl | rfl | rfl := opens <;> rfl
  have leave : (⟨d + 1, false⟩ : Nesting).after closing = ⟨d, false⟩ := by
    simp only [List.mem_cons, List.not_mem_nil, or_false] at closes
    obtain rfl | rfl | rfl := closes <;> simp [Nesting.after]
  have last : pieces ⟨d + 1, false⟩ [closing] = [[closing]] := by
    rw [pieces, if_neg fun both => ne_outside d both.2]
    rfl
  constructor
  · rw [List.cons_append, pieces, if_neg fun both => by simp [both.1] at opens, enter,
      pieces_append (enclosed d).whole ((enclosed d).back ▸ last)]
  · have inner : (⟨d + 1, false⟩ : Nesting).afterAll t = ⟨d + 1, false⟩ := (enclosed d).back
    rw [List.cons_append]
    change ((⟨d, false⟩ : Nesting).after opening).afterAll (t ++ [closing]) = _
    rw [enter, Nesting.afterAll_append, inner]
    exact leave

theorem join {items : List Text} (closed : ∀ t ∈ items, Closed t) :
    Enclosed (Text.join [','] items) := by
  intro d
  induction items with
  | nil => exact .nil _
  | cons t rest ih =>
    rw [List.forall_mem_cons] at closed
    cases rest with
    | nil => exact closed.1.enclosed d
    | cons u rest =>
      have comma : WholeAt ⟨d + 1, false⟩ [','] :=
        .singleton rfl fun both => ne_outside d both.2
      exact ((closed.1.enclosed d).append comma).append (ih closed.2)

end Enclosed

/-! Splitting -/

theorem mem_join {sep : Text} {items : List Text} {c : Char} (member : c ∈ join sep items) :
    c ∈ sep ∨ ∃ t ∈ items, c ∈ t := by
  induction items with
  | nil => cases member
  | cons t rest ih =>
    cases rest with
    | nil => exact .inr ⟨t, List.mem_cons_self, member⟩
    | cons u rest =>
      rw [join_cons_cons, List.mem_append, List.mem_append] at member
      obtain (first | between) | later := member
      · exact .inr ⟨t, List.mem_cons_self, first⟩
      · exact .inl between
      · exact (ih later).imp_right fun ⟨v, among, inside⟩ =>
          ⟨v, List.mem_cons_of_mem _ among, inside⟩

theorem pieces_join {items : List Text} (filled : items ≠ []) (closed : ∀ t ∈ items, Closed t) :
    pieces .outside (join [','] items) = items := by
  induction items with
  | nil => exact absurd rfl filled
  | cons t rest ih =>
    rw [List.forall_mem_cons] at closed
    obtain ⟨whole, back⟩ : WholeAt .outside t := closed.1 0
    cases rest with
    | nil => exact whole
    | cons u rest =>
      have behind : pieces .outside (',' :: join [','] (u :: rest)) = [] :: u :: rest := by
        rw [pieces, if_pos ⟨rfl, rfl⟩, ih (by simp) closed.2]
      rw [join_cons_cons, List.append_assoc, List.singleton_append,
        pieces_append whole (back.symm ▸ behind), List.append_nil]

/-- Texts with commas between them are what their join is split into. -/
theorem splitTopLevel_join {items : List Text} (closed : ∀ t ∈ items, Closed t)
    (trimmed : ∀ t ∈ items, Trimmed t) (filled : ∀ t ∈ items, t ≠ []) :
    splitTopLevel (join [','] items) = items := by
  cases items with
  | nil => rfl
  | cons t rest =>
    have same : (t :: rest).map trim = t :: rest := by
      rw [List.map_congr_left fun u member => trim_eq_self (trimmed u member), List.map_id']
    rw [splitTopLevel, pieces_join (by simp) closed, same, List.filter_eq_self]
    intro u member
    simpa using filled u member

end FluentQuery.Text

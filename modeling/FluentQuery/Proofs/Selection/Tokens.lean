import FluentQuery.Proofs.Text.Blank
import FluentQuery.Select

/-! Lists split again. Whatever text is split, each item is split into itself, and any of the items
are read back from the list that is made of them in their order, also when the last one leaves
brackets or quotes open. A selection keeps its plain columns as such a list, so its two readings
agree. -/
namespace FluentQuery

namespace Text

/-- An item of a list: it is not blank, no blanks are at its ends, and no comma splits it. -/
structure IsItem (t : Text) : Prop where
  filled : t ≠ []
  trimmed : Trimmed t
  whole : pieces .outside t = [t]

variable {t item rest : Text} {items : List Text}

/-- Every piece is left whole. -/
theorem whole_of_mem_pieces (member : item ∈ pieces .outside t) :
    pieces .outside item = [item] := by
  obtain ⟨front, more, split⟩ := List.append_of_mem member
  clear member
  induction front generalizing t with
  | nil => exact (pieces_eq_cons_iff.1 split).1
  | cons first front ih =>
    obtain ⟨-, ⟨-, none⟩ | ⟨rest, -, -, later⟩⟩ := pieces_eq_cons_iff.1 split
    · simp at none
    · exact ih later

theorem whole_trim {n : Nesting} (whole : pieces n t = [t]) : pieces n (trim t) = [trim t] := by
  obtain ⟨front, back, same, blank⟩ := exists_eq_append_trim t
  rw [List.forall_mem_append] at blank
  rw [same, List.append_assoc, pieces_append_eq_singleton_iff, pieces_append_eq_singleton_iff,
    Nesting.afterAll_of_blank n blank.1] at whole
  exact whole.2.1

theorem isItem_of_mem (member : item ∈ splitTopLevel t) : IsItem item := by
  simp only [splitTopLevel, List.mem_filter, List.mem_map, Bool.not_eq_true',
    List.isEmpty_eq_false_iff] at member
  obtain ⟨⟨piece, among, rfl⟩, filled⟩ := member
  exact ⟨filled, trimmed_trim piece, whole_trim (whole_of_mem_pieces among)⟩

/-- The items of a list are just the texts that are split into themselves. -/
theorem isItem_iff : IsItem t ↔ splitTopLevel t = [t] := by
  constructor
  · rintro ⟨filled, trimmed, whole⟩
    rw [splitTopLevel, whole, List.map_singleton, trim_eq_self trimmed]
    simp [filled]
  · intro split
    exact isItem_of_mem (split ▸ List.mem_singleton_self t)

/-- All items but the last end outside brackets and quotes. -/
def AllButLastEnd (items : List Text) : Prop :=
  items.Pairwise fun item _ => Nesting.outside.afterAll item = .outside

theorem pairwise_pieces (t : Text) : AllButLastEnd (pieces .outside t) := by
  generalize split : pieces .outside t = items
  induction items generalizing t with
  | nil => exact .nil
  | cons piece more ih =>
    refine List.pairwise_cons.2 ⟨fun later among => ?_, ?_⟩
    · have first : pieces .outside t = [] ++ piece :: more := split
      exact back_of_pieces first (List.ne_nil_of_mem among)
    · obtain ⟨-, ⟨-, rfl⟩ | ⟨rest, -, -, later⟩⟩ := pieces_eq_cons_iff.1 split
      · exact .nil
      · exact ih rest later

theorem allButLastEnd_splitTopLevel (t : Text) : AllButLastEnd (splitTopLevel t) := by
  refine List.Pairwise.filter _ (List.pairwise_map.2 ?_)
  simpa only [AllButLastEnd, Nesting.afterAll_trim] using pairwise_pieces t

/-- An item that ends outside stands before the items behind the next comma. -/
theorem splitTopLevel_cons (isItem : IsItem item) (ends : Nesting.outside.afterAll item = .outside)
    (rest : Text) : splitTopLevel (item ++ ',' :: rest) = item :: splitTopLevel rest := by
  have split : pieces .outside (item ++ ',' :: rest) = item :: pieces .outside rest :=
    pieces_eq_cons_iff.2 ⟨isItem.whole, .inr ⟨rest, rfl, ends, rfl⟩⟩
  rw [splitTopLevel, split, List.map_cons, trim_eq_self isItem.trimmed,
    List.filter_cons_of_pos (by simp [isItem.filled]), ← splitTopLevel]

/-- Items are read back from their list if only the last one may be left open. -/
theorem splitTopLevel_join_items (each : ∀ item ∈ items, IsItem item)
    (ends : AllButLastEnd items) : splitTopLevel (join ", " items) = items := by
  induction items with
  | nil => rfl
  | cons item more ih =>
    rw [List.forall_mem_cons] at each
    obtain ⟨first, later⟩ := List.pairwise_cons.1 ends
    cases more with
    | nil => exact isItem_iff.1 each.1
    | cons next more =>
      -- The space that is written after the comma is trimmed off again.
      have space : ∀ c ∈ ([' '] : Text), isBlank c = true := by decide
      have list : join ", " (item :: next :: more) =
          item ++ ',' :: (([' '] : Text) ++ join ", " (next :: more)) := by
        rw [join_cons_cons, List.append_assoc]
        rfl
      rw [list, splitTopLevel_cons each.1 (first next List.mem_cons_self),
        splitTopLevel_blank_append space, ih each.2 later]

theorem splitTopLevel_join_sublist (chosen : items.Sublist (splitTopLevel t)) :
    splitTopLevel (join ", " items) = items :=
  splitTopLevel_join_items (fun _ member => isItem_of_mem (chosen.subset member))
    ((allButLastEnd_splitTopLevel t).sublist chosen)

end Text

/-! Selections -/

namespace SelectItem

theorem filterMap_column?_sublist (tokens : List Text) :
    ((tokens.map ofToken).filterMap column?).Sublist tokens := by
  induction tokens with
  | nil => exact .slnil
  | cons token tokens ih =>
    rw [List.map_cons, ofToken]
    split
    · exact ih.cons token
    · exact ih.cons_cons token

theorem parseAll_trim (t : Text) : parseAll (Text.trim t) = parseAll t := by
  rw [parseAll, Text.splitTopLevel_trim, ← parseAll]

end SelectItem

namespace Selection

open SelectItem (parseAll column? reference?)

/-- Apart from blank texts a selection is made of its items. -/
theorem parse_eq {t : Text} (filled : Text.trim t ≠ []) :
    parse t = ⟨Text.join ", " ((parseAll t).filterMap column?),
      (parseAll t).filterMap reference?⟩ := by
  rw [← SelectItem.parseAll_trim]
  unfold parse
  by_cases star : Text.trim t = ['*']
  · rw [if_pos (.inr star), star]
    rfl
  · rw [if_neg (not_or.2 ⟨filled, star⟩)]

/-- Whatever is split, every item is trimmed, is not empty and is split into itself, and any items
in their order are split from their list again. So unless a selection is blank, its plain columns
and its references are those of its items. -/
theorem views_agree (t : Text) :
    (∀ item ∈ Text.splitTopLevel t,
      item ≠ [] ∧ Text.Trimmed item ∧ Text.splitTopLevel item = [item]) ∧
    (∀ items : List Text, items.Sublist (Text.splitTopLevel t) →
      Text.splitTopLevel (Text.join ", " items) = items) ∧
    (Text.trim t ≠ [] →
      (parse t).columnTokens = (parseAll t).filterMap column? ∧
      (parse t).references = (parseAll t).filterMap reference?) := by
  refine ⟨fun item member => ?_, fun items chosen => Text.splitTopLevel_join_sublist chosen, ?_⟩
  · have isItem := Text.isItem_of_mem member
    exact ⟨isItem.filled, isItem.trimmed, Text.isItem_iff.1 isItem⟩
  · intro filled
    rw [parse_eq filled]
    exact ⟨Text.splitTopLevel_join_sublist (SelectItem.filterMap_column?_sublist _), rfl⟩

/-- A reference between two columns; the last one closes neither its quotes nor its brackets. -/
def openEnded : Text := "id, tags!inner(a, b), \"x, [("

theorem openEnded_views :
    ("\"x, [(" : Text) ∈ Text.splitTopLevel openEnded ∧
      (["id", "\"x, [("] : List Text).Sublist (Text.splitTopLevel openEnded) ∧
      Text.trim openEnded ≠ [] ∧
      Text.splitTopLevel "\"x, [(" = ["\"x, [("] ∧
      Text.splitTopLevel (Text.join ", " ["id", "\"x, [("]) = ["id", "\"x, [("] ∧
      (parse openEnded).columnTokens = ["id", "\"x, [("] ∧
      (parse openEnded).references = [⟨"tags", "tags", none, true, "a, b"⟩] := by
  obtain ⟨each, rejoined, views⟩ := views_agree openEnded
  have member : ("\"x, [(" : Text) ∈ Text.splitTopLevel openEnded := by decide
  have chosen : (["id", "\"x, [("] : List Text).Sublist (Text.splitTopLevel openEnded) := by decide
  have filled : Text.trim openEnded ≠ [] := by decide
  obtain ⟨columns, references⟩ := views filled
  have items : parseAll openEnded = [.column "id", .reference ⟨"tags", "tags", none, true, "a, b"⟩,
      .column "\"x, [("] := by decide
  rw [items] at columns references
  exact ⟨member, chosen, filled, (each _ member).2.2, rejoined _ chosen, columns, references⟩

end Selection

end FluentQuery

import FluentQuery.Proofs.Relation.Fetches
import FluentQuery.Proofs.Selection.Tokens
import FluentQuery.Proofs.Text.Nested

/-! References as they are written: `label:table`, perhaps with a hint and with `inner`, and a body
in brackets whose own brackets are nested outside double quotes. Such a text is one item of every
list, but it is read as the reference only if its round brackets tally with those in quotes counted
too: splitting passes over quotes, and the check that the first bracket closes at the end does not.
A name like `"a)b"` in the body therefore makes a column of the whole text, which no column can be.
Without round brackets in quotes every reference is read back, and where the brackets tally at every
step, so are the references in its body, however deep. -/
namespace FluentQuery

namespace Text

variable {t : Text}

/-! Lists in the text before the bracket -/

theorem splitOn_of_notMem {sep : Char} (absent : sep ∉ t) : splitOn sep t = [t] := by
  induction t with
  | nil => rfl
  | cons c t ih =>
    rw [List.mem_cons, not_or] at absent
    rw [splitOn, if_neg (Ne.symm absent.1), ih absent.2]

theorem splitOn_join {sep : Char} {items : List Text} (absent : ∀ item ∈ items, sep ∉ item)
    (filled : items ≠ []) : splitOn sep (join [sep] items) = items := by
  induction items with
  | nil => exact absurd rfl filled
  | cons item more ih =>
    rw [List.forall_mem_cons] at absent
    cases more with
    | nil => exact splitOn_of_notMem absent.1
    | cons next more =>
      rw [join_cons_cons, List.append_assoc, List.singleton_append, splitOn_append_cons,
        splitOn_of_notMem absent.1, ih absent.2 (by simp)]
      rfl

end Text

open Text (Tallies Nested Trimmed isWord)

namespace Reference

variable {r : Reference} {d : Nat} {t : Text}

/-- The check for the closing bracket does not regard quotes. -/
theorem closesAtEnd_iff : closesAtEnd (d + 1) (t ++ [')']) = true ↔ Tallies d t := by
  induction t generalizing d with
  | nil =>
    rw [Text.tallies_nil_iff]
    cases d <;> simp [closesAtEnd]
  | cons c t ih =>
    rw [List.cons_append, closesAtEnd]
    by_cases open_ : c = '('
    · rw [if_pos open_, ih, open_, Text.tallies_open_iff]
    · by_cases close : c = ')'
      · rw [if_neg open_, if_pos close, close, Text.tallies_close_iff]
        cases d with
        | zero => simp
        | succ k => simp [ih]
      · rw [if_neg open_, if_neg close, ih, Text.tallies_cons_iff open_ close]

/-! The text of a reference -/

def suffixes (r : Reference) : List Text :=
  let inner : Text := "inner"
  r.hint.toList ++ if r.inner then [inner] else []

def head (r : Reference) : Text :=
  r.label ++ ':' :: Text.join ['!'] (r.table :: r.suffixes)

/-- The reference as it is written, with its label. -/
def text (r : Reference) : Text :=
  r.head ++ '(' :: (r.body ++ [')'])

/-- Label, table and hint are words, and the body is not blank and its brackets are nested. -/
structure Written (r : Reference) : Prop where
  label : isWord r.label = true
  table : isWord r.table = true
  hint : ∀ h ∈ r.hint, isWord h = true ∧ h ≠ "inner"
  filled : r.body ≠ []
  trimmed : Trimmed r.body
  nested : Nested [] r.body

namespace Written

theorem isWord_names (written : r.Written) : ∀ s ∈ r.table :: r.suffixes, isWord s = true := by
  refine List.forall_mem_cons.2 ⟨written.table, fun s member => ?_⟩
  obtain among | among := List.mem_append.1 member
  · exact (written.hint s (Option.mem_toList.1 among)).1
  · split at among
    · obtain rfl := List.mem_singleton.1 among
      decide
    · cases among

theorem hints_suffixes (written : r.Written) : hints r.suffixes = (r.hint, r.inner) := by
  obtain ⟨label, table, hint, inner, body⟩ := r
  have named := written.hint
  cases hint with
  | none => cases inner <;> rfl
  | some h =>
    obtain ⟨word, other⟩ := named h rfl
    have apart : h ≠ ['i', 'n', 'n', 'e', 'r'] := other
    have filled : h.isEmpty = false := by simp [Text.ne_nil_of_isWord word]
    cases inner <;> simp [hints, suffixes, filled, apart, apart.symm]

/-- What stands before the bracket are words, a colon and exclamation marks. -/
theorem mem_head (written : r.Written) {c : Char} (member : c ∈ r.head) :
    Text.isWordChar c = true ∨ c = ':' ∨ c = '!' := by
  rcases List.mem_append.1 member with inside | inside
  · exact .inl (Text.isWordChar_of_mem written.label inside)
  · rcases List.mem_cons.1 inside with colon | inside
    · exact .inr (.inl colon)
    · rcases Text.mem_join inside with mark | ⟨item, among, inside⟩
      · exact .inr (.inr (List.mem_singleton.1 mark))
      · exact .inl (Text.isWordChar_of_mem (written.isWord_names item among) inside)

theorem notMem_head (written : r.Written) {special : Char}
    (foreign : Text.isWordChar special = false) (other : special ∉ [':', '!']) :
    special ∉ r.head := by
  intro member
  rcases written.mem_head member with word | colon | mark
  · cases foreign.symm.trans word
  · exact other (by simp [colon])
  · exact other (by simp [mark])

theorem head?_head (written : r.Written) :
    head? r.head = some (r.label, r.table, r.hint, r.inner) := by
  have isHead : isHead r.head = true := by
    simp only [Reference.isHead, Bool.and_eq_true, List.all_eq_true, Bool.or_eq_true,
      decide_eq_true_eq]
    refine ⟨by simp [head], fun c member => ?_⟩
    simpa [or_assoc] using written.mem_head member
  have cut : Text.cut? ':' r.head = some (r.label, Text.join ['!'] (r.table :: r.suffixes)) :=
    Text.cut?_append _ (Text.notMem_of_isWord written.label (by decide))
  have split : Text.splitOn '!' (Text.join ['!'] (r.table :: r.suffixes)) =
      r.table :: r.suffixes :=
    Text.splitOn_join
      (fun s among => Text.notMem_of_isWord (written.isWord_names s among) (by decide)) (by simp)
  simp [head?, isHead, cut, split, written.label, written.table, written.hints_suffixes]

theorem bodyText_body (written : r.Written) : bodyText r.body = r.body := by
  have filled := written.filled
  rw [bodyText, Text.trim_eq_self written.trimmed]
  split
  · contradiction
  · rfl

theorem parse?_text (written : r.Written) :
    parse? r.text = if closesAtEnd 1 (r.body ++ [')']) then some r else none := by
  have cut : Text.cut? '(' r.text = some (r.head, r.body ++ [')']) :=
    Text.cut?_append _ (written.notMem_head (by decide) (by decide))
  have drop : Text.dropEnd? ')' (r.body ++ [')']) = some r.body := Text.dropEnd?_eq_some.2 rfl
  simp only [parse?, cut, drop, written.head?_head, written.bodyText_body, Option.map_some]

/-- Splitting leaves the text whole, whatever its quotes hold. -/
theorem isItem_text (written : r.Written) : Text.IsItem r.text := by
  obtain ⟨first, label, same⟩ :=
    List.exists_cons_of_ne_nil (Text.ne_nil_of_isWord written.label)
  have solid : Text.isBlank first = false :=
    (Text.trimmed_of_isWord written.label).1 first (by rw [same]; rfl)
  have flat : ∀ c ∈ r.head, c ∉ Text.structural := fun c member special => by
    have each : ∀ c ∈ Text.structural, Text.isWordChar c = false ∧ c ∉ [':', '!'] := by decide
    exact written.notMem_head (each c special).1 (each c special).2 member
  have bracket : Text.Closed ('(' :: r.body ++ [')']) :=
    (written.nested.balanced.enclosed).bracket (by decide) (by decide)
  have begins : r.text.head? = some first := by simp [text, head, same]
  have ends : r.text.getLast? = some ')' := by
    rw [text, ← List.cons_append, ← List.append_assoc, List.getLast?_concat]
  refine ⟨by simp [text], .of_ends begins ends solid (by decide), ?_⟩
  exact ((Text.Closed.of_flat flat).append bracket 0).1

theorem ofToken_text (written : r.Written) :
    SelectItem.ofToken r.text =
      if closesAtEnd 1 (r.body ++ [')']) then .reference r else .column r.text := by
  rw [SelectItem.ofToken, written.parse?_text]
  cases closesAtEnd 1 (r.body ++ [')']) <;> rfl

theorem parse_text (written : r.Written) :
    Selection.parse r.text =
      if closesAtEnd 1 (r.body ++ [')']) then ⟨[], [r]⟩ else ⟨r.text, []⟩ := by
  have item := written.isItem_text
  have filled : Text.trim r.text ≠ [] := by
    rw [Text.trim_eq_self item.trimmed]
    exact item.filled
  rw [Selection.parse_eq filled, SelectItem.parseAll, Text.isItem_iff.1 item, List.map_singleton,
    written.ofToken_text]
  cases closesAtEnd 1 (r.body ++ [')']) <;> rfl

end Written

/-- A reference that stands `n` steps down in a text, with round brackets that tally at every step,
those in quotes included. -/
inductive Within : Nat → Text → Reference → Prop where
  | item {t : Text} {r : Reference} (written : r.Written) (tallies : Tallies 0 r.body)
      (among : r.text ∈ Text.splitTopLevel t) : Within 1 t r
  | deeper {n : Nat} {t : Text} {s r : Reference} (written : s.Written) (tallies : Tallies 0 s.body)
      (among : s.text ∈ Text.splitTopLevel t) (rest : Within n s.body r) : Within (n + 1) t r

theorem mem_references {t : Text} (written : r.Written) (tallies : Tallies 0 r.body)
    (among : r.text ∈ Text.splitTopLevel t) : r ∈ (Selection.parse t).references := by
  have filled : Text.trim t ≠ [] := by
    intro blank
    rw [← Text.splitTopLevel_trim, blank] at among
    cases among
  have reads : SelectItem.ofToken r.text = .reference r := by
    rw [written.ofToken_text, if_pos (closesAtEnd_iff.2 tallies)]
  rw [Selection.parse_eq filled]
  exact List.mem_filterMap.2 ⟨.reference r, List.mem_map.2 ⟨r.text, among, reads⟩, rfl⟩

theorem Within.exists_place {n : Nat} {t : Text} (within : Within n t r) :
    ∃ place : List Nat, place.length = n ∧ (Selection.parse t).at? place = some r := by
  induction within with
  | item written tallies among =>
    obtain ⟨i, found⟩ := List.mem_iff_getElem?.1 (mem_references written tallies among)
    exact ⟨[i], rfl, found⟩
  | deeper written tallies among rest ih =>
    obtain ⟨i, found⟩ := List.mem_iff_getElem?.1 (mem_references written tallies among)
    obtain ⟨place, length, below⟩ := ih
    cases place with
    | nil => cases below
    | cons j place =>
      refine ⟨i :: j :: place, by rw [List.length_cons, length], ?_⟩
      rw [Selection.at?, found]
      exact below

/-- A written reference is read back, its body as it stands, just when the round brackets of the
body tally with those in quotes counted; otherwise the whole text is taken for a column. They tally
if none are in quotes. Where they do at every step, the references further down are at their places
too. -/
theorem read_back_iff (written : r.Written) :
    (Selection.parse r.text = ⟨[], [r]⟩ ↔ Tallies 0 r.body) ∧
    (¬ Tallies 0 r.body → Selection.parse r.text = ⟨r.text, []⟩) ∧
    (Nested ['(', ')'] r.body → Tallies 0 r.body) ∧
    ∀ n q, Within n r.text q →
      ∃ place : List Nat, place.length = n ∧ (Selection.parse r.text).at? place = some q := by
  have parsed := written.parse_text
  have strayed (strays : ¬ Tallies 0 r.body) : Selection.parse r.text = ⟨r.text, []⟩ :=
    parsed.trans (if_neg fun closes => strays (closesAtEnd_iff.1 closes))
  refine ⟨⟨fun whole => ?_, fun tallies => ?_⟩, strayed, Nested.tallies,
    fun n q => Within.exists_place⟩
  · -- A column keeps the whole text, which is not empty.
    by_contra strays
    have none : r.text = [] := congrArg Selection.columns ((strayed strays).symm.trans whole)
    exact written.isItem_text.filled none
  · exact parsed.trans (if_pos (closesAtEnd_iff.2 tallies))

/-! One body with a reference further down and a square bracket in quotes, and one with a round
bracket there. -/

def posts : Reference := ⟨"posts", "posts", none, false, "\"a]b\""⟩

def author : Reference :=
  ⟨"author", "profiles", some "fk_author", true, "name, posts:posts(\"a]b\")"⟩

def closingName : Reference := ⟨"author", "profiles", none, false, "\"a)b\""⟩

theorem nested_posts : Nested ['(', ')'] posts.body :=
  .quoted (s := "a]b") (by decide) .nil

theorem nested_author : Nested ['(', ')'] author.body :=
  .plain_append (s := "name, posts:posts") (by decide) (.pair (by decide) nested_posts .nil)

theorem written_posts : posts.Written :=
  ⟨by decide, by decide, by decide, by decide, ⟨by decide, by decide⟩, nested_posts.mono (by simp)⟩

theorem written_author : author.Written :=
  ⟨by decide, by decide, by decide, by decide, ⟨by decide, by decide⟩, nested_author.mono (by simp)⟩

theorem written_closingName : closingName.Written :=
  ⟨by decide, by decide, by decide, by decide, ⟨by decide, by decide⟩,
    .quoted (s := "a)b") (by decide) .nil⟩

theorem author_read_back :
    author.Written ∧
      author.text = "author:profiles!fk_author!inner(name, posts:posts(\"a]b\"))" ∧
      Selection.parse author.text = ⟨[], [author]⟩ ∧
      (∃ place : List Nat, place.length = 2 ∧
        (Selection.parse author.text).at? place = some posts) ∧
      closingName.Written ∧ closingName.text = "author:profiles(\"a)b\")" ∧
      ¬ Tallies 0 closingName.body ∧ Selection.parse closingName.text = ⟨closingName.text, []⟩ := by
  obtain ⟨whole, -, tallies, deeper⟩ := read_back_iff written_author
  obtain ⟨-, column, -⟩ := read_back_iff written_closingName
  have level := tallies nested_author
  have alone : Text.splitTopLevel author.text = [author.text] :=
    Text.isItem_iff.1 written_author.isItem_text
  have within : Within 2 author.text posts :=
    .deeper written_author level (alone ▸ List.mem_singleton_self _)
      (.item written_posts nested_posts.tallies (by decide))
  have strays : ¬ Tallies 0 closingName.body := fun tallies => by cases tallies.2
  exact ⟨written_author, by decide, whole.2 level, deeper 2 posts within, written_closingName,
    by decide, strays, column strays⟩

end Reference

end FluentQuery

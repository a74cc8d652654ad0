import FluentQuery.Proofs.Ident
import FluentQuery.Proofs.Sql.Reading

/-! The grammar of identifiers: segments with dots between them, each bare or in quotes. A text is
read just when it is spelled by the grammar and holds no NUL, and the parts are those that its
segments stand for. What is written for parts that are not empty is read back, so quoting once is
quoting for good. -/
namespace FluentQuery.Ident

/-! Spelling -/

/-- The characters with which bare segments begin. -/
def Letter (c : Char) : Prop :=
  ('A' ≤ c ∧ c ≤ 'Z') ∨ ('a' ≤ c ∧ c ≤ 'z') ∨ c = '_'

/-- The characters with which bare segments go on. -/
def Follower (c : Char) : Prop :=
  Letter c ∨ ('0' ≤ c ∧ c ≤ '9') ∨ c = '$'

/-- What stands within quotes, and the text that it stands for. -/
inductive Content : Text → Text → Prop where
  | nil : Content [] []
  | single {c : Char} {s t : Text} (other : c ≠ '"') (rest : Content s t) :
      Content (c :: s) (c :: t)
  | doubled {s t : Text} (rest : Content s t) : Content ('"' :: '"' :: s) ('"' :: t)

/-- A segment, and the part that it stands for. -/
inductive Segment : Text → Text → Prop where
  | bare {c : Char} {t : Text} (first : Letter c) (later : ∀ d ∈ t, Follower d) :
      Segment (c :: t) (c :: t)
  | quoted {s t : Text} (filled : s ≠ []) (content : Content s t) :
      Segment ('"' :: s ++ ['"']) t

/-- One or more segments with dots between them, and the parts that they stand for in turn. -/
inductive Spells : Text → List Text → Prop where
  | last {s part : Text} (segment : Segment s part) : Spells s [part]
  | more {s t part : Text} {parts : List Text} (segment : Segment s part)
      (rest : Spells t parts) : Spells (s ++ '.' :: t) (part :: parts)

variable {c : Char} {s t whole part rest : Text} {parts : List Text}

theorem isAlpha_iff : c.isAlpha = true ↔ ('A' ≤ c ∧ c ≤ 'Z') ∨ ('a' ≤ c ∧ c ≤ 'z') := by
  have cases : c.isAlpha = (decide ('A' ≤ c ∧ c ≤ 'Z') || (decide ('a' ≤ c) && decide (c ≤ 'z'))) :=
    rfl
  rw [cases, Bool.or_eq_true, Bool.and_eq_true, decide_eq_true_eq, decide_eq_true_eq,
    decide_eq_true_eq]

theorem isDigit_iff : c.isDigit = true ↔ '0' ≤ c ∧ c ≤ '9' := by
  have bounds : c.isDigit = (decide ('0' ≤ c) && decide (c ≤ '9')) := rfl
  rw [bounds, Bool.and_eq_true, decide_eq_true_eq, decide_eq_true_eq]

theorem isFirst_iff : isFirst c = true ↔ Letter c := by
  simp only [isFirst, Bool.or_eq_true, decide_eq_true_eq, isAlpha_iff, Letter]
  tauto

theorem isLater_iff : isLater c = true ↔ Follower c := by
  simp only [isLater, Char.isAlphanum, Bool.or_eq_true, decide_eq_true_eq, isAlpha_iff,
    isDigit_iff, Follower, Letter]
  tauto

theorem plain_cons_iff : Plain (c :: t) ↔ Letter c ∧ ∀ d ∈ t, Follower d := by
  simp only [Plain, List.head?_cons, Option.mem_some_iff, exists_eq_left', isFirst_iff,
    List.forall_mem_cons, isLater_iff]
  constructor
  · rintro ⟨first, -, later⟩
    exact ⟨first, later⟩
  · rintro ⟨first, later⟩
    exact ⟨first, .inl first, later⟩

/-! Content -/

theorem content_iff : Content s t ↔ s = doubleQuotes t := by
  constructor
  · intro content
    induction content with
    | nil => rfl
    | single other rest ih =>
      rw [ih, doubleQuotes, doubleQuotes, List.flatMap_cons, if_neg other]
      rfl
    | doubled rest ih =>
      rw [ih]
      rfl
  · rintro rfl
    induction t with
    | nil => exact .nil
    | cons c t ih =>
      rw [doubleQuotes, List.flatMap_cons]
      split
      · next quote =>
        subst quote
        exact .doubled ih
      · next other => exact .single other ih

theorem Content.eq_nil_iff (content : Content s t) : s = [] ↔ t = [] := by
  cases content <;> simp

/-- Content is read up to a quote that no other follows. -/
theorem quotedPart?_eq_some_iff :
    quotedPart? t = some (part, rest) ↔
      rest.head? ≠ some '"' ∧ ∃ s, t = s ++ '"' :: rest ∧ Content s part := by
  constructor
  · intro read
    fun_induction quotedPart? t generalizing part with
    | case1 => cases read
    | case2 t ih =>
      obtain ⟨⟨inner, after⟩, later, same⟩ := Option.map_eq_some_iff.1 read
      cases same
      obtain ⟨apart, s, rfl, content⟩ := ih later
      exact ⟨apart, '"' :: '"' :: s, rfl, .doubled content⟩
    | case3 t alone =>
      cases read
      refine ⟨fun first => ?_, [], rfl, .nil⟩
      obtain ⟨more, rfl⟩ := List.head?_eq_some_iff.1 first
      exact alone more rfl
    | case4 c t _ other ih =>
      obtain ⟨⟨inner, after⟩, later, same⟩ := Option.map_eq_some_iff.1 read
      cases same
      obtain ⟨apart, s, rfl, content⟩ := ih later
      exact ⟨apart, c :: s, rfl, .single other content⟩
  · rintro ⟨apart, s, rfl, content⟩
    rw [content_iff.1 content]
    exact Sql.Condition.quotedPart?_doubleQuotes part apart

/-! Segments -/

theorem Segment.ne_nil (segment : Segment s part) : s ≠ [] := by
  cases segment <;> simp

theorem Segment.part_ne_nil (segment : Segment s part) : part ≠ [] := by
  cases segment with
  | bare => exact List.cons_ne_nil _ _
  | quoted filled content => exact fun none => filled (content.eq_nil_iff.2 none)

theorem segment_of_plain (plain : Plain t) : Segment t t := by
  cases t with
  | nil => exact absurd rfl plain.ne_nil
  | cons c t => exact .bare (plain_cons_iff.1 plain).1 (plain_cons_iff.1 plain).2

theorem segment_quotePart (filled : part ≠ []) : Segment (quotePart part) part := by
  have content : Content (doubleQuotes part) part := content_iff.2 rfl
  exact .quoted (fun none => filled (content.eq_nil_iff.1 none)) content

/-- A segment is read where a dot follows, and at the end. -/
theorem Segment.read (segment : Segment s part) (whole : Text)
    (ends : ∀ c ∈ rest.head?, c = '.') : Ident.part whole (s ++ rest) = .ok (part, rest) := by
  cases segment with
  | bare first later => exact Plain.part_append (plain_cons_iff.2 ⟨first, later⟩) whole ends
  | @quoted s _ filled content =>
    have apart : rest.head? ≠ some '"' := fun first => absurd (ends _ first) (by decide)
    have read : quotedPart? (s ++ '"' :: rest) = some (part, rest) :=
      quotedPart?_eq_some_iff.2 ⟨apart, s, rfl, content⟩
    obtain ⟨c, more, rfl⟩ : ∃ c more, part = c :: more :=
      List.exists_cons_of_ne_nil fun none => filled (content.eq_nil_iff.2 none)
    rw [List.cons_append, List.cons_append, List.append_assoc, List.singleton_append, Ident.part,
      read]

/-- What is read as a part is a segment. -/
theorem exists_segment_of_part (read : Ident.part whole t = .ok (part, rest)) :
    ∃ s, t = s ++ rest ∧ Segment s part := by
  unfold Ident.part at read
  split at read
  · split at read
    · cases read
    · cases read
    · next filled quoted =>
      cases read
      obtain ⟨-, s, rfl, content⟩ := quotedPart?_eq_some_iff.1 quoted
      exact ⟨'"' :: s ++ ['"'], by simp,
        .quoted (fun none => filled (content.eq_nil_iff.1 none)) content⟩
  · split at read
    · cases read
    · next c more taken =>
      split at read
      · cases read
      · next first =>
        split at read
        · cases read
        · next later =>
          cases read
          rw [List.find?_eq_none] at later
          refine ⟨c :: more, by rw [← taken, List.takeWhile_append_dropWhile], .bare ?_ ?_⟩
          · exact isFirst_iff.1 (by simpa using first)
          · exact fun d among => isLater_iff.1 (by simpa using later d among)

/-! Identifiers -/

theorem Spells.ne_nil (spells : Spells t parts) : t ≠ [] := by
  cases spells with
  | last segment => exact segment.ne_nil
  | more segment rest => simp

theorem Spells.parts_ne_nil (spells : Spells t parts) : parts ≠ [] := by
  cases spells <;> exact List.cons_ne_nil _ _

theorem partsFrom_eq_ok_iff : partsFrom whole t = .ok parts ↔ Spells t parts := by
  constructor
  · intro read
    induction parts generalizing t with
    | nil => exact absurd rfl (partsFrom_ne_nil read)
    | cons part parts ih =>
      obtain ⟨name, after, first, ⟨rfl, same⟩ | ⟨next, more, rfl, later, same⟩⟩ :=
        cases_of_partsFrom read
      · cases same
        obtain ⟨s, rfl, segment⟩ := exists_segment_of_part first
        rw [List.append_nil]
        exact .last segment
      · cases same
        obtain ⟨s, rfl, segment⟩ := exists_segment_of_part first
        exact .more segment (ih later)
  · intro spells
    induction spells with
    | @last s part segment =>
      have read : Ident.part whole (s ++ []) = .ok (part, []) :=
        segment.read whole fun _ none => nomatch none
      rw [List.append_nil] at read
      exact partsFrom_last read
    | more segment rest ih =>
      refine partsFrom_more (segment.read whole ?_) rest.ne_nil ih
      rintro _ ⟨⟩
      rfl

/-- A text is read just when it is spelled by the grammar and holds no NUL. -/
theorem parse_eq_ok_iff {i : Ident} : parse t = .ok i ↔ '\x00' ∉ t ∧ Spells t i.parts := by
  obtain ⟨parts⟩ := i
  by_cases empty : t = []
  · rw [parse, if_pos empty]
    simp only [reduceCtorEq, false_iff, not_and]
    exact fun _ spells => spells.ne_nil empty
  · rw [parse, if_neg empty]
    by_cases nul : Char.ofNat 0 ∈ t
    · rw [if_pos nul]
      simp only [reduceCtorEq, false_iff, not_and]
      exact fun clean => absurd nul clean
    · rw [if_neg nul, map_eq_ok_iff]
      constructor
      · rintro ⟨names, read, ⟨⟩⟩
        exact ⟨nul, partsFrom_eq_ok_iff.1 read⟩
      · rintro ⟨-, spells⟩
        exact ⟨parts, partsFrom_eq_ok_iff.2 spells, rfl⟩

/-! Writing -/

theorem spells_sql (any : parts ≠ []) (filled : ∀ part ∈ parts, part ≠ []) :
    Spells (sql ⟨parts⟩) parts := by
  induction parts with
  | nil => exact absurd rfl any
  | cons part parts ih =>
    rw [List.forall_mem_cons] at filled
    have first : Segment (quotePart part) part := segment_quotePart filled.1
    cases parts with
    | nil => exact .last first
    | cons other parts =>
      have rest : Spells (sql ⟨other :: parts⟩) (other :: parts) := ih (by simp) filled.2
      have split : sql ⟨part :: other :: parts⟩ =
          quotePart part ++ '.' :: sql ⟨other :: parts⟩ := by
        simp [sql, Text.join_cons_cons]
      exact split ▸ .more first rest

theorem noNul_sql (clean : ∀ part ∈ parts, '\x00' ∉ part) : '\x00' ∉ sql ⟨parts⟩ := by
  intro member
  obtain dot | ⟨quoted, among, inside⟩ := Text.mem_join member
  · exact absurd dot (by decide)
  · obtain ⟨part, given, rfl⟩ := List.mem_map.1 among
    have within : '\x00' ∈ doubleQuotes part := by simpa [quotePart] using inside
    obtain ⟨c, held, written⟩ := List.mem_flatMap.1 within
    have same : c = '\x00' := by
      split at written
      · exact absurd written (by decide)
      · exact (List.mem_singleton.1 written).symm
    exact clean part given (same ▸ held)

theorem Spells.filled (spells : Spells t parts) : ∀ part ∈ parts, part ≠ [] := by
  induction spells with
  | last segment => exact List.forall_mem_singleton.2 segment.part_ne_nil
  | more segment rest ih => exact List.forall_mem_cons.2 ⟨segment.part_ne_nil, ih⟩

/-- Parts that are not empty and hold no NUL are read back as they were written. -/
theorem parse_sql (any : parts ≠ []) (sound : ∀ part ∈ parts, part ≠ [] ∧ '\x00' ∉ part) :
    parse (sql ⟨parts⟩) = .ok ⟨parts⟩ :=
  parse_eq_ok_iff.2 ⟨noNul_sql fun part member => (sound part member).2,
    spells_sql any fun part member => (sound part member).1⟩

theorem parse_sql_of_parse {i : Ident} (parsed : parse t = .ok i) : parse i.sql = .ok i := by
  obtain ⟨-, spells⟩ := parse_eq_ok_iff.1 parsed
  exact parse_sql spells.parts_ne_nil fun part member =>
    ⟨spells.filled part member, noNul_of_parse parsed part member⟩

/-- Just the texts without NUL that the grammar spells are read, as the parts that they spell; any
parts that are not empty and hold no NUL are read from what is written for them; and a text that is
read is quoted as a text that quoting leaves as it is. -/
theorem reads_grammar (t : Text) :
    (∀ i, parse t = .ok i ↔ '\x00' ∉ t ∧ Spells t i.parts) ∧
      (∀ parts, parts ≠ [] → (∀ part ∈ parts, part ≠ [] ∧ '\x00' ∉ part) →
        parse (sql ⟨parts⟩) = .ok ⟨parts⟩) ∧
      ∀ i, parse t = .ok i → quote t = .ok i.sql ∧ quote i.sql = .ok i.sql := by
  refine ⟨fun i => parse_eq_ok_iff, fun parts any sound => parse_sql any sound, ?_⟩
  intro i parsed
  have again : parse i.sql = .ok i := parse_sql_of_parse parsed
  exact ⟨by rw [quote, parsed]; rfl, by rw [quote, again]; rfl⟩

/-- A bare segment, and a quoted one with a dot and a quote in it. -/
def mixedName : Text := "data$1" ++ '.' :: quotePart "my.\"own\""

theorem mixedName_grammar :
    '\x00' ∉ mixedName ∧ Spells mixedName ["data$1", "my.\"own\""] ∧
      (∀ part ∈ (["data$1", "my.\"own\""] : List Text), part ≠ [] ∧ '\x00' ∉ part) ∧
      parse mixedName = .ok ⟨["data$1", "my.\"own\""]⟩ ∧
      parse (sql ⟨["data$1", "my.\"own\""]⟩) = .ok ⟨["data$1", "my.\"own\""]⟩ ∧
      quote mixedName = .ok "\"data$1\".\"my.\"\"own\"\"\"" ∧
      quote "\"data$1\".\"my.\"\"own\"\"\"" = .ok "\"data$1\".\"my.\"\"own\"\"\"" := by
  have clean : '\x00' ∉ mixedName := by decide
  have spells : Spells mixedName ["data$1", "my.\"own\""] :=
    .more (segment_of_plain (by decide)) (.last (segment_quotePart (by decide)))
  have sound : ∀ part ∈ (["data$1", "my.\"own\""] : List Text), part ≠ [] ∧ '\x00' ∉ part := by
    decide
  obtain ⟨read, written, quoted⟩ := reads_grammar mixedName
  have parsed : parse mixedName = .ok ⟨["data$1", "my.\"own\""]⟩ := (read _).2 ⟨clean, spells⟩
  obtain ⟨once, twice⟩ := quoted _ parsed
  exact ⟨clean, spells, sound, parsed, written _ (List.cons_ne_nil _ _) sound, once, twice⟩

end FluentQuery.Ident

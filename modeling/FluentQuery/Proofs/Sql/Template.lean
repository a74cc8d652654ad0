import FluentQuery.Statement
import FluentQuery.Proofs.Sql.Scan

/-! SQL that holds the values themselves where they are asked for. Numbering a template from left
to right gives the SQL of a statement and its parameters. The parts of a statement are built with a
list of parameters passed along; that each of them is a template, numbered from where the list
stands, is said with `Params.fill`. -/
namespace FluentQuery

inductive Piece where
  | sql (t : Text)
  /-- A value is asked for here. -/
  | value (v : Json)

abbrev Template := List Piece

namespace Template

/-- The SQL, with placeholders from `n` on. -/
def text (n : Nat) : Template → Text
  | [] => []
  | .sql t :: rest => t ++ text n rest
  | .value _ :: rest => '$' :: Nat.toDigits 10 n ++ text (n + 1) rest

/-- The values, in the order in which they are asked for. -/
def values : Template → List Json
  | [] => []
  | .sql _ :: rest => values rest
  | .value v :: rest => v :: values rest

def statement (T : Template) : Statement :=
  ⟨T.text 1, T.values⟩

def join (sep : Text) : List Template → Template
  | [] => []
  | [T] => T
  | T :: U :: rest => T ++ .sql sep :: join sep (U :: rest)

def bracketed (T : Template) : Template :=
  .sql ['('] :: T ++ [.sql [')']]

/-- The SQL of several templates, numbered through. -/
def texts (n : Nat) : List Template → List Text
  | [] => []
  | T :: rest => T.text n :: texts (n + T.values.length) rest

variable (n : Nat) (T U : Template) (t : Text) (v : Json)

@[simp] theorem text_nil : text n [] = [] := rfl

@[simp] theorem text_sql : text n (.sql t :: T) = t ++ text n T := rfl

@[simp] theorem text_value :
    text n (.value v :: T) = '$' :: Nat.toDigits 10 n ++ text (n + 1) T := rfl

@[simp] theorem values_nil : values [] = [] := rfl

@[simp] theorem values_sql : values (.sql t :: T) = values T := rfl

@[simp] theorem values_value : values (.value v :: T) = v :: values T := rfl

@[simp] theorem values_append : values (T ++ U) = values T ++ values U := by
  induction T with
  | nil => rfl
  | cons piece T ih => cases piece <;> simp [ih]

@[simp] theorem text_append : text n (T ++ U) = text n T ++ text (n + T.values.length) U := by
  induction T generalizing n with
  | nil => rfl
  | cons piece T ih =>
    cases piece with
    | sql t => simp [ih]
    | value v => simp [ih, Nat.add_assoc, Nat.add_comm 1]

@[simp] theorem values_bracketed : T.bracketed.values = T.values := by
  simp [bracketed]

@[simp] theorem text_bracketed : T.bracketed.text n = Predicate.bracketed (T.text n) := by
  simp [bracketed, Predicate.bracketed]

@[simp] theorem values_join (sep : Text) (parts : List Template) :
    (join sep parts).values = parts.flatMap values := by
  induction parts using join.induct with
  | case1 => rfl
  | case2 T => simp [join]
  | case3 T U rest ih => simp [join, ih]

@[simp] theorem text_join (sep : Text) (parts : List Template) :
    (join sep parts).text n = Text.join sep (texts n parts) := by
  induction parts using join.induct generalizing n with
  | case1 => rfl
  | case2 T => simp [join, texts]
  | case3 T U rest ih => simp [join, texts, ih, Text.join_cons_cons]

theorem texts_eq_nil_iff {parts : List Template} : texts n parts = [] ↔ parts = [] := by
  cases parts <;> simp [texts]

theorem exists_of_mem_texts {t : Text} {parts : List Template} (member : t ∈ texts n parts) :
    ∃ T ∈ parts, ∃ m, t = T.text m := by
  induction parts generalizing n with
  | nil => cases member
  | cons T rest ih =>
    rcases List.mem_cons.1 member with rfl | later
    · exact ⟨T, List.mem_cons_self, n, rfl⟩
    · obtain ⟨U, among, numbered⟩ := ih _ later
      exact ⟨U, List.mem_cons_of_mem _ among, numbered⟩

theorem texts_values (vs : List Json) : texts n (vs.map fun v => [.value v]) =
    (List.range vs.length).map fun i => '$' :: Nat.toDigits 10 (n + i) := by
  induction vs generalizing n with
  | nil => rfl
  | cons v vs ih =>
    rw [List.map_cons, texts, ih, List.length_cons, List.range_succ_eq_map, List.map_cons,
      List.map_map]
    simp [Function.comp_def, Nat.add_right_comm n, Nat.add_assoc]

theorem flatMap_values (vs : List Json) :
    (vs.map fun v => ([.value v] : Template)).flatMap values = vs := by
  induction vs with
  | nil => rfl
  | cons v vs ih =>
    rw [List.map_cons, List.flatMap_cons, ih]
    rfl

end Template

namespace Params

variable (p : Params)

def pushAll (vs : List Json) : Params :=
  { p with values := p.values ++ vs }

/-- The SQL of a template whose values are pushed next. -/
def fill (T : Template) : Text × Params :=
  (T.text p.next, p.pushAll T.values)

def fillAll (parts : List Template) : List Text × Params :=
  (Template.texts p.next parts, p.pushAll (parts.flatMap Template.values))

@[simp] theorem pushAll_nil : p.pushAll [] = p := by
  simp [pushAll]

@[simp] theorem pushAll_pushAll (vs ws : List Json) :
    (p.pushAll vs).pushAll ws = p.pushAll (vs ++ ws) := by
  simp [pushAll]

@[simp] theorem next_pushAll (vs : List Json) : (p.pushAll vs).next = p.next + vs.length := by
  simp [pushAll, next]
  omega

theorem push_eq_pushAll (v : Json) : p.push v = p.pushAll [v] := rfl

@[simp] theorem values_pushAll (vs : List Json) : (p.pushAll vs).values = p.values ++ vs := rfl

@[simp] theorem fillAll_nil : p.fillAll [] = ([], p) := by
  simp [fillAll, Template.texts]

theorem fillAll_cons (T : Template) (rest : List Template) :
    p.fillAll (T :: rest) =
      ((p.fill T).1 :: ((p.fill T).2.fillAll rest).1, ((p.fill T).2.fillAll rest).2) := by
  simp [fillAll, fill, Template.texts]

theorem fill_nil : p.fill [] = ([], p) := by
  simp [fill]

theorem fill_sql (t : Text) (T : Template) :
    p.fill (.sql t :: T) = (t ++ (p.fill T).1, (p.fill T).2) := rfl

theorem fill_join (sep : Text) (parts : List Template) :
    p.fill (Template.join sep parts) =
      (Text.join sep (p.fillAll parts).1, (p.fillAll parts).2) := by
  simp [fill, fillAll]

theorem fill_empty (T : Template) : empty.fill T = (T.text 1, ⟨0, T.values⟩) := rfl

end Params

/-! Fragments -/

namespace Template

/-- However it is numbered, the SQL is a fragment with just the placeholders of the values. -/
def Sound (filtered : Bool) (T : Template) : Prop :=
  ∀ n, Sql.Fragment filtered (T.text n) (List.range' n T.values.length)

/-- The SQL keeps apart from what stands before it. -/
def Apart (T : Template) : Prop :=
  ∀ n, Sql.Apart (T.text n)

variable {filtered : Bool} {T U : Template} {t : Text}

theorem Apart.nil : Apart [] :=
  fun _ => .nil

theorem Apart.sql (opens : Sql.Opens t) (rest : Template) : Apart (.sql t :: rest) :=
  fun n => (opens.before (rest.text n)).apart

theorem Apart.cons (apart : Sql.Apart t) (later : Apart T) : Apart (.sql t :: T) :=
  fun n => apart.append (later n)

theorem Apart.value (v : Json) (rest : Template) : Apart (.value v :: rest) :=
  fun _ => .cons (by decide) (by decide) _

theorem Apart.append (first : Apart T) (second : Apart U) : Apart (T ++ U) := by
  intro n
  rw [text_append]
  exact (first n).append (second _)

namespace Sound

theorem nil : Sound filtered [] :=
  fun _ => .nil

theorem weaken (sound : Sound false T) : Sound filtered T :=
  fun n => (sound n).weaken

theorem append (first : Sound filtered T) (second : Sound filtered U) (apart : Apart U) :
    Sound filtered (T ++ U) := by
  intro n
  rw [text_append, values_append, List.length_append, ← List.range'_append_1]
  exact (first n).append (second _) (apart _)

/-- Plain SQL before anything. -/
theorem plain (plain : Sql.Plain t) (second : Sound filtered T) : Sound filtered (.sql t :: T) :=
  fun n => .plain_append plain (second n)

theorem where_ (second : Sound true T) : Sound true (.sql " WHERE " :: T) :=
  fun n => .where_append (second n)

/-- A fragment before something that keeps apart from it. -/
theorem sql (fragment : Sql.Fragment filtered t []) (second : Sound filtered T) (apart : Apart T) :
    Sound filtered (.sql t :: T) :=
  fun n => fragment.append (second n) (apart n)

theorem value (v : Json) (second : Sound filtered T) (apart : Apart T) :
    Sound filtered (.value v :: T) := by
  intro n
  have first : Sql.Fragment filtered _ _ := .placeholder n
  rw [values_value, List.length_cons, List.range'_succ]
  exact first.append (second _) (apart _)

theorem join {s : Text} (sep : Sql.Separator s) {parts : List Template}
    (each : ∀ T ∈ parts, Sound filtered T) : Sound filtered (join s parts) := by
  induction parts using join.induct with
  | case1 => exact nil
  | case2 T => exact each T List.mem_cons_self
  | case3 T U rest ih =>
    obtain ⟨first, later⟩ := List.forall_mem_cons.1 each
    exact first.append (.plain sep.plain (ih later)) (.sql sep.toOpens _)

theorem bracketed (inner : Sound filtered T) : Sound filtered T.bracketed :=
  .plain (by decide) (inner.append (.plain (by decide) nil) (.sql (by decide) _))

end Sound

end Template

end FluentQuery

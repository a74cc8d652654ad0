import FluentQuery.Text

/-! SQL identifiers: one or more parts with dots between them. A bare part is ASCII, a quoted part
holds any characters but NUL; both are written quoted, with every quote doubled. -/
namespace FluentQuery

structure Ident where
  parts : List Text
deriving DecidableEq, Repr

namespace Ident

/-- Why a text is no identifier; `whole` is the text. -/
inductive Fault where
  | empty
  | nul
  | trailingDot (whole : Text)
  | expectedDot (whole : Text)
  | emptyQuoted
  | unclosed (whole : Text)
  | emptySegment (whole : Text)
  | character (c : Char) (whole : Text)
deriving DecidableEq, Repr

def Fault.message : Fault → Text
  | .empty => "Identifier cannot be empty"
  | .nul => "Identifier cannot contain NUL character"
  | .trailingDot whole => "Trailing '.' in identifier '" ++ whole ++ "'"
  | .expectedDot whole => "Expected '.' after identifier part in '" ++ whole ++ "'"
  | .emptyQuoted => "Empty quoted identifier"
  | .unclosed whole => "Unclosed quoted identifier in '" ++ whole ++ "'"
  | .emptySegment whole => "Empty identifier segment in '" ++ whole ++ "'"
  | .character c whole => "Invalid character '" ++ [c] ++ "' in identifier '" ++ whole ++ "'"

def isFirst (c : Char) : Bool :=
  c = '_' || c.isAlpha

def isLater (c : Char) : Bool :=
  c = '_' || c = '$' || c.isAlphanum

/-- The content of a quoted part whose opening quote has been read, and what follows the closing
one; a doubled quote stands for itself. -/
def quotedPart? : Text → Option (Text × Text)
  | [] => none
  | '"' :: '"' :: rest => (quotedPart? rest).map fun (name, after) => ('"' :: name, after)
  | '"' :: rest => some ([], rest)
  | c :: rest => (quotedPart? rest).map fun (name, after) => (c :: name, after)

/-- The part at the head of `rest`, and what follows it. -/
def part (whole : Text) : Text → Except Fault (Text × Text)
  | '"' :: rest =>
    match quotedPart? rest with
    | none => .error (.unclosed whole)
    | some ([], _) => .error .emptyQuoted
    | some (name, after) => .ok (name, after)
  | rest =>
    match rest.takeWhile (· != '.') with
    | [] => .error (.emptySegment whole)
    | c :: more =>
      if !isFirst c then .error (.character c whole)
      else
        match more.find? fun d => !isLater d with
        | some d => .error (.character d whole)
        | none => .ok (c :: more, rest.dropWhile (· != '.'))

theorem length_of_quotedPart? {t name after : Text} (h : quotedPart? t = some (name, after)) :
    after.length < t.length := by
  fun_induction quotedPart? t generalizing name with
  | case1 => simp at h
  | case2 rest ih =>
    obtain ⟨⟨n, a⟩, hn, e⟩ := Option.map_eq_some_iff.1 h
    cases e
    have := ih hn
    simp; omega
  | case3 rest => cases h; simp
  | case4 c rest _ _ ih =>
    obtain ⟨⟨n, a⟩, hn, e⟩ := Option.map_eq_some_iff.1 h
    cases e
    have := ih hn
    simp; omega

theorem length_of_part {whole t name after : Text} (h : part whole t = .ok (name, after)) :
    after.length ≤ t.length := by
  unfold part at h
  split at h
  · split at h <;> try cases h
    next heq => have := length_of_quotedPart? heq; simp; omega
  · split at h
    · cases h
    · split at h
      · cases h
      · split at h
        · cases h
        · cases h
          exact (List.dropWhile_suffix _).length_le

/-- The parts from `rest` to the end. -/
def partsFrom (whole rest : Text) : Except Fault (List Text) :=
  match _h : part whole rest with
  | .error fault => .error fault
  | .ok (name, []) => .ok [name]
  | .ok (name, c :: next) =>
    if c ≠ '.' then .error (.expectedDot whole)
    else if next = [] then .error (.trailingDot whole)
    else
      match partsFrom whole next with
      | .error fault => .error fault
      | .ok names => .ok (name :: names)
termination_by rest.length
decreasing_by
  have := length_of_part _h
  simp at this
  omega

def parse (t : Text) : Except Fault Ident :=
  if t = [] then .error .empty
  else if Char.ofNat 0 ∈ t then .error .nul
  else (partsFrom t t).map Ident.mk

/-- The last part. -/
def name (i : Ident) : Text :=
  i.parts.getLast?.getD []

/-- Every quote twice. -/
def doubleQuotes (t : Text) : Text :=
  t.flatMap fun c => if c = '"' then ['"', '"'] else [c]

def quotePart (part : Text) : Text :=
  '"' :: doubleQuotes part ++ ['"']

def sql (i : Ident) : Text :=
  Text.join "." (i.parts.map quotePart)

/-- Reads an identifier and writes it quoted. -/
def quote (t : Text) : Except Fault Text :=
  (parse t).map sql

/-- The quoted identifiers, separated by commas; the first fault otherwise. -/
def quoteAll (names : List Text) : Except Fault Text :=
  (names.mapM quote).map (Text.join ", ")

end Ident

end FluentQuery

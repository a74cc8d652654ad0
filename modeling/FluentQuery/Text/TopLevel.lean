import FluentQuery.Text
import FluentQuery.Text.Blank

/-! Splitting at top-level commas: those outside every bracket and outside double quotes. A closing
bracket without an opening one counts below zero, and no comma splits until the count is zero
again. -/
namespace FluentQuery.Text

/-- Where a scan stands: brackets still open, and whether inside double quotes. -/
structure Nesting where
  depth : Int
  quoted : Bool
deriving DecidableEq, Repr

namespace Nesting

def outside : Nesting := ⟨0, false⟩

def after (n : Nesting) (c : Char) : Nesting :=
  if c = '"' then { n with quoted := !n.quoted }
  else if n.quoted then n
  else if c = '(' ∨ c = '\x7b' ∨ c = '[' then { n with depth := n.depth + 1 }
  else if c = ')' ∨ c = '\x7d' ∨ c = ']' then { n with depth := n.depth - 1 }
  else n

def afterAll (n : Nesting) (t : Text) : Nesting :=
  t.foldl after n

theorem afterAll_append (n : Nesting) (s t : Text) :
    n.afterAll (s ++ t) = (n.afterAll s).afterAll t := by
  simp [afterAll]

end Nesting

/-- The text between one top-level comma and the next, untrimmed. -/
def pieces (n : Nesting) : Text → List Text
  | [] => [[]]
  | c :: rest =>
    if c = ',' ∧ n = .outside then [] :: pieces n rest
    else
      match pieces (n.after c) rest with
      | [] => [[c]]
      | piece :: more => (c :: piece) :: more

/-- The trimmed pieces that are not blank. -/
def splitTopLevel (t : Text) : List Text :=
  ((pieces .outside t).map trim).filter fun piece => !piece.isEmpty

theorem length_of_mem_pieces {n : Nesting} {t p : Text} (h : p ∈ pieces n t) :
    p.length ≤ t.length := by
  induction t generalizing n p with
  | nil => simp [pieces] at h; simp [h]
  | cons c rest ih =>
    unfold pieces at h
    split at h
    · rcases List.mem_cons.1 h with rfl | h
      · simp
      · exact Nat.le_succ_of_le (ih h)
    · split at h
      · simp at h; simp [h]
      · next piece more heq =>
        rcases List.mem_cons.1 h with rfl | h
        · have := @ih (n.after c) piece (by simp [heq])
          simpa using this
        · exact Nat.le_succ_of_le (@ih (n.after c) p (by simp [heq, h]))

/-- No item is longer than the text it was split from. -/
theorem length_of_mem_splitTopLevel {t p : Text} (h : p ∈ splitTopLevel t) :
    p.length ≤ t.length := by
  simp only [splitTopLevel, List.mem_filter, List.mem_map] at h
  obtain ⟨⟨q, hq, rfl⟩, _⟩ := h
  exact Nat.le_trans (length_trim_le q) (length_of_mem_pieces hq)

end FluentQuery.Text

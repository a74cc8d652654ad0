import FluentQuery.Proofs.Json.Printer
import FluentQuery.Relation

/-! The names under which values join. Null has none, and different values have different names:
the mark in front tells texts, numbers and truth values apart, and behind it stands the text. -/
namespace FluentQuery.Relation

theorem joinKey_eq_none_iff {v : Json} : joinKey v = none ↔ v = .null := by
  cases v <;> simp [joinKey]

/-- What a name starts with. -/
def markOf : Json → Char
  | .str _ => 's'
  | .int _ | .float _ => 'n'
  | .bool _ => 'b'
  | .null | .arr _ | .obj _ => 'j'

/-- A name that is no text is the text of the value behind a mark. -/
theorem joinKey_eq_of_plain {v : Json} (joins : v ≠ .null) (plain : ∀ t, v ≠ .str t) :
    joinKey v = some (markOf v :: ':' :: v.render) := by
  cases v with
  | null => exact absurd rfl joins
  | str t => exact absurd rfl (plain t)
  | _ => rfl

theorem mark_of_joinKey {v : Json} {name : Text} (named : joinKey v = some name) :
    ∃ rest, name = markOf v :: rest := by
  cases v with
  | null => cases named
  | _ => exact ⟨_, (Option.some.inj named).symm⟩

theorem str_of_mark {v : Json} (mark : markOf v = 's') : ∃ t, v = .str t := by
  cases v with
  | str t => exact ⟨t, rfl⟩
  | _ => cases mark

/-- Values that join have different keys if they differ. -/
theorem joinKey_inj {v w : Json} (joins : v ≠ .null) (same : joinKey v = joinKey w) : v = w := by
  have joins' : w ≠ .null := by
    rw [ne_eq, ← joinKey_eq_none_iff, ← same, joinKey_eq_none_iff]
    exact joins
  obtain ⟨name, named⟩ := Option.ne_none_iff_exists'.1 (mt joinKey_eq_none_iff.1 joins)
  obtain ⟨rest, first⟩ := mark_of_joinKey named
  obtain ⟨more, second⟩ := mark_of_joinKey (same ▸ named)
  have marks : markOf v = markOf w := (List.cons.inj (first.symm.trans second)).1
  by_cases text : markOf v = 's'
  · obtain ⟨t, rfl⟩ := str_of_mark text
    obtain ⟨u, rfl⟩ := str_of_mark (marks ▸ text)
    exact congrArg Json.str (List.append_cancel_left (Option.some.inj same))
  · have plain : ∀ t, v ≠ .str t := fun t equal => text (by rw [equal]; rfl)
    have plain' : ∀ t, w ≠ .str t := fun t equal => text (by rw [marks, equal]; rfl)
    rw [joinKey_eq_of_plain joins plain, joinKey_eq_of_plain joins' plain'] at same
    exact Json.render_inj (List.cons.inj (List.cons.inj (Option.some.inj same)).2).2

end FluentQuery.Relation

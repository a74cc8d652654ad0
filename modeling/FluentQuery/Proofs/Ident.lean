import FluentQuery.Ident
import FluentQuery.Proofs.Text.TopLevel
import Mathlib.Data.List.TakeWhile

/-! Plain identifiers: a letter or an underscore, and after it letters, digits, underscores and
dollar signs. Such a name is one part of an identifier as it stands, and none of its characters
means anything to the filter grammar. -/
namespace FluentQuery.Ident

/-- A name of one part that needs no quotes. -/
def Plain (t : Text) : Prop :=
  (∃ c ∈ t.head?, isFirst c = true) ∧ ∀ c ∈ t, isLater c = true

instance (t : Text) : Decidable (Plain t) :=
  decidable_of_iff (t.head?.any isFirst = true ∧ t.all isLater = true) (by
    cases t <;> simp [Plain])

variable {c : Char} {t : Text}

theorem notMem_of_isLater (later : isLater c = true) :
    c ∉ '.' :: '"' :: '\x00' :: Text.structural := by
  have each : ∀ d ∈ '.' :: '"' :: '\x00' :: Text.structural, isLater d = false := by decide
  intro member
  cases later.symm.trans (each c member)

theorem isBlank_of_isLater (later : isLater c = true) : Text.isBlank c = false := by
  have each : ∀ n ∈ Text.blankCodes, isLater (Char.ofNat n) = false := by decide
  rw [Bool.eq_false_iff]
  intro blank
  have listed := each c.toNat (by simpa [Text.isBlank] using blank)
  rw [Char.ofNat_toNat, later] at listed
  cases listed

/-! Part by part -/

variable {whole name next : Text} {names : List Text}

theorem partsFrom_last (read : part whole t = .ok (name, [])) : partsFrom whole t = .ok [name] := by
  rw [partsFrom]
  split
  · next stuck => cases stuck.symm.trans read
  · next alone =>
    cases alone.symm.trans read
    rfl
  · next other => cases other.symm.trans read

theorem partsFrom_error {fault : Fault} (stuck : part whole t = .error fault) :
    partsFrom whole t = .error fault := by
  rw [partsFrom]
  split
  · next other =>
    cases other.symm.trans stuck
    rfl
  · next read => cases read.symm.trans stuck
  · next read => cases read.symm.trans stuck

theorem partsFrom_more (read : part whole t = .ok (name, '.' :: next)) (filled : next ≠ [])
    (later : partsFrom whole next = .ok names) : partsFrom whole t = .ok (name :: names) := by
  rw [partsFrom]
  split
  · next stuck => cases stuck.symm.trans read
  · next alone => cases alone.symm.trans read
  · next other =>
    cases other.symm.trans read
    rw [if_neg (not_not_intro rfl), if_neg filled, later]

namespace Plain

theorem ne_nil (plain : Plain t) : t ≠ [] := by
  rintro rfl
  obtain ⟨c, member, -⟩ := plain.1
  cases member

theorem notMem (plain : Plain t) (special : c ∈ '.' :: '"' :: '\x00' :: Text.structural) : c ∉ t :=
  fun member => notMem_of_isLater (plain.2 c member) special

theorem closed (plain : Plain t) : Text.Closed t :=
  .of_flat fun c member special => plain.notMem (by simp [special]) member

theorem trimmed (plain : Plain t) : Text.Trimmed t :=
  ⟨fun c first => isBlank_of_isLater (plain.2 c (List.mem_of_mem_head? first)),
    fun c last => isBlank_of_isLater (plain.2 c (List.mem_of_mem_getLast? last))⟩

/-- A plain name is read up to a dot. -/
theorem part_append (plain : Plain t) (whole : Text) {rest : Text}
    (ends : ∀ d ∈ rest.head?, d = '.') : part whole (t ++ rest) = .ok (t, rest) := by
  obtain ⟨c, member, first⟩ := plain.1
  obtain ⟨more, rfl⟩ : ∃ more, t = c :: more := List.head?_eq_some_iff.1 member
  have dotless : ∀ d ∈ c :: more, (d != '.') = true := by
    intro d among
    rw [bne_iff_ne]
    rintro rfl
    exact plain.notMem (by simp) among
  have stop : rest.takeWhile (· != '.') = [] ∧ rest.dropWhile (· != '.') = rest := by
    cases rest with
    | nil => exact ⟨rfl, rfl⟩
    | cons d rest =>
      obtain rfl := ends d rfl
      exact ⟨rfl, rfl⟩
  have later : more.find? (fun d => !isLater d) = none := by
    rw [List.find?_eq_none]
    intro d among
    simp [plain.2 d (List.mem_cons_of_mem _ among)]
  unfold part
  split
  · next same =>
    obtain ⟨rfl, -⟩ := List.cons.inj same
    exact absurd List.mem_cons_self (plain.notMem (by simp))
  · rw [List.takeWhile_append_of_pos dotless, List.dropWhile_append_of_pos dotless, stop.1, stop.2,
      List.append_nil]
    simp only [first, later, Bool.not_true, Bool.false_eq_true, if_false]

/-- A plain name is an identifier of one part. -/
theorem quote_eq (plain : Plain t) : quote t = .ok (quotePart t) := by
  have nul : Char.ofNat 0 ∉ t := plain.notMem (by decide)
  have read : part t (t ++ []) = .ok (t, []) := plain.part_append t fun _ none => nomatch none
  rw [List.append_nil] at read
  rw [quote, parse, if_neg plain.ne_nil, if_neg nul, partsFrom_last read]
  rfl

end Plain

/-! Names that are refused -/

theorem isLater_of_isFirst (first : isFirst c = true) : isLater c = true := by
  simp only [isFirst, isLater, Bool.or_eq_true, Char.isAlphanum] at first ⊢
  exact first.elim (fun score => .inl (.inl score)) fun letter => .inr (.inl letter)

variable {first : Char}

/-- A bare part holds no foreign character. -/
theorem exists_part_eq_error (bare : first ≠ '"') (dotless : '.' ∉ first :: t)
    (member : c ∈ first :: t) (foreign : isLater c = false) (whole : Text) :
    ∃ fault, part whole (first :: t) = .error fault := by
  have dots : ∀ d ∈ first :: t, (d != '.') = true := by
    intro d among
    rw [bne_iff_ne]
    rintro rfl
    exact dotless among
  unfold part
  split
  · next same => exact absurd (List.cons.inj same).1 bare
  · rw [List.takeWhile_eq_self_iff.2 dots]
    simp only
    split
    · exact ⟨_, rfl⟩
    · next begins =>
      obtain rfl | later := List.mem_cons.1 member
      · rw [Bool.not_eq_true', Bool.not_eq_false] at begins
        cases foreign.symm.trans (isLater_of_isFirst begins)
      · split
        · exact ⟨_, rfl⟩
        · next none => exact absurd (List.find?_eq_none.1 none c later) (by simp [foreign])

theorem exists_quote_eq_error (bare : first ≠ '"') (dotless : '.' ∉ first :: t)
    (member : c ∈ first :: t) (foreign : isLater c = false) :
    ∃ fault, quote (first :: t) = .error fault := by
  obtain ⟨fault, stuck⟩ := exists_part_eq_error bare dotless member foreign (first :: t)
  rw [quote, parse, if_neg (List.cons_ne_nil _ _), partsFrom_error stuck]
  split <;> exact ⟨_, rfl⟩

end FluentQuery.Ident

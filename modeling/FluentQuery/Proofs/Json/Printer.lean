import FluentQuery.Proofs.Binary64.Render
import FluentQuery.Proofs.Json.Quoted

/-! Different values have different texts. The first character tells what kind of value follows,
and the text of a value ends where the value does: what comes after is a comma, a bracket or
nothing, and none of these goes on with a number. -/
namespace FluentQuery.Json

/-! Numbers -/

def isNumberChar (c : Char) : Bool :=
  c.isDigit || c = '-' || c = '+' || c = '.' || c = 'e'

theorem isNumberChar_of_isDigit {c : Char} (digit : c.isDigit = true) : isNumberChar c = true := by
  simp [isNumberChar, digit]

open Binary64 (Numeral AllDigits pointed exponentText)

theorem isNumberChar_of_numeral {t : Text} {v : ℚ} (numeral : Numeral t v) :
    ∀ c ∈ t, isNumberChar c = true := by
  cases numeral with
  | point filled digits =>
    intro c member
    rcases List.mem_append.1 member with member | member
    · exact isNumberChar_of_isDigit (digits c (List.mem_append_left _ member))
    · rcases List.mem_cons.1 member with rfl | member
      · rfl
      · exact isNumberChar_of_isDigit (digits c (List.mem_append_right _ member))
  | @exponent digits filled all power =>
    intro c member
    rcases List.mem_append.1 member with member | member
    · match digits, filled, all, member with
      | [d], _, all, member => exact isNumberChar_of_isDigit (all c member)
      | d :: e :: more, _, all, member =>
        rcases List.mem_cons.1 member with rfl | member
        · exact isNumberChar_of_isDigit (all c List.mem_cons_self)
        · rcases List.mem_cons.1 member with rfl | member
          · rfl
          · exact isNumberChar_of_isDigit (all c (List.mem_cons_of_mem _ member))
    · rcases List.mem_cons.1 member with rfl | member
      · rfl
      · rcases List.mem_cons.1 member with rfl | member
        · split <;> rfl
        · exact isNumberChar_of_isDigit (Binary64.allDigits_toDigits _ c member)

/-- A numeral is the text of no integer. -/
theorem not_allDigits_of_numeral {t : Text} {v : ℚ} (numeral : Numeral t v) : ¬ AllDigits t := by
  intro digits
  cases numeral with
  | point => exact digits.notMem (c := '.') rfl (by simp)
  | exponent => exact digits.notMem (c := 'e') rfl (by simp)

theorem integerText_inj {i j : Int} (same : integerText i = integerText j) : i = j := by
  have unsigned : ∀ n (rest : Text), Nat.toDigits 10 n ≠ '-' :: rest := fun n rest digits =>
    (Binary64.allDigits_toDigits n).notMem (c := '-') rfl (digits ▸ List.mem_cons_self)
  unfold integerText at same
  split at same <;> split at same
  · have := Binary64.toDigits_inj (List.cons.inj same).2
    omega
  · exact absurd same.symm (unsigned _ _)
  · exact absurd same (unsigned _ _)
  · have := Binary64.toDigits_inj same
    omega

theorem exists_integerText (i : Int) :
    ∃ digits, AllDigits digits ∧ digits ≠ [] ∧
      (integerText i = digits ∨ integerText i = '-' :: digits) := by
  refine ⟨_, Binary64.allDigits_toDigits i.natAbs, Nat.toDigits_ne_nil, ?_⟩
  unfold integerText
  split
  · exact .inr rfl
  · exact .inl rfl

theorem isNumberChar_integerText (i : Int) : ∀ c ∈ integerText i, isNumberChar c = true := by
  obtain ⟨digits, all, -, text⟩ := exists_integerText i
  intro c member
  rcases text with text | text
  · exact isNumberChar_of_isDigit (all c (text ▸ member))
  · rw [text] at member
    rcases List.mem_cons.1 member with rfl | member
    · rfl
    · exact isNumberChar_of_isDigit (all c member)

theorem exists_render_float (x : Binary64) : ∃ t v, Numeral t v ∧
    (x.render = t ∨ x.render = '-' :: t) := by
  obtain ⟨v, numeral, -⟩ := Binary64.exists_numeral x
  refine ⟨_, v, numeral, ?_⟩
  rw [Binary64.render_eq]
  split
  · exact .inr rfl
  · exact .inl rfl

theorem isNumberChar_float (x : Binary64) : ∀ c ∈ x.render, isNumberChar c = true := by
  obtain ⟨t, v, numeral, text⟩ := exists_render_float x
  intro c member
  rcases text with text | text
  · exact isNumberChar_of_numeral numeral c (text ▸ member)
  · rw [text] at member
    rcases List.mem_cons.1 member with rfl | member
    · rfl
    · exact isNumberChar_of_numeral numeral c member

theorem integerText_ne_float (i : Int) (x : Binary64) : integerText i ≠ x.render := by
  obtain ⟨digits, all, -, integer⟩ := exists_integerText i
  obtain ⟨t, v, numeral, float⟩ := exists_render_float x
  obtain ⟨d, rest, head, digit⟩ := numeral.head
  have notSign : ∀ {u : Text}, AllDigits u → '-' ∉ u := fun all => all.notMem rfl
  intro same
  rcases integer with integer | integer <;> rcases float with float | float <;>
    rw [integer, float] at same
  · exact not_allDigits_of_numeral numeral (same ▸ all)
  · exact notSign all (same ▸ List.mem_cons_self)
  · rw [head] at same
    rw [← (List.cons.inj same).1] at digit
    cases digit
  · exact not_allDigits_of_numeral numeral ((List.cons.inj same).2 ▸ all)

/-! Where values begin and end -/

/-- The text does not go on with a number. -/
def Ends (t : Text) : Prop :=
  ∀ c rest, t = c :: rest → isNumberChar c = false

theorem ends_cons {c : Char} (other : isNumberChar c = false) (rest : Text) : Ends (c :: rest) := by
  rintro _ _ ⟨⟩
  exact other

theorem takeWhile_number {t rest : Text} (number : ∀ c ∈ t, isNumberChar c = true)
    (ends : Ends rest) : (t ++ rest).takeWhile isNumberChar = t := by
  rw [List.takeWhile_append_of_pos number]
  cases rest with
  | nil => rw [List.takeWhile_nil, List.append_nil]
  | cons c rest => rw [List.takeWhile_cons_of_neg (by simp [ends c rest rfl]), List.append_nil]

theorem number_append_inj {t u rest more : Text} (first : ∀ c ∈ t, isNumberChar c = true)
    (second : ∀ c ∈ u, isNumberChar c = true) (ends : Ends rest) (ends' : Ends more)
    (same : t ++ rest = u ++ more) : t = u ∧ rest = more := by
  have text : t = u := by
    rw [← takeWhile_number first ends, same, takeWhile_number second ends']
  exact ⟨text, List.append_cancel_left (text ▸ same)⟩

/-- What the first character tells. -/
def leadOf (c : Char) : Char :=
  if isNumberChar c then '0' else if c = 't' ∨ c = 'f' then 'b' else c

def lead : Json → Char
  | .null => 'n'
  | .bool _ => 'b'
  | .int _ | .float _ => '0'
  | .str _ => '"'
  | .arr _ => '['
  | .obj _ => '\x7b'

theorem exists_lead_of_number {t : Text} (some : t ≠ []) (number : ∀ c ∈ t, isNumberChar c = true) :
    ∃ c rest, t = c :: rest ∧ leadOf c = '0' := by
  obtain ⟨c, rest, rfl⟩ := List.exists_cons_of_ne_nil some
  exact ⟨c, rest, rfl, if_pos (number c List.mem_cons_self)⟩

theorem exists_lead (v : Json) : ∃ c rest, v.render = c :: rest ∧ leadOf c = v.lead := by
  cases v with
  | null => exact ⟨_, _, rfl, rfl⟩
  | bool b => cases b <;> exact ⟨_, _, rfl, rfl⟩
  | int i =>
    refine exists_lead_of_number ?_ (isNumberChar_integerText i)
    obtain ⟨digits, -, filled, text⟩ := exists_integerText i
    rcases text with text | text <;> rw [render, text]
    · exact filled
    · exact List.cons_ne_nil _ _
  | float x =>
    refine exists_lead_of_number ?_ (isNumberChar_float x)
    obtain ⟨t, v, numeral, text⟩ := exists_render_float x
    obtain ⟨d, rest, head, -⟩ := numeral.head
    rcases text with text | text <;> rw [render, text]
    · rw [head]
      exact List.cons_ne_nil _ _
    · exact List.cons_ne_nil _ _
  | str t => exact ⟨_, _, by rw [render, quoted]; rfl, rfl⟩
  | arr items => exact ⟨_, _, by rw [render]; rfl, rfl⟩
  | obj members => exact ⟨_, _, by rw [render]; rfl, rfl⟩

theorem lead_eq {v w : Json} {rest more : Text} (same : v.render ++ rest = w.render ++ more) :
    v.lead = w.lead := by
  obtain ⟨c, t, first, leadV⟩ := exists_lead v
  obtain ⟨d, u, second, leadW⟩ := exists_lead w
  rw [first, second] at same
  rw [← leadV, ← leadW, (List.cons.inj same).1]

/-- What follows the first item. -/
def itemsAfter : List Json → Text
  | [] => []
  | v :: rest => ',' :: renderItems (v :: rest)

def membersAfter : List (Text × Json) → Text
  | [] => []
  | m :: rest => ',' :: renderMembers (m :: rest)

theorem renderItems_cons (v : Json) (rest : List Json) :
    renderItems (v :: rest) = v.render ++ itemsAfter rest := by
  cases rest with
  | nil => rw [renderItems, itemsAfter, List.append_nil]
  | cons w rest => rw [renderItems, itemsAfter]

theorem renderMembers_cons (key : Text) (v : Json) (rest : List (Text × Json)) :
    renderMembers ((key, v) :: rest) = quoted key ++ ':' :: v.render ++ membersAfter rest := by
  cases rest with
  | nil => rw [renderMembers, membersAfter, List.append_nil]
  | cons m rest => rw [renderMembers, membersAfter]

theorem ends_itemsAfter (items : List Json) (rest : Text) :
    Ends (itemsAfter items ++ ']' :: rest) := by
  cases items with
  | nil => exact ends_cons rfl rest
  | cons v items => exact ends_cons rfl _

theorem ends_membersAfter (members : List (Text × Json)) (rest : Text) :
    Ends (membersAfter members ++ '\x7d' :: rest) := by
  cases members with
  | nil => exact ends_cons rfl rest
  | cons m members => exact ends_cons rfl _

theorem render_ne_bracket (v : Json) (t rest : Text) : v.render ++ t ≠ ']' :: rest := by
  obtain ⟨c, more, text, lead⟩ := exists_lead v
  intro same
  rw [text] at same
  rw [(List.cons.inj same).1] at lead
  cases v <;> cases lead

mutual

/-- Where a value ends can be told from its text, and so which value it is. -/
theorem render_append_inj : (v w : Json) → {rest more : Text} → Ends rest → Ends more →
    v.render ++ rest = w.render ++ more → v = w ∧ rest = more
  | .null, w, _, _, _, _, same => by
    have leads := lead_eq same
    cases w with
    | null => exact ⟨rfl, List.append_cancel_left same⟩
    | _ => cases leads
  | .bool b, w, _, _, _, _, same => by
    have leads := lead_eq same
    cases w with
    | bool c =>
      cases b <;> cases c
      · exact ⟨rfl, List.append_cancel_left same⟩
      · cases (List.cons.inj same).1
      · cases (List.cons.inj same).1
      · exact ⟨rfl, List.append_cancel_left same⟩
    | _ => cases leads
  | .int i, w, _, _, ends, ends', same => by
    have leads := lead_eq same
    cases w with
    | int j =>
      obtain ⟨text, after⟩ := number_append_inj (isNumberChar_integerText i)
        (isNumberChar_integerText j) ends ends' same
      exact ⟨congrArg Json.int (integerText_inj text), after⟩
    | float x =>
      obtain ⟨text, -⟩ := number_append_inj (isNumberChar_integerText i) (isNumberChar_float x) ends
        ends' same
      exact absurd text (integerText_ne_float i x)
    | _ => cases leads
  | .float x, w, _, _, ends, ends', same => by
    have leads := lead_eq same
    cases w with
    | int j =>
      obtain ⟨text, -⟩ := number_append_inj (isNumberChar_float x) (isNumberChar_integerText j) ends
        ends' same
      exact absurd text.symm (integerText_ne_float j x)
    | float y =>
      obtain ⟨text, after⟩ := number_append_inj (isNumberChar_float x) (isNumberChar_float y) ends
        ends' same
      exact ⟨congrArg Json.float (Binary64.render_inj text), after⟩
    | _ => cases leads
  | .str t, w, _, _, _, _, same => by
    have leads := lead_eq same
    cases w with
    | str u =>
      obtain ⟨text, after⟩ := quoted_append_inj same
      exact ⟨congrArg Json.str text, after⟩
    | _ => cases leads
  | .arr xs, w, rest, more, _, _, same => by
    have leads := lead_eq same
    cases w with
    | arr ys =>
      have inside : renderItems xs ++ ']' :: rest = renderItems ys ++ ']' :: more := by
        simpa [render] using same
      obtain ⟨items, after⟩ := renderItems_append_inj xs ys inside
      exact ⟨congrArg Json.arr items, after⟩
    | _ => cases leads
  | .obj xs, w, rest, more, _, _, same => by
    have leads := lead_eq same
    cases w with
    | obj ys =>
      have inside : renderMembers xs ++ '\x7d' :: rest = renderMembers ys ++ '\x7d' :: more := by
        simpa [render] using same
      obtain ⟨members, after⟩ := renderMembers_append_inj xs ys inside
      exact ⟨congrArg Json.obj members, after⟩
    | _ => cases leads

theorem renderItems_append_inj : (xs ys : List Json) → {rest more : Text} →
    renderItems xs ++ ']' :: rest = renderItems ys ++ ']' :: more → xs = ys ∧ rest = more
  | [], [], _, _, same => ⟨rfl, (List.cons.inj same).2⟩
  | [], w :: ys, _, _, same => by
    rw [renderItems_cons, List.append_assoc] at same
    exact absurd same.symm (render_ne_bracket w _ _)
  | v :: xs, [], _, _, same => by
    rw [renderItems_cons, List.append_assoc] at same
    exact absurd same (render_ne_bracket v _ _)
  | v :: xs, w :: ys, rest, more, same => by
    rw [renderItems_cons, renderItems_cons, List.append_assoc, List.append_assoc] at same
    obtain ⟨rfl, after⟩ := render_append_inj v w (ends_itemsAfter xs rest) (ends_itemsAfter ys more)
      same
    match xs, ys, after with
    | [], [], after => exact ⟨rfl, (List.cons.inj after).2⟩
    | [], _ :: _, after => cases (List.cons.inj after).1
    | _ :: _, [], after => cases (List.cons.inj after).1
    | x :: xs, y :: ys, after =>
      obtain ⟨items, after⟩ := renderItems_append_inj (x :: xs) (y :: ys) (List.cons.inj after).2
      exact ⟨congrArg (v :: ·) items, after⟩

theorem renderMembers_append_inj : (xs ys : List (Text × Json)) → {rest more : Text} →
    renderMembers xs ++ '\x7d' :: rest = renderMembers ys ++ '\x7d' :: more → xs = ys ∧ rest = more
  | [], [], _, _, same => ⟨rfl, (List.cons.inj same).2⟩
  | [], (key, w) :: ys, _, _, same => by
    rw [renderMembers_cons] at same
    cases (List.cons.inj same).1
  | (key, v) :: xs, [], _, _, same => by
    rw [renderMembers_cons] at same
    cases (List.cons.inj same).1
  | (key, v) :: xs, (other, w) :: ys, rest, more, same => by
    rw [renderMembers_cons, renderMembers_cons] at same
    simp only [List.append_assoc, List.cons_append] at same
    obtain ⟨rfl, value⟩ := quoted_append_inj same
    obtain ⟨rfl, after⟩ := render_append_inj v w (ends_membersAfter xs rest)
      (ends_membersAfter ys more) (List.cons.inj value).2
    match xs, ys, after with
    | [], [], after => exact ⟨rfl, (List.cons.inj after).2⟩
    | [], _ :: _, after => cases (List.cons.inj after).1
    | _ :: _, [], after => cases (List.cons.inj after).1
    | x :: xs, y :: ys, after =>
      obtain ⟨members, after⟩ :=
        renderMembers_append_inj (x :: xs) (y :: ys) (List.cons.inj after).2
      exact ⟨congrArg ((key, v) :: ·) members, after⟩

end

/-- Different values have different texts. -/
theorem render_inj {v w : Json} (same : v.render = w.render) : v = w := by
  have empty : Ends [] := nofun
  refine (render_append_inj v w empty empty ?_).1
  rw [List.append_nil, List.append_nil, same]

end FluentQuery.Json

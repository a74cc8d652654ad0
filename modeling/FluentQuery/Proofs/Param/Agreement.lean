import FluentQuery.Json.Reader
import FluentQuery.Proofs.Param.Literal

/-! A value in an array parameter and the same value as a parameter of its own. An array is written
without regard to the type of its elements, so that the two agree just as far as that type leaves
the text of a value alone: strings in arrays of a JSON type stand there bare, and are no JSON text
of themselves. -/
namespace FluentQuery

/-! JSON texts of strings -/

namespace Json

/-- A quoted text is longer than what it stands for. -/
theorem length_of_stringBody? {t s after : Text} (read : stringBody? t = some (s, after)) :
    s.length + after.length < t.length := by
  have step {u whole s : Text} {c : Char} (ih : ∀ {s}, stringBody? u = some (s, after) →
      s.length + after.length < u.length) (shorter : u.length < whole.length)
      (read : (stringBody? u).map (fun found => (c :: found.1, found.2)) = some (s, after)) :
      s.length + after.length < whole.length := by
    obtain ⟨⟨tail, rest⟩, inner, same⟩ := Option.map_eq_some_iff.1 read
    cases same
    have inside : tail.length + rest.length < u.length := ih inner
    simp only [List.length_cons]
    omega
  fun_induction stringBody? t generalizing s with
  | case1 | case3 | case4 | case6 | case7 | case8 | case10 | case12 => cases read
  | case2 rest =>
    cases read
    simp
  | case5 _ _ _ _ _ _ _ _ _ _ _ _ _ _ _ ih =>
    exact step ih (by simp only [List.length_cons]; omega) read
  | case9 _ _ _ _ _ _ _ _ _ ih => exact step ih (by simp only [List.length_cons]; omega) read
  | case11 _ _ _ _ _ ih => exact step ih (by simp only [List.length_cons]; omega) read
  | case13 _ _ _ _ _ _ ih => exact step ih (by simp only [List.length_cons]; omega) read

theorem ofInteger_ne_str (negative : Bool) (n : Nat) (s : Text) :
    ofInteger negative n ≠ .str s := by
  unfold ofInteger
  split
  · exact nofun
  · split <;> exact nofun

theorem number?_ne_str {t s after : Text} : number? t ≠ some (.str s, after) := by
  intro read
  simp only [number?, Option.bind_eq_bind] at read
  -- the sign is split first, and does not matter
  split at read <;>
  · split at read
    · cases read
    · obtain ⟨_, -, read⟩ := Option.bind_eq_some_iff.1 read
      obtain ⟨_, -, read⟩ := Option.bind_eq_some_iff.1 read
      split at read
      · exact ofInteger_ne_str _ _ _ (Prod.mk.inj (Option.some.inj read)).1
      · obtain ⟨x, -, read⟩ := Option.bind_eq_some_iff.1 read
        cases read

theorem word?_ne_str {word t s after : Text} {v : Json} (other : v ≠ .str s) :
    word? word v t ≠ some (.str s, after) := by
  intro read
  obtain ⟨rest, -, same⟩ := Option.map_eq_some_iff.1 read
  cases same
  exact other rfl

theorem length_of_value?_str {fuel depth : Nat} {t s after : Text}
    (read : value? fuel depth t = some (.str s, after)) : s.length < t.length := by
  cases fuel with
  | zero => cases read
  | succ fuel =>
    rw [value?] at read
    split at read
    · cases read
    · next opened =>
      obtain ⟨⟨u, rest⟩, body, same⟩ := Option.map_eq_some_iff.1 read
      cases same
      have shorter := length_of_stringBody? body
      have kept : (skipBlanks t).length ≤ t.length := (List.dropWhile_suffix _).length_le
      rw [opened, List.length_cons] at kept
      omega
    · split at read
      · cases read
      · split at read
        · cases read
        · obtain ⟨items, -, same⟩ := Option.map_eq_some_iff.1 read
          cases same
    · split at read
      · cases read
      · split at read
        · cases read
        · obtain ⟨members, -, same⟩ := Option.map_eq_some_iff.1 read
          cases same
    · split at read
      · exact absurd read (word?_ne_str (by rintro ⟨⟩))
      · split at read
        · exact absurd read (word?_ne_str (by rintro ⟨⟩))
        · split at read
          · exact absurd read (word?_ne_str (by rintro ⟨⟩))
          · exact absurd read number?_ne_str

/-- No string is JSON text of itself. -/
theorem read?_ne_str (t : Text) : read? t ≠ some (.str t) := by
  intro read
  unfold read? at read
  split at read
  · next v rest whole =>
    split at read
    · cases read
      exact Nat.lt_irrefl _ (length_of_value?_str whole)
    · cases read
  · cases read

end Json

/-! Elements and parameters -/

namespace Param

namespace Element

/-- The text of a parameter as an element; SQL NULL is null. -/
def ofParam : Option Text → Element
  | none => .null
  | some t => .text t

end Element

/-- The values that a server takes for the same in an array and as parameters of the type of its
elements. -/
def Agrees (type : WireType) : Json → Prop
  | .null => True
  | .str _ => type.isJson = false
  | .arr _ => False
  | .bool _ | .int _ | .float _ | .obj _ => type.isArray = false

variable {type : WireType}

theorem isArray_of_isJson (json : type.isJson = true) : type.isArray = false := by
  unfold WireType.isJson at json
  split at json
  · rfl
  · rfl
  · cases json

theorem length_quotedElement (t : Text) : t.length < (quotedElement t).length := by
  have kept : t.length ≤
      (t.flatMap fun c => if c = '"' ∨ c = '\\' then ['\\', c] else [c]).length := by
    induction t with
    | nil => exact Nat.le_refl _
    | cons c t ih =>
      rw [List.flatMap_cons, List.length_append, List.length_cons]
      split <;> simp only [List.length_cons, List.length_nil] <;> omega
  simp only [quotedElement, List.length_append, List.length_cons, List.length_nil]
  omega

theorem text_ne_braced (t : Text) : t ≠ braced (quotedElement t) := by
  intro same
  have shorter := length_quotedElement t
  have longer := congrArg List.length same
  simp only [braced, List.length_append, List.length_cons, List.length_nil] at longer
  omega

/-- A value that is neither null nor a string nor an array is sent as its JSON text, to an array as
its only element. -/
theorem encode_of_plain {v : Json} (filled : v.isNull = false) (bare : ∀ t, v ≠ .str t)
    (text : scalarText v = v.render) (single : arrayLiteral v = braced (quotedElement v.render)) :
    encode type v = some (if type.isArray then braced (quotedElement v.render) else v.render) := by
  unfold encode
  rw [if_neg (by simp [filled])]
  by_cases json : type.isJson = true
  · rw [if_pos json, isArray_of_isJson json]
    rfl
  · rw [if_neg json]
    cases type.isArray with
    | false => simp [text]
    | true =>
      rw [if_pos rfl, if_pos rfl]
      split
      · exact absurd rfl (bare _)
      · rw [single]

theorem text_eq_iff_of_plain (v : Json) (filled : v.isNull = false) (bare : ∀ t, v ≠ .str t)
    (text : scalarText v = v.render) (single : arrayLiteral v = braced (quotedElement v.render)) :
    Element.text v.render = .ofParam (encode type v) ↔ type.isArray = false := by
  rw [encode_of_plain filled bare text single, Element.ofParam]
  cases type.isArray with
  | false => simp
  | true => simpa using text_ne_braced v.render

theorem text_eq_iff_of_str (t : Text) :
    Element.text t = .ofParam (encode type (.str t)) ↔ type.isJson = false := by
  by_cases json : type.isJson = true
  · have sent : encode type (.str t) = some (Json.quoted t) := by
      simp [encode, Json.isNull, json, Json.render]
    have longer := Json.length_of_stringBody? (Json.stringBody?_quoted t [])
    have differ : t ≠ Json.quoted t := by
      intro same
      have equal := congrArg List.length same
      simp only [Json.quoted, List.length_append, List.length_cons, List.length_nil] at equal longer
      omega
    rw [sent, Element.ofParam, Element.text.injEq, json]
    simpa using differ
  · have sent : encode type (.str t) = some t := by
      simp [encode, Json.isNull, json, scalarText]
    simp [sent, Element.ofParam, json]

/-- An element is the parameter just as far as the type of the elements goes. -/
theorem ofJson_eq_iff (type : WireType) (v : Json) :
    Element.ofJson v = .ofParam (encode type v) ↔ Agrees type v := by
  cases v with
  | null => exact iff_of_true rfl trivial
  | bool b =>
    cases b
    · exact text_eq_iff_of_plain (.bool false) rfl nofun rfl rfl
    · exact text_eq_iff_of_plain (.bool true) rfl nofun rfl rfl
  | int i => exact text_eq_iff_of_plain (.int i) rfl nofun rfl rfl
  | float x => exact text_eq_iff_of_plain (.float x) rfl nofun rfl rfl
  | str t => exact text_eq_iff_of_str t
  | arr items =>
    refine iff_of_false (fun same => ?_) id
    cases sent : encode type (.arr items) <;> rw [sent] at same <;> cases same
  | obj members => exact text_eq_iff_of_plain (.obj members) rfl nofun rfl rfl

/-- Of an array that is sent as such, a server reads as many elements as there are values. Each is
what the value is sent as alone, unless it is a string and the elements are of a JSON type, or the
elements are arrays in turn and the value is neither null nor a string, or the value is an array.
In a JSON type an element that agrees is null or the text of its value and of no other; a string
stands there as it is, which is no JSON text of it. -/
theorem elements_agree (type : WireType) (items : List Json) :
    ∃ literal elements, encode (.array type) (.arr items) = some literal ∧
      Element.read? literal = some (.array elements) ∧
      List.Forall₂ (fun v e => (e = Element.ofParam (encode type v) ↔ Agrees type v) ∧
        (type.isJson = true →
          (Agrees type v → v = .null ∨ ∀ w : Json, e = .text w.render ↔ w = v) ∧
          ∀ t, v = .str t → e = .text t ∧ Json.read? t ≠ some v)) items elements := by
  refine ⟨_, _, rfl, Element.read?_arrayLiteral items, ?_⟩
  rw [List.forall₂_map_right_iff, List.forall₂_same]
  intro v _
  refine ⟨ofJson_eq_iff type v, fun json => ⟨fun agrees => ?_, ?_⟩⟩
  · have denotes : ∀ w : Json, Element.text v.render = .text w.render ↔ w = v := by
      refine fun w => ⟨fun same => (Json.render_inj (Element.text.inj same)).symm, ?_⟩
      rintro rfl
      rfl
    cases v with
    | null => exact .inl rfl
    | bool b => cases b <;> exact .inr denotes
    | int i => exact .inr denotes
    | float x => exact .inr denotes
    | str t => cases agrees.symm.trans json
    | arr items => exact agrees.elim
    | obj members => exact .inr denotes
  · rintro t rfl
    exact ⟨rfl, Json.read?_ne_str t⟩

/-- A string in an array of JSON is sent without the quotes that it has alone. -/
example : encode (.array (.scalar .jsonb)) (.arr [.str "x"]) = some "\x7b\"x\"\x7d" ∧
    encode (.scalar .jsonb) (.str "x") = some "\"x\"" :=
  ⟨rfl, rfl⟩

end Param

end FluentQuery

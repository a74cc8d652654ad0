import FluentQuery.Proofs.Wire.Numeric
import FluentQuery.Wire.Cell
import Mathlib.Data.List.Forall2
import Mathlib.Data.Option.Basic

/-! NUMERIC columns and arrays. An array is taken apart without reading its elements, and each of
these is read as a column of its own. So what holds of one whole number holds of each in an array:
it stays itself within 64 bits, and beyond them, where its digits would keep it, it is a double that
it shares with its neighbours. Numbers of more than 96 bits are not read at all. -/
namespace FluentQuery.Cell

/-! Arrays -/

/-- How many elements an array has, and its bytes after the head. -/
def body? (bytes : List UInt8) : Option (Nat × List UInt8) := do
  let (dimensions, bytes) ← Bytes.signed? 4 bytes
  let (_, bytes) ← Bytes.unsigned? 4 bytes
  let (_, bytes) ← Bytes.unsigned? 4 bytes
  if dimensions = 0 then some (0, bytes)
  else if dimensions = 1 then
    let (length, bytes) ← Bytes.signed? 4 bytes
    let (_, bytes) ← Bytes.unsigned? 4 bytes
    if length < 0 then none else some (length.toNat, bytes)
  else none

/-- The bytes of each element, none for a null. -/
def frames? : Nat → List UInt8 → Option (List (Option (List UInt8)))
  | 0, bytes => if bytes.isEmpty then some [] else none
  | count + 1, bytes => do
    let (length, bytes) ← Bytes.signed? 4 bytes
    if length < 0 then (frames? count bytes).map (none :: ·)
    else
      let (value, rest) ← Bytes.split? length.toNat bytes
      (frames? count rest).map (some value :: ·)

def items? (bytes : List UInt8) : Option (List (Option (List UInt8))) :=
  (body? bytes).bind fun (count, body) => frames? count body

/-- An element by its bytes. -/
def item? (read : List UInt8 → Option Json) : Option (List UInt8) → Option Json
  | none => some .null
  | some bytes => read bytes

theorem mapM_item? (read : List UInt8 → Option Json) (item : Option (List UInt8))
    (items : List (Option (List UInt8))) : (item :: items).mapM (item? read) =
      (item? read item).bind fun v => (items.mapM (item? read)).map (v :: ·) := by
  rw [List.mapM_cons]
  simp only [Option.pure_def, Option.bind_eq_bind, Option.map_eq_bind]
  rfl

theorem elements?_eq (read : List UInt8 → Option Json) (count : Nat) (bytes : List UInt8) :
    elements? read count bytes =
      (frames? count bytes).bind fun items => items.mapM (item? read) := by
  induction count generalizing bytes with
  | zero =>
    unfold elements? frames?
    split <;> rfl
  | succ count ih =>
    unfold elements? frames?
    cases Bytes.signed? 4 bytes with
    | none => rfl
    | some head =>
      obtain ⟨length, rest⟩ := head
      simp only [Option.bind_eq_bind, Option.bind_some]
      split
      · rw [ih, Option.map_bind, Option.bind_map]
        simp only [Function.comp_def, mapM_item?, item?, Option.bind_some]
      · cases Bytes.split? length.toNat rest with
        | none => rfl
        | some parts =>
          obtain ⟨value, rest⟩ := parts
          simp only [Option.bind_some, ih, Option.map_bind, Option.bind_map, Function.comp_def,
            mapM_item?, item?]
          -- An element that cannot be read fails the array, and so does a frame after it.
          cases frames? count rest with
          | none => exact Option.bind_fun_none _
          | some items => rfl

theorem array?_eq (read : List UInt8 → Option Json) (bytes : List UInt8) : array? read bytes =
    (items? bytes).bind fun items => (items.mapM (item? read)).map .arr := by
  have frames : ∀ count body, (elements? read count body).map Json.arr =
      (frames? count body).bind fun items => (items.mapM (item? read)).map .arr := by
    intro count body
    rw [elements?_eq, Option.map_bind]
    rfl
  unfold array? items? body?
  simp only [Option.bind_eq_bind, Option.bind_assoc]
  refine congrArg (Option.bind _) (funext fun ⟨dimensions, bytes⟩ => ?_)
  refine congrArg (Option.bind _) (funext fun ⟨_, bytes⟩ => ?_)
  refine congrArg (Option.bind _) (funext fun ⟨_, bytes⟩ => ?_)
  by_cases flat : dimensions = 0
  · simp only [flat, if_true, frames, Option.bind_some]
  · by_cases one : dimensions = 1
    · rw [if_neg flat, if_neg flat, if_pos one, if_pos one, Option.bind_assoc]
      refine congrArg (Option.bind _) (funext fun ⟨length, bytes⟩ => ?_)
      rw [Option.bind_assoc]
      refine congrArg (Option.bind _) (funext fun ⟨_, bytes⟩ => ?_)
      dsimp only
      split
      · rfl
      · exact frames _ _
    · rw [if_neg flat, if_neg flat, if_neg one, if_neg one]
      rfl

/-! Whole numbers -/

/-- The bytes are of a whole number of at most 96 bits, as a server sends it. -/
def Carries (bytes : List UInt8) (v : Int) : Prop :=
  v.natAbs ≤ FixedPoint.maxMantissa ∧
    ∃ n, Numeric.read? bytes = some n ∧ n.Sent ∧ n.value = v

/-- The bytes of a column are of one number, or of an array of numbers and nulls. -/
inductive Sends : WireType → List UInt8 → List (Option Int) → Prop where
  | alone {bytes : List UInt8} {v : Int} : Carries bytes v →
      Sends (.scalar .numeric) bytes [some v]
  | array {bytes : List UInt8} {items : List (Option (List UInt8))} {vs : List (Option Int)} :
      items? bytes = some items → List.Forall₂ (Option.Rel Carries) items vs →
      Sends (.array (.scalar .numeric)) bytes vs

/-- A relation of the number to the JSON of a column, or of each number to that of its element. -/
inductive Each (R : Option Int → Json → Prop) : WireType → List (Option Int) → Json → Prop where
  | alone {v : Option Int} {j : Json} : R v j → Each R (.scalar .numeric) [v] j
  | array {vs : List (Option Int)} {js : List Json} : List.Forall₂ R vs js →
      Each R (.array (.scalar .numeric)) vs (.arr js)

/-- What a number or a null is as JSON. -/
inductive ShownItem : Option Int → Json → Prop where
  | null : ShownItem none .null
  | number {v : Int} {j : Json} : FixedPoint.Shown v j → ShownItem (some v) j

/-- A number without loss: itself, or its digits as a text. -/
def lossless : Option Int → Json
  | none => .null
  | some v => if FixedPoint.WithinInt64 v then .int v else .str (Json.int v).render

theorem ShownItem.eq_iff {v w : Option Int} {j k : Json} (first : ShownItem v j)
    (second : ShownItem w k) : j = k ↔ Option.Rel FixedPoint.Alike v w := by
  cases first with
  | null =>
    cases second with
    | null => exact iff_of_true rfl .none
    | number shown =>
      refine iff_of_false (fun same => ?_) nofun
      cases same
      cases shown
  | number shown =>
    cases second with
    | null =>
      refine iff_of_false (fun same => ?_) nofun
      cases same
      cases shown
    | number shown' =>
      rw [shown.eq_iff shown']
      exact ⟨.some, fun | .some alike => alike⟩

/-- The digits are never shown. -/
theorem ShownItem.eq_lossless_iff {v : Option Int} {j : Json} (shown : ShownItem v j) :
    j = lossless v ↔ ∀ n, v = some n → FixedPoint.WithinInt64 n := by
  cases shown with
  | null => simp [lossless]
  | number shown =>
    cases shown with
    | int within => simp [lossless, within]
    | float beyond => simp [lossless, beyond]

/-- What is shown is compared number by number. -/
theorem Each.eq_iff {type : WireType} {vs ws : List (Option Int)} {j k : Json}
    (first : Each ShownItem type vs j) (second : Each ShownItem type ws k) :
    j = k ↔ List.Forall₂ (Option.Rel FixedPoint.Alike) vs ws := by
  cases first with
  | alone shown =>
    cases second with
    | alone shown' => simp [shown.eq_iff shown']
  | @array vs js shown =>
    cases second with
    | @array ws ks shown' =>
      rw [Json.arr.injEq]
      induction shown generalizing ws ks with
      | nil => cases shown' <;> simp
      | cons head tail ih =>
        cases shown' with
        | nil => simp
        | cons head' tail' =>
          rw [List.cons.injEq, List.forall₂_cons, head.eq_iff head', ih tail']

theorem Each.lossless_iff {type : WireType} {vs : List (Option Int)} {j : Json}
    (shown : Each ShownItem type vs j) : Each (fun v j => j = lossless v) type vs j ↔
      ∀ v, some v ∈ vs → FixedPoint.WithinInt64 v := by
  cases shown with
  | alone shown =>
    have same := shown.eq_lossless_iff
    constructor
    · intro each
      cases each with
      | alone kept => simpa [eq_comm] using same.1 kept
    · intro within
      exact .alone (same.2 (by simpa [eq_comm] using within))
  | @array vs js shown =>
    have each : List.Forall₂ (fun v j => j = lossless v) vs js ↔
        ∀ v, some v ∈ vs → FixedPoint.WithinInt64 v := by
      induction shown with
      | nil => simp
      | cons head tail ih =>
        rw [List.forall₂_cons, head.eq_lossless_iff, ih]
        simp only [List.mem_cons, or_imp, forall_and, eq_comm]
    rw [← each]
    exact ⟨fun | .array same => same, .array⟩

/-! Columns -/

theorem exists_shown {bytes : List UInt8} {v : Int} (carries : Carries bytes v) :
    ∃ j, decode? (.scalar .numeric) (some bytes) = some j ∧ FixedPoint.Shown v j := by
  obtain ⟨fits, n, read, sent, valued⟩ := carries
  obtain ⟨x, held, integral⟩ := Numeric.toSigned?_integral valued sent fits
  refine ⟨x.toJson, ?_, integral.toJson⟩
  change (Numeric.read? bytes).bind Numeric.toJson? = _
  rw [read, Option.bind_some, Numeric.toJson?, held]
  rfl

theorem exists_shownItems {items : List (Option (List UInt8))} {vs : List (Option Int)}
    (carries : List.Forall₂ (Option.Rel Carries) items vs) :
    ∃ js, items.mapM (item? (scalar? .numeric)) = some js ∧ List.Forall₂ ShownItem vs js := by
  induction carries with
  | nil => exact ⟨[], rfl, .nil⟩
  | @cons item v items vs head tail ih =>
    obtain ⟨js, read, shown⟩ := ih
    obtain ⟨j, read', shown'⟩ : ∃ j, item? (scalar? .numeric) item = some j ∧ ShownItem v j := by
      cases head with
      | none => exact ⟨.null, rfl, .null⟩
      | some carries =>
        obtain ⟨j, decoded, shown⟩ := exists_shown carries
        exact ⟨j, decoded, .number shown⟩
    refine ⟨j :: js, ?_, .cons shown' shown⟩
    rw [mapM_item?, read', Option.bind_some, read]
    rfl

/-- Whole numbers are read, and each of an array is shown as it is alone. -/
theorem exists_each {type : WireType} {bytes : List UInt8} {vs : List (Option Int)}
    (sends : Sends type bytes vs) :
    ∃ j, decode? type (some bytes) = some j ∧ Each ShownItem type vs j := by
  cases sends with
  | alone carries =>
    obtain ⟨j, decoded, shown⟩ := exists_shown carries
    exact ⟨j, decoded, .alone (.number shown)⟩
  | array taken carries =>
    obtain ⟨js, read, shown⟩ := exists_shownItems carries
    refine ⟨.arr js, ?_, .array shown⟩
    change array? (scalar? .numeric) bytes = _
    rw [array?_eq, taken, Option.bind_some, read]
    rfl

/-- Whole numbers of 96 bits, alone or in an array, whatever their places are: within 64 bits each
is the integer itself, and any other is a double. So nothing is lost just where all are within 64
bits; and two columns are shown alike just when number by number they are equal, or lie beyond 64
bits on one side and in the interval of one double. The same holds of a number as it is held. -/
theorem integers_shown {type : WireType} {bytes others : List UInt8} {vs ws : List (Option Int)}
    (first : Sends type bytes vs) (second : Sends type others ws) :
    (∃ j, decode? type (some bytes) = some j ∧ Each ShownItem type vs j) ∧
    ((∃ j, decode? type (some bytes) = some j ∧ Each (fun v j => j = lossless v) type vs j) ↔
      ∀ v, some v ∈ vs → FixedPoint.WithinInt64 v) ∧
    (decode? type (some bytes) = decode? type (some others) ↔
      List.Forall₂ (Option.Rel FixedPoint.Alike) vs ws) ∧
    ∀ (x : FixedPoint.Signed) (v : Int), x.value = v →
      x.magnitude.mantissa ≤ FixedPoint.maxMantissa → FixedPoint.Shown v x.toJson := by
  obtain ⟨j, decoded, shown⟩ := exists_each first
  obtain ⟨k, decoded', shown'⟩ := exists_each second
  refine ⟨⟨j, decoded, shown⟩, ?_, ?_, fun x v valued fits => ?_⟩
  · rw [← shown.lossless_iff, decoded]
    simp
  · rw [decoded, decoded', Option.some_inj]
    exact shown.eq_iff shown'
  · exact (FixedPoint.Signed.integral_iff.2 ⟨valued, fits⟩).toJson

/-- The least numbers beyond 64 bits, by their last byte. -/
def beyondInt64 (last : UInt8) : List UInt8 :=
  [0, 5, 0, 4, 0, 0, 0, 0, 3, 0x9A, 0x0D, 0x2C, 1, 0x70, 0x15, 0x65, 0x16, last]

/-- An array of such a number and a null. -/
def beyondInt64AndNull (last : UInt8) : List UInt8 :=
  [0, 0, 0, 1, 0, 0, 0, 1, 0, 0, 6, 0xA4, 0, 0, 0, 2, 0, 0, 0, 1] ++
    [0, 0, 0, 18] ++ beyondInt64 last ++ [0xFF, 0xFF, 0xFF, 0xFF]

theorem carries_beyondInt64 :
    Carries (beyondInt64 0xB0) (2 ^ 63) ∧ Carries (beyondInt64 0xB1) (2 ^ 63 + 1) := by
  refine ⟨⟨by decide, ⟨false, 4, 0, [922, 3372, 368, 5477, 5808]⟩, by decide, ⟨by decide, ?_⟩, ?_⟩,
    ⟨by decide, ⟨false, 4, 0, [922, 3372, 368, 5477, 5809]⟩, by decide, ⟨by decide, ?_⟩, ?_⟩⟩
  all_goals norm_num [Numeric.value, Numeric.joined, Nat.ofDigits_cons]

theorem decode?_beyondInt64 : decode? (.scalar .numeric) (some (beyondInt64 0xB0)) =
    decode? (.scalar .numeric) (some (beyondInt64 0xB1)) := by
  decide +kernel

/-- Two different numbers are one double, alone and in arrays. -/
theorem beyondInt64_shown_alike :
    Sends (.scalar .numeric) (beyondInt64 0xB0) [some (2 ^ 63)] ∧
    Sends (.scalar .numeric) (beyondInt64 0xB1) [some (2 ^ 63 + 1)] ∧
    Sends (.array (.scalar .numeric)) (beyondInt64AndNull 0xB0) [some (2 ^ 63), none] ∧
    Sends (.array (.scalar .numeric)) (beyondInt64AndNull 0xB1) [some (2 ^ 63 + 1), none] ∧
    FixedPoint.Alike (2 ^ 63) (2 ^ 63 + 1) ∧
    decode? (.array (.scalar .numeric)) (some (beyondInt64AndNull 0xB0)) =
      decode? (.array (.scalar .numeric)) (some (beyondInt64AndNull 0xB1)) ∧
    FixedPoint.Shown (2 ^ 63) (FixedPoint.Signed.toJson ⟨false, ⟨2 ^ 63 * 10, 1⟩⟩) := by
  obtain ⟨first, second⟩ := carries_beyondInt64
  have items : items? (beyondInt64AndNull 0xB0) = some [some (beyondInt64 0xB0), none] := by decide
  have items' : items? (beyondInt64AndNull 0xB1) = some [some (beyondInt64 0xB1), none] := by decide
  have array : Sends (.array (.scalar .numeric)) (beyondInt64AndNull 0xB0)
      [some (2 ^ 63), none] := .array items (.cons (.some first) (.cons .none .nil))
  have array' : Sends (.array (.scalar .numeric)) (beyondInt64AndNull 0xB1)
      [some (2 ^ 63 + 1), none] := .array items' (.cons (.some second) (.cons .none .nil))
  obtain ⟨-, -, alone, held⟩ := integers_shown (.alone first) (.alone second)
  obtain ⟨-, -, arrays, -⟩ := integers_shown array array'
  have alike : FixedPoint.Alike (2 ^ 63) (2 ^ 63 + 1) := by
    simpa using alone.1 decode?_beyondInt64
  refine ⟨.alone first, .alone second, array, array', alike, ?_, ?_⟩
  · exact arrays.2 (.cons (.some alike) (.cons .none .nil))
  · exact held _ _ (by norm_num [FixedPoint.Signed.value]) (by decide)

end FluentQuery.Cell

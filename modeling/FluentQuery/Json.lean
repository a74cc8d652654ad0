import FluentQuery.Text
import FluentQuery.Binary64

/-! JSON values. An object is its members in order, so the order in which keys were given is part
of the value; a row of a table is such a list of members. Integers and doubles are different
numbers: `1` is not `1.0`. -/
namespace FluentQuery

inductive Json where
  | null
  | bool (value : Bool)
  /-- An integer of the signed or unsigned 64-bit range. -/
  | int (value : Int)
  /-- A finite double. -/
  | float (value : Binary64)
  | str (text : Text)
  | arr (items : List Json)
  | obj (members : List (Text × Json))
deriving Inhabited

/-- Column names with their values, in order. -/
abbrev Row := List (Text × Json)

namespace Json

mutual

/-- Equality of values, keys in order. -/
def decEq : (a b : Json) → Decidable (a = b)
  | .null, b => by cases b <;> first | exact isTrue rfl | exact isFalse nofun
  | .bool x, b => by
    cases b
    case bool y =>
      exact if h : x = y then isTrue (h ▸ rfl) else isFalse fun e => h (Json.bool.inj e)
    all_goals exact isFalse nofun
  | .int x, b => by
    cases b
    case int y =>
      exact if h : x = y then isTrue (h ▸ rfl) else isFalse fun e => h (Json.int.inj e)
    all_goals exact isFalse nofun
  | .float x, b => by
    cases b
    case float y =>
      exact if h : x = y then isTrue (h ▸ rfl) else isFalse fun e => h (Json.float.inj e)
    all_goals exact isFalse nofun
  | .str x, b => by
    cases b
    case str y =>
      exact if h : x = y then isTrue (h ▸ rfl) else isFalse fun e => h (Json.str.inj e)
    all_goals exact isFalse nofun
  | .arr x, b => by
    cases b
    case arr y =>
      exact match decEqItems x y with
        | isTrue h => isTrue (h ▸ rfl)
        | isFalse h => isFalse fun e => h (Json.arr.inj e)
    all_goals exact isFalse nofun
  | .obj x, b => by
    cases b
    case obj y =>
      exact match decEqMembers x y with
        | isTrue h => isTrue (h ▸ rfl)
        | isFalse h => isFalse fun e => h (Json.obj.inj e)
    all_goals exact isFalse nofun

def decEqItems : (a b : List Json) → Decidable (a = b)
  | [], [] => isTrue rfl
  | [], _ :: _ => isFalse nofun
  | _ :: _, [] => isFalse nofun
  | x :: xs, y :: ys =>
    match decEq x y, decEqItems xs ys with
    | isTrue h, isTrue g => isTrue (h ▸ g ▸ rfl)
    | isFalse h, _ => isFalse fun e => h (List.cons.inj e).1
    | _, isFalse g => isFalse fun e => g (List.cons.inj e).2

def decEqMembers : (a b : List (Text × Json)) → Decidable (a = b)
  | [], [] => isTrue rfl
  | [], _ :: _ => isFalse nofun
  | _ :: _, [] => isFalse nofun
  | (j, x) :: xs, (k, y) :: ys =>
    if hk : j = k then
      match decEq x y, decEqMembers xs ys with
      | isTrue h, isTrue g => isTrue (hk ▸ h ▸ g ▸ rfl)
      | isFalse h, _ => isFalse fun e => h (Prod.mk.inj (List.cons.inj e).1).2
      | _, isFalse g => isFalse fun e => g (List.cons.inj e).2
    else isFalse fun e => hk (Prod.mk.inj (List.cons.inj e).1).1

end

instance : DecidableEq Json := decEq

def isNull : Json → Bool
  | .null => true
  | _ => false

def isObject : Json → Bool
  | .obj _ => true
  | _ => false

end Json

namespace Row

/-- The value under a key. -/
def get? (key : Text) : Row → Option Json
  | [] => none
  | (k, v) :: rest => if k = key then some v else get? key rest

/-- Replaces the value of a key in its place, or appends the pair. -/
def put (key : Text) (value : Json) : Row → Row
  | [] => [(key, value)]
  | (k, v) :: rest => if k = key then (k, value) :: rest else (k, v) :: put key value rest

/-- Removes a key and keeps the order of the others. -/
def erase (key : Text) : Row → Row
  | [] => []
  | (k, v) :: rest => if k = key then rest else (k, v) :: erase key rest

def keys (row : Row) : List Text :=
  row.map Prod.fst

/-- The pairs put one after the other. -/
def ofPairs (pairs : List (Text × Json)) : Row :=
  pairs.foldl (fun row pair => put pair.1 pair.2 row) []

@[simp] theorem get?_put_self (key : Text) (value : Json) (row : Row) :
    get? key (put key value row) = some value := by
  induction row with
  | nil => simp [put, get?]
  | cons pair rest ih =>
    obtain ⟨k, v⟩ := pair
    by_cases h : k = key <;> simp [put, get?, h, ih]

theorem get?_put_of_ne {key other : Text} (h : other ≠ key) (value : Json) (row : Row) :
    get? other (put key value row) = get? other row := by
  induction row with
  | nil => simp [put, get?, Ne.symm h]
  | cons pair rest ih =>
    obtain ⟨k, v⟩ := pair
    by_cases hk : k = key
    · subst hk; simp [put, get?, Ne.symm h]
    · by_cases ho : k = other
      · subst ho; simp [put, get?, hk]
      · simp [put, get?, hk, ho, ih]

theorem get?_erase_of_ne {key other : Text} (h : other ≠ key) (row : Row) :
    get? other (erase key row) = get? other row := by
  induction row with
  | nil => rfl
  | cons pair rest ih =>
    obtain ⟨k, v⟩ := pair
    by_cases hk : k = key
    · subst hk; simp [erase, get?, Ne.symm h]
    · by_cases ho : k = other
      · subst ho; simp [erase, get?, hk]
      · simp [erase, get?, hk, ho, ih]

/-- A key that is present keeps its place, a new one goes last. -/
theorem keys_put (key : Text) (value : Json) (row : Row) :
    keys (put key value row) = if key ∈ keys row then keys row else keys row ++ [key] := by
  induction row with
  | nil => simp [put, keys]
  | cons pair rest ih =>
    obtain ⟨k, v⟩ := pair
    simp only [keys] at ih
    by_cases h : k = key
    · simp [put, keys, h]
    · by_cases hm : key ∈ rest.map Prod.fst <;> simp_all [put, keys, Ne.symm h]

end Row

end FluentQuery

import FluentQuery.Client
import FluentQuery.Script
import Mathlib.Order.Bounds.Defs

/-! What a log shows of a statement. The search from the limit downwards ends between two characters
and passes over no such place. So what stands before the cut is the longest part from the start that
fits: it begins with just those parts of the statement that fit. Sizes are those of the encoded
text; nothing is assumed of the characters or of the limit. -/
namespace FluentQuery

namespace Text.Utf8

variable {t u v : Text} {s : String} {m n : Nat}

/-! Sizes -/

@[simp] theorem size_append (t u : Text) : size (t ++ u) = size t + size u := by
  rw [size, String.ofList_append, String.utf8ByteSize_append]
  rfl

theorem size_eq_zero : size t = 0 ↔ t = [] := by
  rw [size, String.utf8ByteSize_eq_zero_iff, String.ofList_eq_empty_iff]

theorem size_le_of_isPrefix (begins : u <+: t) : size u ≤ size t := by
  obtain ⟨rest, rfl⟩ := begins
  simp

/-- Of two parts from the start of a text, the one of fewer bytes begins the other. -/
theorem prefix_of_size_le (first : u <+: t) (second : v <+: t) (fewer : size u ≤ size v) :
    u <+: v := by
  obtain begins | ⟨rest, rfl⟩ := List.prefix_or_prefix_of_prefix first second
  · exact begins
  · rw [size_append] at fewer
    obtain rfl : rest = [] := size_eq_zero.1 (by omega)
    simp

/-! The search -/

/-- The places between two characters, the ends of the text among them. -/
def places (s : String) : Set Nat :=
  {place | (⟨place⟩ : String.Pos.Raw).IsValid s}

theorem floor_le (s : String) (n : Nat) : (floor s n).byteIdx ≤ n := by
  induction n with
  | zero => exact Nat.le_refl 0
  | succ n ih =>
    rw [floor]
    split
    · exact Nat.le_refl _
    · exact Nat.le_succ_of_le ih

/-- No place between two characters is passed over. -/
theorem le_floor (place : m ∈ places s) (within : m ≤ n) : m ≤ (floor s n).byteIdx := by
  induction n with
  | zero => exact within
  | succ n ih =>
    rw [floor]
    split
    · exact within
    · next inside =>
      have other : m ≠ n + 1 := by
        rintro rfl
        exact inside (String.Pos.Raw.isValid_eq_true_iff.2 place)
      exact ih (by omega)

theorem isGreatest_floor (s : String) (n : Nat) :
    IsGreatest {place ∈ places s | place ≤ n} (floor s n).byteIdx :=
  ⟨⟨isValid_floor s n, floor_le s n⟩, fun _ found => le_floor found.1 found.2⟩

/-- A part from the start ends at such a place. -/
theorem size_mem_places (begins : u <+: t) : size u ∈ places (String.ofList t) := by
  obtain ⟨rest, rfl⟩ := begins
  exact String.Pos.Raw.isValid_iff_exists_append.2
    ⟨String.ofList u, String.ofList rest, String.ofList_append, rfl⟩

/-! What stands before the cut -/

theorem before_isPrefix (t : Text) (n : Nat) : before (String.ofList t) n <+: t := by
  let place : (String.ofList t).Pos := ⟨floor (String.ofList t) n, isValid_floor _ n⟩
  refine ⟨((String.ofList t).sliceFrom place).copy.toList, ?_⟩
  have whole : ((String.ofList t).sliceTo place).copy ++ ((String.ofList t).sliceFrom place).copy =
      String.ofList t := String.sliceTo_append_sliceFrom
  have parts := congrArg String.toList whole
  rwa [String.toList_append, String.toList_ofList] at parts

theorem size_before (s : String) (n : Nat) : size (before s n) = (floor s n).byteIdx := by
  rw [size, before, String.ofList_toList, String.Slice.utf8ByteSize_copy,
    String.utf8ByteSize_sliceTo]

end Text.Utf8

namespace Text

open Utf8

variable {limit : Nat} {t : Text}

theorem takeBytes_of_size_le (fits : size t ≤ limit) : takeBytes limit t = t :=
  if_pos fits

theorem takeBytes_isPrefix (limit : Nat) (t : Text) : takeBytes limit t <+: t := by
  rw [takeBytes]
  split
  · exact List.prefix_rfl
  · exact before_isPrefix t limit

theorem size_takeBytes_le (limit : Nat) (t : Text) : size (takeBytes limit t) ≤ limit := by
  rw [takeBytes]
  split
  · assumption
  · rw [size_before]
    exact floor_le _ limit

/-- Just the parts from the start that fit begin what is taken. -/
theorem prefix_takeBytes_iff {part : Text} :
    part <+: takeBytes limit t ↔ part <+: t ∧ size part ≤ limit := by
  constructor
  · intro begins
    exact ⟨begins.trans (takeBytes_isPrefix limit t),
      Nat.le_trans (size_le_of_isPrefix begins) (size_takeBytes_le limit t)⟩
  · rintro ⟨begins, fits⟩
    rw [takeBytes]
    split
    · exact begins
    · refine prefix_of_size_le begins (before_isPrefix t limit) ?_
      rw [size_before]
      exact le_floor (size_mem_places begins) fits

theorem takeBytes_eq_self_iff : takeBytes limit t = t ↔ size t ≤ limit := by
  refine ⟨fun whole => ?_, takeBytes_of_size_le⟩
  have fits := size_takeBytes_le limit t
  rwa [whole] at fits

/-- Dots stand for what was cut. -/
theorem shorten_some (limit : Nat) (t : Text) :
    t.shorten (some limit) =
      takeBytes limit t ++ if takeBytes limit t = t then [] else ("..." : Text) := by
  rw [shorten]
  split
  · next long => rw [if_neg (mt takeBytes_eq_self_iff.1 (by omega))]
  · next short =>
    have whole : takeBytes limit t = t := takeBytes_of_size_le (by omega)
    rw [if_pos whole, whole, List.append_nil]

end Text

namespace Client

open Text

/-- The search for a cut ends at the last place up to the limit that lies between two characters, so
the cut is possible. What stands before it is the longest part of the statement that fits: it begins
with the parts from the start that fit, and with no others. It is the whole statement just when that
fits. A client that logs statements up to a limit logs this part, and dots behind it just when
something was cut. -/
theorem announce_shows_longest (limit : Nat) (sql : Text) :
    IsGreatest {place ∈ Utf8.places (String.ofList sql) | place ≤ limit}
      (Utf8.floor (String.ofList sql) limit).byteIdx ∧
    (∀ part, part <+: takeBytes limit sql ↔ part <+: sql ∧ Utf8.size part ≤ limit) ∧
    (takeBytes limit sql = sql ↔ Utf8.size sql ≤ limit) ∧
    ∀ (σ : Type) (c : Client σ) (kind : StatementKind) (parameters : Nat),
      c.config.logSql = true → c.config.maxLoggedSql = some limit →
      (c.announce kind parameters sql).log = c.log ++
        [.sending c.config.logLevel kind parameters
          (takeBytes limit sql ++ if takeBytes limit sql = sql then [] else ("..." : Text))] := by
  refine ⟨Utf8.isGreatest_floor _ limit, fun _ => prefix_takeBytes_iff, takeBytes_eq_self_iff, ?_⟩
  intro σ c kind parameters logs limited
  rw [announce, if_pos logs, limited, shorten_some]
  rfl

/-- The limit lies behind three of the four bytes of the face, which is therefore not shown. -/
theorem announce_cutFace :
    let c := Client.create { Config.standard with maxLoggedSql := some 8 } Script.executor ⟨[], []⟩
    c.config.logSql = true ∧ c.config.maxLoggedSql = some 8 ∧
    takeBytes 8 "héé😀x" = "héé" ∧
    (c.announce .raw 0 "héé😀x").log = [.sending .debug .raw 0 "héé..."] := by
  intro c
  obtain ⟨-, -, -, shows⟩ := announce_shows_longest 8 "héé😀x"
  have cut : takeBytes 8 "héé😀x" = ("héé" : Text) := by decide
  refine ⟨rfl, rfl, cut, ?_⟩
  rw [shows _ c .raw 0 rfl rfl, cut]
  rfl

end Client

end FluentQuery

import FluentQuery.Error
import FluentQuery.Shape

/-! What a finished call gives its caller: data or an error, and perhaps a count. Both data and
error are absent where only a count was asked for. -/
namespace FluentQuery

structure Outcome (α : Type) where
  data : Option α
  error : Option Fault
  count : Option Int
deriving DecidableEq

namespace Outcome

variable {α β : Type}

def ok (data : α) : Outcome α := ⟨some data, none, none⟩

/-- Success without data. -/
def empty : Outcome α := ⟨none, none, none⟩

def fail (fault : Fault) : Outcome α := ⟨none, some fault, none⟩

def ofError (e : Error) : Outcome α := fail (.ofError e)

def withCount (o : Outcome α) (count : Option Int) : Outcome α :=
  { o with count := count }

def isOk (o : Outcome α) : Bool :=
  o.error.isNone

def toExcept (o : Outcome α) : Except Fault (Option α) :=
  match o.error with
  | some fault => .error fault
  | none => .ok o.data

def map (f : α → β) (o : Outcome α) : Outcome β :=
  ⟨o.data.map f, o.error, o.count⟩

/-- Reads the data by a shape; what does not fit becomes the error. The count stays. -/
def decode (shape : Shape) (o : Outcome Json) : Outcome Json :=
  let read : Outcome Json :=
    match o.error, o.data with
    | some fault, _ => fail fault
    | none, none => empty
    | none, some v =>
      match shape.read v with
      | .ok w => ok w
      | .error detail => ofError (.serialization detail)
  read.withCount o.count

def Fault.toJson (f : Fault) : Json :=
  let optional (t : Option Text) : Json := (t.map Json.str).getD .null
  .obj [("message", .str f.message), ("code", optional f.code), ("details", optional f.details),
    ("hint", optional f.hint)]

/-- The envelope as one JSON value. -/
def toJson (o : Outcome Json) : Json :=
  .obj [("data", o.data.getD .null), ("error", (o.error.map Fault.toJson).getD .null),
    ("count", (o.count.map Json.int).getD .null)]

end Outcome

end FluentQuery

import FluentQuery.Event
import FluentQuery.Statement

/-! What runs statements: a machine whose state is whatever lies behind it. A statement is under way
until its answer is there, and other statements may be taken in between. -/
namespace FluentQuery

/-- What becomes of a statement that a machine with states `σ` has taken. -/
inductive Reply (σ α : Type) where
  /-- The answer, with what is reported when it arrives. -/
  | answered (events : List Event) (answer : Except Error α)
  /-- After some time the machine changes its state, and goes on as that state tells. -/
  | waiting (delay : Duration) (change : σ → σ) (next : σ → Reply σ α)

namespace Reply

variable {σ α : Type}

/-- Work that goes on after some time. -/
def later (delay : Duration) (work : σ → Reply σ α × σ) : Reply σ α :=
  .waiting delay (fun s => (work s).2) fun s => (work s).1

/-- A reply that times out when so many nanoseconds are over. -/
def cut (limit : Duration) (left : Nat) : Reply σ α → Reply σ α
  | .answered events answer => .answered events answer
  | .waiting delay change next =>
    if left < delay.nanos then
      .waiting ⟨left⟩ id fun _ => .answered [] (.error (.timeout limit))
    else .waiting delay change fun s => (next s).cut limit (left - delay.nanos)

/-- A reply as a caller with a time limit gets it. -/
def within (limit : Option Duration) (r : Reply σ α) : Reply σ α :=
  match limit with
  | some limit => r.cut limit limit.nanos
  | none => r

end Reply

structure Executor (σ : Type) where
  query : Statement → σ → Reply σ (List Row) × σ
  /-- Yields the number of rows affected. -/
  execute : Statement → σ → Reply σ Nat × σ
  batch : Text → σ → Reply σ Unit × σ
  /-- Gives up what the executor holds. -/
  close : σ → σ

end FluentQuery

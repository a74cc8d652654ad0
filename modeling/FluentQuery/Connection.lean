import FluentQuery.Connection.Url
import FluentQuery.Connection.Words
import FluentQuery.Error

/-! Connection texts: a `postgres://` or `postgresql://` URL, or words `key=value`. Reading one
gives its options in order; nothing is connected. -/
namespace FluentQuery.Connection

def scheme? (t : Text) : Option Text :=
  (("postgres://" : Text).isPrefixOf? t).or (("postgresql://" : Text).isPrefixOf? t)

/-- The options of a connection text, if every one of them is known and well formed. -/
def parse? (t : Text) : Option (List Setting) :=
  let options := match scheme? t with
    | some rest => url? rest
    | none => words? t.length t
  options.bind fun options => if options.all accepts then some options else none

end FluentQuery.Connection

namespace FluentQuery

/-- A pool that opens its connections when they are needed. -/
structure Pool where
  options : List Connection.Setting
  maxSize : Nat
  /-- The connections that are open. -/
  size : Nat

namespace Pool

def standardSize : Nat := 16

def create (url : Text) (maxSize : Nat) : Except Error Pool :=
  match Connection.parse? url with
  | some options => .ok ⟨options, maxSize, 0⟩
  | none => .error (.connection "invalid database url: invalid connection string")

end Pool

end FluentQuery

import FluentQuery.Connection.Setting
import FluentQuery.Text.Hex
import FluentQuery.Text.Utf8

/-! Connection URLs: `[user[:password]@]host[:port],…[/database][?key=value&…]` after the scheme,
with percent escapes for bytes. -/
namespace FluentQuery.Connection

/-- The bytes of a text, `%` and two hexadecimal digits standing for one byte. -/
def percentBytes : Text → List UInt8
  | [] => []
  | '%' :: a :: b :: rest =>
    match Text.Hex.byte? a b with
    | some n => UInt8.ofNat n :: percentBytes rest
    | none => 0x25 :: percentBytes (a :: b :: rest)
  | c :: rest => (String.singleton c).toUTF8.toList ++ percentBytes rest

def percent? (t : Text) : Option Text :=
  Text.Utf8.decode? (percentBytes t)

/-- What stands before the first of some characters, and the rest with that character. -/
def takeUntil (stops : List Char) (t : Text) : Text × Text :=
  (t.takeWhile fun c => !stops.contains c, t.dropWhile fun c => !stops.contains c)

/-- A host is text, or a path of any bytes. -/
def host? (t : Text) : Option Setting :=
  match percentBytes t with
  | 0x2F :: rest => some ("host", Text.Utf8.decodeLossy (0x2F :: rest))
  | bytes => (Text.Utf8.decode? bytes).map fun h => (("host" : Text), h)

/-- Host and port of one entry; an address in brackets may hold colons. -/
def endpoint? (entry : Text) : Option (List Setting) := do
  let (host, port) ← match entry with
    | '[' :: rest =>
      match Text.cut? ']' rest with
      | some (host, []) => some (host, none)
      | some (host, ':' :: port) => some (host, some port)
      | _ => none
    | _ =>
      match Text.cut? ':' entry with
      | some (host, port) => some (host, some port)
      | none => some (entry, none)
  let host ← host? host
  let port ← percent? (port.getD "5432")
  some [host, ("port", port)]

/-- Parameters after the question mark; the count bounds their number. -/
def parameters? : Nat → Text → Option (List Setting)
  | 0, _ => some []
  | count + 1, t =>
    if t = [] then some []
    else
      match Text.cut? '=' t with
      | none => none
      | some (key, rest) => do
        let key ← percent? key
        let (value, rest) := takeUntil ['&'] rest
        let option ← if key = "host" then host? value
          else (percent? value).map fun v => (key, v)
        let more ← parameters? count (rest.drop 1)
        some (option :: more)

def credentials? (t : Text) : Option (List Setting × Text) :=
  match Text.cut? '@' t with
  | none => some ([], t)
  | some (before, rest) =>
    let (user, password) := match Text.cut? ':' before with
      | some (user, password) => (user, some password)
      | none => (before, none)
    let secret := (password.map fun p =>
      [(("password" : Text), Text.Utf8.decodeLossy (percentBytes p))]).getD []
    (percent? user).map fun user => ((("user" : Text), user) :: secret, rest)

/-- The options of a URL without its scheme. -/
def url? (t : Text) : Option (List Setting) := do
  let (credentials, t) ← credentials? t
  let (hosts, t) := takeUntil ['/', '?'] t
  let endpoints ← if hosts = [] then some [] else (Text.splitOn ',' hosts).mapM endpoint?
  let (path, t) := match t with
    | '/' :: rest => takeUntil ['?'] rest
    | rest => ([], rest)
  let database ←
    if path = [] then some [] else (percent? path).map fun d => [(("dbname" : Text), d)]
  let parameters ← match t with
    | '?' :: rest => parameters? rest.length rest
    | _ => some []
  some (credentials ++ endpoints.flatten ++ database ++ parameters)

end FluentQuery.Connection

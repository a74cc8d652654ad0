import FluentQuery.Text.Hex

/-! The options of a connection and the values that they take. -/
namespace FluentQuery.Connection

/-- An option and its value. -/
abbrev Setting := Text × Text

def isInteger (t : Text) : Bool :=
  match t with
  | '-' :: '+' :: _ => false
  | '-' :: rest => (Text.readNat? (2 ^ 63) rest).isSome
  | rest => (Text.readNat? (2 ^ 63 - 1) rest).isSome

/-- Empty stands for the standard port. -/
def isPort (t : Text) : Bool :=
  t.isEmpty || (Text.readNat? (2 ^ 16 - 1) t).isSome

def isOctet (t : Text) : Bool :=
  t.length ≤ 3 && t.all Char.isDigit && (t.length = 1 || t.head? != some '0') &&
    (Text.readNat? 255 t).isSome

def isAddress4 (t : Text) : Bool :=
  let parts := Text.splitOn '.' t
  parts.length = 4 && parts.all isOctet

def isHexGroup (t : Text) : Bool :=
  1 ≤ t.length && t.length ≤ 4 && t.all fun c => (Text.Hex.value? c).isSome

/-- How many 16-bit groups a part of an address holds, if it is well formed; the last may be an
address of four octets. -/
def groupCount? (mayEndInOctets : Bool) : List Text → Option Nat
  | [] => some 0
  | [t] =>
    if isHexGroup t then some 1
    else if mayEndInOctets && isAddress4 t then some 2 else none
  | t :: rest => if isHexGroup t then (groupCount? mayEndInOctets rest).map (· + 1) else none

def groupsOf (t : Text) : List Text :=
  if t = [] then [] else Text.splitOn ':' t

def isAddress6 (t : Text) : Bool :=
  match Text.cutText? "::" t with
  | some (before, after) =>
    match groupCount? false (groupsOf before), groupCount? true (groupsOf after) with
    | some m, some n => m + n ≤ 7
    | _, _ => false
  | none => groupCount? true (groupsOf t) == some 8

def oneOf (words : List Text) (t : Text) : Bool :=
  words.contains t

/-- Whether the key is known and takes the value. -/
def accepts (option : Setting) : Bool :=
  let (key, value) := option
  let is (k : String) : Bool := key = (k : Text)
  if is "user" || is "password" || is "dbname" || is "options" || is "application_name" ||
      is "host" then true
  else if is "sslmode" then oneOf ["disable", "prefer", "require"] value
  else if is "sslnegotiation" then oneOf ["postgres", "direct"] value
  else if is "hostaddr" then (Text.splitOn ',' value).all fun a => isAddress4 a || isAddress6 a
  else if is "port" then (Text.splitOn ',' value).all isPort
  else if is "connect_timeout" || is "tcp_user_timeout" || is "keepalives_idle" ||
      is "keepalives_interval" then isInteger value
  else if is "keepalives" then (Text.readNat? (2 ^ 64 - 1) value).isSome
  else if is "keepalives_retries" then (Text.readNat? (2 ^ 32 - 1) value).isSome
  else if is "target_session_attrs" then oneOf ["any", "read-write", "read-only"] value
  else if is "channel_binding" then oneOf ["disable", "prefer", "require"] value
  else if is "load_balance_hosts" then oneOf ["disable", "random"] value
  else false

end FluentQuery.Connection

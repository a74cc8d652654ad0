import FluentQuery.Duration

/-! The settings of a client. -/
namespace FluentQuery

inductive Level where
  | error
  | warn
  | info
  | debug
  | trace
deriving DecidableEq, Repr

structure Config where
  /-- The schemas whose foreign keys are loaded. -/
  schemas : List Text
  /-- The longest that one statement may take. -/
  timeout : Option Duration
  /-- The text-search configuration of a search that names none. -/
  searchConfig : Text
  /-- The most keys that one relation statement asks for; zero counts as one. -/
  batchSize : Nat
  /-- Whether a reference without a foreign key guesses one from its label. -/
  guessKeys : Bool
  /-- An estimate below this one is replaced by an exact count. -/
  estimateThreshold : Int
  logSql : Bool
  logLevel : Level
  /-- The most bytes of SQL that an event shows. -/
  maxLoggedSql : Option Nat
deriving DecidableEq, Repr

def Config.standard : Config where
  schemas := ["public"]
  timeout := none
  searchConfig := "english"
  batchSize := 1000
  guessKeys := true
  estimateThreshold := 1000
  logSql := true
  logLevel := .debug
  maxLoggedSql := some 200

end FluentQuery

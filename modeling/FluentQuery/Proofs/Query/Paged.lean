import FluentQuery.Proofs.Query.Deferred
import FluentQuery.Proofs.Query.Inserted

/-! The page that a select asks for. Calls for a limit or a range change only these two and what was
refused, so the SQL of a select is that without them, followed by the last range or else by the last
limit. Every number in it fits: the calls that give one too large are just those that are refused.
The arithmetic is that of numbers without bound, as `paging_of_range` shows of an accepted range. -/
namespace FluentQuery

namespace Call

def limit? : Call → Option Nat
  | .limit n => some n
  | _ => none

def range? : Call → Option (Nat × Nat)
  | .range first last => some (first, last)
  | _ => none

theorem eq_of_limit? {n : Nat} (call : Call) (asked : call.limit? = some n) : call = .limit n := by
  cases call <;> cases asked
  rfl

theorem eq_of_range? {first last : Nat} (call : Call) (asked : call.range? = some (first, last)) :
    call = .range first last := by
  cases call <;> cases asked
  rfl

/-- Whether the call chooses a page. -/
def pages : Call → Bool
  | .limit _ | .range .. => true
  | _ => false

/-- The call chooses a page that is none: it ends before it starts, or one of its numbers is
larger than a limit or an offset can be. -/
def OutOfBounds : Call → Prop
  | .limit n => maxRows < n
  | .range first last => last < first ∨ maxRows < first ∨ maxRows < last - first + 1
  | _ => False

theorem outOfBounds_iff {call : Call} (chooses : call.pages = true) :
    call.OutOfBounds ↔ call.fault? ≠ none := by
  cases call with
  | limit n => simp [OutOfBounds, fault?, limitFault?]
  | range first last =>
    simp only [OutOfBounds, fault?, rangeFault?]
    split
    · next reversed => simp [reversed]
    · next ordered =>
      split
      · next large => simp only [large, or_true, Option.map_some, ne_eq, reduceCtorEq,
          not_false_eq_true]
      · next small => simp only [ordered, small, or_self, Option.map_none, ne_eq, not_true_eq_false]
  | _ => cases chooses

theorem pages_of_outOfBounds {call : Call} (out : call.OutOfBounds) : call.pages = true := by
  cases call with
  | limit | range => rfl
  | _ => exact out.elim

end Call

namespace Query

variable {q r : Query} {config columns : Text}

/-! What calls leave -/

/-- The query without its page, and without what was refused. -/
def unpaged (q : Query) : Query :=
  { q with limit := none, range := none, deferred := none }

theorem withLimit_eq (q : Query) (n : Nat) :
    q.withLimit n = { q with limit := some n, deferred := (q.withLimit n).deferred } := by
  simp only [withLimit]
  split <;> rfl

theorem withRange_eq (q : Query) (first last : Nat) :
    q.withRange first last =
      { q with range := some (first, last), deferred := (q.withRange first last).deferred } := by
  simp only [withRange]
  split
  · rfl
  · split <;> rfl

theorem unpaged_of_pages {call : Call} (chooses : call.pages = true) (q : Query) :
    (q.call call).unpaged = q.unpaged := by
  cases call with
  | limit n => rw [Query.call, withLimit_eq]; rfl
  | range first last => rw [Query.call, withRange_eq]; rfl
  | _ => cases chooses

/-- Other calls leave the page as it is, and what they do to the rest does not depend on it. -/
theorem call_eq {call : Call} (other : call.pages = false) (q : Query) :
    q.call call = { q.unpaged.call call with
      limit := q.limit, range := q.range, deferred := (q.call call).deferred } := by
  cases call with
  | limit | range => cases other
  | select | selectWith | delete | count | or | order => rfl
  | restrict _ _ value | not _ _ value => cases value <;> rfl
  | insert rows | upsert rows =>
    cases rows with
    | failing message => rfl
    | value v =>
      cases v with
      | arr items =>
        simp only [Query.call, insert, upsert, payload, take]
        cases rowsOf items <;> rfl
      | _ => rfl
  | update value | matching value =>
    cases value with
    | failing message => rfl
    | value v => cases v <;> rfl
  | filter column name value =>
    simp only [Query.call, filter]
    cases ("not." : Text).isPrefixOf? name with
    | some rest => cases value <;> rfl
    | none =>
      cases Operator.parse? name with
      | none => rfl
      | some op =>
        cases value with
        | failing message => rfl
        | value v =>
          cases v with
          | str raw =>
            simp only [take]
            cases Operand.parse op raw <;> rfl
          | _ => rfl

theorem unpaged_call {call : Call} (other : call.pages = false) (q : Query) :
    (q.call call).unpaged = (q.unpaged.call call).unpaged := by
  rw [call_eq other q]
  rfl

theorem limit_call (q : Query) (call : Call) : (q.call call).limit = call.limit?.or q.limit := by
  cases chooses : call.pages with
  | false =>
    rw [call_eq chooses q]
    cases call with
    | limit => cases chooses
    | _ => rfl
  | true =>
    cases call with
    | limit n => rfl
    | range first last => rw [Query.call, withRange_eq]; rfl
    | _ => cases chooses

theorem range_call (q : Query) (call : Call) : (q.call call).range = call.range?.or q.range := by
  cases chooses : call.pages with
  | false =>
    rw [call_eq chooses q]
    cases call with
    | range => cases chooses
    | _ => rfl
  | true =>
    cases call with
    | limit n => rw [Query.call, withLimit_eq]; rfl
    | range first last => rfl
    | _ => cases chooses

theorem unpaged_foldl (same : q.unpaged = r.unpaged) (calls : List Call) :
    (calls.foldl call q).unpaged =
      ((calls.filter fun call => !call.pages).foldl call r).unpaged := by
  induction calls generalizing q r with
  | nil => exact same
  | cons call rest ih =>
    by_cases chooses : call.pages = true
    · rw [List.filter_cons_of_neg (by simp [chooses])]
      exact ih ((unpaged_of_pages chooses q).trans same)
    · rw [List.filter_cons_of_pos (by simpa using chooses)]
      have other : call.pages = false := by simpa using chooses
      exact ih (by rw [unpaged_call other, same, ← unpaged_call other])

/-- What every call writes anew, if it writes it at all, is in the end what the last one wrote. -/
theorem foldl_last {α : Type} {read : Query → Option α} {write : Call → Option α}
    (step : ∀ q call, read (Query.call q call) = (write call).or (read q)) (q : Query)
    (calls : List Call) :
    read (calls.foldl call q) = (calls.filterMap write).getLast?.or (read q) := by
  induction calls generalizing q with
  | nil => rfl
  | cons call rest ih =>
    rw [List.foldl_cons, ih, step]
    cases written : write call with
    | none => simp [written]
    | some value =>
      cases later : (rest.filterMap write).getLast? <;> simp [written, List.getLast?_cons, later]

/-- Where no call chooses a page, there is none. -/
theorem unpaged_ofCalls {table : Text} {calls : List Call}
    (others : ∀ call ∈ calls, call.pages = false)
    (accepted : (ofCalls table calls).deferred = none) :
    (ofCalls table calls).unpaged = ofCalls table calls := by
  have none {α : Type} {write : Call → Option α} (silent : ∀ call ∈ calls, write call = none) :
      (calls.filterMap write).getLast?.or none = none := by
    rw [List.filterMap_eq_nil_iff.2 silent]
    rfl
  have limit : (ofCalls table calls).limit = .none := by
    refine (foldl_last limit_call _ calls).trans (none fun call member => ?_)
    have other := others call member
    cases call with
    | limit => cases other
    | _ => rfl
  have range : (ofCalls table calls).range = .none := by
    refine (foldl_last range_call _ calls).trans (none fun call member => ?_)
    have other := others call member
    cases call with
    | range => cases other
    | _ => rfl
  rw [unpaged, ← limit, ← range, ← accepted]

/-! The SQL of a page -/

/-- The clauses of the page stand behind all others. -/
def pageSql (q : Query) : Text :=
  numberClause "LIMIT" q.paging.1 ++ numberClause "OFFSET" q.paging.2

theorem selectStatement_unpaged (q : Query) (config columns : Text) :
    q.selectStatement config columns =
      (q.unpaged.selectStatement config columns).map fun s => ⟨s.sql ++ q.pageSql, s.params⟩ := by
  have table : q.unpaged.tableSql = q.tableSql := rfl
  have condition : q.unpaged.whereSql config .empty = q.whereSql config .empty := rfl
  have orders : q.unpaged.mainOrders = q.mainOrders := rfl
  have page : q.unpaged.paging = (none, none) := rfl
  simp only [selectStatement, table, condition, orders, page, numberClause, List.append_nil]
  cases q.tableSql with
  | error cause => rfl
  | ok tableSql =>
    cases q.whereSql config .empty with
    | error cause => rfl
    | ok filtered =>
      cases orderBySql q.mainOrders with
      | error cause => rfl
      | ok sorted =>
        simp only [pageSql, Except.map, bind, Except.bind, numberClause, List.append_assoc]

theorem mainStatement_unpaged (selects : q.action = .select) (list : Option Text) :
    q.mainStatement config list =
      (q.unpaged.mainStatement config list).map fun s => ⟨s.sql ++ q.pageSql, s.params⟩ := by
  have same : q.unpaged.action = .select := selects
  rw [mainStatement, mainStatement, selects, same]
  exact selectStatement_unpaged q config _

/-- The rows of an accepted range are counted exactly. -/
theorem paging_of_range {first last : Nat} (range : q.range = some (first, last))
    (fits : last - first + 1 ≤ maxRows) : q.paging = (some (last - first + 1), some first) := by
  have whole : min (last - first + 1) maxNumber = last - first + 1 := by
    unfold maxRows at fits
    unfold maxNumber
    omega
  rw [paging, range]
  simp only [whole]

/-- The second statement is the first one with the page that the calls choose: the rows of the last
range, from its first to its last, or else those up to the last limit. -/
structure Paged (calls : List Call) (s t : Statement) : Prop where
  params : t.params = s.params
  range : ∀ first last, (calls.filterMap Call.range?).getLast? = some (first, last) →
    ∃ rows, rows + first = last + 1 ∧ rows ≤ 2 ^ 63 - 1 ∧ first ≤ 2 ^ 63 - 1 ∧
      t.sql = s.sql ++ " LIMIT " ++ Nat.toDigits 10 rows ++ " OFFSET " ++ Nat.toDigits 10 first
  limit : (calls.filterMap Call.range?).getLast? = none →
    ∀ n, (calls.filterMap Call.limit?).getLast? = some n →
      n ≤ 2 ^ 63 - 1 ∧ t.sql = s.sql ++ " LIMIT " ++ Nat.toDigits 10 n
  whole : (calls.filterMap Call.range?).getLast? = none →
    (calls.filterMap Call.limit?).getLast? = none → t.sql = s.sql

/-- The call that wrote last is one of the calls. -/
theorem mem_of_getLast {α : Type} {write : Call → Option α} {value : α} {writer : Call}
    (only : ∀ call, write call = some value → call = writer) {calls : List Call}
    (final : (calls.filterMap write).getLast? = some value) : writer ∈ calls := by
  obtain ⟨call, member, written⟩ := List.mem_filterMap.1 (List.mem_of_getLast? final)
  exact only call written ▸ member

theorem paged_pageSql (table : Text) {calls : List Call}
    (within : ∀ call ∈ calls, ¬call.OutOfBounds) (s : Statement) :
    Paged calls s ⟨s.sql ++ (ofCalls table calls).pageSql, s.params⟩ := by
  have range := (foldl_last range_call (ofTable table) calls).trans Option.or_none
  have limit := (foldl_last limit_call (ofTable table) calls).trans Option.or_none
  refine ⟨rfl, fun first last final => ?_, fun none n final => ?_, fun none none' => ?_⟩
  · have bounds := within _ (mem_of_getLast Call.eq_of_range? final)
    simp only [Call.OutOfBounds, not_or, Nat.not_lt] at bounds
    obtain ⟨ordered, start, fits⟩ := bounds
    have page := paging_of_range (range.trans final) fits
    refine ⟨last - first + 1, by omega, fits, start, ?_⟩
    simp only [pageSql, ofCalls, page, numberClause]
    simp
  · have bounds := within _ (mem_of_getLast Call.eq_of_limit? final)
    have page : (ofCalls table calls).paging = (some n, .none) := by
      rw [paging, ofCalls, range, none, limit, final]
    refine ⟨Nat.not_lt.1 bounds, ?_⟩
    simp only [pageSql, page, numberClause]
    simp
  · have page : (ofCalls table calls).paging = (.none, .none) := by
      rw [paging, ofCalls, range, none, limit, none']
    simp only [pageSql, page, numberClause]
    simp

/-- A select that compiles without the calls for its page is refused just when one of these is out
of bounds. Otherwise it compiles to what it was without them, with its page; and so do its
statements with other select lists. -/
theorem select_paged {table : Text} {calls : List Call} {searchConfig : Text} {s : Statement}
    (selects : (ofCalls table (calls.filter fun call => !call.pages)).action = .select)
    (compiles : (ofCalls table (calls.filter fun call => !call.pages)).toSql searchConfig = .ok s) :
    ((ofCalls table calls).deferred ≠ none ↔ ∃ call ∈ calls, call.OutOfBounds) ∧
    ((ofCalls table calls).deferred = none →
      (∃ t, (ofCalls table calls).toSql searchConfig = .ok t ∧ Paged calls s t) ∧
      ∀ list u, (ofCalls table (calls.filter fun call => !call.pages)).mainStatement
          searchConfig list = .ok u →
        ∃ t, (ofCalls table calls).mainStatement searchConfig list = .ok t ∧ Paged calls u t) := by
  obtain ⟨accepted, shown, listed, written⟩ := toSql_eq_ok_iff.1 compiles
  have others : ∀ call ∈ calls, call.pages = false → call.fault? = none := by
    intro call member other
    rw [deferred_ofCalls] at accepted
    apply List.findSome?_eq_none_iff.1 accepted
    exact List.mem_filter.2 ⟨member, by simp [other]⟩
  have refused : (ofCalls table calls).deferred ≠ none ↔ ∃ call ∈ calls, call.OutOfBounds := by
    rw [deferred_ofCalls, ne_eq, List.findSome?_eq_none_iff, not_forall₂]
    refine exists_congr fun call => ?_
    rw [exists_prop]
    refine and_congr_right fun member => ?_
    cases chooses : call.pages with
    | true => exact (Call.outOfBounds_iff chooses).symm
    | false =>
      refine iff_of_false (fun faulty => faulty (others call member chooses)) fun out => ?_
      cases chooses.symm.trans (Call.pages_of_outOfBounds out)
  refine ⟨refused, fun undeferred => ?_⟩
  have within : ∀ call ∈ calls, ¬call.OutOfBounds := fun call member out =>
    refused.2 ⟨call, member, out⟩ undeferred
  have rest : (ofCalls table calls).unpaged =
      ofCalls table (calls.filter fun call => !call.pages) := by
    rw [← unpaged_ofCalls (fun call member => by simpa using (List.mem_filter.1 member).2) accepted]
    exact unpaged_foldl rfl calls
  have action : (ofCalls table calls).action = .select := by
    rw [← selects, ← rest]
    rfl
  have statements : ∀ list u, (ofCalls table (calls.filter fun call => !call.pages)).mainStatement
      searchConfig list = .ok u →
      ∃ t, (ofCalls table calls).mainStatement searchConfig list = .ok t ∧ Paged calls u t := by
    intro list u written
    refine ⟨_, ?_, paged_pageSql table within u⟩
    rw [mainStatement_unpaged action, rest, written]
    rfl
  refine ⟨?_, statements⟩
  obtain ⟨t, paged, page⟩ := statements shown s written
  refine ⟨t, toSql_eq_ok_iff.2 ⟨undeferred, shown, ?_, paged⟩, page⟩
  rw [← listed, ← rest]
  rfl

/-- The largest page that does not start at the first row; the calls before it choose pages too. -/
def largestPage : List Call :=
  [.range 0 9, .limit 7, .order "title" ⟨true, none, none⟩, .range 1 (2 ^ 63 - 1)]

theorem largestPage_paged :
    let s : Statement := ⟨"SELECT * FROM \"games\" ORDER BY \"title\" ASC", []⟩
    let t : Statement := ⟨"SELECT * FROM \"games\" ORDER BY \"title\" ASC " ++
      "LIMIT 9223372036854775807 OFFSET 1", []⟩
    let calls := largestPage.filter fun call => !call.pages
    (ofCalls "games" calls).action = .select ∧
    (ofCalls "games" calls).toSql Config.standard.searchConfig = .ok s ∧
    (ofCalls "games" largestPage).deferred = none ∧
    (ofCalls "games" largestPage).toSql Config.standard.searchConfig = .ok t ∧
    (ofCalls "games" (largestPage ++ [.range 0 (2 ^ 63 - 1)])).deferred ≠ none := by
  intro s t calls
  have selects : (ofCalls "games" calls).action = .select := rfl
  have compiles : (ofCalls "games" calls).toSql Config.standard.searchConfig = .ok s := by
    decide +kernel
  obtain ⟨refused, pages⟩ := select_paged selects compiles
  have undeferred : (ofCalls "games" largestPage).deferred = none := by
    rw [deferred_ofCalls]
    decide
  obtain ⟨⟨u, written, page⟩, -⟩ := pages undeferred
  obtain ⟨rows, counted, -, -, sql⟩ := page.range 1 (2 ^ 63 - 1) rfl
  obtain rfl : rows = 2 ^ 63 - 1 := by omega
  have same : u = t := by
    obtain ⟨text, values⟩ := u
    obtain rfl : text = t.sql := sql.trans (by decide +kernel)
    obtain rfl : values = t.params := page.params
    rfl
  refine ⟨selects, compiles, undeferred, same ▸ written, ?_⟩
  obtain ⟨again, -⟩ :=
    @select_paged _ (largestPage ++ [.range 0 (2 ^ 63 - 1)]) _ s selects compiles
  exact again.2 ⟨_, List.mem_append_right _ List.mem_cons_self, .inr (.inr (by decide))⟩

end Query

end FluentQuery

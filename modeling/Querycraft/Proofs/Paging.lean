/-
  Querycraft.Proofs.Paging — the rows a page is, in every dialect.

  Which rows a query gives is set by `take`, `skip` and `page`, in any order and any number
  of times. Four dialects write it in four ways: with the offset before or behind the
  limit, with or without a stand-in for no limit, and with offsets that end at the greatest
  64-bit number. A `Window` is what is meant by all of them. `Dialect.reads` gets it back
  from the text of a clause, one sign at a time and by the rules of the dialect; it knows
  nothing of how the clause was written. Proved:
  (1) a clause is read as the offset and the size that it was written for, or as a window
      that no table with fewer than 2^64 rows tells from it (`conveys_pagination`);
  (2) after any calls the draft has the size that was set last, and the offset that was set
      last up to the greatest 64-bit number (`size_paged`, `offset_paged`);
  (3) so the text of a query ends with a clause for the last-set offset and size, and a page
      is the rows from index times size on, also where that product does not fit 64 bits
      (`Query.pages_are_windows`).
-/

import Querycraft.Proofs.Copying

namespace Querycraft

/-! ## Windows -/

/-- The rows behind the first `offset`, and of these at most `size`, if there is a size. -/
structure Window where
  offset : Nat
  size : Option Nat
  deriving DecidableEq

namespace Window

def select (w : Window) (rows : List α) : List α :=
  match w.size with
  | none => rows.drop w.offset
  | some n => (rows.drop w.offset).take n

section Limits

variable {rows : List α} (short : rows.length < UInt64.size)
include short

theorem drop_saturated (n : Nat) : rows.drop (min n (UInt64.size - 1)) = rows.drop n := by
  by_cases fits : n ≤ UInt64.size - 1
  · rw [Nat.min_eq_left fits]
  · have both : rows.length ≤ UInt64.size - 1 ∧ rows.length ≤ n := by omega
    rw [Nat.min_eq_right (by omega), List.drop_eq_nil_of_le both.1, List.drop_eq_nil_of_le both.2]

/-- An offset that ends at the greatest 64-bit number skips what the full one does. -/
theorem select_saturated (offset : Nat) (size : Option Nat) :
    (Window.mk (min offset (UInt64.size - 1)) size).select rows = (Window.mk offset size).select rows := by
  cases size <;> simp only [select, drop_saturated short]

/-- The greatest 64-bit number as a limit is no limit. -/
theorem select_greatest (offset : Nat) :
    (Window.mk offset (some (UInt64.size - 1))).select rows = (Window.mk offset none).select rows := by
  have enough : (rows.drop offset).length ≤ UInt64.size - 1 := by
    rw [List.length_drop]
    omega
  exact List.take_of_length_le enough

end Limits

theorem getElem?_select (offset size : Nat) (rows : List α) (k : Nat) :
    ((Window.mk offset (some size)).select rows)[k]? = if k < size then rows[offset + k]? else none := by
  rw [select, List.getElem?_take, List.getElem?_drop]

end Window

/-! ## Clauses as a dialect reads them -/

inductive Lexeme where
  | limit
  | offset
  | rows
  | fetch
  | next
  | only
  | number (n : Nat)
  | comma
  | minus
  /-- No sign of such a clause. -/
  | stray
  deriving DecidableEq

namespace Lexeme

def keywords : List (List Char × Lexeme) :=
  [("limit".toList, .limit), ("offset".toList, .offset), ("rows".toList, .rows), ("fetch".toList, .fetch),
   ("next".toList, .next), ("only".toList, .only)]

/-- The sign that a run of characters is: a number in decimal digits, or a keyword in any
    letter case. -/
def ofRun : List Char → List Lexeme
  | [] => []
  | run =>
    if run.all Char.isDigit then [.number (Nat.ofDigitChars 10 run 0)]
    else [(keywords.lookup (run.map Char.toLower)).getD .stray]

def mark? (c : Char) : Option (List Lexeme) :=
  if c = ' ' then some []
  else if c = ',' then some [.comma]
  else if c = '-' then some [.minus]
  else none

def ofText (run : List Char) : List Char → List Lexeme
  | [] => ofRun run
  | c :: rest =>
    match mark? c with
    | some marks => ofRun run ++ marks ++ ofText [] rest
    | none => ofText (run ++ [c]) rest

/-- What ends a run parts the text. -/
theorem ofText_parted {c : Char} {marks : List Lexeme} (h : mark? c = some marks) (run before rest : List Char) :
    ofText run (before ++ c :: rest) = ofText run before ++ marks ++ ofText [] rest := by
  induction before generalizing run with
  | nil =>
    show ofText run (c :: rest) = ofRun run ++ marks ++ ofText [] rest
    rw [ofText, h]
  | cons x before ih =>
    rw [List.cons_append, ofText, ofText]
    cases mark? x with
    | none => exact ih _
    | some others => simp only [ih, List.append_assoc]

/-- Without such a character it is one run. -/
theorem ofText_solid {word : List Char} (solid : ∀ c ∈ word, mark? c = none) (run : List Char) :
    ofText run word = ofRun (run ++ word) := by
  induction word generalizing run with
  | nil => rw [ofText, List.append_nil]
  | cons c word ih =>
    obtain ⟨first, others⟩ := List.forall_mem_cons.mp solid
    rw [ofText, first]
    simp only [ih others, List.append_assoc, List.singleton_append]

theorem mark?_of_isDigit {c : Char} (digit : c.isDigit = true) : mark? c = none := by
  have blank : c ≠ ' ' := by rintro rfl; cases digit
  have comma : c ≠ ',' := by rintro rfl; cases digit
  have minus : c ≠ '-' := by rintro rfl; cases digit
  rw [mark?, if_neg blank, if_neg comma, if_neg minus]

theorem ofRun_toDigits (n : Nat) : ofRun (Nat.toDigits 10 n) = [.number n] := by
  have digits : (Nat.toDigits 10 n).all Char.isDigit = true := by
    rw [List.all_eq_true]
    intro c member
    exact Nat.isDigit_of_mem_toDigits (by decide) (by decide) member
  have value : Nat.ofDigitChars 10 (Nat.toDigits 10 n) 0 = n := Nat.ofDigitChars_toDigits (by decide) (by decide)
  cases written : Nat.toDigits 10 n with
  | nil => exact absurd written Nat.toDigits_ne_nil
  | cons c rest =>
    rw [written] at digits value
    rw [ofRun, if_pos digits, value]
    exact List.cons_ne_nil c rest

theorem ofText_number (n : Nat) : ofText [] (toString n).toList = [.number n] := by
  have digits : (toString n).toList = Nat.toDigits 10 n := Nat.toList_repr
  have solid : ∀ c ∈ Nat.toDigits 10 n, mark? c = none := by
    intro c member
    exact mark?_of_isDigit (Nat.isDigit_of_mem_toDigits (by decide) (by decide) member)
  rw [digits, ofText_solid solid, List.nil_append, ofRun_toDigits]

section Literals

variable (n : Nat) (rest : List Char)

theorem ofText_limit : ofText [] ("LIMIT ".toList ++ rest) = .limit :: ofText [] rest := rfl

theorem ofText_offset : ofText [] ("OFFSET ".toList ++ rest) = .offset :: ofText [] rest := rfl

theorem ofText_number_blank : ofText [] ((toString n).toList ++ ' ' :: rest) = .number n :: ofText [] rest := by
  have blank : mark? ' ' = some [] := rfl
  rw [ofText_parted blank, ofText_number, List.append_nil, List.singleton_append]

theorem ofText_number_comma :
    ofText [] ((toString n).toList ++ (", ".toList ++ rest)) = .number n :: .comma :: ofText [] rest := by
  have comma : mark? ',' = some [.comma] := rfl
  have parted := ofText_parted comma [] (toString n).toList (' ' :: rest)
  rw [ofText_number] at parted
  exact parted

theorem ofText_number_offset :
    ofText [] ((toString n).toList ++ (" OFFSET ".toList ++ rest)) = .number n :: .offset :: ofText [] rest :=
  ofText_number_blank n ("OFFSET ".toList ++ rest)

theorem ofText_number_rows : ofText [] ((toString n).toList ++ " ROWS".toList) = [.number n, .rows] :=
  ofText_number_blank n "ROWS".toList

theorem ofText_number_fetch :
    ofText [] ((toString n).toList ++ (" ROWS FETCH NEXT ".toList ++ rest)) =
      .number n :: .rows :: .fetch :: .next :: ofText [] rest :=
  ofText_number_blank n ("ROWS FETCH NEXT ".toList ++ rest)

theorem ofText_number_only : ofText [] ((toString n).toList ++ " ROWS ONLY".toList) = [.number n, .rows, .only] :=
  ofText_number_blank n "ROWS ONLY".toList

end Literals

end Lexeme

namespace Dialect

/-- The rows that a clause asks for. Where there is no clause it is all of them. `LIMIT` comes
    with its offset behind it or, in two dialects, before it; one dialect takes a negative
    limit for none, and one has `OFFSET` and `FETCH` instead. -/
def window? : Dialect → List Lexeme → Option Window
  | _, [] => some ⟨0, none⟩
  | .sqlserver, [.offset, .number skipped, .rows] => some ⟨skipped, none⟩
  | .sqlserver, [.offset, .number skipped, .rows, .fetch, .next, .number n, .rows, .only] => some ⟨skipped, some n⟩
  | .sqlserver, _ => none
  | .postgres, [.offset, .number skipped] => some ⟨skipped, none⟩
  | .sqlite, [.limit, .minus, .number (_ + 1), .offset, .number skipped] => some ⟨skipped, none⟩
  | .sqlite, [.limit, .number skipped, .comma, .number n] => some ⟨skipped, some n⟩
  | .mysql, [.limit, .number skipped, .comma, .number n] => some ⟨skipped, some n⟩
  | _, [.limit, .number n] => some ⟨0, some n⟩
  | _, [.limit, .number n, .offset, .number skipped] => some ⟨skipped, some n⟩
  | _, _ => none

def reads (dialect : Dialect) (text : String) : Option Window := dialect.window? (Lexeme.ofText [] text.toList)

/-! ## (1) What was written is what is read -/

section Forms

open Lexeme

theorem reads_nothing (dialect : Dialect) : dialect.reads "" = some ⟨0, none⟩ := by
  cases dialect <;> rfl

theorem reads_limit {dialect : Dialect} (h : dialect ≠ .sqlserver) (n : Nat) :
    dialect.reads ("LIMIT " ++ toString n) = some ⟨0, some n⟩ := by
  rw [reads, String.toList_append, ofText_limit, ofText_number]
  cases dialect with
  | sqlserver => exact absurd rfl h
  | mysql | postgres | sqlite => rfl

theorem reads_comma {dialect : Dialect} (h : dialect = .mysql ∨ dialect = .sqlite) (skipped n : Nat) :
    dialect.reads ("LIMIT " ++ toString skipped ++ ", " ++ toString n) = some ⟨skipped, some n⟩ := by
  rw [reads, String.toList_append, String.toList_append, String.toList_append, List.append_assoc, List.append_assoc,
    ofText_limit, ofText_number_comma, ofText_number]
  rcases h with rfl | rfl <;> rfl

/-- The same clause is none in a dialect that has no comma there. -/
example : Dialect.mysql.reads "limit 20, 10" = some ⟨20, some 10⟩ ∧ Dialect.postgres.reads "limit 20, 10" = none := by
  decide +kernel

theorem reads_offset_behind (skipped n : Nat) :
    postgres.reads ("LIMIT " ++ toString n ++ " OFFSET " ++ toString skipped) = some ⟨skipped, some n⟩ := by
  rw [reads, String.toList_append, String.toList_append, String.toList_append, List.append_assoc, List.append_assoc,
    ofText_limit, ofText_number_offset, ofText_number]
  rfl

theorem reads_offset_alone (skipped : Nat) : postgres.reads ("OFFSET " ++ toString skipped) = some ⟨skipped, none⟩ := by
  rw [reads, String.toList_append, ofText_offset, ofText_number]
  rfl

theorem reads_negative (skipped : Nat) :
    sqlite.reads ("LIMIT -1 OFFSET " ++ toString skipped) = some ⟨skipped, none⟩ := by
  have signs : ∀ rest, ofText [] ("LIMIT -1 OFFSET ".toList ++ rest) =
      .limit :: .minus :: .number 1 :: .offset :: ofText [] rest := fun _ => rfl
  rw [reads, String.toList_append, signs, ofText_number]
  rfl

theorem reads_rows (skipped : Nat) :
    sqlserver.reads ("OFFSET " ++ toString skipped ++ " ROWS") = some ⟨skipped, none⟩ := by
  rw [reads, String.toList_append, String.toList_append, List.append_assoc, ofText_offset, ofText_number_rows]
  rfl

theorem reads_fetch (skipped n : Nat) :
    sqlserver.reads ("OFFSET " ++ toString skipped ++ " ROWS FETCH NEXT " ++ toString n ++ " ROWS ONLY") =
      some ⟨skipped, some n⟩ := by
  rw [reads, String.toList_append, String.toList_append, String.toList_append, String.toList_append,
    List.append_assoc, List.append_assoc, List.append_assoc, ofText_offset, ofText_number_fetch, ofText_number_only]
  rfl

end Forms

/-- A clause is read as the offset and the size it is written for. Only where there is no
    size, one may be read: the greatest 64-bit number. -/
def Conveys (dialect : Dialect) (size : Option UInt64) (offset : UInt64) : Prop :=
  ∃ w, dialect.reads ((dialect.pagination size offset).getD "") = some w ∧ w.offset = offset.toNat ∧
    (w.size = size.map UInt64.toNat ∨ size = none ∧ w.size = some (UInt64.size - 1))

theorem conveys_from_start (dialect : Dialect) (size : Option UInt64) : dialect.Conveys size 0 := by
  cases size with
  | none =>
    refine ⟨⟨0, none⟩, ?_, rfl, .inl rfl⟩
    cases dialect <;> exact reads_nothing _
  | some n =>
    refine ⟨⟨0, some n.toNat⟩, ?_, rfl, .inl rfl⟩
    cases dialect with
    | mysql => exact reads_limit (by decide) n.toNat
    | postgres => exact reads_limit (by decide) n.toNat
    | sqlserver => exact reads_fetch 0 n.toNat
    | sqlite => exact reads_limit (by decide) n.toNat

section Offsets

variable {offset : UInt64} (later : offset ≠ 0) (size : Option UInt64)
include later

theorem conveys_mysql : mysql.Conveys size offset := by
  cases size with
  | none =>
    have greatest : ", 18446744073709551615" = ", " ++ toString (UInt64.size - 1) := rfl
    refine ⟨⟨offset.toNat, some (UInt64.size - 1)⟩, ?_, rfl, .inr ⟨rfl, rfl⟩⟩
    rw [pagination, if_neg later, Option.getD_some, greatest, ← String.append_assoc]
    exact reads_comma (.inl rfl) offset.toNat _
  | some n =>
    refine ⟨⟨offset.toNat, some n.toNat⟩, ?_, rfl, .inl rfl⟩
    rw [pagination, if_neg later]
    exact reads_comma (.inl rfl) offset.toNat n.toNat

theorem conveys_postgres : postgres.Conveys size offset := by
  cases size with
  | none =>
    refine ⟨⟨offset.toNat, none⟩, ?_, rfl, .inl rfl⟩
    rw [pagination, if_neg later]
    exact reads_offset_alone offset.toNat
  | some n =>
    refine ⟨⟨offset.toNat, some n.toNat⟩, ?_, rfl, .inl rfl⟩
    rw [pagination, if_neg later]
    exact reads_offset_behind offset.toNat n.toNat

theorem conveys_sqlserver : sqlserver.Conveys size offset := by
  cases size with
  | none =>
    refine ⟨⟨offset.toNat, none⟩, ?_, rfl, .inl rfl⟩
    rw [pagination, if_neg later]
    exact reads_rows offset.toNat
  | some n => exact ⟨⟨offset.toNat, some n.toNat⟩, reads_fetch offset.toNat n.toNat, rfl, .inl rfl⟩

theorem conveys_sqlite : sqlite.Conveys size offset := by
  cases size with
  | none =>
    refine ⟨⟨offset.toNat, none⟩, ?_, rfl, .inl rfl⟩
    rw [pagination, if_neg later]
    exact reads_negative offset.toNat
  | some n =>
    refine ⟨⟨offset.toNat, some n.toNat⟩, ?_, rfl, .inl rfl⟩
    rw [pagination, if_neg later]
    exact reads_comma (.inr rfl) offset.toNat n.toNat

end Offsets

theorem conveys_pagination (dialect : Dialect) (size : Option UInt64) (offset : UInt64) :
    dialect.Conveys size offset := by
  by_cases first : offset = 0
  · rw [first]
    exact conveys_from_start dialect size
  · cases dialect with
    | mysql => exact conveys_mysql first size
    | postgres => exact conveys_postgres first size
    | sqlserver => exact conveys_sqlserver first size
    | sqlite => exact conveys_sqlite first size

end Dialect

/-! ## (2) Sequences of calls -/

inductive Paging where
  | take (size : UInt64)
  | skip (offset : UInt64)
  | page (index size : UInt64)
  deriving DecidableEq

namespace Paging

def step : Paging → Step
  | .take size => .take size
  | .skip offset => .skip offset
  | .page index size => .page index size

def size? : Paging → Option Nat
  | .take size => some size.toNat
  | .skip _ => none
  | .page _ size => some size.toNat

def offset? : Paging → Option Nat
  | .take _ => none
  | .skip offset => some offset.toNat
  | .page index size => some (index.toNat * size.toNat)

def last? (setting : Paging → Option Nat) (calls : List Paging) : Option Nat := (calls.filterMap setting).getLast?

def wanted (before : Window) (calls : List Paging) : Window :=
  ⟨(last? offset? calls).getD before.offset, (last? size? calls).or before.size⟩

theorem last?_cons (setting : Paging → Option Nat) (call : Paging) (calls : List Paging) :
    last? setting (call :: calls) = (last? setting calls).or (setting call) := by
  unfold last?
  rw [List.filterMap_cons]
  cases setting call with
  | none => rw [Option.or_none]
  | some n =>
    rw [List.getLast?_cons]
    cases (calls.filterMap setting).getLast? <;> rfl

theorem last?_of_getLast? {setting : Paging → Option Nat} {calls : List Paging} {call : Paging} {n : Nat}
    (h : calls.getLast? = some call) (set : setting call = some n) : last? setting calls = some n := by
  obtain ⟨before, rfl⟩ := List.getLast?_eq_some_iff.mp h
  simp [last?, List.filterMap_append, set]

def apply : Paging → Draft → Draft
  | .take size => Draft.take size
  | .skip offset => Draft.skip offset
  | .page index size => Draft.page index size

end Paging

namespace Draft

def window (d : Draft) : Window := ⟨d.offset.toNat, d.pageSize.map UInt64.toNat⟩

def paged (d : Draft) (calls : List Paging) : Draft := calls.foldl (fun d call => call.apply d) d

theorem toNat_saturatingMul (a b : UInt64) : (saturatingMul a b).toNat = min (a.toNat * b.toNat) (UInt64.size - 1) := by
  have bound : min (a.toNat * b.toNat) (UInt64.size - 1) < UInt64.size := by
    have positive : 0 < UInt64.size := by decide
    omega
  exact Nat.mod_eq_of_lt bound

theorem toNat_eq_min (n : UInt64) : n.toNat = min n.toNat (UInt64.size - 1) := by
  have bound := n.toNat_lt_size
  omega

/-- A call sets the size. -/
theorem size_apply (call : Paging) (d : Draft) : (call.apply d).window.size = call.size?.or d.window.size := by
  cases call <;> rfl

/-- A call sets the offset, up to the greatest 64-bit number. -/
theorem offset_apply (call : Paging) (d : Draft) :
    (call.apply d).window.offset = min (call.offset?.getD d.window.offset) (UInt64.size - 1) := by
  cases call with
  | take size => exact toNat_eq_min d.offset
  | skip offset => exact toNat_eq_min offset
  | page index size => exact toNat_saturatingMul index size

theorem size_paged (d : Draft) (calls : List Paging) :
    (d.paged calls).window.size = (Paging.wanted d.window calls).size := by
  induction calls generalizing d with
  | nil => rfl
  | cons call calls ih =>
    have rest := ih (call.apply d)
    simp only [Paging.wanted, size_apply] at rest ⊢
    rw [Paging.last?_cons, Option.or_assoc]
    exact rest

theorem offset_paged (d : Draft) (calls : List Paging) :
    (d.paged calls).window.offset = min (Paging.wanted d.window calls).offset (UInt64.size - 1) := by
  induction calls generalizing d with
  | nil => exact toNat_eq_min d.offset
  | cons call calls ih =>
    have rest := ih (call.apply d)
    simp only [Paging.wanted, offset_apply] at rest ⊢
    rw [Paging.last?_cons]
    cases later : Paging.last? Paging.offset? calls with
    | some n =>
      rw [later] at rest
      exact rest
    | none =>
      -- what this call set has been cut off once, and is not cut off further
      rw [later, Option.getD_none, Nat.min_assoc, Nat.min_self] at rest
      rw [Option.none_or]
      exact rest

/-- Calls change the size and the offset, and nothing else. -/
theorem paged_eq (d : Draft) (calls : List Paging) :
    ∃ size offset, d.paged calls = { d with pageSize := size, offset := offset } := by
  induction calls generalizing d with
  | nil => exact ⟨d.pageSize, d.offset, rfl⟩
  | cons call calls ih =>
    obtain ⟨size, offset, rest⟩ := ih (call.apply d)
    refine ⟨size, offset, ?_⟩
    cases call <;> exact rest

theorem dialect_paged (d : Draft) (calls : List Paging) : (d.paged calls).dialect = d.dialect := by
  obtain ⟨_, _, same⟩ := d.paged_eq calls
  rw [same]

theorem isQuery_paged {d : Draft} (query : d.IsQuery) (calls : List Paging) : (d.paged calls).IsQuery := by
  obtain ⟨_, _, same⟩ := d.paged_eq calls
  rw [same]
  exact query

/-- The clause of a draft after calls asks for the rows that the calls want. -/
theorem reads_paged (d : Draft) (calls : List Paging) :
    ∃ w, d.dialect.reads ((d.dialect.pagination (d.paged calls).pageSize (d.paged calls).offset).getD "") = some w ∧
      ∀ {α : Type} (rows : List α), rows.length < UInt64.size →
        w.select rows = (Paging.wanted d.window calls).select rows := by
  obtain ⟨w, read, offset, size⟩ := d.dialect.conveys_pagination (d.paged calls).pageSize (d.paged calls).offset
  have start : w.offset = min (Paging.wanted d.window calls).offset (UInt64.size - 1) :=
    offset.trans (offset_paged d calls)
  refine ⟨w, read, ?_⟩
  intro α rows short
  obtain ⟨wOffset, wSize⟩ := w
  obtain rfl : wOffset = _ := start
  rcases size with same | ⟨unset, greatest⟩
  · obtain rfl : wSize = _ := same.trans (size_paged d calls)
    exact Window.select_saturated short _ _
  · obtain rfl : wSize = _ := greatest
    have unlimited : (Paging.wanted d.window calls).size = none := by
      rw [← size_paged, window, unset, Option.map_none]
    rw [Window.select_greatest short, Window.select_saturated short, ← unlimited]

/-! ## (3) Texts of queries -/

def textBeforeLimit (d : Draft) : String :=
  "SELECT " ++ d.selectionSql.toText ++ " FROM " ++ d.source.toText
    ++ Sql.trailing (d.whereClause :: d.refinements.dropLast)

def limitText (d : Draft) : String := Sql.trailing [Sql.text ((d.dialect.pagination d.pageSize d.offset).getD "")]

theorem commandText_of_query {d : Draft} (query : d.IsQuery) :
    d.commandText = .ok (d.textBeforeLimit ++ d.limitText) := by
  have parts : d.refinements = d.refinements.dropLast ++ [Sql.text ((d.dialect.pagination d.pageSize d.offset).getD "")] :=
    rfl
  have trailing : Sql.trailing [d.whereClause] ++ Sql.trailing d.refinements =
      Sql.trailing (d.whereClause :: d.refinements.dropLast) ++ d.limitText := by
    rw [parts, Sql.trailing_append, ← String.append_assoc, ← Sql.trailing_append]
    rfl
  rw [commandText, query.command, Except.map, toText_queryCommand]
  simp only [textBeforeLimit, String.append_assoc, trailing]

/-- The blank in front of a clause is not read. -/
theorem reads_limitText (d : Draft) :
    d.dialect.reads d.limitText = d.dialect.reads ((d.dialect.pagination d.pageSize d.offset).getD "") := by
  unfold limitText
  generalize (d.dialect.pagination d.pageSize d.offset).getD "" = clause
  by_cases absent : clause = ""
  · subst absent
    rfl
  · have shown : Sql.trailing [Sql.text clause] = " " ++ clause := by
      simp [Sql.trailing, Sql.isBlank, absent]
    rw [shown, Dialect.reads, String.toList_append]
    rfl

end Draft

namespace Query

theorem run_paging (q : Query) (calls : List Paging) :
    q.run (calls.map Paging.step) = .ok { q with draft := q.draft.paged calls } := by
  induction calls generalizing q with
  | nil => rfl
  | cons call calls ih =>
    have first : q.step call.step = .ok { q with draft := call.apply q.draft } := by cases call <;> rfl
    rw [List.map_cons, run, first]
    exact ih _

/-- Whatever the dialect and the clauses of a query, and whatever was called in which order:
    the text of the query ends with a clause that asks for the rows behind the offset that was
    set last, and for as many of them as the size that was set last. Behind a `page` these are
    the rows from index times size on. -/
theorem pages_are_windows (q : Query) (query : q.draft.IsQuery) (calls : List Paging) :
    ∃ q' w, q.run (calls.map Paging.step) = .ok q' ∧
      q'.draft.commandText = .ok (q'.draft.textBeforeLimit ++ q'.draft.limitText) ∧
      q.draft.dialect.reads q'.draft.limitText = some w ∧
      ∀ {α : Type} (rows : List α), rows.length < UInt64.size →
        w.select rows = (Paging.wanted q.draft.window calls).select rows ∧
        ∀ index size, calls.getLast? = some (.page index size) → ∀ k,
          (w.select rows)[k]? = if k < size.toNat then rows[index.toNat * size.toNat + k]? else none := by
  obtain ⟨w, read, selects⟩ := q.draft.reads_paged calls
  refine ⟨{ q with draft := q.draft.paged calls }, w, run_paging q calls, ?_, ?_, ?_⟩
  · exact Draft.commandText_of_query (Draft.isQuery_paged query calls)
  · have text := Draft.reads_limitText (q.draft.paged calls)
    rw [Draft.dialect_paged] at text
    exact text.trans read
  · intro α rows short
    refine ⟨selects rows short, ?_⟩
    intro index size last k
    have asked : Paging.wanted q.draft.window calls = ⟨index.toNat * size.toNat, some size.toNat⟩ := by
      rw [Paging.wanted, Paging.last?_of_getLast? last rfl, Paging.last?_of_getLast? last rfl]
      rfl
    rw [selects rows short, asked, Window.getElem?_select]

/-- The second page of two rows is the third and the fourth row, whatever was skipped before;
    page 2^63 of four rows begins behind every row, though two to the power of 65 is written
    as the greatest 64-bit number. -/
theorem pages_are_windows_beyond :
    let q : Query := ⟨⟨"User", "Users", []⟩, .onTable .mysql "Users"⟩
    let rows : List Nat := [10, 20, 30, 40, 50]
    let second : List Paging := [.skip 7, .page 1 2]
    let beyond : List Paging := [.take 1, .page 9223372036854775808 4]
    q.draft.IsQuery ∧ rows.length < UInt64.size ∧
      (∃ q' w, q.run (second.map Paging.step) = .ok q' ∧ q.draft.dialect.reads q'.draft.limitText = some w ∧
        w.select rows = [30, 40]) ∧
      ∃ q' w, q.run (beyond.map Paging.step) = .ok q' ∧ q.draft.dialect.reads q'.draft.limitText = some w ∧
        w.select rows = [] := by
  intro q rows second beyond
  have query : q.draft.IsQuery := .inl rfl
  have short : rows.length < UInt64.size := by decide
  obtain ⟨q₁, w₁, ran₁, -, read₁, selects₁⟩ := pages_are_windows q query second
  obtain ⟨q₂, w₂, ran₂, -, read₂, selects₂⟩ := pages_are_windows q query beyond
  exact ⟨query, short, ⟨q₁, w₁, ran₁, read₁, (selects₁ rows short).1⟩, ⟨q₂, w₂, ran₂, read₂, (selects₂ rows short).1⟩⟩

end Query

end Querycraft

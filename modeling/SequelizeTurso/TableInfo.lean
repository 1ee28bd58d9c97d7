import SequelizeTurso.Js

/-!
The `PRAGMA TABLE_INFO` branch of `_handleQueryResponse`. A loop writes one entry per row
under the row's `name`: the declared type, `allowNull` from `notnull`, `primaryKey` from `pk`,
and a default decoded from `dflt_value`. A `TINYINT(1)` default goes through the lookup table
`{ 0: false, 1: true }`, and a text default loses every single quote.
-/

namespace SequelizeTurso.TableInfo

open Js

/-- The entry the loop writes for a column. -/
structure ColumnInfo where
  type : JsValue
  allowNull : Bool
  defaultValue : JsValue
  primaryKey : Bool
  deriving DecidableEq, Repr

/-- `{ 0: false, 1: true }[key]`: the two own keys, then `Object.prototype`. -/
def booleanDefault (key : JsValue) : JsValue :=
  if key.toPropertyKey = "0" then .bool false
  else if key.toPropertyKey = "1" then .bool true
  else if key.toPropertyKey ∈ objectPrototypeKeys then .builtin key.toPropertyKey
  else .undefined

/-- The default read off `dflt_value`: absent is `undefined`, the text `NULL` is `null`. -/
def rawDefault (dflt : JsValue) : JsValue :=
  if dflt = .null then .undefined else if dflt = .string "NULL" then .null else dflt

/-- `defaultValue` after the two rewrites of the loop body: the `TINYINT(1)` lookup, then
the removal of quotes from a string. -/
def decodeDefault (type dflt : JsValue) : JsValue :=
  match if type = .string "TINYINT(1)" then booleanDefault (rawDefault dflt) else rawDefault dflt with
  | .string s => .string (removeAll s '\'')
  | d => d

/-- The entry the loop body writes for one row. -/
def columnInfo (row : JsObject) : ColumnInfo :=
  { type := row.get "type"
    allowNull := row.get "notnull" = .number 0
    defaultValue := decodeDefault (row.get "type") (row.get "dflt_value")
    primaryKey := row.get "pk" ≠ .number 0 }

/-- `result`: `result[_result.name] = ...` for each row in order. A name is read back as
`result[name]`, which also finds an entry written under `__proto__`. -/
def tableInfo (results : List JsObject) : List (String × ColumnInfo) :=
  results.foldl (fun acc row => setEntry (row.get "name").toPropertyKey (columnInfo row) acc) []

/-- `result[name]`. -/
def lookupInfo (name : String) (info : List (String × ColumnInfo)) : Option ColumnInfo :=
  (info.find? fun e => e.1 = name).map Prod.snd

/-- With distinct names, every row's entry is the one its own loop iteration wrote. -/
theorem lookupInfo_tableInfo (results : List JsObject)
    (hnames : (results.map fun r => (r.get "name").toPropertyKey).Nodup) (row : JsObject)
    (hrow : row ∈ results) :
    lookupInfo (row.get "name").toPropertyKey (tableInfo results) = some (columnInfo row) := by
  have hfind := find?_key_of_nodup (fun r : JsObject => (r.get "name").toPropertyKey)
    results.reverse (by simpa [List.map_reverse] using hnames) row (List.mem_reverse.mpr hrow)
  simp [lookupInfo, tableInfo, find?_foldl_setEntry, hfind]

/-! ### Rows of `PRAGMA TABLE_INFO` -/

/-- A row of `PRAGMA TABLE_INFO` as SQLite returns it. -/
structure TableInfoRow where
  cid : Int
  name : String
  type : String
  notnull : Int
  dflt_value : Option String
  pk : Int
  deriving DecidableEq, Repr

/-- The row object the driver builds, one key per column of the pragma. -/
def TableInfoRow.toRow (r : TableInfoRow) : JsObject :=
  ⟨[("cid", .number r.cid), ("name", .string r.name), ("type", .string r.type),
    ("notnull", .number r.notnull), ("dflt_value", (r.dflt_value.map .string).getD .null),
    ("pk", .number r.pk)], by simp only [List.map_cons, List.map_nil]; decide⟩

section Row

variable (r : TableInfoRow)

@[simp] theorem toRow_name : r.toRow.get "name" = .string r.name := rfl
@[simp] theorem toRow_type : r.toRow.get "type" = .string r.type := rfl
@[simp] theorem toRow_notnull : r.toRow.get "notnull" = .number r.notnull := rfl
@[simp] theorem toRow_pk : r.toRow.get "pk" = .number r.pk := rfl
@[simp] theorem toRow_dflt_value : r.toRow.get "dflt_value" = (r.dflt_value.map .string).getD .null :=
  rfl

end Row

/-- What the entry of a row says, column by column. A `TINYINT(1)` column with the default
`NULL` is left open. -/
def Decodes (r : TableInfoRow) (e : ColumnInfo) : Prop :=
  e.type = .string r.type ∧ e.allowNull = decide (r.notnull = 0) ∧
    e.primaryKey = decide (r.pk ≠ 0) ∧
    (r.dflt_value = none → e.defaultValue = .undefined) ∧
    (r.type ≠ "TINYINT(1)" → r.dflt_value = some "NULL" → e.defaultValue = .null) ∧
    (∀ s, r.type ≠ "TINYINT(1)" → r.dflt_value = some s → s ≠ "NULL" →
      e.defaultValue = .string (removeAll s '\'')) ∧
    (r.type = "TINYINT(1)" → r.dflt_value = some "0" → e.defaultValue = .bool false) ∧
    (r.type = "TINYINT(1)" → r.dflt_value = some "1" → e.defaultValue = .bool true) ∧
    (∀ s, r.type = "TINYINT(1)" → r.dflt_value = some s → s ∉ ["0", "1", "NULL"] →
      s ∉ objectPrototypeKeys → e.defaultValue = .undefined)

theorem columnInfo_decodes (r : TableInfoRow) : Decodes r (columnInfo r.toRow) := by
  refine ⟨rfl, by simp [columnInfo], by simp [columnInfo], ?_, ?_, ?_, ?_, ?_, ?_⟩
  · intro h
    by_cases ht : r.type = "TINYINT(1)" <;>
      simp [columnInfo, decodeDefault, rawDefault, booleanDefault, h, ht, objectPrototypeKeys,
        JsValue.toPropertyKey]
  · intro ht h
    simp [columnInfo, decodeDefault, rawDefault, h, ht]
  · intro s ht h hs
    simp [columnInfo, decodeDefault, rawDefault, h, ht, hs]
  · intro ht h
    simp [columnInfo, decodeDefault, rawDefault, booleanDefault, h, ht, JsValue.toPropertyKey]
  · intro ht h
    simp [columnInfo, decodeDefault, rawDefault, booleanDefault, h, ht, JsValue.toPropertyKey]
  · intro s ht h hs hp
    simp only [List.mem_cons, List.mem_singleton, not_or, List.not_mem_nil] at hs
    simp [columnInfo, decodeDefault, rawDefault, booleanDefault, h, ht, JsValue.toPropertyKey,
      hs.1, hs.2.1, hs.2.2.1, hp]

/-- Every row of a `PRAGMA TABLE_INFO` answer with distinct names is read back under its
name: its type, `allowNull` as `notnull = 0`, `primaryKey` as `pk ≠ 0`; an absent default is
`undefined`; outside `TINYINT(1)` the text `NULL` is `null` and any other default loses every
single quote; a `TINYINT(1)` default `0` or `1` is `false` or `true`, and any other text that
is not a member of `Object.prototype` is `undefined`. -/
theorem tableInfo_decodes_rows (rows : List TableInfoRow) (hnames : (rows.map (·.name)).Nodup)
    (r : TableInfoRow) (hr : r ∈ rows) :
    ∃ e, lookupInfo r.name (tableInfo (rows.map TableInfoRow.toRow)) = some e ∧ Decodes r e := by
  refine ⟨_, ?_, columnInfo_decodes r⟩
  simpa using lookupInfo_tableInfo (rows.map TableInfoRow.toRow)
    (by simpa [Function.comp_def] using hnames) r.toRow (List.mem_map_of_mem _ hr)

/-- The spec's boolean column, beside a text column with a quoted default. -/
def activeRow : TableInfoRow := ⟨1, "active", "TINYINT(1)", 0, some "1", 0⟩

def activeRows : List TableInfoRow := [⟨0, "name", "TEXT", 1, some "'x'", 0⟩, activeRow]

theorem tableInfo_decodes_rows_example :
    (activeRows.map (·.name)).Nodup ∧ activeRow ∈ activeRows ∧
      ∃ e, lookupInfo activeRow.name (tableInfo (activeRows.map TableInfoRow.toRow)) = some e ∧
        Decodes activeRow e :=
  ⟨by decide, by decide, tableInfo_decodes_rows activeRows (by decide) activeRow (by decide)⟩

/-- `s` as an SQL string literal: in single quotes, each inner quote doubled. -/
def sqlStringLiteral (s : String) : String :=
  ⟨'\'' :: s.data.flatMap (fun c => if c = '\'' then ['\'', '\''] else [c]) ++ ['\'']⟩

def noteRow : TableInfoRow := ⟨0, "note", "TEXT", 0, some (sqlStringLiteral "it's"), 0⟩

/-- The default `'it''s'` comes back as `its`: every quote is removed, the escaped one too. -/
theorem tableInfo_drops_escaped_quote :
    ¬ ∀ rows : List TableInfoRow, (rows.map (·.name)).Nodup → ∀ r ∈ rows,
      r.type ≠ "TINYINT(1)" → ∀ s, r.dflt_value = some (sqlStringLiteral s) →
        (lookupInfo r.name (tableInfo (rows.map TableInfoRow.toRow))).map (·.defaultValue) =
          some (.string s) := fun h =>
  absurd (h [noteRow] (by decide) noteRow (by simp) (by decide) "it's" rfl) (by decide)

end SequelizeTurso.TableInfo

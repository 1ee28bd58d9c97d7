import Mathlib.Data.List.Infix
import SequelizeTurso.Js

/-!
`TursoQueryGeneratorInternal.addLimitAndOffset(options)`, the `LIMIT`/`OFFSET` fragment of a
`SELECT`. SQLite accepts `OFFSET` only after a `LIMIT`, and reads a negative `LIMIT` as no limit,
so an offset with no limit is written ` LIMIT -1 OFFSET n`. An offset is written when it is
truthy, a limit when it is neither `null` nor `undefined`. Read by SQLite, the fragment keeps
the rows Sequelize's `limit` and `offset` select: skip `offset`, then keep `limit`.
-/

namespace SequelizeTurso.LimitOffset

open Js

/-- The fields of `AddLimitOffsetOptions` the method reads. -/
structure AddLimitOffsetOptions where
  limit : JsValue
  offset : JsValue

/-- `addLimitAndOffset(options)`, with `this.queryGenerator.escape(_, options)` as `escape`. -/
def addLimitAndOffset (escape : JsValue → String) (options : AddLimitOffsetOptions) : String :=
  let fragment :=
    if options.limit ≠ .null ∧ options.limit ≠ .undefined then " LIMIT " ++ escape options.limit
    else if options.offset.toBoolean then " LIMIT -1"
    else ""
  if options.offset.toBoolean then fragment ++ " OFFSET " ++ escape options.offset else fragment

/-! ### SQLite's reading of the fragment -/

/-- An integer operand as SQLite reads it: decimal digits after an optional unary minus. -/
def readInteger : List Char → Option Int
  | '-' :: ds => if ds ≠ [] ∧ ∀ d ∈ ds, d.isDigit then some (-(decimalValue ds : Int)) else none
  | ds => if ds ≠ [] ∧ ∀ d ∈ ds, d.isDigit then some (decimalValue ds : Int) else none

/-- `LIMIT count` on rows: a negative count is no limit. -/
def limitRows {α : Type} (count : Int) (rows : List α) : List α :=
  if count < 0 then rows else rows.take count.toNat

/-- The rows a `LIMIT`/`OFFSET` clause with integer operands keeps, in SQLite: `none` when the
text is no such clause, as an `OFFSET` with no `LIMIT` is not. A negative offset skips
nothing. -/
def sqliteWindow {α : Type} (clause : String) (rows : List α) : Option (List α) :=
  match split clause " " with
  | [""] => some rows
  | ["", "LIMIT", count] => (readInteger count.data).map fun n => limitRows n rows
  | ["", "LIMIT", count, "OFFSET", skip] =>
    (readInteger count.data).bind fun n =>
      (readInteger skip.data).map fun k => limitRows n (rows.drop k.toNat)
  | _ => none

/-- The rows Sequelize's `limit` and `offset` select: skip `offset`, then keep `limit`. -/
def window {α : Type} (limit : Option Nat) (offset : Nat) (rows : List α) : List α :=
  match limit with
  | some l => (rows.drop offset).take l
  | none => rows.drop offset

/-- `escape` renders the number `n` as one operand SQLite reads as `n`. -/
def IntToken (text : String) (n : Int) : Prop :=
  ¬ " ".data <:+: text.data ∧ readInteger text.data = some n

instance (text : String) (n : Int) : Decidable (IntToken text n) :=
  inferInstanceAs (Decidable (_ ∧ _))

/-- The `limit` option: `null` or `undefined` for none, the number `l` otherwise. -/
def LimitValue (escape : JsValue → String) (limit : JsValue) : Option Nat → Prop
  | none => limit = .null ∨ limit = .undefined
  | some l => limit = .number l ∧ IntToken (escape limit) l

instance (escape : JsValue → String) (limit : JsValue) :
    (l : Option Nat) → Decidable (LimitValue escape limit l)
  | none => inferInstanceAs (Decidable (_ ∨ _))
  | some _ => inferInstanceAs (Decidable (_ ∧ _))

/-- A space-separated run of operands and keywords is read back word by word. -/
theorem split_words (words : List String) (hne : words ≠ [])
    (h : ∀ w ∈ words, ¬ " ".data <:+: w.data) :
    split ⟨" ".data.intercalate (words.map String.data)⟩ " " = words :=
  split_intercalate " " (by decide) (by decide) words hne h

theorem limit_words (count : String) :
    " LIMIT " ++ count = ⟨" ".data.intercalate (["", "LIMIT", count].map String.data)⟩ := by
  apply String.ext
  simp [List.intercalate]

theorem limit_offset_words (count skip : String) :
    " LIMIT " ++ count ++ " OFFSET " ++ skip =
      ⟨" ".data.intercalate (["", "LIMIT", count, "OFFSET", skip].map String.data)⟩ := by
  apply String.ext
  simp [List.intercalate]

theorem limitRows_ofNat {α : Type} (l : Nat) (rows : List α) : limitRows l rows = rows.take l := by
  simp [limitRows, show ¬ ((l : Int) < 0) by omega]

/-- SQLite reads ` LIMIT count` back, when the operand holds no space. -/
theorem sqliteWindow_limit {α : Type} {count : String} (hc : ¬ " ".data <:+: count.data)
    (rows : List α) :
    sqliteWindow (" LIMIT " ++ count) rows = (readInteger count.data).map fun n => limitRows n rows := by
  have hwords : ∀ w ∈ ["", "LIMIT", count], ¬ " ".data <:+: w.data := by
    simp only [List.mem_cons, List.mem_singleton, List.not_mem_nil, or_false]
    rintro w (rfl | rfl | rfl)
    all_goals first | decide | assumption
  rw [sqliteWindow, limit_words, split_words _ (List.cons_ne_nil _ _) hwords]
  rfl

/-- SQLite reads ` LIMIT count OFFSET skip` back, when neither operand holds a space. -/
theorem sqliteWindow_limit_offset {α : Type} {count skip : String}
    (hc : ¬ " ".data <:+: count.data) (hs : ¬ " ".data <:+: skip.data) (rows : List α) :
    sqliteWindow (" LIMIT " ++ count ++ " OFFSET " ++ skip) rows =
      (readInteger count.data).bind fun n =>
        (readInteger skip.data).map fun k => limitRows n (rows.drop k.toNat) := by
  have hwords : ∀ w ∈ ["", "LIMIT", count, "OFFSET", skip], ¬ " ".data <:+: w.data := by
    simp only [List.mem_cons, List.mem_singleton, List.not_mem_nil, or_false]
    rintro w (rfl | rfl | rfl | rfl | rfl)
    all_goals first | decide | assumption
  rw [sqliteWindow, limit_offset_words, split_words _ (List.cons_ne_nil _ _) hwords]
  rfl

/-- For every limit and offset, the fragment is a clause SQLite accepts, and it keeps the rows
Sequelize's `limit` and `offset` select: an absent limit with an offset becomes `LIMIT -1`, which
SQLite reads as no limit, and a zero offset, which is falsy, is left out. -/
theorem addLimitAndOffset_window {α : Type} (escape : JsValue → String) (limit : JsValue)
    (l : Option Nat) (m : Nat) (hlimit : LimitValue escape limit l)
    (hoffset : 0 < m → IntToken (escape (.number m)) m) (rows : List α) :
    sqliteWindow (addLimitAndOffset escape ⟨limit, .number m⟩) rows = some (window l m rows) := by
  cases l with
  | none =>
    have habsent : ¬ (limit ≠ .null ∧ limit ≠ .undefined) := by
      rcases hlimit with rfl | rfl <;> simp
    by_cases hm : m = 0
    · have hfrag : addLimitAndOffset escape ⟨limit, .number m⟩ = "" := by
        simp [addLimitAndOffset, habsent, JsValue.toBoolean, hm]
      rw [hfrag, hm]
      rfl
    · obtain ⟨hsp, hread⟩ := hoffset (Nat.pos_of_ne_zero hm)
      have hm' : (m : Int) ≠ 0 := by exact_mod_cast hm
      have hfrag : addLimitAndOffset escape ⟨limit, .number m⟩ =
          " LIMIT " ++ "-1" ++ " OFFSET " ++ escape (.number m) := by
        simp [addLimitAndOffset, habsent, JsValue.toBoolean, hm']
      have hno : readInteger "-1".data = some (-1) := by decide
      rw [hfrag, sqliteWindow_limit_offset (by decide) hsp]
      simp [hno, hread, limitRows, window]
  | some l =>
    obtain ⟨rfl, hsp, hread⟩ := hlimit
    by_cases hm : m = 0
    · have hfrag : addLimitAndOffset escape ⟨.number l, .number m⟩ =
          " LIMIT " ++ escape (.number l) := by
        simp [addLimitAndOffset, JsValue.toBoolean, hm]
      rw [hfrag, sqliteWindow_limit hsp]
      simp [hread, limitRows_ofNat, window, hm]
    · obtain ⟨hsp', hread'⟩ := hoffset (Nat.pos_of_ne_zero hm)
      have hm' : (m : Int) ≠ 0 := by exact_mod_cast hm
      have hfrag : addLimitAndOffset escape ⟨.number l, .number m⟩ =
          " LIMIT " ++ escape (.number l) ++ " OFFSET " ++ escape (.number m) := by
        simp [addLimitAndOffset, JsValue.toBoolean, hm']
      rw [hfrag, sqliteWindow_limit_offset hsp hsp']
      simp [hread, hread', limitRows_ofNat, window]

/-- `limit: 2, offset: 5`, escaped as `String(n)`: ` LIMIT 2 OFFSET 5` keeps rows 5 and 6. -/
theorem second_page_window :
    LimitValue JsValue.toPropertyKey (.number (2 : Nat)) (some 2) ∧
    (0 < 5 → IntToken (JsValue.toPropertyKey (.number (5 : Nat))) (5 : Nat)) ∧
    sqliteWindow (addLimitAndOffset JsValue.toPropertyKey ⟨.number (2 : Nat), .number (5 : Nat)⟩)
      (List.range 8) = some (window (some 2) 5 (List.range 8)) := by
  refine ⟨?limit, ?offset, addLimitAndOffset_window _ _ _ 5 ?limit ?offset _⟩ <;> decide

end SequelizeTurso.LimitOffset

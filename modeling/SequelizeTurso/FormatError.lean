import Mathlib.Data.List.Infix
import SequelizeTurso.Query

/-!
`formatError`, the classifier every failed run goes through. The error's `code` picks the
family: a constraint code gives a foreign-key error when the message says so and a
unique-constraint error otherwise, `SQLITE_BUSY` a timeout, anything else a database error.
A unique-constraint error carries the offending fields, read off the message by two regular
expressions and `split`: the pre-2.2 form `columns x, y are` first, then
`UNIQUE constraint failed: t.x, t.y`, where each field is `split('.')[1]`, the second
dot-separated segment of its entry. That is the column when the table's name has no dot, and
the table when it is schema-qualified (`main.users.email` gives `users`).
-/

namespace SequelizeTurso.FormatError

open Js Query

/-- A raw driver error: its `code`, its `message`, and the `sql` that `run` writes on it. -/
structure EngineError where
  code : Option String
  message : String
  sql : Option String
  deriving DecidableEq, Repr

/-- `new ValidationErrorItem(message, type, path, value, instance, validatorKey)`. -/
structure ValidationErrorItem where
  message : String
  type : String
  path : Option String
  value : JsValue
  inst : Option JsObject
  validatorKey : String

/-- What `formatError` returns. A field is `none` where `split('.')[1]` is `undefined`. -/
inductive SequelizeError
  | foreignKeyConstraint (cause : EngineError)
  | uniqueConstraint (message : String) (errors : List ValidationErrorItem) (cause : EngineError)
      (fields : List (Option String))
  | timeout (cause : EngineError)
  | database (cause : EngineError)

/-! ### The two message patterns -/

/-- A line terminator, which `.` in a regular expression does not match. -/
def isLineTerminator (c : Char) : Bool :=
  c == '\n' || c == '\r' || c == '\u2028' || c == '\u2029'

/-- `(.*?) are` at the start of a text: the shortest run of characters other than line
terminators that ` are` follows. -/
def lazyUntilAre : List Char → Option (List Char)
  | [] => none
  | c :: cs =>
    if " are".data.isPrefixOf (c :: cs) then some []
    else if isLineTerminator c then none
    else (lazyUntilAre cs).map (c :: ·)

/-- `message.match(/columns (.*?) are/)[1]`: the capture at the leftmost start that matches. -/
def matchColumnsAre : List Char → Option String
  | [] => none
  | c :: cs =>
    ((if "columns ".data.isPrefixOf (c :: cs) then lazyUntilAre ((c :: cs).drop 8) else none).map
      String.mk).or (matchColumnsAre cs)

/-- The text after the first occurrence of `marker`. -/
def matchAfter (marker : List Char) : List Char → Option (List Char)
  | [] => none
  | c :: cs =>
    if marker.isPrefixOf (c :: cs) then some ((c :: cs).drop marker.length)
    else matchAfter marker cs

def uniqueMarker : List Char := "UNIQUE constraint failed: ".data

/-- `message.match(/UNIQUE constraint failed: (.*)/)[1]`: the rest of the line after the
first occurrence of the marker. -/
def matchUniqueFailed (message : List Char) : Option String :=
  (matchAfter uniqueMarker message).map fun rest => String.mk (rest.takeWhile (!isLineTerminator ·))

/-- `fields`: the pre-2.2 pattern first, then the post-2.2 one with the table prefix cut. -/
def uniqueFields (message : String) : List (Option String) :=
  match matchColumnsAre message.data with
  | some w => (split w ", ").map some
  | none =>
    match matchUniqueFailed message.data with
    | some w => (split w ", ").map fun columnWithTable => (split columnWithTable ".")[1]?
    | none => []

/-! ### The error -/

def constraintCodes : List String :=
  ["SQLITE_CONSTRAINT_UNIQUE", "SQLITE_CONSTRAINT_PRIMARYKEY", "SQLITE_CONSTRAINT_TRIGGER",
    "SQLITE_CONSTRAINT_FOREIGNKEY", "SQLITE_CONSTRAINT"]

def foreignKeyText : List Char := "FOREIGN KEY constraint failed".data

/-- The item pushed for one field. `getUniqueConstraintErrorMessage` belongs to the core's
`AbstractQuery` and is taken as given. -/
def uniqueItem (getUniqueConstraintErrorMessage : Option String → String) (q : TursoQuery)
    (field : Option String) : ValidationErrorItem :=
  ⟨getUniqueConstraintErrorMessage field, "unique violation", field,
    (q.inst.map fun i => i.get (field.getD "undefined")).getD .undefined, q.inst, "not_unique"⟩

/-- An index whose custom message replaces the default: unique, over exactly these fields,
with a non-empty `msg`. -/
def isMessageIndex (fields : List (Option String)) (index : IndexInfo) : Bool :=
  index.unique && index.fields.map some == fields && (index.msg.getD "") != ""

/-- `message`: the `msg` of the first such index of the model, else `Validation error`. -/
def uniqueMessage (model : Option ModelInfo) (fields : List (Option String)) : String :=
  (((model.bind fun m => m.indexes.find? (isMessageIndex fields)).bind (·.msg))).getD
    "Validation error"

def formatError (getUniqueConstraintErrorMessage : Option String → String) (q : TursoQuery)
    (err : EngineError) : SequelizeError :=
  match err.code with
  | some code =>
    if code ∈ constraintCodes then
      if includes foreignKeyText err.message.data then .foreignKeyConstraint err
      else
        let fields := uniqueFields err.message
        .uniqueConstraint (uniqueMessage q.model fields)
          (fields.map (uniqueItem getUniqueConstraintErrorMessage q)) err fields
    else if code = "SQLITE_BUSY" then .timeout err
    else .database err
  | none => .database err

/-! ### Classification -/

/-- The error class `formatError` returns. -/
inductive ErrorClass
  | foreignKey
  | unique
  | timeout
  | database
  deriving DecidableEq, Repr

def SequelizeError.errorClass : SequelizeError → ErrorClass
  | .foreignKeyConstraint _ => .foreignKey
  | .uniqueConstraint .. => .unique
  | .timeout _ => .timeout
  | .database _ => .database

def SequelizeError.cause : SequelizeError → EngineError
  | .foreignKeyConstraint e | .uniqueConstraint _ _ e _ | .timeout e | .database e => e

def SequelizeError.fields : SequelizeError → List (Option String)
  | .uniqueConstraint _ _ _ fields => fields
  | _ => []

/-- The error's code is one of the constraint family. -/
def IsConstraintCode (code : Option String) : Prop := ∃ c ∈ constraintCodes, code = some c

instance (code : Option String) : Decidable (IsConstraintCode code) :=
  inferInstanceAs (Decidable (∃ c ∈ constraintCodes, code = some c))

theorem formatError_eq (f : Option String → String) (q : TursoQuery) (err : EngineError) :
    formatError f q err =
      if IsConstraintCode err.code then
        if includes foreignKeyText err.message.data then .foreignKeyConstraint err
        else .uniqueConstraint (uniqueMessage q.model (uniqueFields err.message))
          ((uniqueFields err.message).map (uniqueItem f q)) err (uniqueFields err.message)
      else if err.code = some "SQLITE_BUSY" then .timeout err else .database err := by
  rcases err with ⟨_ | code, message, sql⟩
  · simp [formatError, IsConstraintCode]
  · by_cases hc : code ∈ constraintCodes
    · simp [formatError, IsConstraintCode, hc]
    · simp [formatError, IsConstraintCode, hc]

theorem formatError_cause (f : Option String → String) (q : TursoQuery) (err : EngineError) :
    (formatError f q err).cause = err := by
  rw [formatError_eq]
  split_ifs <;> rfl

theorem formatError_fields_unmatched (f : Option String → String) (q : TursoQuery)
    (err : EngineError) (hold : matchColumnsAre err.message.data = none)
    (hnew : matchUniqueFailed err.message.data = none) : (formatError f q err).fields = [] := by
  rw [formatError_eq]
  split_ifs <;> simp [SequelizeError.fields, uniqueFields, hold, hnew]

theorem formatError_errorClass (f : Option String → String) (q : TursoQuery) (err : EngineError) :
    ((formatError f q err).errorClass = .foreignKey ↔
      IsConstraintCode err.code ∧ includes foreignKeyText err.message.data) ∧
    ((formatError f q err).errorClass = .unique ↔
      IsConstraintCode err.code ∧ includes foreignKeyText err.message.data = false) ∧
    ((formatError f q err).errorClass = .timeout ↔ err.code = some "SQLITE_BUSY") ∧
    ((formatError f q err).errorClass = .database ↔
      ¬ IsConstraintCode err.code ∧ err.code ≠ some "SQLITE_BUSY") := by
  have hbusy : ¬ IsConstraintCode (some "SQLITE_BUSY") := by decide
  rw [formatError_eq]
  by_cases hc : IsConstraintCode err.code
  · have hb : err.code ≠ some "SQLITE_BUSY" := fun h => hbusy (h ▸ hc)
    cases hfk : includes foreignKeyText err.message.data <;>
      simp [hc, hb, SequelizeError.errorClass]
  · by_cases hb : err.code = some "SQLITE_BUSY" <;>
      simp [hc, hb, hbusy, SequelizeError.errorClass]

/-- The class is decided by the code and by one substring of the message, and the engine
error is kept as the cause: a foreign-key error exactly for a constraint code with
`FOREIGN KEY constraint failed`, a unique-constraint error for every other constraint-code
error, a timeout exactly for `SQLITE_BUSY`, and a database error for the rest. When neither
field pattern matches the message, the error has no fields. -/
theorem formatError_classifies (f : Option String → String) (q : TursoQuery) (err : EngineError) :
    ((formatError f q err).errorClass = .foreignKey ↔
      IsConstraintCode err.code ∧ includes foreignKeyText err.message.data) ∧
    ((formatError f q err).errorClass = .unique ↔
      IsConstraintCode err.code ∧ includes foreignKeyText err.message.data = false) ∧
    ((formatError f q err).errorClass = .timeout ↔ err.code = some "SQLITE_BUSY") ∧
    ((formatError f q err).errorClass = .database ↔
      ¬ IsConstraintCode err.code ∧ err.code ≠ some "SQLITE_BUSY") ∧
    (formatError f q err).cause = err ∧
    (matchColumnsAre err.message.data = none → matchUniqueFailed err.message.data = none →
      (formatError f q err).fields = []) :=
  have ⟨hfk, hunique, htimeout, hdatabase⟩ := formatError_errorClass f q err
  ⟨hfk, hunique, htimeout, hdatabase, formatError_cause f q err,
    formatError_fields_unmatched f q err⟩

/-- SQLite's report of a failed `NOT NULL` constraint under the generic code. -/
def notNullError : EngineError :=
  ⟨some "SQLITE_CONSTRAINT", "NOT NULL constraint failed: users.email", none⟩

/-- A `NOT NULL` failure under `SQLITE_CONSTRAINT` is a unique-constraint error with no
fields, although its message reports no uniqueness violation. -/
theorem not_null_failure_is_unique_error :
    ¬ ∀ (f : Option String → String) (q : TursoQuery) (err : EngineError),
      (formatError f q err).errorClass = .unique →
        includes "are not unique".data err.message.data ∨ includes uniqueMarker err.message.data :=
  fun h => absurd (h (fun _ => "") (selectQuery "") notNullError (by decide)) (by decide)

/-! ### Field decoding -/

theorem matchAfter_append {marker : List Char} (hm : Unbordered marker) (hne : marker ≠ [])
    (rest : List Char) : ∀ p, ¬ marker <:+: p → matchAfter marker (p ++ (marker ++ rest)) = some rest
  | [], _ => by
    obtain ⟨m, ms, rfl⟩ := List.exists_cons_of_ne_nil hne
    simp [matchAfter]
  | c :: p, hp => by
    have hnot := not_prefix_append hm hp (List.cons_ne_nil c p) (.inr (List.prefix_append marker rest))
    have hp' : ¬ marker <:+: p := fun h => hp (h.trans (List.suffix_cons c p).isInfix)
    rw [List.cons_append, matchAfter, if_neg (by simpa using hnot), matchAfter_append hm hne rest p hp']

/-- A name the field decoding reads back: no dot, no `, `, no line terminator. -/
def SimpleName (n : String) : Prop :=
  '.' ∉ n.data ∧ ¬ ", ".data <:+: n.data ∧ ∀ c ∈ n.data, isLineTerminator c = false

instance : DecidablePred SimpleName := fun n =>
  inferInstanceAs (Decidable ('.' ∉ n.data ∧ ¬ ", ".data <:+: n.data ∧
    ∀ c ∈ n.data, isLineTerminator c = false))

/-- The column `t.c` as SQLite writes it. -/
def qualifiedColumn (t c : String) : String := ⟨t.data ++ '.' :: c.data⟩

/-- SQLite's message for a failed unique constraint over the columns `cs` of table `t`. -/
def uniqueFailedMessage (t : String) (cs : List String) : String :=
  ⟨uniqueMarker ++ ", ".data.intercalate (cs.map fun c => (qualifiedColumn t c).data)⟩

/-- A piece of `a ++ x :: b` that does not contain `x` lies inside `a` or inside `b`. -/
theorem infix_of_infix_append_cons {w a b : List Char} {x : Char} (hx : x ∉ w) :
    w <:+: a ++ x :: b → w <:+: a ∨ w <:+: b := by
  induction a with
  | nil =>
    intro h
    rcases List.infix_cons_iff.mp h with h | h
    · cases w with
      | nil => exact .inl List.nil_infix
      | cons y w =>
        exact absurd ((List.cons_prefix_cons.mp h).1 ▸ List.mem_cons_self y w) hx
    · exact .inr h
  | cons d a ih =>
    intro h
    rcases List.infix_cons_iff.mp h with h | h
    · by_cases hl : w.length ≤ (d :: a).length
      · exact .inl (List.prefix_of_prefix_length_le h (List.prefix_append (d :: a) (x :: b)) hl).isInfix
      · have hpre : (d :: a) ++ [x] <+: w :=
          List.prefix_of_prefix_length_le (by simp) h (by simp at hl ⊢; omega)
        exact absurd (hpre.subset (by simp)) hx
    · exact (ih h).imp (fun h => h.trans (List.suffix_cons d a).isInfix) id

/-- A `, ` inside `t.c` lies inside `t` or inside `c`, since it has no dot. -/
theorem not_sep_infix_qualifiedColumn {t c : String} (ht : ¬ ", ".data <:+: t.data)
    (hc : ¬ ", ".data <:+: c.data) : ¬ ", ".data <:+: (qualifiedColumn t c).data := fun h =>
  (infix_of_infix_append_cons (by decide) h).elim ht hc

theorem split_qualifiedColumn {t c : String} (ht : '.' ∉ t.data) (hc : '.' ∉ c.data) :
    split (qualifiedColumn t c) "." = [t, c] := by
  have hno : ∀ x ∈ [t, c], ¬ ".".data <:+: x.data := by
    intro x hx h
    simp only [List.mem_cons, List.mem_singleton, List.not_mem_nil, or_false] at hx
    rcases hx with rfl | rfl
    · exact ht (h.subset (List.mem_singleton_self '.'))
    · exact hc (h.subset (List.mem_singleton_self '.'))
  simpa [qualifiedColumn, List.intercalate] using
    split_intercalate "." (by decide) (by decide) [t, c] (by simp) hno

/-- A column of a schema-qualified table, `s.t.c`, splits into three segments. -/
theorem split_schemaColumn {s t c : String} (hs : '.' ∉ s.data) (ht : '.' ∉ t.data)
    (hc : '.' ∉ c.data) : split (qualifiedColumn (qualifiedColumn s t) c) "." = [s, t, c] := by
  have hno : ∀ x ∈ [s, t, c], ¬ ".".data <:+: x.data := by
    intro x hx h
    simp only [List.mem_cons, List.mem_singleton, List.not_mem_nil, or_false] at hx
    rcases hx with rfl | rfl | rfl
    · exact hs (h.subset (List.mem_singleton_self '.'))
    · exact ht (h.subset (List.mem_singleton_self '.'))
    · exact hc (h.subset (List.mem_singleton_self '.'))
  simpa [qualifiedColumn, List.intercalate] using
    split_intercalate "." (by decide) (by decide) [s, t, c] (by simp) hno

/-- Names joined by `, ` hold a line terminator only where one of the names does. -/
theorem isLineTerminator_intercalate {xs : List (List Char)}
    (hxs : ∀ x ∈ xs, ∀ c ∈ x, isLineTerminator c = false) :
    ∀ c ∈ ", ".data.intercalate xs, isLineTerminator c = false := fun c hc => by
  rcases mem_intercalate hc with h | ⟨x, hx, h⟩
  · rcases (by simpa using h : c = ',' ∨ c = ' ') with rfl | rfl <;> rfl
  · exact hxs x hx c h

/-- The post-2.2 message, when the pre-2.2 pattern does not match it and no marker stands
before the table's columns, gives one field per column: the second dot-separated segment of
`t.c`. -/
theorem uniqueFields_uniqueFailedMessage_entries (p t : String) (cs : List String) (hcs : cs ≠ [])
    (hp : ¬ uniqueMarker <:+: p.data) (ht : ¬ ", ".data <:+: t.data)
    (htl : ∀ a ∈ t.data, isLineTerminator a = false) (hc : ∀ c ∈ cs, SimpleName c)
    (hold : matchColumnsAre (p ++ uniqueFailedMessage t cs).data = none) :
    uniqueFields (p ++ uniqueFailedMessage t cs) =
      cs.map fun c => (split (qualifiedColumn t c) ".")[1]? := by
  have hcols : (cs.map fun c => (qualifiedColumn t c).data) =
      (cs.map (qualifiedColumn t)).map String.data := by
    simp [Function.comp_def]
  have htail : ∀ a ∈ ", ".data.intercalate ((cs.map (qualifiedColumn t)).map String.data),
      isLineTerminator a = false := isLineTerminator_intercalate fun x hx a ha => by
    simp only [List.map_map, List.mem_map, Function.comp] at hx
    obtain ⟨c, hc', rfl⟩ := hx
    simp only [qualifiedColumn, List.mem_append, List.mem_cons] at ha
    rcases ha with ha | rfl | ha
    · exact htl a ha
    · rfl
    · exact (hc c hc').2.2 a ha
  have hmatch : matchUniqueFailed (p ++ uniqueFailedMessage t cs).data =
      some ⟨", ".data.intercalate ((cs.map (qualifiedColumn t)).map String.data)⟩ := by
    rw [matchUniqueFailed, uniqueFailedMessage, hcols, String.data_append,
      matchAfter_append (by decide) (by decide) _ _ hp, Option.map_some',
      List.takeWhile_eq_self_iff.mpr fun a ha => by simp [htail a ha]]
  have hsplit := split_intercalate ", " (by decide) (by decide) (cs.map (qualifiedColumn t))
    (by simpa using hcs) fun x hx => by
      obtain ⟨c, hc', rfl⟩ := List.mem_map.mp hx
      exact not_sep_infix_qualifiedColumn ht (hc c hc').2.1
  rw [uniqueFields, hold, hmatch]
  dsimp only
  rw [hsplit, List.map_map]
  rfl

/-- For a table name without a dot, the post-2.2 message gives the column names back, in
order. -/
theorem uniqueFields_uniqueFailedMessage (p t : String) (cs : List String) (hcs : cs ≠ [])
    (hp : ¬ uniqueMarker <:+: p.data) (ht : SimpleName t) (hc : ∀ c ∈ cs, SimpleName c)
    (hold : matchColumnsAre (p ++ uniqueFailedMessage t cs).data = none) :
    uniqueFields (p ++ uniqueFailedMessage t cs) = cs.map some := by
  rw [uniqueFields_uniqueFailedMessage_entries p t cs hcs hp ht.2.1 ht.2.2 hc hold]
  refine List.map_congr_left fun c hc' => ?_
  simp [split_qualifiedColumn ht.1 (hc c hc').1]

/-- SQLite's pre-2.2 message for a failed unique constraint over the columns `cs`. -/
def columnsAreMessage (cs : List String) : String :=
  ⟨"columns ".data ++ (", ".data.intercalate (cs.map String.data) ++ " are not unique".data)⟩

/-- The lazy group stops at the first ` are`: a body free of ` are` and of line terminators
is captured whole. -/
theorem lazyUntilAre_append (rest : List Char) :
    ∀ body : List Char, ¬ " are".data <:+: body → (∀ c ∈ body, isLineTerminator c = false) →
      lazyUntilAre (body ++ (" are".data ++ rest)) = some body
  | [], _, _ => by simp [lazyUntilAre]
  | c :: body, hb, hl => by
    have hnot := not_prefix_append (by decide) hb (List.cons_ne_nil c body)
      (.inr (List.prefix_append " are".data rest))
    have hb' : ¬ " are".data <:+: body := fun h => hb (h.trans (List.suffix_cons c body).isInfix)
    rw [List.cons_append, lazyUntilAre, if_neg (by simpa using hnot),
      if_neg (by simp [hl c (List.mem_cons_self c body)]),
      lazyUntilAre_append rest body hb' fun d hd => hl d (List.mem_cons_of_mem c hd)]
    rfl

theorem matchColumnsAre_append (x : List Char) (hx : ∃ w, lazyUntilAre x = some w) :
    ∀ p : List Char, ¬ "columns ".data <:+: p →
      matchColumnsAre (p ++ ("columns ".data ++ x)) = (lazyUntilAre x).map String.mk
  | [], _ => by
    obtain ⟨w, hw⟩ := hx
    simp [matchColumnsAre, hw]
  | c :: p, hp => by
    have hnot := not_prefix_append (by decide) hp (List.cons_ne_nil c p)
      (.inr (List.prefix_append "columns ".data x))
    have hp' : ¬ "columns ".data <:+: p := fun h => hp (h.trans (List.suffix_cons c p).isInfix)
    rw [List.cons_append, matchColumnsAre, if_neg (by simpa using hnot), Option.map_none',
      Option.none_or, matchColumnsAre_append x hx p hp']

/-- The pre-2.2 message gives the column names back, in order, when no `columns ` stands
before it and the joined names hold no ` are`. -/
theorem uniqueFields_columnsAreMessage (p : String) (cs : List String) (hcs : cs ≠ [])
    (hp : ¬ "columns ".data <:+: p.data) (hc : ∀ c ∈ cs, ¬ ", ".data <:+: c.data)
    (hare : ¬ " are".data <:+: ", ".data.intercalate (cs.map String.data))
    (hline : ∀ c ∈ cs, ∀ ch ∈ c.data, isLineTerminator ch = false) :
    uniqueFields (p ++ columnsAreMessage cs) = cs.map some := by
  have hlazy := lazyUntilAre_append " not unique".data _ hare
    (isLineTerminator_intercalate fun x hx => by
      obtain ⟨c, hc', rfl⟩ := List.mem_map.mp hx
      exact hline c hc')
  have hdata : (p ++ columnsAreMessage cs).data = p.data ++ ("columns ".data ++
      (", ".data.intercalate (cs.map String.data) ++ (" are".data ++ " not unique".data))) := by
    rw [String.data_append]
    rfl
  have hmatch : matchColumnsAre (p ++ columnsAreMessage cs).data =
      some ⟨", ".data.intercalate (cs.map String.data)⟩ := by
    rw [hdata, matchColumnsAre_append _ ⟨_, hlazy⟩ _ hp, hlazy]
    rfl
  rw [uniqueFields, hmatch]
  exact congrArg (List.map some) (split_intercalate ", " (by decide) (by decide) cs hcs hc)

/-- `SQLITE_CONSTRAINT: columns email, username are not unique` gives both names back. -/
theorem columns_are_message_fields :
    ["email", "username"] ≠ [] ∧ ¬ "columns ".data <:+: "SQLITE_CONSTRAINT: ".data ∧
    (∀ c ∈ ["email", "username"], ¬ ", ".data <:+: c.data) ∧
    ¬ " are".data <:+: ", ".data.intercalate (["email", "username"].map String.data) ∧
    (∀ c ∈ ["email", "username"], ∀ ch ∈ c.data, isLineTerminator ch = false) ∧
    uniqueFields ("SQLITE_CONSTRAINT: " ++ columnsAreMessage ["email", "username"]) =
      ["email", "username"].map some := by
  refine ⟨?cs, ?p, ?c, ?are, ?line,
    uniqueFields_columnsAreMessage _ _ ?cs ?p ?c ?are ?line⟩ <;> decide

/-- An error with a constraint code whose message is SQLite's `UNIQUE constraint failed`
report, after any prefix holding no such marker, is a unique-constraint error over exactly
the reported columns, in order, with one item per column; provided the names hold no dot,
no `, ` and no line terminator, the message names no foreign key, and the pre-2.2 pattern,
which is tried first, does not match. -/
theorem formatError_unique_fields (f : Option String → String) (q : TursoQuery) (code : String)
    (hcode : code ∈ constraintCodes) (sql : Option String) (p t : String) (cs : List String)
    (hcs : cs ≠ []) (hp : ¬ uniqueMarker <:+: p.data) (ht : SimpleName t)
    (hc : ∀ c ∈ cs, SimpleName c)
    (hold : matchColumnsAre (p ++ uniqueFailedMessage t cs).data = none)
    (hfk : includes foreignKeyText (p ++ uniqueFailedMessage t cs).data = false) :
    formatError f q ⟨some code, p ++ uniqueFailedMessage t cs, sql⟩ =
      .uniqueConstraint (uniqueMessage q.model (cs.map some)) ((cs.map some).map (uniqueItem f q))
        ⟨some code, p ++ uniqueFailedMessage t cs, sql⟩ (cs.map some) := by
  rw [formatError_eq, if_pos ⟨code, hcode, rfl⟩, if_neg (ne_true_of_eq_false hfk),
    uniqueFields_uniqueFailedMessage p t cs hcs hp ht hc hold]

theorem formatError_unique_fields_example :
    "SQLITE_CONSTRAINT_UNIQUE" ∈ constraintCodes ∧ ["email", "username"] ≠ [] ∧
      ¬ uniqueMarker <:+: "SQLITE_CONSTRAINT: ".data ∧ SimpleName "users" ∧
      (∀ c ∈ ["email", "username"], SimpleName c) ∧
      matchColumnsAre ("SQLITE_CONSTRAINT: " ++
        uniqueFailedMessage "users" ["email", "username"]).data = none ∧
      includes foreignKeyText ("SQLITE_CONSTRAINT: " ++
        uniqueFailedMessage "users" ["email", "username"]).data = false ∧
      formatError (fun _ => "") (selectQuery "")
        ⟨some "SQLITE_CONSTRAINT_UNIQUE",
          "SQLITE_CONSTRAINT: " ++ uniqueFailedMessage "users" ["email", "username"], none⟩ =
      .uniqueConstraint (uniqueMessage none [some "email", some "username"])
        ([some "email", some "username"].map (uniqueItem (fun _ => "") (selectQuery "")))
        ⟨some "SQLITE_CONSTRAINT_UNIQUE",
          "SQLITE_CONSTRAINT: " ++ uniqueFailedMessage "users" ["email", "username"], none⟩
        [some "email", some "username"] :=
  by
  refine ⟨?code, ?cs, ?p, ?t, ?c, ?old, ?fk, formatError_unique_fields _ _ _ ?code none _
    "users" ["email", "username"] ?cs ?p ?t ?c ?old ?fk⟩ <;> decide

/-- For a schema-qualified table `s.t`, every field is the table's name `t`, whatever the
columns: `split('.')[1]` of `s.t.c` is `t`. -/
theorem formatError_schema_table_fields (f : Option String → String) (q : TursoQuery)
    (code : String) (hcode : code ∈ constraintCodes) (sql : Option String) (p s t : String)
    (cs : List String) (hcs : cs ≠ []) (hp : ¬ uniqueMarker <:+: p.data) (hs : SimpleName s)
    (ht : SimpleName t) (hc : ∀ c ∈ cs, SimpleName c)
    (hold : matchColumnsAre (p ++ uniqueFailedMessage (qualifiedColumn s t) cs).data = none)
    (hfk : includes foreignKeyText (p ++ uniqueFailedMessage (qualifiedColumn s t) cs).data =
      false) :
    (formatError f q ⟨some code, p ++ uniqueFailedMessage (qualifiedColumn s t) cs, sql⟩).fields =
      cs.map fun _ => some t := by
  have hst : ∀ a ∈ (qualifiedColumn s t).data, isLineTerminator a = false := by
    simp only [qualifiedColumn, List.mem_append, List.mem_cons]
    rintro a (ha | rfl | ha)
    · exact hs.2.2 a ha
    · rfl
    · exact ht.2.2 a ha
  rw [formatError_eq, if_pos ⟨code, hcode, rfl⟩, if_neg (ne_true_of_eq_false hfk),
    uniqueFields_uniqueFailedMessage_entries p _ cs hcs hp
      (not_sep_infix_qualifiedColumn hs.2.1 ht.2.1) hst hc hold]
  refine List.map_congr_left fun c hc' => ?_
  simp [split_schemaColumn hs.1 ht.1 (hc c hc').1]

/-- A unique violation on `email, username` in the table `users` of schema `main`, which
SQLite reports as `main.users`. -/
def schemaUniqueError : EngineError :=
  ⟨some "SQLITE_CONSTRAINT_UNIQUE",
    uniqueFailedMessage (qualifiedColumn "main" "users") ["email", "username"], none⟩

/-- Both fields of that error are `users`, the table, not the columns `email` and
`username`. -/
theorem schema_unique_fields_name_table (f : Option String → String) (q : TursoQuery) :
    (formatError f q schemaUniqueError).fields = [some "users", some "users"] :=
  formatError_schema_table_fields f q _ (by decide) none "" "main" "users" ["email", "username"]
    (by decide) (by decide) (by decide) (by decide) (by decide) (by decide) (by decide)

end SequelizeTurso.FormatError

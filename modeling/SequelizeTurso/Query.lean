import SequelizeTurso.Bind

/-!
What a `TursoQuery` reads about itself to decide how to run and how to shape a statement:
its declared type, its options, its target instance and its SQL text. `getDatabaseMethod`
picks `stmt.all` or `stmt.run`, and `responseBranch` is the chain of tests that opens
`_handleQueryResponse`. Both look at the text through a few substring tests, which see
literals and comments like any other text.
-/

namespace SequelizeTurso.Query

open Js

/-- `QueryTypes` of `@sequelize/core`. -/
inductive QueryType
  | select | insert | update | bulkUpdate | bulkDelete | delete | upsert | version
  | showTables | showIndexes | describe | raw | foreignKeys | showConstraints
  deriving DecidableEq, Repr

/-- The options a query reads; `returning` and `plain` only by their truthiness. -/
structure QueryOptions where
  type : QueryType
  returning : Bool
  plain : Bool
  deriving DecidableEq, Repr

/-- A unique index of the model: `unique`, `fields` and `msg` of `getIndexes()`. -/
structure IndexInfo where
  unique : Bool
  fields : List String
  msg : Option String
  deriving DecidableEq, Repr

/-- What the adapter reads of `this.model`, a collaborator from `@sequelize/core`. -/
structure ModelInfo where
  /-- `modelDefinition.columns.get(column)?.attributeName`. -/
  attributeName : String → Option String
  /-- `_parseDatabaseValue(value, attribute?.type)` for a column. -/
  parseDatabaseValue : String → JsValue → JsValue
  /-- `getIndexes()`. -/
  indexes : List IndexInfo

/-- The fields of `this` the adapter reads; `inst` is `this.instance`, by its `dataValues`. -/
structure TursoQuery where
  sql : String
  options : QueryOptions
  inst : Option JsObject
  model : Option ModelInfo

namespace TursoQuery

variable (q : TursoQuery)

/-! Modelled from the spec: the classification predicates of `AbstractQuery`, whose source
(`@sequelize/core`) is not under src/. The spec derives the classification from the caller's
declared type and the SQL text: every predicate tests `options.type`, except that a text
beginning `insert into` is also an insert and a text beginning `show` or `describe` is a
show-or-describe query, whatever the declared type. -/

/-- Modelled from the spec: `isInsertQuery()`, called without results or metadata. -/
def isInsertQuery : Bool :=
  q.options.type == .insert || startsWith (toLowerCase q.sql) "insert into"

/-- Modelled from the spec: `isUpdateQuery()`. -/
def isUpdateQuery : Bool := q.options.type == .update

/-- Modelled from the spec: `isUpsertQuery()`. -/
def isUpsertQuery : Bool := q.options.type == .upsert

/-- Modelled from the spec: `isBulkUpdateQuery()`. -/
def isBulkUpdateQuery : Bool := q.options.type == .bulkUpdate

/-- Modelled from the spec: `isDeleteQuery()`. -/
def isDeleteQuery : Bool := q.options.type == .delete

/-- Modelled from the spec: `isSelectQuery()`. -/
def isSelectQuery : Bool := q.options.type == .select

/-- Modelled from the spec: `isShowConstraintsQuery()`. -/
def isShowConstraintsQuery : Bool := q.options.type == .showConstraints

/-- Modelled from the spec: `isRawQuery()`. -/
def isRawQuery : Bool := q.options.type == .raw

/-- Modelled from the spec: `isShowOrDescribeQuery()`. -/
def isShowOrDescribeQuery : Bool :=
  startsWith (toLowerCase q.sql) "show" || startsWith (toLowerCase q.sql) "describe"

end TursoQuery

open TursoQuery

/-- The two driver calls: `stmt.all` returns rows, `stmt.run` returns the change count. -/
inductive DatabaseMethod
  | all
  | run
  deriving DecidableEq, Repr

def getDatabaseMethod (q : TursoQuery) : DatabaseMethod :=
  if q.isBulkUpdateQuery || q.isInsertQuery || q.isUpdateQuery || q.isUpsertQuery then
    if q.options.returning then .all else .run
  else if q.isDeleteQuery ||
      includes (toLowerCase "CREATE TEMPORARY TABLE").data (toLowerCase q.sql).data then .run
  else .all

/-- The branches of `_handleQueryResponse`, in the order it tests them. -/
inductive ResponseBranch
  | mutation | bulkUpdate | delete | showConstraints | select | showOrDescribe
  | showIndexes | indexInfo | tableInfo | raw | returnInstance
  deriving DecidableEq, Repr

/-- The branches after the three mutation tests: the ones that read rows. -/
def readBranch (q : TursoQuery) : ResponseBranch :=
  if q.isShowConstraintsQuery then .showConstraints
  else if q.isSelectQuery then .select
  else if q.isShowOrDescribeQuery then .showOrDescribe
  else if includes "PRAGMA INDEX_LIST".data q.sql.data then .showIndexes
  else if includes "PRAGMA INDEX_INFO".data q.sql.data then .indexInfo
  else if includes "PRAGMA TABLE_INFO".data q.sql.data then .tableInfo
  else if q.isRawQuery then .raw
  else .returnInstance

def responseBranch (q : TursoQuery) : ResponseBranch :=
  if q.isInsertQuery || q.isUpdateQuery || q.isUpsertQuery then .mutation
  else if q.isBulkUpdateQuery then .bulkUpdate
  else if q.isDeleteQuery then .delete
  else readBranch q

theorem readBranch_ne (q : TursoQuery) :
    readBranch q ≠ .mutation ∧ readBranch q ≠ .bulkUpdate ∧ readBranch q ≠ .delete := by
  simp only [readBranch, ne_eq, apply_ite (· = ResponseBranch.mutation),
    apply_ite (· = ResponseBranch.bulkUpdate), apply_ite (· = ResponseBranch.delete),
    reduceCtorEq, ite_self, not_false_eq_true, and_self]

/-! ### What the text can change -/

open SqlText

private theorem toLower_of_isOpener (c : Char) (h : isOpener c = true) : c.toLower = c := by
  simp only [isOpener, Bool.or_eq_true, beq_iff_eq] at h
  rcases h with ((((h | h) | h) | h) | h) | h <;> subst h <;> decide

theorem isPrefixOf_lower_takeWhile (p : List Char) (hp : ∀ c ∈ p, isOpener c = false) :
    ∀ l : List Char, p.isPrefixOf (l.map Char.toLower) =
      p.isPrefixOf ((l.takeWhile (!isOpener ·)).map Char.toLower)
  | [] => rfl
  | c :: l => by
    cases p with
    | nil => simp
    | cons d p =>
      by_cases hc : isOpener c = true
      · have hdc : (d == c) = false := by
          simp only [beq_eq_false_iff_ne]
          rintro rfl
          simp [hp d (.head _)] at hc
        simp [List.takeWhile_cons, hc, List.isPrefixOf, toLower_of_isOpener c hc, hdc]
      · simp only [Bool.not_eq_true] at hc
        simp only [List.takeWhile_cons, hc, Bool.not_false, if_true, List.map_cons,
          List.isPrefixOf]
        rw [isPrefixOf_lower_takeWhile p (fun c hc => hp c (.tail _ hc)) l]

theorem startsWith_lower_eq (a b p : String) (hp : ∀ c ∈ p.data, isOpener c = false)
    (h : SameOutsideLiterals a b) :
    startsWith (toLowerCase a) p = startsWith (toLowerCase b) p := by
  simp only [startsWith, toLowerCase]
  rw [isPrefixOf_lower_takeWhile _ hp a.data, isPrefixOf_lower_takeWhile _ hp b.data,
    takeWhile_eq_of_sameOutsideLiterals a b h]

theorem classification_eq_of_sameOutsideLiterals (q : TursoQuery) (a b : String)
    (h : SameOutsideLiterals a b)
    (hc : includes (toLowerCase "CREATE TEMPORARY TABLE").data (toLowerCase a).data =
      includes (toLowerCase "CREATE TEMPORARY TABLE").data (toLowerCase b).data)
    (hl : includes "PRAGMA INDEX_LIST".data a.data = includes "PRAGMA INDEX_LIST".data b.data)
    (hi : includes "PRAGMA INDEX_INFO".data a.data = includes "PRAGMA INDEX_INFO".data b.data)
    (ht : includes "PRAGMA TABLE_INFO".data a.data = includes "PRAGMA TABLE_INFO".data b.data) :
    getDatabaseMethod {q with sql := a} = getDatabaseMethod {q with sql := b} ∧
      responseBranch {q with sql := a} = responseBranch {q with sql := b} := by
  have e1 := startsWith_lower_eq a b "insert into" (by decide) h
  have e2 := startsWith_lower_eq a b "show" (by decide) h
  have e3 := startsWith_lower_eq a b "describe" (by decide) h
  constructor <;> simp only [getDatabaseMethod, responseBranch, readBranch, isInsertQuery,
    isUpdateQuery, isUpsertQuery, isBulkUpdateQuery, isDeleteQuery, isSelectQuery,
    isShowConstraintsQuery, isRawQuery, isShowOrDescribeQuery, e1, e2, e3, hc, hl, hi, ht]

/-- The declared types that `getDatabaseMethod` sends through its first two tests. -/
def mutationTypes : List QueryType := [.insert, .update, .bulkUpdate, .upsert, .delete]

theorem getDatabaseMethod_eq_all_iff (q : TursoQuery) (ht : q.options.type ∉ mutationTypes)
    (hi : startsWith (toLowerCase q.sql) "insert into" = false) :
    getDatabaseMethod q = .all ↔
      includes (toLowerCase "CREATE TEMPORARY TABLE").data (toLowerCase q.sql).data = false := by
  simp only [mutationTypes, List.mem_cons, List.mem_singleton, not_or, List.not_mem_nil] at ht
  obtain ⟨h1, h2, h3, h4, h5, -⟩ := ht
  simp [getDatabaseMethod, isInsertQuery, isUpdateQuery, isUpsertQuery, isBulkUpdateQuery,
    isDeleteQuery, hi, h1, h2, h3, h4, h5]

theorem responseBranch_raw_iff (q : TursoQuery) (ht : q.options.type = .raw)
    (hi : startsWith (toLowerCase q.sql) "insert into" = false)
    (hs : q.isShowOrDescribeQuery = false) :
    responseBranch q = .raw ↔ includes "PRAGMA INDEX_LIST".data q.sql.data = false ∧
      includes "PRAGMA INDEX_INFO".data q.sql.data = false ∧
      includes "PRAGMA TABLE_INFO".data q.sql.data = false := by
  have hb : responseBranch q =
      if includes "PRAGMA INDEX_LIST".data q.sql.data then .showIndexes
      else if includes "PRAGMA INDEX_INFO".data q.sql.data then .indexInfo
      else if includes "PRAGMA TABLE_INFO".data q.sql.data then .tableInfo
      else .raw := by
    simp [responseBranch, readBranch, isInsertQuery, isUpdateQuery, isUpsertQuery,
      isBulkUpdateQuery, isDeleteQuery, isShowConstraintsQuery, isSelectQuery, isRawQuery, hs, ht,
      hi]
  rw [hb]
  split_ifs <;> simp_all

/-- Literals and comments reach the driver call and the shaping branch only through four
substring tests. A query of no mutation type runs through `stmt.all` unless its text begins
`insert into` or contains `create temporary table` in any case, anywhere; a raw query that
is not an insert, show or describe by its first words is shaped as `[rows, metadata]`
exactly when its text contains none of the three PRAGMA names, anywhere. -/
theorem classification_reads_text_through_substrings :
    (∀ (q : TursoQuery) (a b : String), SameOutsideLiterals a b →
      includes (toLowerCase "CREATE TEMPORARY TABLE").data (toLowerCase a).data =
        includes (toLowerCase "CREATE TEMPORARY TABLE").data (toLowerCase b).data →
      includes "PRAGMA INDEX_LIST".data a.data = includes "PRAGMA INDEX_LIST".data b.data →
      includes "PRAGMA INDEX_INFO".data a.data = includes "PRAGMA INDEX_INFO".data b.data →
      includes "PRAGMA TABLE_INFO".data a.data = includes "PRAGMA TABLE_INFO".data b.data →
      getDatabaseMethod {q with sql := a} = getDatabaseMethod {q with sql := b} ∧
        responseBranch {q with sql := a} = responseBranch {q with sql := b}) ∧
    (∀ q : TursoQuery, q.options.type ∉ mutationTypes →
      startsWith (toLowerCase q.sql) "insert into" = false →
      (getDatabaseMethod q = .all ↔
        includes (toLowerCase "CREATE TEMPORARY TABLE").data (toLowerCase q.sql).data = false)) ∧
    (∀ q : TursoQuery, q.options.type = .raw →
      startsWith (toLowerCase q.sql) "insert into" = false → q.isShowOrDescribeQuery = false →
      (responseBranch q = .raw ↔ includes "PRAGMA INDEX_LIST".data q.sql.data = false ∧
        includes "PRAGMA INDEX_INFO".data q.sql.data = false ∧
        includes "PRAGMA TABLE_INFO".data q.sql.data = false)) :=
  ⟨classification_eq_of_sameOutsideLiterals, getDatabaseMethod_eq_all_iff, responseBranch_raw_iff⟩

/-- A select query with no instance, model or options set. -/
def selectQuery (sql : String) : TursoQuery := ⟨sql, ⟨.select, false, false⟩, none, none⟩

/-- The words `create temporary table` inside a string literal send a select through
`stmt.run`, whose rows are never read. -/
theorem literal_changes_database_method :
    ¬ ∀ (q : TursoQuery) (a b : String), SameOutsideLiterals a b →
      getDatabaseMethod {q with sql := a} = getDatabaseMethod {q with sql := b} ∧
        responseBranch {q with sql := a} = responseBranch {q with sql := b} := fun h =>
  absurd (h (selectQuery "") "SELECT 'create temporary table'" "SELECT 'x'" (by decide)).1
    (by decide)

end SequelizeTurso.Query

import SequelizeTurso.Query
import SequelizeTurso.TableInfo

/-!
The statement runner's two driver calls and the response shaper. `#allSeries` hands back the
rows with a zeroed `{ lastID, changes }`; `#runSeries` hands back no rows, with the driver's
`lastInsertRowid` and `changes`. `_handleQueryResponse` shapes that pair by the branch its
tests select. A mutation with a target instance copies the first returned row onto it, and
an insert that got no row back raises `EmptyResultError`.
-/

namespace SequelizeTurso.Response

open Js Query TableInfo TursoQuery

/-- `metaData`, the statement fields of a series response. -/
structure Statement where
  lastID : Int
  changes : Nat
  deriving DecidableEq, Repr

/-- What `stmt.run` resolves to. -/
structure RunResult where
  changes : Nat
  lastInsertRowid : Int
  deriving DecidableEq, Repr

/-- `{ statement, results }` of `#allSeries` and `#runSeries`. -/
structure SeriesResponse where
  statement : Statement
  results : List JsObject

def allSeries (rows : List JsObject) : SeriesResponse := ⟨⟨0, 0⟩, rows⟩

def runSeries (result : RunResult) : SeriesResponse := ⟨⟨result.lastInsertRowid, result.changes⟩, []⟩

/-- The series call `run` makes for a method, given what the driver answers to each. -/
def executeSeries : DatabaseMethod → List JsObject → RunResult → SeriesResponse
  | .all, rows, _ => allSeries rows
  | .run, _, result => runSeries result

/-- The first element of a mutation's pair. -/
inductive MutationTarget
  | inst (o : JsObject)
  | row (r : JsObject)
  | rows (rs : List JsObject)

/-- What `_handleQueryResponse` returns, by branch. `selected` and `showIndexes` are the rows
handed on to `handleSelectQuery` and `handleShowIndexesQuery`. -/
inductive QueryResponse
  | mutation (target : MutationTarget) (count : Nat)
  | upsert (inst : Option JsObject)
  | changes (n : Nat)
  | rows (rs : List JsObject)
  | selected (rs : List JsObject)
  | showIndexes (rs : List JsObject)
  | tableInfo (columns : List (String × ColumnInfo))
  | raw (rs : List JsObject) (metaData : Statement)
  | returnInstance (inst : Option JsObject)

/-- What `_handleQueryResponse` throws. `typeError` is the read of `modelDefinition` on an
absent model. -/
inductive QueryError
  | emptyResult
  | typeError
  deriving DecidableEq, Repr

/-- `this.instance.set(...)` for every column of the first returned row. -/
def applyRow (model : ModelInfo) (inst : JsObject) (row : JsObject) : JsObject :=
  row.entries.foldl (fun acc e =>
    acc.set ((model.attributeName e.1).getD e.1) (model.parseDatabaseValue e.1 e.2)) inst

/-- The instance part of the mutation branch: the empty-result check, then the copy of the
first row onto the instance. -/
def updateInstance (q : TursoQuery) (results : List JsObject) :
    Except QueryError (Option JsObject) :=
  match q.inst with
  | none => .ok none
  | some i =>
    if q.isInsertQuery && !q.isUpsertQuery && results.length == 0 then .error .emptyResult
    else match results, q.model with
      | [], _ => .ok (some i)
      | r :: _, some m => .ok (some (applyRow m i r))
      | r :: _, none => if r.entries = [] then .ok (some i) else .error .typeError

/-- `this.instance || (results && ((this.options.plain && results[0]) || results)) || undefined`. -/
def mutationTarget (q : TursoQuery) (inst : Option JsObject) (results : List JsObject) :
    MutationTarget :=
  match inst, results with
  | some i, _ => .inst i
  | none, r :: _ => if q.options.plain then .row r else .rows results
  | none, [] => .rows []

def handleQueryResponse (q : TursoQuery) (metaData : Statement) (results : List JsObject) :
    Except QueryError QueryResponse :=
  match responseBranch q with
  | .mutation => do
    let inst ← updateInstance q results
    if q.isUpsertQuery then pure (.upsert inst)
    else pure (.mutation (mutationTarget q inst results)
      (if q.options.returning then results.length else metaData.changes))
  | .bulkUpdate => pure (if q.options.returning then .selected results else .changes metaData.changes)
  | .delete => pure (.changes metaData.changes)
  | .showConstraints => pure (.rows results)
  | .select => pure (.selected results)
  | .showOrDescribe => pure (.rows results)
  | .showIndexes => pure (.showIndexes results)
  | .indexInfo => pure (.rows results)
  | .tableInfo => pure (.tableInfo (tableInfo results))
  | .raw => pure (.raw results metaData)
  | .returnInstance => pure (.returnInstance q.inst)

/-- `_handleQueryResponse(response.statement, response.results)`. -/
def shapeSeries (q : TursoQuery) (response : SeriesResponse) : Except QueryError QueryResponse :=
  handleQueryResponse q response.statement response.results

/-! ### Mutations -/

/-- The affected count a response reports: the second element of a mutation's pair, the
change count, or the number of rows a returning bulk update hands to the select shaper. -/
def QueryResponse.count? : QueryResponse → Option Nat
  | .mutation _ n | .changes n => some n
  | .selected rs => some rs.length
  | _ => none

@[simp] theorem executeSeries_all (rows : List JsObject) (r : RunResult) :
    executeSeries .all rows r = allSeries rows := rfl

@[simp] theorem executeSeries_run (rows : List JsObject) (r : RunResult) :
    executeSeries .run rows r = runSeries r := rfl

theorem getDatabaseMethod_of_mutation (q : TursoQuery) (h : responseBranch q = .mutation) :
    getDatabaseMethod q = if q.options.returning then .all else .run := by
  unfold responseBranch at h
  split_ifs at h with h1 h2 h3
  · simp only [Bool.or_eq_true] at h1
    rcases h1 with (h1 | h1) | h1 <;> simp [getDatabaseMethod, h1]
  · exact absurd h (readBranch_ne q).1

theorem getDatabaseMethod_of_bulkUpdate (q : TursoQuery) (h : responseBranch q = .bulkUpdate) :
    getDatabaseMethod q = if q.options.returning then .all else .run := by
  unfold responseBranch at h
  split_ifs at h with h1 h2 h3
  · simp [getDatabaseMethod, h2]
  · exact absurd h (readBranch_ne q).2.1

theorem getDatabaseMethod_of_delete (q : TursoQuery) (h : responseBranch q = .delete) :
    getDatabaseMethod q = .run := by
  unfold responseBranch at h
  split_ifs at h with h1 h2 h3
  · simp only [Bool.or_eq_true, not_or, Bool.not_eq_true] at h1
    simp [getDatabaseMethod, h1.1.1, h1.1.2, h1.2, h2, h3]
  · exact absurd h (readBranch_ne q).2.2

/-- A query of a mutation type takes one of the three mutation branches. -/
theorem responseBranch_of_mutationType (q : TursoQuery)
    (ht : q.options.type ∈ [.insert, .update, .bulkUpdate, .delete]) :
    responseBranch q = .mutation ∨ responseBranch q = .bulkUpdate ∨
      responseBranch q = .delete := by
  simp only [List.mem_cons, List.mem_singleton, List.not_mem_nil, or_false] at ht
  unfold responseBranch
  by_cases hi : q.isInsertQuery = true
  · simp [hi]
  · rcases ht with h | h | h | h <;>
      simp_all [isInsertQuery, isUpdateQuery, isUpsertQuery, isBulkUpdateQuery, isDeleteQuery]

theorem handleQueryResponse_mutation (q : TursoQuery) (md : Statement) (rs : List JsObject)
    (resp : QueryResponse) (hb : responseBranch q = .mutation) (hup : q.isUpsertQuery = false)
    (h : handleQueryResponse q md rs = .ok resp) :
    ∃ t, resp = .mutation t (if q.options.returning then rs.length else md.changes) := by
  simp only [handleQueryResponse, hb, hup] at h
  cases hi : updateInstance q rs with
  | error e => simp [hi, bind, Except.bind] at h
  | ok v =>
    simp only [hi, bind, Except.bind, Bool.false_eq_true, if_false, pure, Except.pure,
      Except.ok.injEq] at h
    exact ⟨_, h.symm⟩

/-- A mutation reports the count of the mode it ran in: the returned rows in `stmt.all`
mode, the driver's `changes` in `stmt.run` mode; never the zero of the other mode. -/
theorem mutation_count (q : TursoQuery)
    (ht : q.options.type ∈ [.insert, .update, .bulkUpdate, .delete])
    (rows : List JsObject) (r : RunResult) (resp : QueryResponse)
    (h : shapeSeries q (executeSeries (getDatabaseMethod q) rows r) = .ok resp) :
    resp.count? = some (match getDatabaseMethod q with
      | .all => rows.length
      | .run => r.changes) := by
  have hup : q.isUpsertQuery = false := by
    simp only [List.mem_cons, List.mem_singleton, List.not_mem_nil, or_false] at ht
    rcases ht with h | h | h | h <;> simp [isUpsertQuery, h]
  rcases responseBranch_of_mutationType q ht with hb | hb | hb
  · obtain ⟨t, rfl⟩ := handleQueryResponse_mutation q _ _ resp hb hup h
    rw [getDatabaseMethod_of_mutation q hb]
    cases q.options.returning <;> rfl
  · simp only [shapeSeries, handleQueryResponse, hb, getDatabaseMethod_of_bulkUpdate q hb,
      pure, Except.pure, Except.ok.injEq] at h ⊢
    subst h
    cases q.options.returning <;> rfl
  · simp only [shapeSeries, handleQueryResponse, hb, getDatabaseMethod_of_delete q hb,
      pure, Except.pure, Except.ok.injEq] at h ⊢
    subst h
    rfl

/-- `User.update(values, { where, returning: true })`. -/
def returningUpdate : TursoQuery :=
  ⟨"UPDATE `Users` SET `name` = $sequelize_1 RETURNING *", ⟨.update, true, false⟩, none, none⟩

def aliceRow : JsObject := ⟨[("name", .string "alice")], by decide⟩

/-- A returning update that gets one row back reports `1`, the rows, not the `0` changes that
`stmt.all` mode leaves in the statement. -/
theorem returning_update_counts_rows :
    returningUpdate.options.type ∈ [.insert, .update, .bulkUpdate, .delete] ∧
    shapeSeries returningUpdate (executeSeries (getDatabaseMethod returningUpdate) [aliceRow] ⟨1, 1⟩) =
      .ok (.mutation (.rows [aliceRow]) 1) ∧
    (QueryResponse.mutation (.rows [aliceRow]) 1).count? =
      some (match getDatabaseMethod returningUpdate with
        | .all => [aliceRow].length
        | .run => (⟨1, 1⟩ : RunResult).changes) := by
  refine ⟨?update, ?shaped, mutation_count _ ?update _ _ _ ?shaped⟩
  · decide
  · rfl

theorem updateInstance_eq_emptyResult (q : TursoQuery) (results : List JsObject) :
    updateInstance q results = .error .emptyResult ↔
      q.inst.isSome ∧ q.isInsertQuery ∧ q.isUpsertQuery = false ∧ results = [] := by
  unfold updateInstance
  cases q.inst with
  | none => simp
  | some i =>
    dsimp only
    by_cases hg : q.isInsertQuery && !q.isUpsertQuery && results.length == 0
    · simp only [Bool.and_eq_true, Bool.not_eq_true', beq_iff_eq, List.length_eq_zero] at hg
      simp [hg]
    · rw [if_neg hg]
      simp only [Bool.and_eq_true, Bool.not_eq_true', beq_iff_eq, List.length_eq_zero] at hg
      refine ⟨fun h => ?_, fun ⟨_, h1, h2, h3⟩ => absurd ⟨⟨h1, h2⟩, h3⟩ hg⟩
      split at h
      · cases h
      · cases h
      · split at h <;> cases h

/-- An insert with a target instance that runs through `stmt.run` raises `EmptyResultError`
whatever the driver answers, since `#runSeries` returns no rows. -/
theorem insert_run_mode_raises_emptyResult (q : TursoQuery) (i : JsObject)
    (rows : List JsObject) (r : RunResult) (hi : q.inst = some i)
    (ht : q.options.type = .insert) (hret : q.options.returning = false) :
    getDatabaseMethod q = .run ∧
      shapeSeries q (executeSeries (getDatabaseMethod q) rows r) = .error .emptyResult := by
  have hins : q.isInsertQuery = true := by simp [isInsertQuery, ht]
  have hm : getDatabaseMethod q = .run := by simp [getDatabaseMethod, hins, hret]
  refine ⟨hm, ?_⟩
  simp [hm, shapeSeries, handleQueryResponse, responseBranch, hins, updateInstance, hi,
    isUpsertQuery, ht, runSeries, bind, Except.bind]

/-- `User.create(values, { returning: false })`: an insert with a target instance. -/
def insertWithoutReturning : TursoQuery :=
  ⟨"INSERT INTO `Users` (`name`) VALUES ($sequelize_1)", ⟨.insert, false, false⟩,
    some ⟨[("name", .string "alice")], by decide⟩, none⟩

/-- The insert runs through `stmt.run`, the driver reports one changed row, and the shaper
still raises `EmptyResultError`. -/
theorem insert_without_returning_raises_emptyResult :
    getDatabaseMethod insertWithoutReturning = .run ∧
      shapeSeries insertWithoutReturning (runSeries ⟨1, 1⟩) = .error .emptyResult := by
  obtain ⟨hm, he⟩ := insert_run_mode_raises_emptyResult insertWithoutReturning _ [] ⟨1, 1⟩ rfl rfl rfl
  exact ⟨hm, by simpa [hm] using he⟩

end SequelizeTurso.Response

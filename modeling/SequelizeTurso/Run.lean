import SequelizeTurso.FormatError
import SequelizeTurso.Response

/-!
Runs in flight on one query object. `run(sql)` writes `this.sql`, picks the database method
from it and awaits the engine. When the engine answers, the shaper classifies the response by
`this.sql`; when it rejects, the error is annotated with `this.sql` and classified. Between
the write and the reads other runs on the same object may start, as the `PRAGMA INDEX_INFO`
runs of `handleShowIndexesQuery` do: all of them start before the first one resumes.
-/

namespace SequelizeTurso.Run

open Js Query FormatError Response TursoQuery

/-- Where one run stands: awaiting the engine with the method it picked, failed with the
classified error, or shaped. -/
inductive RunPhase
  | awaiting (method : DatabaseMethod)
  | failed (error : SequelizeError)
  | shaped (result : Except QueryError QueryResponse)

/-- A run: the SQL it was called with, and its phase. -/
structure RunEntry where
  sql : String
  phase : RunPhase

/-- The query object, whose `sql` field is the shared `this.sql`, and its runs in start order. -/
structure QueryState where
  query : TursoQuery
  runs : List RunEntry

inductive RunEvent
  /-- `run(sql)` up to its `await`. -/
  | start (sql : String)
  /-- The engine call of run `r` rejects with `err`. -/
  | reject (r : Nat) (err : EngineError)
  /-- The engine call of run `r` answers: the rows of `stmt.all`, the result of `stmt.run`. -/
  | resolve (r : Nat) (rows : List JsObject) (result : RunResult)

section Steps

variable (getUniqueConstraintErrorMessage : Option String → String)

/-- `this.sql = sql; const method = this.getDatabaseMethod();` -/
def start (s : QueryState) (sql : String) : QueryState :=
  ⟨{ s.query with sql := sql },
    s.runs ++ [⟨sql, .awaiting (getDatabaseMethod { s.query with sql := sql })⟩]⟩

/-- `error.sql = this.sql; throw this.formatError(error);` -/
def reject (s : QueryState) (r : Nat) (err : EngineError) : QueryState :=
  match s.runs[r]? with
  | some ⟨sql, .awaiting _⟩ =>
    { s with runs := s.runs.set r ⟨sql, .failed (formatError getUniqueConstraintErrorMessage
        s.query { err with sql := some s.query.sql })⟩ }
  | _ => s

/-- `return this._handleQueryResponse(response.statement, response.results);` -/
def resolve (s : QueryState) (r : Nat) (rows : List JsObject) (result : RunResult) :
    QueryState :=
  match s.runs[r]? with
  | some ⟨sql, .awaiting method⟩ =>
    { s with runs := s.runs.set r ⟨sql, .shaped (shapeSeries s.query
        (executeSeries method rows result))⟩ }
  | _ => s

def step (s : QueryState) : RunEvent → QueryState
  | .start sql => start s sql
  | .reject r err => reject getUniqueConstraintErrorMessage s r err
  | .resolve r rows result => resolve s r rows result

def runEvents (s : QueryState) (trace : List RunEvent) : QueryState :=
  trace.foldl (step getUniqueConstraintErrorMessage) s

end Steps

/-! ### `this.sql` -/

theorem map_sql_set (runs : List RunEntry) (r : Nat) (x : RunEntry) (h : runs[r]? = some x)
    (p : RunPhase) : (runs.set r ⟨x.sql, p⟩).map RunEntry.sql = runs.map RunEntry.sql := by
  refine List.ext_getElem? fun i => ?_
  rw [List.getElem?_map, List.getElem?_map, List.getElem?_set]
  split_ifs with hi hr
  · subst hi
    simp [h]
  · exact absurd (List.getElem?_eq_some_iff.mp h).1 hr
  · rfl

section Frame

variable (f : Option String → String) (s : QueryState)

@[simp] theorem start_query (sql : String) : (start s sql).query = { s.query with sql := sql } := rfl

@[simp] theorem start_sqls (sql : String) :
    (start s sql).runs.map RunEntry.sql = s.runs.map RunEntry.sql ++ [sql] := by
  simp [start]

@[simp] theorem reject_query (r : Nat) (err : EngineError) : (reject f s r err).query = s.query := by
  unfold reject
  split <;> rfl

@[simp] theorem reject_sqls (r : Nat) (err : EngineError) :
    (reject f s r err).runs.map RunEntry.sql = s.runs.map RunEntry.sql := by
  unfold reject
  split
  · exact map_sql_set s.runs r _ ‹_› _
  · rfl

@[simp] theorem resolve_query (r : Nat) (rows : List JsObject) (result : RunResult) :
    (resolve s r rows result).query = s.query := by
  unfold resolve
  split <;> rfl

@[simp] theorem resolve_sqls (r : Nat) (rows : List JsObject) (result : RunResult) :
    (resolve s r rows result).runs.map RunEntry.sql = s.runs.map RunEntry.sql := by
  unfold resolve
  split
  · exact map_sql_set s.runs r _ ‹_› _
  · rfl

end Frame

/-- The field holds the SQL of the latest started run. -/
def LatestSql (s : QueryState) : Prop := ∀ sql ∈ (s.runs.map RunEntry.sql).getLast?, s.query.sql = sql

theorem step_latestSql (f : Option String → String) (s : QueryState) (h : LatestSql s) :
    ∀ e, LatestSql (step f s e)
  | .start sql => by simp [LatestSql, step]
  | .reject r err => by simpa only [LatestSql, step, reject_sqls, reject_query] using h
  | .resolve r rows result => by simpa only [LatestSql, step, resolve_sqls, resolve_query] using h

theorem runEvents_latestSql (f : Option String → String) :
    ∀ (trace : List RunEvent) (s : QueryState), LatestSql s → LatestSql (runEvents f s trace)
  | [], _, h => h
  | e :: trace, s, h => runEvents_latestSql f trace (step f s e) (step_latestSql f s h e)

/-! ### Annotation of failures -/

/-- A rejected run keeps its SQL and is annotated with `this.sql` as it stands when the run
resumes. -/
theorem reject_annotates (f : Option String → String) (s : QueryState) (r : Nat) (sql : String)
    (m : DatabaseMethod) (err : EngineError) (h : s.runs[r]? = some ⟨sql, .awaiting m⟩) :
    ∃ e, (reject f s r err).runs[r]? = some ⟨sql, .failed e⟩ ∧ e.cause.sql = some s.query.sql :=
  ⟨formatError f s.query { err with sql := some s.query.sql },
    by simp [reject, h, (List.getElem?_eq_some_iff.mp h).1], by rw [formatError_cause]⟩

theorem runEvents_append (f : Option String → String) (s : QueryState) (tr tr' : List RunEvent) :
    runEvents f s (tr ++ tr') = runEvents f (runEvents f s tr) tr' :=
  List.foldl_append _ _ _ _

/-- From an idle query object, whatever the interleaving, a run that fails is annotated with
the SQL of the latest run started before it fails. -/
theorem runEvents_reject_annotation (f : Option String → String) (q : TursoQuery)
    (tr : List RunEvent) (r : Nat) (sql : String) (m : DatabaseMethod) (err : EngineError)
    (h : (runEvents f ⟨q, []⟩ tr).runs[r]? = some ⟨sql, .awaiting m⟩) :
    ∃ e, (runEvents f ⟨q, []⟩ (tr ++ [.reject r err])).runs[r]? = some ⟨sql, .failed e⟩ ∧
      e.cause.sql = ((runEvents f ⟨q, []⟩ tr).runs.map RunEntry.sql).getLast? := by
  obtain ⟨e, he, hsql⟩ := reject_annotates f _ r sql m err h
  have hlatest := runEvents_latestSql f tr ⟨q, []⟩ (by simp [LatestSql])
  obtain ⟨last, hlast⟩ : ∃ last, ((runEvents f ⟨q, []⟩ tr).runs.map RunEntry.sql).getLast? =
      some last := Option.isSome_iff_exists.mp (by
    simpa [List.getLast?_isSome] using List.ne_nil_of_length_pos
      (Nat.zero_lt_of_lt (List.getElem?_eq_some_iff.mp h).1))
  exact ⟨e, by simpa [runEvents_append, runEvents, step] using he,
    by rw [hsql, hlast, hlatest last hlast]⟩

/-- `PRAGMA INDEX_INFO(`name`)`, the run `handleShowIndexesQuery` starts for one index. -/
def indexInfoSql (name : String) : String := "PRAGMA INDEX_INFO(`" ++ name ++ "`)"

/-- `handleShowIndexesQuery(data)`: one run per index, the last listed first
(`data.reverse()`), all started before any of them resumes. -/
def showIndexesStarts (names : List String) : List RunEvent :=
  names.reverse.map fun name => .start (indexInfoSql name)

theorem runEvents_starts (f : Option String → String) :
    ∀ (sqls : List String) (s : QueryState),
      (runEvents f s (sqls.map .start)).runs.map RunEntry.sql = s.runs.map RunEntry.sql ++ sqls ∧
      ∀ i < s.runs.length, (runEvents f s (sqls.map .start)).runs[i]? = s.runs[i]?
  | [], s => by simp [runEvents]
  | sql :: sqls, s => by
    obtain ⟨h1, h2⟩ := runEvents_starts f sqls (start s sql)
    have hcons : runEvents f s ((sql :: sqls).map .start) =
        runEvents f (start s sql) (sqls.map .start) := rfl
    refine ⟨by simpa [hcons] using h1, fun i hi => ?_⟩
    rw [hcons, h2 i (by simp [start]; omega)]
    simp [start, List.getElem?_append_left hi]

/-- Runs started one after another: each awaits with the method its own SQL picks, and the
object keeps the SQL of the last. -/
theorem runEvents_start_map (f : Option String → String) :
    ∀ (sqls : List String) (s : QueryState),
      runEvents f s (sqls.map .start) = ⟨{ s.query with sql := sqls.getLast?.getD s.query.sql },
        s.runs ++ sqls.map fun sql => ⟨sql, .awaiting (getDatabaseMethod { s.query with sql := sql })⟩⟩
  | [], s => by simp [runEvents]
  | sql :: sqls, s => by
    rw [show runEvents f s ((sql :: sqls).map .start) = runEvents f (start s sql) (sqls.map .start)
      from rfl, runEvents_start_map f sqls (start s sql)]
    simp [start, List.getLast?_cons]

/-- When `handleShowIndexesQuery` lists two or more indexes and the engine call of the first
run it starts rejects, that run is annotated with the SQL of the last run it started. -/
theorem showIndexes_rejection_annotation (f : Option String → String) (q : TursoQuery)
    (a z : String) (mid : List String) (err : EngineError) :
    ∃ e, (runEvents f ⟨q, []⟩ (showIndexesStarts (a :: (mid ++ [z])) ++ [.reject 0 err])).runs[0]? =
        some ⟨indexInfoSql z, .failed e⟩ ∧ e.cause.sql = some (indexInfoSql a) := by
  have hrun : runEvents f ⟨q, []⟩ (showIndexesStarts (a :: (mid ++ [z]))) =
      runEvents f (start ⟨q, []⟩ (indexInfoSql z))
        ((mid.reverse.map indexInfoSql ++ [indexInfoSql a]).map .start) := by
    have hsqls : showIndexesStarts (a :: (mid ++ [z])) =
        .start (indexInfoSql z) :: (mid.reverse.map indexInfoSql ++ [indexInfoSql a]).map .start := by
      simp [showIndexesStarts]
    rw [hsqls]
    rfl
  obtain ⟨h1, h2⟩ := runEvents_starts f (mid.reverse.map indexInfoSql ++ [indexInfoSql a])
    (start ⟨q, []⟩ (indexInfoSql z))
  obtain ⟨e, he, hsql⟩ := runEvents_reject_annotation f q _ 0 (indexInfoSql z)
    (getDatabaseMethod { q with sql := indexInfoSql z }) err
    (by rw [hrun, h2 0 (by simp [start])]; simp [start])
  refine ⟨e, he, ?_⟩
  rw [hsql, hrun, h1]
  simp only [start, List.map_append, List.map_nil, List.map_cons, List.nil_append]
  rw [← List.append_assoc, List.getLast?_concat]

/-! ### Shaping the `PRAGMA INDEX_INFO` runs -/

theorem resolve_of_awaiting {s : QueryState} {r : Nat} {sql : String} {m : DatabaseMethod}
    (h : s.runs[r]? = some ⟨sql, .awaiting m⟩) (rows : List JsObject) (result : RunResult) :
    resolve s r rows result = { s with
      runs := s.runs.set r ⟨sql, .shaped (shapeSeries s.query (executeSeries m rows result))⟩ } := by
  simp [resolve, h]

theorem reject_of_awaiting (f : Option String → String) {s : QueryState} {r : Nat} {sql : String}
    {m : DatabaseMethod} (h : s.runs[r]? = some ⟨sql, .awaiting m⟩) (err : EngineError) :
    reject f s r err = { s with
      runs := s.runs.set r ⟨sql, .failed (formatError f s.query { err with sql := some s.query.sql })⟩ } := by
  simp [reject, h]

/-- A resolved run keeps its SQL and is shaped by the query object as it stands when the run
resumes. -/
theorem resolve_shapes (s : QueryState) (r : Nat) (rows : List JsObject) (result : RunResult)
    (sql : String) (m : DatabaseMethod) (h : s.runs[r]? = some ⟨sql, .awaiting m⟩) :
    (resolve s r rows result).runs[r]? =
      some ⟨sql, .shaped (shapeSeries s.query (executeSeries m rows result))⟩ := by
  simp [resolve, h, (List.getElem?_eq_some_iff.mp h).1]

/-- Runs only ever write `this.sql`: every other field is the one of the object they run on. -/
def SameObject (q : TursoQuery) (s : QueryState) : Prop := s.query = { q with sql := s.query.sql }

theorem runEvents_sameObject (f : Option String → String) (q : TursoQuery) :
    ∀ (trace : List RunEvent) (s : QueryState), SameObject q s →
      SameObject q (runEvents f s trace)
  | [], _, h => h
  | .start sql :: trace, s, h => runEvents_sameObject f q trace _ (by
      simp only [SameObject, step, start_query] at h ⊢
      rw [h])
  | .reject r err :: trace, s, h => runEvents_sameObject f q trace _ (by
      simpa only [SameObject, step, reject_query] using h)
  | .resolve r rows result :: trace, s, h => runEvents_sameObject f q trace _ (by
      simpa only [SameObject, step, resolve_query] using h)

/-- Without a new start, the runs keep their SQL. -/
theorem runEvents_sqls_of_no_start (f : Option String → String) :
    ∀ (trace : List RunEvent), (∀ e ∈ trace, ∀ sql, e ≠ .start sql) → ∀ (s : QueryState),
      (runEvents f s trace).runs.map RunEntry.sql = s.runs.map RunEntry.sql
  | [], _, _ => rfl
  | e :: trace, he, s => by
    have hrest := runEvents_sqls_of_no_start f trace
      (fun e' he' => he e' (List.mem_cons_of_mem e he')) (step f s e)
    rw [show runEvents f s (e :: trace) = runEvents f (step f s e) trace from rfl, hrest]
    cases e with
    | start sql => exact absurd rfl (he _ (List.mem_cons_self _ _) sql)
    | reject r err => exact reject_sqls f s r err
    | resolve r rows result => exact resolve_sqls s r rows result

theorem indexInfoSql_data (name : String) :
    (indexInfoSql name).data = "PRAGMA INDEX_INFO(".data ++ '`' :: (name.data ++ '`' :: [')']) := by
  simp [indexInfoSql]

/-- The lower-cased `PRAGMA INDEX_INFO` text starts with `p`, so with none of `show`,
`describe` and `insert into`. -/
theorem startsWith_lower_indexInfoSql (name pat : String)
    (hp : pat.data.head? = some 's' ∨ pat.data.head? = some 'd' ∨ pat.data.head? = some 'i') :
    startsWith (toLowerCase (indexInfoSql name)) pat = false := by
  rcases pat with ⟨_ | ⟨c, cs⟩⟩
  · simp at hp
  · simp only [String.data, List.head?_cons, Option.some.injEq] at hp
    simp [startsWith, toLowerCase, indexInfoSql_data, List.isPrefixOf]
    rcases hp with rfl | rfl | rfl <;> intro h <;> exact absurd h (by decide)

/-- On the `PRAGMA INDEX_LIST` query object, a `PRAGMA INDEX_INFO` text selects the
`INDEX_INFO` branch, unless the index name itself holds `PRAGMA INDEX_LIST`. -/
theorem indexInfo_branch (q : TursoQuery) (hq : q.options.type = .showIndexes) (name : String)
    (hn : ¬ "PRAGMA INDEX_LIST".data <:+: name.data) :
    responseBranch { q with sql := indexInfoSql name } = .indexInfo := by
  have hlist : includes "PRAGMA INDEX_LIST".data (indexInfoSql name).data = false := by
    rw [Bool.eq_false_iff, ne_eq, includes_iff, indexInfoSql_data]
    intro h
    rcases infix_of_infix_append_cons (by decide) h with h | h
    · exact absurd h (by decide)
    rcases infix_of_infix_append_cons (by decide) h with h | h
    · exact hn h
    · exact absurd h (by decide)
  have hinfo : includes "PRAGMA INDEX_INFO".data (indexInfoSql name).data = true := by
    rw [includes_iff, indexInfoSql_data]
    exact ⟨[], '(' :: '`' :: (name.data ++ ['`', ')']), by simp⟩
  have hi := startsWith_lower_indexInfoSql name "insert into" (by decide)
  have hs := startsWith_lower_indexInfoSql name "show" (by decide)
  have hd := startsWith_lower_indexInfoSql name "describe" (by decide)
  simp [responseBranch, readBranch, isInsertQuery, isUpdateQuery, isUpsertQuery,
    isBulkUpdateQuery, isDeleteQuery, isShowConstraintsQuery, isSelectQuery,
    isShowOrDescribeQuery, hq, hi, hs, hd, hlist, hinfo]

theorem shapeSeries_of_indexInfo (q q' : TursoQuery) (h : responseBranch q = .indexInfo)
    (h' : responseBranch q' = .indexInfo) (response : SeriesResponse) :
    shapeSeries q response = shapeSeries q' response := by
  simp only [shapeSeries, handleQueryResponse, h, h']

/-- The shaping half holds for `handleShowIndexesQuery`: whatever rejects and answers follow
the starts, and in whatever order, a run that resolves is shaped as its own SQL would shape
it, since every run there selects the `INDEX_INFO` branch. -/
theorem showIndexes_resolve_shapes_own_branch (f : Option String → String) (q : TursoQuery)
    (hq : q.options.type = .showIndexes) (names : List String)
    (hn : ∀ n ∈ names, ¬ "PRAGMA INDEX_LIST".data <:+: n.data) (tr : List RunEvent)
    (htr : ∀ e ∈ tr, ∀ sql, e ≠ .start sql) (r : Nat) (rows : List JsObject)
    (result : RunResult) (sql : String) (m : DatabaseMethod)
    (h : (runEvents f ⟨q, []⟩ (showIndexesStarts names ++ tr)).runs[r]? =
      some ⟨sql, .awaiting m⟩) :
    (runEvents f ⟨q, []⟩ (showIndexesStarts names ++ tr ++ [.resolve r rows result])).runs[r]? =
      some ⟨sql, .shaped (shapeSeries { q with sql := sql } (executeSeries m rows result))⟩ := by
  have hsqls : (runEvents f ⟨q, []⟩ (showIndexesStarts names ++ tr)).runs.map RunEntry.sql =
      names.reverse.map indexInfoSql := by
    rw [runEvents_append, runEvents_sqls_of_no_start f tr htr]
    simpa [showIndexesStarts, List.map_map] using
      (runEvents_starts f (names.reverse.map indexInfoSql) ⟨q, []⟩).1
  have hsame := runEvents_sameObject f q (showIndexesStarts names ++ tr) ⟨q, []⟩ rfl
  have hlatest := runEvents_latestSql f (showIndexesStarts names ++ tr) ⟨q, []⟩ (by simp [LatestSql])
  rw [runEvents_append]
  generalize runEvents f ⟨q, []⟩ (showIndexesStarts names ++ tr) = s at h hsqls hsame hlatest ⊢
  have hbranch : ∀ x ∈ s.runs.map RunEntry.sql,
      responseBranch { q with sql := x } = .indexInfo := by
    rw [hsqls]
    intro x hx
    obtain ⟨n, hn', rfl⟩ := List.mem_map.mp hx
    exact indexInfo_branch q hq n (hn n (List.mem_reverse.mp hn'))
  have hown : sql ∈ s.runs.map RunEntry.sql := List.mem_map_of_mem RunEntry.sql (List.getElem?_mem h)
  obtain ⟨last, hlast⟩ : ∃ last, (s.runs.map RunEntry.sql).getLast? = some last :=
    Option.isSome_iff_exists.mp (by simpa [List.getLast?_isSome] using List.ne_nil_of_mem hown)
  have hquery : s.query = { q with sql := last } := by rw [hsame, hlatest last hlast]
  refine (resolve_shapes s r rows result sql m h).trans ?_
  rw [hquery, shapeSeries_of_indexInfo _ _ (hbranch last (List.mem_of_mem_getLast? hlast))
    (hbranch sql hown)]

/-- The `PRAGMA INDEX_LIST` query whose rows `handleShowIndexesQuery` receives. -/
def showIndexesQuery : TursoQuery :=
  ⟨"PRAGMA INDEX_LIST(`users`)", ⟨.showIndexes, false, false⟩, none, none⟩

def busyError : EngineError := ⟨some "SQLITE_BUSY", "database is locked", none⟩

/-- Two indexes `email_idx` and `name_idx`: the run for `name_idx` starts first; when its
engine call rejects, its error carries the SQL of the run for `email_idx`. -/
theorem show_indexes_rejection_names_other_index :
    indexInfoSql "name_idx" ≠ indexInfoSql "email_idx" ∧
    ∃ e, (runEvents (fun _ => "") ⟨showIndexesQuery, []⟩
        (showIndexesStarts ["email_idx", "name_idx"] ++ [.reject 0 busyError])).runs[0]? =
        some ⟨indexInfoSql "name_idx", .failed e⟩ ∧
      e.cause.sql = some (indexInfoSql "email_idx") :=
  ⟨by decide, showIndexes_rejection_annotation _ _ "email_idx" "name_idx" [] busyError⟩

/-- After the run for `name_idx` is rejected, the run for `email_idx` resolves and is shaped as
its own `PRAGMA INDEX_INFO` query. -/
theorem email_follow_up_shaped_as_own :
    showIndexesQuery.options.type = .showIndexes ∧
    (∀ n ∈ ["email_idx", "name_idx"], ¬ "PRAGMA INDEX_LIST".data <:+: n.data) ∧
    (∀ e ∈ [RunEvent.reject 0 busyError], ∀ sql, e ≠ .start sql) ∧
    (runEvents (fun _ => "") ⟨showIndexesQuery, []⟩
        (showIndexesStarts ["email_idx", "name_idx"] ++ [.reject 0 busyError])).runs[1]? =
      some ⟨indexInfoSql "email_idx", .awaiting .all⟩ ∧
    (runEvents (fun _ => "") ⟨showIndexesQuery, []⟩
        (showIndexesStarts ["email_idx", "name_idx"] ++ [.reject 0 busyError] ++
          [.resolve 1 [] ⟨0, 0⟩])).runs[1]? =
      some ⟨indexInfoSql "email_idx", .shaped (shapeSeries
        { showIndexesQuery with sql := indexInfoSql "email_idx" } (executeSeries .all [] ⟨0, 0⟩))⟩ := by
  refine ⟨?hq, ?hn, ?htr, ?h,
    showIndexes_resolve_shapes_own_branch _ _ ?hq _ ?hn _ ?htr _ _ _ _ _ ?h⟩
  · rfl
  · decide
  · intro e he sql
    rw [List.mem_singleton.mp he]
    nofun
  · rfl

/-! ### One run at a time -/

section Direct

variable (f : Option String → String) (q : TursoQuery)

/-- `run(sql)` on `q` when no other run starts before it resumes: the answer is shaped under
its own SQL, and a rejection is annotated with that SQL and classified under it. -/
def directRun (sql : String) : Except EngineError (List JsObject × RunResult) → RunPhase
  | .ok (rows, result) => .shaped (shapeSeries { q with sql := sql }
      (executeSeries (getDatabaseMethod { q with sql := sql }) rows result))
  | .error err => .failed (formatError f { q with sql := sql } { err with sql := some sql })

/-- The engine's answer to run `r`, as an event. -/
def answerFor (r : Nat) : Except EngineError (List JsObject × RunResult) → RunEvent
  | .ok (rows, result) => .resolve r rows result
  | .error err => .reject r err

/-- Every run in flight awaits with the method its own SQL picks. -/
def OwnMethods (s : QueryState) : Prop :=
  ∀ (r : Nat) (sql : String) (m : DatabaseMethod), s.runs[r]? = some ⟨sql, .awaiting m⟩ →
    m = getDatabaseMethod { q with sql := sql }

theorem ownMethods_set {s : QueryState} (h : OwnMethods q s) (r : Nat) (x : RunEntry)
    (hx : ∀ m, x.phase ≠ .awaiting m) (query : TursoQuery) :
    OwnMethods q ⟨query, s.runs.set r x⟩ := by
  intro i sql m hi
  by_cases hir : r = i
  · subst hir
    rw [List.getElem?_set_self'] at hi
    obtain ⟨_, -, hx'⟩ := Option.map_eq_some'.mp hi
    exact absurd (congrArg RunEntry.phase hx') (hx m)
  · exact h i sql m (by rwa [List.getElem?_set_ne hir] at hi)

theorem step_ownMethods {s : QueryState} (hs : SameObject q s) (h : OwnMethods q s) :
    ∀ e, OwnMethods q (step f s e)
  | .start sql => by
    intro i sql' m hi
    simp only [step, start] at hi
    by_cases hlt : i < s.runs.length
    · exact h i sql' m (by rwa [List.getElem?_append_left hlt] at hi)
    · rw [List.getElem?_append_right (by omega)] at hi
      cases hk : i - s.runs.length with
      | zero =>
        simp only [hk, List.getElem?_cons_zero, Option.some.injEq, RunEntry.mk.injEq,
          RunPhase.awaiting.injEq] at hi
        rw [← hi.2, ← hi.1, hs]
      | succ k => simp [hk] at hi
  | .reject r err => by
    show OwnMethods q (reject f s r err)
    unfold reject
    split
    · exact ownMethods_set q h r _ (fun _ hm => by cases hm) _
    · exact h
  | .resolve r rows result => by
    show OwnMethods q (resolve s r rows result)
    unfold resolve
    split
    · exact ownMethods_set q h r _ (fun _ hm => by cases hm) _
    · exact h

theorem runEvents_ownMethods :
    ∀ (trace : List RunEvent) (s : QueryState), SameObject q s → OwnMethods q s →
      OwnMethods q (runEvents f s trace)
  | [], _, _, h => h
  | e :: trace, s, hs, h => runEvents_ownMethods trace (step f s e)
      (runEvents_sameObject f q [e] s hs) (step_ownMethods f q hs h e)

/-- Whatever else is in flight, a run that resumes before any other run has started on the
object is shaped, or annotated and classified, as a direct call of its own SQL. -/
theorem latest_run_is_direct (trace : List RunEvent) (r : Nat) (sql : String) (m : DatabaseMethod)
    (h : (runEvents f ⟨q, []⟩ trace).runs[r]? = some ⟨sql, .awaiting m⟩)
    (hlatest : (runEvents f ⟨q, []⟩ trace).runs.length = r + 1)
    (answer : Except EngineError (List JsObject × RunResult)) :
    (runEvents f ⟨q, []⟩ (trace ++ [answerFor r answer])).runs[r]? =
      some ⟨sql, directRun f q sql answer⟩ := by
  have hsame := runEvents_sameObject f q trace ⟨q, []⟩ rfl
  have hlast := runEvents_latestSql f trace ⟨q, []⟩ (by simp [LatestSql])
  have hown := runEvents_ownMethods f q trace ⟨q, []⟩ rfl fun _ _ _ h => by simp at h
  rw [runEvents_append]
  generalize runEvents f ⟨q, []⟩ trace = s at h hlatest hsame hlast hown ⊢
  have hsql : s.query = { q with sql := sql } := by
    have hl : (s.runs.map RunEntry.sql).getLast? = some sql := by
      rw [List.getLast?_eq_getElem?, List.length_map, hlatest, Nat.add_sub_cancel,
        List.getElem?_map, h]
      rfl
    rw [hsame, hlast sql hl]
  cases answer with
  | ok a =>
    show (resolve s r a.1 a.2).runs[r]? = _
    rw [resolve_shapes s r a.1 a.2 sql m h, hsql, hown r sql m h]
    rfl
  | error err =>
    show (reject f s r err).runs[r]? = _
    rw [reject_of_awaiting f h, List.getElem?_set_self (List.getElem?_eq_some_iff.mp h).1, hsql]
    rfl

end Direct

/-- Two follow-ups in flight: the one started last is rejected first, and fails as a direct
call of its own SQL. -/
theorem latest_follow_up_fails_directly :
    (runEvents (fun _ => "") ⟨showIndexesQuery, []⟩ (showIndexesStarts ["email_idx", "name_idx"])).runs[1]? =
      some ⟨indexInfoSql "email_idx", .awaiting .all⟩ ∧
    (runEvents (fun _ => "") ⟨showIndexesQuery, []⟩ (showIndexesStarts ["email_idx", "name_idx"])).runs.length =
      1 + 1 ∧
    (runEvents (fun _ => "") ⟨showIndexesQuery, []⟩
        (showIndexesStarts ["email_idx", "name_idx"] ++ [answerFor 1 (.error busyError)])).runs[1]? =
      some ⟨indexInfoSql "email_idx",
        directRun (fun _ => "") showIndexesQuery (indexInfoSql "email_idx") (.error busyError)⟩ := by
  refine ⟨?run, ?latest, latest_run_is_direct (fun _ => "") showIndexesQuery _ 1 _ _ ?run ?latest _⟩
  · rfl
  · rfl

end SequelizeTurso.Run

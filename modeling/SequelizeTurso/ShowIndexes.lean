import Mathlib.Data.List.Sort
import SequelizeTurso.Run

/-!
`handleShowIndexesQuery(data)` on the query object that received the `PRAGMA INDEX_LIST`
rows. Each index gets a `PRAGMA INDEX_INFO` run; all of them start before the first one
resumes, and the engine answers them in any order. Each answer is shaped under the
`this.sql` of that moment, the SQL of the run started last, and the shaper may hand the rows
back to `handleShowIndexesQuery`. The model keeps every such call, the item whose answer
made it, and `Promise.all` over each call's items; the runs themselves are the steps of `Run`.
-/

namespace SequelizeTurso.ShowIndexes

open Js Query FormatError Response Run TursoQuery
open scoped List

/-- `{ attribute: column.name, length: undefined, order: undefined }`. -/
structure IndexField where
  «attribute» : JsValue
  length : JsValue
  order : JsValue
  deriving DecidableEq, Repr

def indexField (column : JsObject) : IndexField := ⟨column.get "name", .undefined, .undefined⟩

/-- `for (const column of columns) item.fields[column.seqno] = { .. }`, from `item.fields = []`. -/
def fieldsOf (columns : List JsObject) : JsArray IndexField :=
  columns.foldl (fun fields column => fields.set (column.get "seqno") (indexField column)) .empty

/-- `${item.name}`. -/
def itemName (item : JsObject) : String := (item.get "name").toPropertyKey

/-- `item.primary = false; item.unique = Boolean(item.unique); item.constraintName = item.name;`
The write `item.fields = []` is kept apart, as the entry's `fields`. -/
def prepareItem (item : JsObject) : JsObject :=
  ((item.set "primary" (.bool false)).set "unique" (.bool (item.get "unique").toBoolean)).set
    "constraintName" (item.get "name")

/-- An item as `handleShowIndexesQuery` returns it. -/
structure IndexEntry where
  item : JsObject
  fields : JsArray IndexField

/-- Why an item's callback threw. -/
inductive ShowError
  /-- The engine call rejected, and `run` threw `this.formatError(error)`. -/
  | query (error : SequelizeError)
  /-- `_handleQueryResponse` threw. -/
  | response (error : QueryError)
  /-- The answer was shaped by another branch. None can be: a query object that reaches
  `handleShowIndexesQuery` shapes every follow-up by one of the two `PRAGMA` branches
  (`responseBranch_followUp`). -/
  | otherResponse (response : QueryResponse)

/-- Where an item's callback stands. -/
inductive ItemPhase
  /-- `await this.run(..)`, with run `r` in flight. -/
  | running (r : Nat)
  /-- The rows of the run went to `handleShowIndexesQuery`: call `c` is in flight. -/
  | nested (c : Nat)
  /-- The callback returned the item, with these `fields`. -/
  | done (fields : JsArray IndexField)
  | failed (error : ShowError)

/-- One call of `handleShowIndexesQuery`. -/
structure ShowCall where
  /-- `data.reverse()`, each item after its writes. -/
  items : List JsObject
  phases : List ItemPhase
  /-- The item whose run's rows made this call; `none` for the first call. -/
  parent : Option (Nat × Nat)
  /-- How `Promise.all` over the callbacks settled. -/
  settled : Option (Except ShowError (List IndexEntry))

/-- The query object with its runs, the call and item each run belongs to, and the calls in
the order they started. -/
structure ShowState where
  query : QueryState
  owner : List (Nat × Nat)
  calls : List ShowCall

/-! ### Steps -/

/-- The entries, once every callback has returned. -/
def returned : List JsObject → List ItemPhase → Option (List IndexEntry)
  | [], [] => some []
  | item :: items, .done fields :: phases => (returned items phases).map (⟨item, fields⟩ :: ·)
  | _, _ => none

/-- Item `p`'s callback ends with `o`. `Promise.all` rejects with the first callback that
throws, and resolves once every callback has returned. -/
def ShowCall.finishItem (call : ShowCall) (p : Nat) (o : Except ShowError (JsArray IndexField)) :
    ShowCall :=
  let phases := call.phases.set p (match o with
    | .ok fields => .done fields
    | .error e => .failed e)
  { call with
    phases := phases
    settled := call.settled.or (match o with
      | .ok _ => (returned call.items phases).map .ok
      | .error e => some (.error e)) }

/-- Item `p` of call `c` ends with `o`; when that settles the call, the item awaiting the
call resumes with its entries as `columns`. `fuel` bounds the nesting of calls. -/
def finish : Nat → List ShowCall → Nat → Nat → Except ShowError (JsArray IndexField) →
    List ShowCall
  | 0, calls, _, _, _ => calls
  | fuel + 1, calls, c, p, o =>
    match calls[c]? with
    | none => calls
    | some call =>
      match call.settled, (call.finishItem p o).settled, call.parent with
      | none, some v, some (c', p') =>
        finish fuel (calls.set c (call.finishItem p o)) c' p'
          (v.map fun entries => fieldsOf (entries.map IndexEntry.item))
      | _, _, _ => calls.set c (call.finishItem p o)

/-- Item `p` of call `c` now awaits `phase`. -/
def setPhase (calls : List ShowCall) (c p : Nat) (phase : ItemPhase) : List ShowCall :=
  match calls[c]? with
  | some call => calls.set c { call with phases := call.phases.set p phase }
  | none => calls

section Calls

variable (getUniqueConstraintErrorMessage : Option String → String)

/-- `handleShowIndexesQuery(data)` up to its first `await`: the items are written and their
runs started, the last index first; `Promise.all([])` settles at once. -/
def handleShowIndexesQuery (s : ShowState) (data : List JsObject) (parent : Option (Nat × Nat)) :
    ShowState :=
  let call : ShowCall :=
    ⟨data.reverse.map prepareItem, data.reverse.mapIdx fun p _ => .running (s.query.runs.length + p),
      parent, if data.isEmpty then some (.ok []) else none⟩
  let s' : ShowState :=
    ⟨runEvents getUniqueConstraintErrorMessage s.query (showIndexesStarts (data.map itemName)),
      s.owner ++ data.reverse.mapIdx fun p _ => (s.calls.length, p), s.calls ++ [call]⟩
  match data, parent with
  | [], some (c, p) => { s' with calls := finish s'.calls.length s'.calls c p (.ok (fieldsOf [])) }
  | _, _ => s'

/-- What item `p` of call `c` does once its run has resumed: the rows are its `columns`, the
rows of the `PRAGMA INDEX_LIST` branch go to a new call first, and a failure is thrown. -/
def resumeItem (s : ShowState) (c p : Nat) : RunPhase → ShowState
  | .shaped (.ok (.rows columns)) =>
    { s with calls := finish s.calls.length s.calls c p (.ok (fieldsOf columns)) }
  | .shaped (.ok (.showIndexes data)) =>
    handleShowIndexesQuery getUniqueConstraintErrorMessage
      { s with calls := setPhase s.calls c p (.nested s.calls.length) } data (some (c, p))
  | .shaped (.ok response) =>
    { s with calls := finish s.calls.length s.calls c p (.error (.otherResponse response)) }
  | .shaped (.error e) => { s with calls := finish s.calls.length s.calls c p (.error (.response e)) }
  | .failed e => { s with calls := finish s.calls.length s.calls c p (.error (.query e)) }
  | .awaiting _ => s

variable (engine : String → Except EngineError (List JsObject × RunResult))

/-- The engine's answer to the text of run `r`: the rows of `stmt.all` and the result of
`stmt.run`, or a rejection. -/
def answerEvent (r : Nat) (sql : String) : RunEvent :=
  match engine sql with
  | .ok (rows, result) => .resolve r rows result
  | .error err => .reject r err

/-- The engine answers run `r`: the run resumes, then the item that awaited it. -/
def settle (s : ShowState) (r : Nat) : ShowState :=
  match s.query.runs[r]?, s.owner[r]? with
  | some ⟨sql, .awaiting _⟩, some (c, p) =>
    let query := Run.step getUniqueConstraintErrorMessage s.query (answerEvent engine r sql)
    match query.runs[r]? with
    | some entry => resumeItem getUniqueConstraintErrorMessage { s with query := query } c p entry.phase
    | none => s
  | _, _ => s

/-- The engine answers the runs in the order `schedule` names them. -/
def runSchedule (s : ShowState) (schedule : List Nat) : ShowState :=
  schedule.foldl (settle getUniqueConstraintErrorMessage engine) s

theorem runSchedule_append_singleton (s : ShowState) (schedule : List Nat) (r : Nat) :
    runSchedule getUniqueConstraintErrorMessage engine s (schedule ++ [r]) =
      settle getUniqueConstraintErrorMessage engine
        (runSchedule getUniqueConstraintErrorMessage engine s schedule) r := by
  simp [runSchedule]

end Calls

/-- `handleShowIndexesQuery(data)` on the query object `q`, which has no run in flight. -/
def start (getUniqueConstraintErrorMessage : Option String → String) (q : TursoQuery)
    (data : List JsObject) : ShowState :=
  handleShowIndexesQuery getUniqueConstraintErrorMessage ⟨⟨q, []⟩, [], []⟩ data none

/-- What the promise of the first call settled with. -/
def result (s : ShowState) : Option (Except ShowError (List IndexEntry)) :=
  s.calls[0]?.bind ShowCall.settled

/-! ### The follow-up runs -/

/-- A query object shaped by the `PRAGMA INDEX_LIST` branch has none of the types that the
earlier branches, or the choice of `stmt.run`, test. -/
theorem types_of_showIndexes {q : TursoQuery} (hq : responseBranch q = .showIndexes) :
    (q.options.type == .insert) = false ∧ q.isUpdateQuery = false ∧ q.isUpsertQuery = false ∧
      q.isBulkUpdateQuery = false ∧ q.isDeleteQuery = false ∧ q.isShowConstraintsQuery = false ∧
      q.isSelectQuery = false := by
  unfold responseBranch readBranch at hq
  rcases ite_eq_iff.mp hq with ⟨-, h⟩ | ⟨hm, hq⟩; · cases h
  rcases ite_eq_iff.mp hq with ⟨-, h⟩ | ⟨hb, hq⟩; · cases h
  rcases ite_eq_iff.mp hq with ⟨-, h⟩ | ⟨hd, hq⟩; · cases h
  rcases ite_eq_iff.mp hq with ⟨-, h⟩ | ⟨hc, hq⟩; · cases h
  rcases ite_eq_iff.mp hq with ⟨-, h⟩ | ⟨hs, -⟩; · cases h
  simp only [isInsertQuery, Bool.or_eq_true, not_or, Bool.not_eq_true] at hm hb hd hc hs
  exact ⟨hm.1.1.1, hm.1.2, hm.2, hb, hd, hc, hs⟩

theorem infix_wrap_iff {pat pre name : List Char} (hb : '`' ∉ pat) (hpre : ¬ pat <:+: pre)
    (hsuf : ¬ pat <:+: [')']) : pat <:+: pre ++ '`' :: (name ++ ['`', ')']) ↔ pat <:+: name := by
  constructor
  · intro h
    rcases infix_of_infix_append_cons hb h with h | h
    · exact absurd h hpre
    rcases infix_of_infix_append_cons hb h with h | h
    · exact h
    · exact absurd h hsuf
  · intro h
    exact h.trans ⟨pre ++ ['`'], ['`', ')'], by simp⟩

/-- On such an object a `PRAGMA INDEX_INFO` run is shaped by the `PRAGMA INDEX_LIST` branch
when the index name holds that phrase, and by the `PRAGMA INDEX_INFO` branch otherwise. -/
theorem responseBranch_followUp {q : TursoQuery} (hq : responseBranch q = .showIndexes)
    (name : String) :
    responseBranch { q with sql := indexInfoSql name } =
      if includes "PRAGMA INDEX_LIST".data name.data then .showIndexes else .indexInfo := by
  obtain ⟨hi, hu, hup, hb, hd, hc, hs⟩ := types_of_showIndexes hq
  have hinfo : includes "PRAGMA INDEX_INFO".data (indexInfoSql name).data = true := by
    rw [includes_iff, indexInfoSql_data]
    exact ⟨[], '(' :: '`' :: (name.data ++ ['`', ')']), by simp⟩
  have hlist : includes "PRAGMA INDEX_LIST".data (indexInfoSql name).data =
      includes "PRAGMA INDEX_LIST".data name.data := by
    rw [Bool.eq_iff_iff, includes_iff, includes_iff, indexInfoSql_data]
    exact infix_wrap_iff (by decide) (by decide) (by decide)
  have hins := startsWith_lower_indexInfoSql name "insert into" (by decide)
  have hsh := startsWith_lower_indexInfoSql name "show" (by decide)
  have hde := startsWith_lower_indexInfoSql name "describe" (by decide)
  simp only [responseBranch, readBranch, isInsertQuery, isShowOrDescribeQuery, hins, hsh, hde,
    hinfo, hlist, hi, Bool.or_false, Bool.false_or]
  simp only [isUpdateQuery, isUpsertQuery, isBulkUpdateQuery, isDeleteQuery,
    isShowConstraintsQuery, isSelectQuery] at hu hup hb hd hc hs ⊢
  simp only [hu, hup, hb, hd, hc, hs, Bool.false_or, Bool.false_eq_true, if_false, if_true]

theorem toLowerCase_indexInfoSql_data (name : String) :
    (toLowerCase (indexInfoSql name)).data =
      "pragma index_info(".data ++ '`' :: ((toLowerCase name).data ++ ['`', ')']) := by
  simp only [toLowerCase, indexInfoSql_data, List.map_append, List.map_cons, List.map_nil]
  rfl

/-- A follow-up is run with `stmt.run` exactly when the index name holds
`create temporary table`, in any case. -/
theorem getDatabaseMethod_followUp {q : TursoQuery} (hq : responseBranch q = .showIndexes)
    (name : String) :
    getDatabaseMethod { q with sql := indexInfoSql name } =
      if includes "create temporary table".data (toLowerCase name).data then .run else .all := by
  obtain ⟨hi, hu, hup, hb, hd, -, -⟩ := types_of_showIndexes hq
  have hins := startsWith_lower_indexInfoSql name "insert into" (by decide)
  have htemp : includes (toLowerCase "CREATE TEMPORARY TABLE").data
      (toLowerCase (indexInfoSql name)).data =
        includes "create temporary table".data (toLowerCase name).data := by
    rw [show toLowerCase "CREATE TEMPORARY TABLE" = "create temporary table" from rfl,
      Bool.eq_iff_iff, includes_iff, includes_iff, toLowerCase_indexInfoSql_data]
    exact infix_wrap_iff (by decide) (by decide) (by decide)
  simp only [isUpdateQuery, isUpsertQuery, isBulkUpdateQuery, isDeleteQuery] at hu hup hb hd
  simp only [getDatabaseMethod, isBulkUpdateQuery, isInsertQuery, isUpdateQuery, isUpsertQuery,
    isDeleteQuery, hins, hi, hu, hup, hb, hd, htemp, Bool.or_false, Bool.false_or,
    Bool.false_eq_true, if_false]

/-! ### When no follow-up starts a call -/

theorem returned_map_done (F : JsObject → JsArray IndexField) :
    ∀ items : List JsObject, returned (items.map prepareItem) (items.map fun item => .done (F item)) =
      some (items.map fun item => ⟨prepareItem item, F item⟩)
  | [] => rfl
  | item :: items => by simp [returned, returned_map_done F items]

theorem returned_eq_none_of_running :
    ∀ (items : List JsObject) (phases : List ItemPhase) (p r : Nat),
      phases[p]? = some (.running r) → returned items phases = none
  | [], [], _, _, h => by simp at h
  | [], _ :: _, _, _, _ => rfl
  | _ :: _, [], _, _, _ => rfl
  | item :: items, phase :: phases, p, r, h => by
    cases phase with
    | done fields =>
      cases p with
      | zero => simp at h
      | succ p =>
        rw [List.getElem?_cons_succ] at h
        simp [returned, returned_eq_none_of_running items phases p r h]
    | running _ | nested _ | failed _ => rfl

theorem mapIdx_set {α β : Type} {l : List α} {r : Nat} {x : α} (h : l[r]? = some x)
    (f g : Nat → α → β) :
    (l.mapIdx f).set r (g r x) = l.mapIdx fun p y => if p = r then g p y else f p y := by
  apply List.ext_getElem?
  intro n
  rw [List.getElem?_set, List.getElem?_mapIdx, List.getElem?_mapIdx, List.length_mapIdx]
  by_cases hn : n = r
  · subst hn
    simp [h, (List.getElem?_eq_some_iff.mp h).1]
  · simp [hn, Ne.symm hn]

theorem mapIdx_congr {α β : Type} {l : List α} {f g : Nat → α → β}
    (h : ∀ p < l.length, ∀ x, f p x = g p x) : l.mapIdx f = l.mapIdx g :=
  List.ext_getElem (by simp) fun n hn _ => by
    simp only [List.getElem_mapIdx]
    exact h n (by simpa using hn) _

section Flat

variable (q : TursoQuery) (L : List JsObject)

/-- The rows the follow-up of `item` is shaped with: `stmt.all` returns the engine's rows,
`stmt.run` none. -/
def columnsOf (answerOf : JsObject → List JsObject × RunResult) (item : JsObject) : List JsObject :=
  (executeSeries (getDatabaseMethod { q with sql := indexInfoSql (itemName item) })
    (answerOf item).1 (answerOf item).2).results

/-- The SQL the object holds once the follow-ups have started: that of the first index. -/
def lastSql : String := (L.head?.map fun item => indexInfoSql (itemName item)).getD q.sql

/-- Under that SQL an answer is shaped by the `PRAGMA INDEX_INFO` branch, unless the first
index's name holds `PRAGMA INDEX_LIST`. -/
theorem lastSql_branch {q : TursoQuery} (hq : responseBranch q = .showIndexes) {L : List JsObject}
    (hhead : ∀ item ∈ L.head?, ¬ "PRAGMA INDEX_LIST".data <:+: (itemName item).data)
    (hne : L ≠ []) : responseBranch { q with sql := lastSql q L } = .indexInfo := by
  obtain ⟨first, rest, rfl⟩ := List.exists_cons_of_ne_nil hne
  rw [lastSql, List.head?_cons, Option.map_some', Option.getD_some, responseBranch_followUp hq,
    if_neg (by simpa [includes_iff] using hhead first (by simp))]

variable (f : Option String → String)
  (answer : JsObject → Except EngineError (List JsObject × RunResult))

/-- A rejected follow-up as `run` throws it: annotated with the SQL the object holds, and
classified under it. -/
def failureOf (err : EngineError) : SequelizeError :=
  formatError f { q with sql := lastSql q L } { err with sql := some (lastSql q L) }

/-- The phase of an answered follow-up, when every answer is shaped by the
`PRAGMA INDEX_INFO` branch. -/
def answeredPhase (item : JsObject) : RunPhase :=
  match answer item with
  | .ok a => .shaped (.ok (.rows (columnsOf q (fun _ => a) item)))
  | .error err => .failed (failureOf q L f err)

theorem answeredPhase_ne_awaiting (item : JsObject) (m : DatabaseMethod) :
    answeredPhase q L f answer item ≠ .awaiting m := by
  unfold answeredPhase
  split <;> nofun

/-- How the callback of `item` ends once its follow-up is answered. -/
def itemOutcome (item : JsObject) : Except ShowError (JsArray IndexField) :=
  match answer item with
  | .ok a => .ok (fieldsOf (columnsOf q (fun _ => a) item))
  | .error err => .error (.query (failureOf q L f err))

/-- The error of an outcome, if it is one. -/
def errorOf : Except ShowError (JsArray IndexField) → Option ShowError
  | .ok _ => none
  | .error e => some e

/-- What the callback of run `r` throws, if its follow-up is rejected. -/
def failureAt (r : Nat) : Option ShowError :=
  L.reverse[r]?.bind fun item => errorOf (itemOutcome q L f answer item)

/-- Run `p`, answered or not. -/
def flatRun (done : Nat → Bool) (p : Nat) (item : JsObject) : RunEntry :=
  ⟨indexInfoSql (itemName item),
    if done p then answeredPhase q L f answer item
    else .awaiting (getDatabaseMethod { q with sql := indexInfoSql (itemName item) })⟩

/-- The phase `finishItem` writes for an outcome. -/
def outcomePhase : Except ShowError (JsArray IndexField) → ItemPhase
  | .ok fields => .done fields
  | .error e => .failed e

def flatPhase (done : Nat → Bool) (p : Nat) (item : JsObject) : ItemPhase :=
  if done p then outcomePhase (itemOutcome q L f answer item) else .running p

/-- The state once the runs in `done` have been answered, `failure` being the first rejection
among them, when every answer is shaped by the `PRAGMA INDEX_INFO` branch. -/
def flatState (done : Nat → Bool) (failure : Option ShowError) : ShowState :=
  ⟨⟨{ q with sql := lastSql q L }, L.reverse.mapIdx (flatRun q L f answer done)⟩,
    L.reverse.mapIdx fun p _ => (0, p),
    [⟨L.reverse.map prepareItem, L.reverse.mapIdx (flatPhase q L f answer done), none,
      (failure.map .error).or ((returned (L.reverse.map prepareItem)
        (L.reverse.mapIdx (flatPhase q L f answer done))).map .ok)⟩]⟩

theorem flatState_congr {done done' : Nat → Bool} (h : ∀ p < L.length, done p = done' p)
    (failure : Option ShowError) :
    flatState q L f answer done failure = flatState q L f answer done' failure := by
  have hd : ∀ p < L.reverse.length, done p = done' p := fun p hp => h p (by simpa using hp)
  have hrun : L.reverse.mapIdx (flatRun q L f answer done) =
      L.reverse.mapIdx (flatRun q L f answer done') :=
    mapIdx_congr fun p hp _ => by simp only [flatRun, hd p hp]
  have hphase : L.reverse.mapIdx (flatPhase q L f answer done) =
      L.reverse.mapIdx (flatPhase q L f answer done') :=
    mapIdx_congr fun p hp _ => by simp only [flatPhase, hd p hp]
  simp only [flatState, hrun, hphase]

theorem flatState_run (done : Nat → Bool) (failure : Option ShowError) (r : Nat) :
    (flatState q L f answer done failure).query.runs[r]? =
      L.reverse[r]?.map (flatRun q L f answer done r) :=
  List.getElem?_mapIdx

theorem flatState_owner (done : Nat → Bool) (failure : Option ShowError) (r : Nat) :
    (flatState q L f answer done failure).owner[r]? = L.reverse[r]?.map fun _ => (0, r) :=
  List.getElem?_mapIdx

theorem start_eq_flatState : start f q L = flatState q L f answer (fun _ => false) none := by
  have hsqls : showIndexesStarts (L.map itemName) =
      (L.reverse.map fun item => indexInfoSql (itemName item)).map .start := by
    simp [showIndexesStarts, List.map_reverse]
  have hlast : (L.reverse.map fun item => indexInfoSql (itemName item)).getLast?.getD q.sql =
      lastSql q L := by
    simp [lastSql, List.getLast?_reverse]
  have hruns : (L.reverse.map fun item => indexInfoSql (itemName item)).map
      (fun sql => (⟨sql, .awaiting (getDatabaseMethod { q with sql := sql })⟩ : RunEntry)) =
        L.reverse.mapIdx (flatRun q L f answer fun _ => false) := by
    apply List.ext_getElem?
    intro n
    rw [List.map_map, List.getElem?_map, List.getElem?_mapIdx]
    cases L.reverse[n]? <;> rfl
  have hsettled : (if L.isEmpty then some (.ok []) else none :
      Option (Except ShowError (List IndexEntry))) =
        (returned (L.reverse.map prepareItem)
          (L.reverse.mapIdx (flatPhase q L f answer fun _ => false))).map .ok := by
    cases hL : L.reverse with
    | nil => simp [List.reverse_eq_nil_iff.mp hL, returned]
    | cons x xs =>
      have hne : L ≠ [] := fun h => by simp [h] at hL
      simp [hne, returned, flatPhase]
  simp only [start, handleShowIndexesQuery, hsqls, runEvents_start_map, hlast, hruns,
    List.nil_append, List.length_nil, Nat.zero_add, hsettled, flatState, Option.map_none',
    Option.none_or]
  cases L <;> rfl

theorem set_flatRun {done : Nat → Bool} {r : Nat} {item : JsObject}
    (hr : L.reverse[r]? = some item) :
    (L.reverse.mapIdx (flatRun q L f answer done)).set r
        (flatRun q L f answer (fun _ => true) r item) =
      L.reverse.mapIdx (flatRun q L f answer fun p => done p || p == r) := by
  rw [mapIdx_set hr]
  congr 1
  funext p y
  by_cases hp : p = r <;> simp [flatRun, hp]

theorem set_flatPhase {done : Nat → Bool} {r : Nat} {item : JsObject}
    (hr : L.reverse[r]? = some item) :
    (L.reverse.mapIdx (flatPhase q L f answer done)).set r
        (flatPhase q L f answer (fun _ => true) r item) =
      L.reverse.mapIdx (flatPhase q L f answer fun p => done p || p == r) := by
  rw [mapIdx_set hr]
  congr 1
  funext p y
  by_cases hp : p = r <;> simp [flatPhase, hp]

end Flat

theorem finish_root (call : ShowCall) (hp : call.parent = none) (p : Nat)
    (o : Except ShowError (JsArray IndexField)) : finish 1 [call] 0 p o = [call.finishItem p o] := by
  simp only [finish, List.getElem?_cons_zero, hp]
  split <;> simp_all

theorem shapeSeries_of_indexInfo_branch {q : TursoQuery} (h : responseBranch q = .indexInfo)
    (response : SeriesResponse) : shapeSeries q response = .ok (.rows response.results) := by
  simp only [shapeSeries, handleQueryResponse, h]
  rfl

section Settle

variable (f : Option String → String) (engine : String → Except EngineError (List JsObject × RunResult))

theorem settle_of_not_awaiting {s : ShowState} {r : Nat}
    (h : ∀ sql m, s.query.runs[r]? ≠ some ⟨sql, .awaiting m⟩) : settle f engine s r = s := by
  unfold settle
  split
  · rename_i sql m c p hrun _
    exact absurd hrun (h sql m)
  · rfl

/-- The engine answers run `r` with rows: the run is shaped under the object's current SQL,
and its item resumes with the result. -/
theorem settle_of_rows {s : ShowState} {r c p : Nat} {sql : String} {m : DatabaseMethod}
    {answer : List JsObject × RunResult} (hrun : s.query.runs[r]? = some ⟨sql, .awaiting m⟩)
    (howner : s.owner[r]? = some (c, p)) (hengine : engine sql = .ok answer) :
    settle f engine s r = resumeItem f { s with query := resolve s.query r answer.1 answer.2 } c p
      (.shaped (shapeSeries s.query.query (executeSeries m answer.1 answer.2))) := by
  simp only [settle, hrun, howner, answerEvent, hengine, Run.step,
    resolve_shapes s.query r answer.1 answer.2 sql m hrun]

/-- The engine rejects run `r`: the run fails with the error annotated and classified under
the object's current SQL, and its item resumes with it. -/
theorem settle_of_rejection {s : ShowState} {r c p : Nat} {sql : String} {m : DatabaseMethod}
    {err : EngineError} (hrun : s.query.runs[r]? = some ⟨sql, .awaiting m⟩)
    (howner : s.owner[r]? = some (c, p)) (hengine : engine sql = .error err) :
    settle f engine s r = resumeItem f { s with query := reject f s.query r err } c p
      (.failed (formatError f s.query.query { err with sql := some s.query.query.sql })) := by
  simp only [settle, hrun, howner, answerEvent, hengine, Run.step, reject_of_awaiting f hrun,
    List.getElem?_set_self (List.getElem?_eq_some_iff.mp hrun).1]

end Settle

section Answers

variable (q : TursoQuery) (L : List JsObject) (f : Option String → String)
  (answer : JsObject → Except EngineError (List JsObject × RunResult))
  (engine : String → Except EngineError (List JsObject × RunResult))

theorem resumeItem_answeredPhase (s : ShowState) (c p : Nat) (item : JsObject) :
    resumeItem f s c p (answeredPhase q L f answer item) =
      { s with calls := finish s.calls.length s.calls c p (itemOutcome q L f answer item) } := by
  unfold answeredPhase itemOutcome
  split <;> rfl

theorem settled_finishItem (failure : Option ShowError) (o : Except ShowError (JsArray IndexField))
    (ret : Option (List IndexEntry)) :
    (failure.map Except.error).or (match o with
      | .ok _ => ret.map .ok
      | .error e => some (.error e)) = ((failure.or (errorOf o)).map .error).or (ret.map .ok) := by
  cases failure <;> cases o <;> rfl

theorem settle_flatState_running (hbranch : responseBranch { q with sql := lastSql q L } = .indexInfo)
    {done : Nat → Bool} {failure : Option ShowError} {r : Nat} {item : JsObject}
    (hr : L.reverse[r]? = some item) (hd : done r = false)
    (hengine : engine (indexInfoSql (itemName item)) = answer item) :
    settle f engine (flatState q L f answer done failure) r =
      resumeItem f { flatState q L f answer done failure with
        query := ⟨{ q with sql := lastSql q L }, (L.reverse.mapIdx (flatRun q L f answer done)).set
          r (flatRun q L f answer (fun _ => true) r item)⟩ } 0 r (answeredPhase q L f answer item) := by
  have hrun : (flatState q L f answer done failure).query.runs[r]? =
      some ⟨indexInfoSql (itemName item),
        .awaiting (getDatabaseMethod { q with sql := indexInfoSql (itemName item) })⟩ := by
    simp [flatState_run, hr, flatRun, hd]
  have howner : (flatState q L f answer done failure).owner[r]? = some (0, r) := by
    simp [flatState_owner, hr]
  cases ha : answer item with
  | ok a =>
    rw [settle_of_rows f engine hrun howner (hengine.trans ha), resolve_of_awaiting hrun,
      show (flatState q L f answer done failure).query.query = { q with sql := lastSql q L } from rfl,
      shapeSeries_of_indexInfo_branch hbranch]
    simp only [flatRun, answeredPhase, ha, if_true]
    rfl
  | error err =>
    rw [settle_of_rejection f engine hrun howner (hengine.trans ha), reject_of_awaiting f hrun]
    simp only [flatRun, answeredPhase, ha, if_true]
    rfl

/-- One answer, when the first index's name does not hold `PRAGMA INDEX_LIST` and the engine
gives the follow-up of every index its answer: the run is shaped by the `PRAGMA INDEX_INFO`
branch, or fails; its item ends; a rejection is recorded when none was. An answer to no run
in flight changes nothing. -/
theorem settle_flatState (hq : responseBranch q = .showIndexes)
    (hhead : ∀ item ∈ L.head?, ¬ "PRAGMA INDEX_LIST".data <:+: (itemName item).data)
    (hengine : ∀ item ∈ L, engine (indexInfoSql (itemName item)) = answer item)
    (done : Nat → Bool) (failure : Option ShowError)
    (hrec : failure = none → ∀ p, done p = true → failureAt q L f answer p = none) (r : Nat) :
    settle f engine (flatState q L f answer done failure) r =
      flatState q L f answer (fun p => done p || p == r) (failure.or (failureAt q L f answer r)) := by
  cases hr : L.reverse[r]? with
  | none =>
    have hlen : L.length ≤ r := by simpa using hr
    rw [settle_of_not_awaiting f engine (by simp [flatState_run, hr]), failureAt, hr,
      Option.none_bind, Option.or_none]
    exact flatState_congr q L f answer (fun p hp => by simp; omega) failure
  | some item =>
    have hmem : item ∈ L := List.mem_reverse.mp (List.getElem?_mem hr)
    cases hd : done r
    · have hnone : returned (L.reverse.map prepareItem)
          (L.reverse.mapIdx (flatPhase q L f answer done)) = none :=
        returned_eq_none_of_running _ _ r r (by rw [List.getElem?_mapIdx, hr]; simp [flatPhase, hd])
      rw [settle_flatState_running q L f answer engine
          (lastSql_branch hq hhead (List.ne_nil_of_mem hmem)) hr hd (hengine item hmem),
        resumeItem_answeredPhase]
      simp only [flatState, List.length_singleton]
      rw [finish_root _ rfl]
      simp only [ShowCall.finishItem, hnone, Option.map_none', Option.or_none, settled_finishItem]
      rw [← set_flatRun q L f answer hr, ← set_flatPhase q L f answer hr,
        show failureAt q L f answer r = errorOf (itemOutcome q L f answer item) by
          rw [failureAt, hr, Option.some_bind]]
      rfl
    · have hfail : failure.or (failureAt q L f answer r) = failure := by
        cases failure with
        | some _ => rfl
        | none => rw [hrec rfl r hd]; rfl
      rw [settle_of_not_awaiting f engine (by simp [flatState_run, hr, flatRun, hd,
        answeredPhase_ne_awaiting]), hfail]
      exact flatState_congr q L f answer (fun p _ => by by_cases hp : p = r <;> simp [hp, hd]) failure

/-- After any schedule, the runs it names have been answered, and the failure on record is
the first rejection in the order the answers came. -/
theorem runSchedule_flatState (hq : responseBranch q = .showIndexes)
    (hhead : ∀ item ∈ L.head?, ¬ "PRAGMA INDEX_LIST".data <:+: (itemName item).data)
    (hengine : ∀ item ∈ L, engine (indexInfoSql (itemName item)) = answer item) :
    ∀ (schedule : List Nat) (done : Nat → Bool) (failure : Option ShowError),
      (failure = none → ∀ p, done p = true → failureAt q L f answer p = none) →
      runSchedule f engine (flatState q L f answer done failure) schedule =
        flatState q L f answer (fun p => done p || schedule.contains p)
          (failure.or (schedule.findSome? (failureAt q L f answer)))
  | [], done, failure, _ => by simp [runSchedule, Option.or_none]
  | r :: schedule, done, failure, hrec => by
    rw [show runSchedule f engine (flatState q L f answer done failure) (r :: schedule) =
        runSchedule f engine (settle f engine (flatState q L f answer done failure) r) schedule
        from rfl, settle_flatState q L f answer engine hq hhead hengine done failure hrec,
      runSchedule_flatState hq hhead hengine schedule _ _ fun h p hp => by
        obtain ⟨h1, h2⟩ := Option.or_eq_none.mp h
        by_cases hpr : p = r
        · rw [hpr, h2]
        · exact hrec h1 p (by simpa [hpr] using hp),
      Option.or_assoc, List.findSome?_cons]
    congr 1
    · funext p
      by_cases hp : p = r
      · simp [hp, List.contains_cons]
      · simp [hp, List.contains_cons, beq_false_of_ne hp]
    · cases failureAt q L f answer r <;> rfl

theorem flatPhases_of_done {done : Nat → Bool} (hdone : ∀ p < L.length, done p = true) :
    L.reverse.mapIdx (flatPhase q L f answer done) =
      L.reverse.map fun item => outcomePhase (itemOutcome q L f answer item) :=
  List.ext_getElem (by simp) fun n hn _ => by
    rw [List.getElem_mapIdx, List.getElem_map, flatPhase, if_pos (hdone n (by simpa using hn))]

/-- The entries, when no callback threw: each item after its writes, with the fields its
callback returned. -/
theorem returned_outcomes (g : JsObject → Except ShowError (JsArray IndexField)) :
    ∀ items : List JsObject, (∀ item ∈ items, errorOf (g item) = none) →
      ∃ entries, returned (items.map prepareItem) (items.map fun item => outcomePhase (g item)) =
          some entries ∧
        List.Forall₂ (fun item (e : IndexEntry) => e.item = prepareItem item ∧ g item = .ok e.fields)
          items entries
  | [], _ => ⟨[], rfl, .nil⟩
  | item :: items, h => by
    obtain ⟨entries, hret, hall⟩ := returned_outcomes g items fun i hi => h i (List.mem_cons_of_mem _ hi)
    cases hg : g item with
    | error e => simp [hg, errorOf] at h
    | ok fields =>
      refine ⟨⟨prepareItem item, fields⟩ :: entries, ?_, .cons ⟨rfl, hg⟩ hall⟩
      rw [List.map_cons, List.map_cons, hg]
      show (returned _ _).map _ = _
      rw [hret]
      rfl

/-- When the first index's name does not hold `PRAGMA INDEX_LIST` and the engine gives the
follow-up of every index its answer, whatever it answers and in whatever order: the call
rejects with what the callback of the first follow-up to be rejected threw; with no rejection
it resolves once every follow-up is answered, each entry being its item after the writes, with
the fields its follow-up gave; until then it is pending. -/
theorem handleShowIndexesQuery_settles (hq : responseBranch q = .showIndexes)
    (hhead : ∀ item ∈ L.head?, ¬ "PRAGMA INDEX_LIST".data <:+: (itemName item).data)
    (hengine : ∀ item ∈ L, engine (indexInfoSql (itemName item)) = answer item)
    (schedule : List Nat) :
    (∀ e, schedule.findSome? (failureAt q L f answer) = some e →
      result (runSchedule f engine (start f q L) schedule) = some (.error e)) ∧
    (schedule.findSome? (failureAt q L f answer) = none → (∀ r < L.length, r ∈ schedule) →
      ∃ entries, result (runSchedule f engine (start f q L) schedule) = some (.ok entries) ∧
        List.Forall₂ (fun item (e : IndexEntry) =>
          e.item = prepareItem item ∧ itemOutcome q L f answer item = .ok e.fields) L.reverse entries) ∧
    (∀ r < L.length, r ∉ schedule → schedule.findSome? (failureAt q L f answer) = none →
      result (runSchedule f engine (start f q L) schedule) = none) := by
  have hrun := runSchedule_flatState q L f answer engine hq hhead hengine schedule (fun _ => false)
    none fun _ _ h => by cases h
  rw [start_eq_flatState q L f answer, hrun]
  simp only [Bool.false_or, Option.none_or]
  refine ⟨fun e he => by simp [result, flatState, he], fun hnone hall => ?_, fun r hr hns hnone => ?_⟩
  · have hok : ∀ item ∈ L.reverse, errorOf (itemOutcome q L f answer item) = none := by
      intro item hitem
      obtain ⟨p, hp, hpi⟩ := List.getElem_of_mem hitem
      have := List.findSome?_eq_none_iff.mp hnone p (hall p (by simpa using hp))
      rwa [failureAt, List.getElem?_eq_getElem hp, hpi, Option.some_bind] at this
    obtain ⟨entries, hret, hforall⟩ := returned_outcomes _ L.reverse hok
    refine ⟨entries, ?_, hforall⟩
    simp only [result, flatState, hnone, List.getElem?_cons_zero, Option.some_bind,
      Option.map_none', Option.none_or]
    rw [flatPhases_of_done q L f answer fun p hp => by simpa using hall p hp, hret]
    rfl
  · simp only [result, flatState, hnone, List.getElem?_cons_zero, Option.some_bind,
      Option.map_none', Option.none_or]
    obtain ⟨item, hitem⟩ : ∃ item, L.reverse[r]? = some item :=
      Option.isSome_iff_exists.mp (by simp [List.getElem?_reverse, hr])
    rw [returned_eq_none_of_running _ _ r r (by
      rw [List.getElem?_mapIdx, hitem]; simp [flatPhase, hns])]
    rfl

end Answers

/-- Two indexes: `email_idx`, listed first, then `name_idx`. -/
def emailIndex : JsObject :=
  ⟨[("seq", .number 1), ("name", .string "email_idx"), ("unique", .number 1)], by decide⟩

def nameIndex : JsObject :=
  ⟨[("seq", .number 0), ("name", .string "name_idx"), ("unique", .number 0)], by decide⟩

def emailColumn : JsObject :=
  ⟨[("seqno", .number 0), ("cid", .number 1), ("name", .string "email")], by decide⟩

/-- The engine is busy for `name_idx` and has one column for any other index. -/
def busyEngine (sql : String) : Except EngineError (List JsObject × RunResult) :=
  if sql = indexInfoSql "name_idx" then .error busyError else .ok ([emailColumn], ⟨0, 0⟩)

/-- The follow-up of `email_idx` is answered first, then that of `name_idx` is rejected: the
call rejects with a timeout that names the SQL of `email_idx`. -/
theorem busy_follow_up_rejects_call :
    responseBranch showIndexesQuery = .showIndexes ∧
    (∀ item ∈ [emailIndex, nameIndex].head?,
      ¬ "PRAGMA INDEX_LIST".data <:+: (itemName item).data) ∧
    result (runSchedule (fun _ => "") busyEngine
        (start (fun _ => "") showIndexesQuery [emailIndex, nameIndex]) [1, 0]) =
      some (.error (.query (formatError (fun _ => "") { showIndexesQuery with
        sql := indexInfoSql "email_idx" } { busyError with sql := some (indexInfoSql "email_idx") }))) := by
  refine ⟨?branch, ?head, (handleShowIndexesQuery_settles showIndexesQuery [emailIndex, nameIndex]
    (fun _ => "") (fun item => busyEngine (indexInfoSql (itemName item))) busyEngine ?branch ?head
    (fun _ _ => rfl) [1, 0]).1 _ ?first⟩
  · decide
  · decide
  · rfl

/-- When the first index's name does not hold `PRAGMA INDEX_LIST` and the engine answers the
follow-up of every index, `handleShowIndexesQuery` returns once every follow-up is answered,
in whatever order: the indexes in reverse order, each with its writes and the fields of the
rows its follow-up was shaped with. -/
theorem handleShowIndexesQuery_returns (q : TursoQuery) (L : List JsObject)
    (answerOf : JsObject → List JsObject × RunResult) (f : Option String → String)
    (engine : String → Except EngineError (List JsObject × RunResult)) (hq : responseBranch q = .showIndexes)
    (hhead : ∀ item ∈ L.head?, ¬ "PRAGMA INDEX_LIST".data <:+: (itemName item).data)
    (hengine : ∀ item ∈ L, engine (indexInfoSql (itemName item)) = .ok (answerOf item))
    (schedule : List Nat) (hschedule : ∀ r < L.length, r ∈ schedule) :
    result (runSchedule f engine (start f q L) schedule) =
      some (.ok (L.reverse.map fun item => ⟨prepareItem item, fieldsOf (columnsOf q answerOf item)⟩)) := by
  have hnone : ∀ r, failureAt q L f (fun item => .ok (answerOf item)) r = none := fun r => by
    rw [failureAt]
    cases L.reverse[r]? <;> rfl
  rw [start_eq_flatState q L f fun item => .ok (answerOf item),
    runSchedule_flatState q L f _ engine hq hhead hengine schedule _ none fun _ _ h => by cases h]
  simp only [result, flatState, List.findSome?_eq_none_iff.mpr fun r _ => hnone r,
    List.getElem?_cons_zero, Option.some_bind, Option.none_or, Option.map_none']
  rw [flatPhases_of_done q L f _ fun p hp => by simp [hschedule p hp]]
  exact congrArg (Option.map _) (returned_map_done _ L.reverse)

/-! ### Fields by `seqno` -/

/-- The array index a column's `seqno` names (`0` for none). -/
def seqIndex (column : JsObject) : Nat := ((column.get "seqno").arrayIndex?).getD 0

theorem set_seqno {arr : JsArray IndexField} {column : JsObject} {i : Nat}
    (h : column.get "seqno" = .number i) :
    arr.set (column.get "seqno") (indexField column) =
      { arr with elems := JsArray.setIndex arr.elems i (indexField column) } := by
  simp [JsArray.set, h]

theorem foldl_set_in_order : ∀ (cols : List JsObject) (arr : JsArray IndexField),
    cols.map (·.get "seqno") =
      (List.range' arr.elems.length cols.length).map (fun i : Nat => JsValue.number i) →
    cols.foldl (fun fields column => fields.set (column.get "seqno") (indexField column)) arr =
      { arr with elems := arr.elems ++ cols.map fun c => some (indexField c) }
  | [], arr, _ => by simp
  | c :: cols, arr, h => by
    simp only [List.map_cons, List.length_cons, List.range'_succ, List.cons.injEq] at h
    rw [List.foldl_cons, set_seqno h.1, JsArray.setIndex_length,
      foldl_set_in_order cols _ (by simpa using h.2)]
    simp

/-- When the `seqno`s of the rows are `0, .., k - 1` in any order, `fields` lists the rows
sorted by `seqno`, with no hole and nothing past index `k - 1`. -/
theorem fieldsOf_by_seqno (rows : List JsObject) (k : Nat)
    (h : rows.map (·.get "seqno") ~ (List.range k).map fun i : Nat => JsValue.number i) :
    ∃ cols, cols ~ rows ∧
      cols.map (·.get "seqno") = (List.range k).map (fun i : Nat => JsValue.number i) ∧
      fieldsOf rows = ⟨cols.map fun c => some (indexField c), []⟩ := by
  have hnum : ∀ c ∈ rows, c.get "seqno" = .number (seqIndex c) := fun c hc => by
    obtain ⟨i, -, hi⟩ := List.mem_map.mp (h.subset (List.mem_map_of_mem (·.get "seqno") hc))
    simp [seqIndex, ← hi]
  have hidx : rows.map seqIndex ~ List.range k := by
    have := h.map fun v => (v.arrayIndex?).getD 0
    simpa [List.map_map, Function.comp_def, seqIndex] using this
  let cols := rows.mergeSort fun a b => decide (seqIndex a ≤ seqIndex b)
  have hperm : cols ~ rows := List.mergeSort_perm _ _
  have hsorted : (cols.map seqIndex).Sorted (· ≤ ·) := by
    have := @List.sorted_mergeSort _ (fun a b => decide (seqIndex a ≤ seqIndex b))
      (fun a b c hab hbc => by simp at hab hbc ⊢; omega) (fun a b => by simp; omega) rows
    exact List.pairwise_map.mpr (by simpa using this)
  have hcols : cols.map seqIndex = List.range k :=
    List.eq_of_perm_of_sorted ((hperm.map seqIndex).trans hidx) hsorted (List.pairwise_le_range k)
  have hseq : cols.map (·.get "seqno") = (List.range k).map (fun i : Nat => JsValue.number i) := by
    rw [← hcols, List.map_map]
    exact List.map_congr_left fun c hc => hnum c (hperm.subset hc)
  refine ⟨cols, hperm, hseq, ?_⟩
  have hinj : ∀ x ∈ rows, ∀ y ∈ rows, seqIndex x = seqIndex y → x = y := fun x hx y hy =>
    List.inj_on_of_nodup_map (hidx.nodup_iff.mpr (List.nodup_range k)) hx hy
  rw [fieldsOf, hperm.symm.foldl_eq' (fun x hx y hy z => by
      by_cases hxy : seqIndex x = seqIndex y
      · rw [hinj x hx y hy hxy]
      · rw [set_seqno (hnum x hx), set_seqno (hnum y hy), set_seqno (hnum y hy),
          set_seqno (hnum x hx)]
        simp only [JsArray.setIndex_comm _ hxy]),
    foldl_set_in_order cols .empty (by
      rw [show cols.length = k by simpa using congrArg List.length hcols]
      simpa [List.range_eq_range'] using hseq)]
  rfl

section Reading

variable (q : TursoQuery) (L : List JsObject) (f : Option String → String)
  (engine : String → Except EngineError (List JsObject × RunResult))

/-- Where no index name holds `create temporary table`, each follow-up is shaped with the
rows the engine gave. Then every entry carries the index's name as `constraintName`,
`Boolean(unique)` as `unique`, `false` as `primary`, and the rows sorted by `seqno` as
`fields`. -/
theorem handleShowIndexesQuery_entries (hq : responseBranch q = .showIndexes)
    (hhead : ∀ item ∈ L.head?, ¬ "PRAGMA INDEX_LIST".data <:+: (itemName item).data)
    (hname : ∀ item ∈ L, includes "create temporary table".data (toLowerCase (itemName item)).data
      = false)
    (rowsOf : JsObject → List JsObject) (resultOf : JsObject → RunResult) (k : JsObject → Nat)
    (hengine : ∀ item ∈ L, engine (indexInfoSql (itemName item)) = .ok (rowsOf item, resultOf item))
    (hseqno : ∀ item ∈ L,
      (rowsOf item).map (·.get "seqno") ~ (List.range (k item)).map fun i : Nat => JsValue.number i)
    (schedule : List Nat) (hschedule : ∀ r < L.length, r ∈ schedule) :
    ∃ entries, result (runSchedule f engine (start f q L) schedule) = some (.ok entries) ∧
      entries.length = L.length ∧
      ∀ (j : Nat) item (e : IndexEntry), L.reverse[j]? = some item → entries[j]? = some e →
        e.item.get "constraintName" = item.get "name" ∧
        e.item.get "unique" = .bool (item.get "unique").toBoolean ∧
        e.item.get "primary" = .bool false ∧
        ∃ cols, cols ~ rowsOf item ∧
          cols.map (·.get "seqno") = (List.range (k item)).map (fun i : Nat => JsValue.number i) ∧
          e.fields = ⟨cols.map fun c => some (indexField c), []⟩ := by
  have hres := handleShowIndexesQuery_returns q L (fun item => (rowsOf item, resultOf item)) f
    engine hq hhead hengine schedule hschedule
  refine ⟨_, hres, by simp, fun j item e hj he => ?_⟩
  rw [List.getElem?_map, hj, Option.map_some', Option.some.injEq] at he
  subst he
  have hmem : item ∈ L := List.mem_reverse.mp (List.getElem?_mem hj)
  have hcols : columnsOf q (fun item => (rowsOf item, resultOf item)) item = rowsOf item := by
    simp [columnsOf, getDatabaseMethod_followUp hq, hname item hmem, executeSeries, allSeries]
  refine ⟨by simp [prepareItem], by simp [prepareItem], by simp [prepareItem], ?_⟩
  rw [hcols]
  exact fieldsOf_by_seqno (rowsOf item) (k item) (hseqno item hmem)

/-- One index, `email_idx`, whose one column has `seqno` `0`: the call returns one entry, named
`email_idx`, with that column as its field. -/
theorem email_index_entry :
    responseBranch showIndexesQuery = .showIndexes ∧
    (∀ item ∈ [emailIndex].head?, ¬ "PRAGMA INDEX_LIST".data <:+: (itemName item).data) ∧
    (∀ item ∈ [emailIndex],
      includes "create temporary table".data (toLowerCase (itemName item)).data = false) ∧
    (∀ item ∈ [emailIndex], busyEngine (indexInfoSql (itemName item)) = .ok ([emailColumn], ⟨0, 0⟩)) ∧
    (∀ item ∈ [emailIndex], [emailColumn].map (·.get "seqno") ~
      (List.range 1).map fun i : Nat => JsValue.number i) ∧
    (∀ r < [emailIndex].length, r ∈ [0]) ∧
    ∃ entries, result (runSchedule (fun _ => "") busyEngine
        (start (fun _ => "") showIndexesQuery [emailIndex]) [0]) = some (.ok entries) ∧
      entries.length = [emailIndex].length ∧
      ∀ (j : Nat) item (e : IndexEntry), [emailIndex].reverse[j]? = some item →
        entries[j]? = some e →
        e.item.get "constraintName" = item.get "name" ∧
        e.item.get "unique" = .bool (item.get "unique").toBoolean ∧
        e.item.get "primary" = .bool false ∧
        ∃ cols, cols ~ [emailColumn] ∧
          cols.map (·.get "seqno") = (List.range 1).map (fun i : Nat => JsValue.number i) ∧
          e.fields = ⟨cols.map fun c => some (indexField c), []⟩ := by
  refine ⟨?hq, ?hhead, ?hname, ?hengine, ?hseqno, ?hschedule,
    handleShowIndexesQuery_entries showIndexesQuery [emailIndex] (fun _ => "") busyEngine ?hq ?hhead
      ?hname (fun _ => [emailColumn]) (fun _ => ⟨0, 0⟩) (fun _ => 1) ?hengine ?hseqno [0]
      ?hschedule⟩
  case hengine =>
    intro item h
    rw [List.mem_singleton.mp h]
    rfl
  all_goals decide

/-- An index whose name holds `create temporary table`, in any case, gets no fields, whatever
its `PRAGMA INDEX_INFO` rows: its follow-up runs with `stmt.run`, which returns no rows. -/
theorem temporaryTable_name_gets_no_fields (hq : responseBranch q = .showIndexes)
    (hhead : ∀ item ∈ L.head?, ¬ "PRAGMA INDEX_LIST".data <:+: (itemName item).data)
    (answerOf : JsObject → List JsObject × RunResult)
    (hengine : ∀ item ∈ L, engine (indexInfoSql (itemName item)) = .ok (answerOf item))
    (schedule : List Nat) (hschedule : ∀ r < L.length, r ∈ schedule) (j : Nat) (item : JsObject)
    (hj : L.reverse[j]? = some item)
    (hname : includes "create temporary table".data (toLowerCase (itemName item)).data = true) :
    ∃ entries, result (runSchedule f engine (start f q L) schedule) = some (.ok entries) ∧
      entries[j]? = some ⟨prepareItem item, .empty⟩ := by
  refine ⟨_, handleShowIndexesQuery_returns q L answerOf f engine hq hhead hengine schedule
    hschedule, ?_⟩
  rw [List.getElem?_map, hj]
  simp [columnsOf, getDatabaseMethod_followUp hq, hname, executeSeries, runSeries, fieldsOf]

/-- An index named `CREATE TEMPORARY TABLE log_idx`. -/
def temporaryIndex : JsObject :=
  ⟨[("seq", .number 0), ("name", .string "CREATE TEMPORARY TABLE log_idx"), ("unique", .number 0)],
    by decide⟩

/-- The engine gives the index one column, and the entry still has no fields. -/
theorem temporary_index_entry_empty :
    responseBranch showIndexesQuery = .showIndexes ∧
    (∀ item ∈ [temporaryIndex].head?, ¬ "PRAGMA INDEX_LIST".data <:+: (itemName item).data) ∧
    (∀ item ∈ [temporaryIndex], (fun _ : String =>
      (.ok ([emailColumn], ⟨0, 0⟩) : Except EngineError (List JsObject × RunResult)))
        (indexInfoSql (itemName item)) = .ok ([emailColumn], ⟨0, 0⟩)) ∧
    (∀ r < [temporaryIndex].length, r ∈ [0]) ∧
    [temporaryIndex].reverse[0]? = some temporaryIndex ∧
    includes "create temporary table".data (toLowerCase (itemName temporaryIndex)).data = true ∧
    ∃ entries, result (runSchedule (fun _ => "") (fun _ => .ok ([emailColumn], ⟨0, 0⟩))
        (start (fun _ => "") showIndexesQuery [temporaryIndex]) [0]) = some (.ok entries) ∧
      entries[0]? = some ⟨prepareItem temporaryIndex, .empty⟩ := by
  refine ⟨?hq, ?hhead, ?hengine, ?hschedule, ?hj, ?hname,
    temporaryTable_name_gets_no_fields showIndexesQuery [temporaryIndex] (fun _ => "")
      (fun _ => .ok ([emailColumn], ⟨0, 0⟩)) ?hq ?hhead (fun _ => ([emailColumn], ⟨0, 0⟩))
      ?hengine [0] ?hschedule 0 temporaryIndex ?hj ?hname⟩
  case hengine => exact fun _ _ => rfl
  case hj => rfl
  all_goals decide

end Reading

/-! ### An index named `PRAGMA INDEX_LIST` -/

theorem shapeSeries_of_showIndexes_branch {q : TursoQuery} (h : responseBranch q = .showIndexes)
    (response : SeriesResponse) : shapeSeries q response = .ok (.showIndexes response.results) := by
  simp only [shapeSeries, handleQueryResponse, h]
  rfl

theorem mem_setPhase {calls : List ShowCall} {c p : Nat} {phase : ItemPhase} {call : ShowCall}
    (h : call ∈ setPhase calls c p phase) : ∃ call' ∈ calls, call.settled = call'.settled := by
  unfold setPhase at h
  split at h
  · rename_i call' hc
    rcases List.mem_or_eq_of_mem_set h with h | rfl
    · exact ⟨call, h, rfl⟩
    · exact ⟨call', List.getElem?_mem hc, rfl⟩
  · exact ⟨call, h, rfl⟩

theorem length_setPhase (calls : List ShowCall) (c p : Nat) (phase : ItemPhase) :
    (setPhase calls c p phase).length = calls.length := by
  unfold setPhase
  split <;> simp

/-- The `PRAGMA INDEX_LIST` row of an index named `PRAGMA INDEX_LIST`. -/
def loopIndex : JsObject :=
  ⟨[("seq", .number 0), ("name", .string "PRAGMA INDEX_LIST"), ("unique", .number 0),
    ("origin", .string "c"), ("partial", .number 0)], by decide⟩

/-- Its `PRAGMA INDEX_INFO` row: the indexed column has the index's name. -/
def loopColumn : JsObject :=
  ⟨[("seqno", .number 0), ("cid", .number 0), ("name", .string "PRAGMA INDEX_LIST")], by decide⟩

def loopSql : String := indexInfoSql "PRAGMA INDEX_LIST"

/-- SQLite's answers on a table whose column and index are both named `PRAGMA INDEX_LIST`:
the index's one column, and no rows for any other text. -/
def loopEngine (sql : String) : Except EngineError (List JsObject × RunResult) :=
  if sql = loopSql then .ok ([loopColumn], ⟨0, 0⟩) else .ok ([], ⟨0, 0⟩)

theorem loop_branch : responseBranch { showIndexesQuery with sql := loopSql } = .showIndexes := by
  rw [loopSql, responseBranch_followUp (by decide)]
  rfl

theorem loop_method : getDatabaseMethod { showIndexesQuery with sql := loopSql } = .all := by
  rw [loopSql, getDatabaseMethod_followUp (by decide)]
  rfl

section Loop

variable (f : Option String → String)

/-- The state after the engine has answered runs `0, .., n - 1`, each one as it started. -/
def loopState : Nat → ShowState
  | 0 => start f showIndexesQuery [loopIndex]
  | n + 1 => settle f loopEngine (loopState n) n

/-- After `n` answers: run `n` is the only one in flight and belongs to the last of `n + 1`
calls, and no call has settled. -/
structure LoopInv (n : Nat) (s : ShowState) : Prop where
  query : s.query.query = { showIndexesQuery with sql := loopSql }
  runs_length : s.query.runs.length = n + 1
  current : s.query.runs[n]? = some ⟨loopSql, .awaiting .all⟩
  answered : ∀ r < n, ∀ sql m, s.query.runs[r]? ≠ some ⟨sql, .awaiting m⟩
  owner_length : s.owner.length = n + 1
  owner : s.owner[n]? = some (n, 0)
  calls_length : s.calls.length = n + 1
  unsettled : ∀ call ∈ s.calls, call.settled = none

theorem loopInv_zero : LoopInv 0 (loopState f 0) where
  query := rfl
  runs_length := rfl
  current := by
    show some (⟨loopSql, .awaiting (getDatabaseMethod { showIndexesQuery with sql := loopSql })⟩ :
      RunEntry) = _
    rw [loop_method]
  answered := nofun
  owner_length := rfl
  owner := rfl
  calls_length := rfl
  unsettled := by simp [loopState, start, handleShowIndexesQuery]

/-- Answering the run in flight: its rows are shaped by the `PRAGMA INDEX_LIST` branch and go
to a new call, whose one item starts the same follow-up again. -/
theorem LoopInv.settle_eq {n : Nat} {s : ShowState} (h : LoopInv n s) :
    settle f loopEngine s n =
      ⟨⟨{ showIndexesQuery with sql := loopSql },
          s.query.runs.set n ⟨loopSql, .shaped (.ok (.showIndexes [loopColumn]))⟩ ++
            [⟨loopSql, .awaiting .all⟩]⟩,
        s.owner ++ [(n + 1, 0)],
        setPhase s.calls n 0 (.nested (n + 1)) ++
          [⟨[prepareItem loopColumn], [.running (n + 1)], some (n, 0), none⟩]⟩ := by
  have hengine : loopEngine loopSql = .ok ([loopColumn], ⟨0, 0⟩) := if_pos rfl
  rw [settle_of_rows f loopEngine h.current h.owner hengine, resolve_of_awaiting h.current, h.query,
    shapeSeries_of_showIndexes_branch loop_branch]
  simp only [resumeItem, executeSeries, allSeries, handleShowIndexesQuery, h.calls_length,
    showIndexesStarts, List.map_cons, List.map_nil, List.reverse_singleton, length_setPhase,
    List.length_set, h.runs_length, show indexInfoSql (itemName loopColumn) = loopSql from rfl,
    runEvents, List.foldl_cons, List.foldl_nil, Run.step, Run.start, loop_method]
  rfl

theorem LoopInv.settle {n : Nat} {s : ShowState} (h : LoopInv n s) :
    LoopInv (n + 1) (settle f loopEngine s n) := by
  rw [h.settle_eq f]
  have hset : (s.query.runs.set n ⟨loopSql, .shaped (.ok (.showIndexes [loopColumn]))⟩).length =
      n + 1 := by simp [h.runs_length]
  exact {
    query := rfl
    runs_length := by simp [h.runs_length]
    current := by rw [List.getElem?_append_right (by rw [hset]), hset]; simp
    answered := fun r hr sql m => by
      rw [List.getElem?_append_left (by rw [hset]; exact hr), List.getElem?_set]
      split_ifs with hrn
      · simp
      · simp
      · exact h.answered r (by omega) sql m
    owner_length := by simp [h.owner_length]
    owner := by rw [List.getElem?_append_right (by rw [h.owner_length]), h.owner_length]; simp
    calls_length := by simp [length_setPhase, h.calls_length]
    unsettled := fun call hc => by
      rcases List.mem_append.mp hc with hc | hc
      · obtain ⟨call', hc', he⟩ := mem_setPhase hc
        rw [he, h.unsettled call' hc']
      · rw [List.mem_singleton.mp hc] }

theorem loopState_inv : ∀ n, LoopInv n (loopState f n)
  | 0 => loopInv_zero f
  | n + 1 => (loopState_inv n).settle f

theorem settle_loopState_of_ne {n r : Nat} (hr : r ≠ n) :
    settle f loopEngine (loopState f n) r = loopState f n := by
  have hi := loopState_inv f n
  refine settle_of_not_awaiting f loopEngine fun sql m h => ?_
  rcases Nat.lt_or_gt_of_ne hr with hlt | hgt
  · exact hi.answered r hlt sql m h
  · rw [List.getElem?_eq_none (by rw [hi.runs_length]; omega)] at h
    cases h

/-- Every schedule leads to a chain state. -/
theorem runSchedule_loopState :
    ∀ (schedule : List Nat) (n : Nat), ∃ m, runSchedule f loopEngine (loopState f n) schedule =
      loopState f m
  | [], n => ⟨n, rfl⟩
  | r :: schedule, n => by
    show ∃ m, runSchedule f loopEngine (settle f loopEngine (loopState f n) r) schedule = _
    by_cases hr : r = n
    · subst hr
      exact runSchedule_loopState schedule (r + 1)
    · rw [settle_loopState_of_ne f hr]
      exact runSchedule_loopState schedule n

theorem runSchedule_range_loopState (n : Nat) :
    runSchedule f loopEngine (loopState f 0) (List.range n) = loopState f n := by
  induction n with
  | zero => rfl
  | succ n ih => rw [List.range_succ, runSchedule_append_singleton, ih]; rfl

end Loop

/-- An index named `PRAGMA INDEX_LIST` whose column has that name too: whatever order the
engine answers in, `handleShowIndexesQuery` never returns. The first call never settles and
a follow-up is always in flight; each answer starts one more call. -/
theorem index_list_name_never_returns (f : Option String → String) :
    (∀ schedule : List Nat,
      result (runSchedule f loopEngine (start f showIndexesQuery [loopIndex]) schedule) = none ∧
        ∃ r : Nat, (runSchedule f loopEngine (start f showIndexesQuery [loopIndex]) schedule).query.runs[r]?
          = some ⟨loopSql, .awaiting .all⟩) ∧
    ∀ n, (runSchedule f loopEngine (start f showIndexesQuery [loopIndex]) (List.range n)).calls.length
      = n + 1 := by
  refine ⟨fun schedule => ?_, fun n => ?_⟩
  · obtain ⟨m, hm⟩ := runSchedule_loopState f schedule 0
    have hi := loopState_inv f m
    rw [show start f showIndexesQuery [loopIndex] = loopState f 0 from rfl, hm]
    refine ⟨?_, m, hi.current⟩
    cases hc : (loopState f m).calls[0]? with
    | none => simp [result, hc]
    | some call => simp [result, hc, hi.unsettled call (List.getElem?_mem hc)]
  · rw [show start f showIndexesQuery [loopIndex] = loopState f 0 from rfl,
      runSchedule_range_loopState]
    exact (loopState_inv f n).calls_length

end SequelizeTurso.ShowIndexes

import Mathlib.Data.List.Basic

/-!
`TursoConnectionManager.connect`. A remote database is one `lib.connect(url)`. A local one
goes through the temporary-storage guard and the directory check, then `lib.connect(storage)`,
`PRAGMA KEY` when a password is given, `PRAGMA foreign_keys = ON` unless foreign keys are off,
and `PRAGMA journal_mode = WAL` unless WAL is off. Every engine call may resolve or reject; the
model takes how each one settles as given and tracks the engine connections left open. A
rejected `lib.connect` opens nothing; a rejected WAL pragma is caught and only logged.
-/

namespace SequelizeTurso.Connect

/-- A string option is truthy when present and non-empty. -/
def truthy : Option String → Bool
  | some s => !s.isEmpty
  | none => false

/-- The connection options `connect` reads. -/
structure ConnectionOptions where
  url : Option String
  authToken : Option String
  storage : Option String
  password : Option String
  enableWal : Option Bool

/-- The pool settings the temporary-storage guard reads; `none` is `Infinity`. -/
structure PoolOptions where
  idleTimeoutMillis : Option Nat
  maxUsesPerResource : Option Nat
  maxSize : Option Nat
  read : Bool

/-- What `connect` reads besides its options: the dialect's `foreignKeys`, the pool, and the
working directory. -/
structure Setting where
  foreignKeys : Option Bool
  pool : PoolOptions
  cwd : String

/-- How each call of one `connect` settles, `true` for resolved. `getLib` is `none` when the
module loads, else the `code` of the error it rejects with. -/
structure Outcomes where
  getLib : Option (Option String)
  storageDirExists : Bool
  mkdir : Bool
  libConnect : Bool
  execKey : Bool
  execForeignKeys : Bool
  execWal : Bool

/-- The engine call whose rejection `connect` wraps in a `ConnectionError`. -/
inductive FailedCall
  | libConnect
  | execKey
  | execForeignKeys
  deriving DecidableEq, Repr

inductive ConnectError
  /-- `Unable to load @tursodatabase/database. Install the package to use the Turso dialect.` -/
  | moduleNotInstalled
  /-- The error of `#getLib`, rethrown. -/
  | libError (code : Option String)
  /-- `authToken is required when using remote Turso database (url option)` -/
  | authTokenRequired
  /-- The four errors of the temporary-storage guard. -/
  | temporaryIdleTimeout
  | temporaryMaxUses (maxUsesPerResource : Nat)
  | temporaryMaxSize
  | temporaryReadReplication
  /-- The rejection of `fs.mkdir`, rethrown. -/
  | mkdirFailed
  | connectionError (call : FailedCall)
  deriving DecidableEq, Repr

/-- The engine connections open, and the next id the engine hands out. -/
structure Engine where
  openConns : List Nat
  next : Nat
  fresh : ∀ c ∈ openConns, c < next

def Engine.empty : Engine := ⟨[], 0, fun _ h => absurd h (List.not_mem_nil _)⟩

def Engine.openNew (e : Engine) : Nat × Engine :=
  (e.next, ⟨e.openConns ++ [e.next], e.next + 1, by
    intro c hc
    rcases List.mem_append.mp hc with hc | hc
    · exact Nat.lt_succ_of_lt (e.fresh c hc)
    · simp only [List.mem_singleton] at hc
      omega⟩)

/-- The temporary-storage guard: the first pool setting under which the only connection to a
temporary database could be lost. -/
def temporaryStorageGuard (pool : PoolOptions) : Option ConnectError :=
  if pool.idleTimeoutMillis.isSome then some .temporaryIdleTimeout
  else match pool.maxUsesPerResource with
    | some n => some (.temporaryMaxUses n)
    | none =>
      if pool.maxSize ≠ some 1 then some .temporaryMaxSize
      else if pool.read then some .temporaryReadReplication
      else none

/-- The storage path, `options.storage ?? path.join(process.cwd(), 'sequelize.turso')`. -/
def storagePath (st : Setting) (opts : ConnectionOptions) : String :=
  opts.storage.getD (st.cwd ++ "/sequelize.turso")

def isTemporaryStorage (storage : String) : Bool := storage = ":memory:" || storage = ""

/-- `PRAGMA journal_mode = WAL`, run unless `enableWal` is `false`. -/
def enableWalMode (opts : ConnectionOptions) (o : Outcomes) : Except Unit Unit :=
  if opts.enableWal ≠ some false ∧ !o.execWal then .error () else .ok ()

/-- The local path of `connect`, from the storage path on. -/
def connectLocal (st : Setting) (o : Outcomes) (opts : ConnectionOptions) (e : Engine) :
    Except ConnectError Nat × Engine :=
  let temporary := isTemporaryStorage (storagePath st opts)
  match if temporary then temporaryStorageGuard st.pool else none with
  | some err => (.error err, e)
  | none =>
    if !temporary ∧ !o.storageDirExists ∧ !o.mkdir then (.error .mkdirFailed, e)
    else if !o.libConnect then (.error (.connectionError .libConnect), e)
    else if truthy opts.password ∧ !o.execKey then
      (.error (.connectionError .execKey), e.openNew.2)
    else if st.foreignKeys ≠ some false ∧ !o.execForeignKeys then
      (.error (.connectionError .execForeignKeys), e.openNew.2)
    else
      match enableWalMode opts o with
      | .ok () => (.ok e.openNew.1, e.openNew.2)
      -- `catch (err) { debug(..) }`: the rejection is only logged
      | .error () => (.ok e.openNew.1, e.openNew.2)

def connect (st : Setting) (o : Outcomes) (opts : ConnectionOptions) (e : Engine) :
    Except ConnectError Nat × Engine :=
  match o.getLib with
  | some code =>
    (.error (if code = some "ERR_MODULE_NOT_FOUND" ∨ code = some "MODULE_NOT_FOUND" then
      .moduleNotInstalled else .libError code), e)
  | none =>
    if truthy opts.url then
      if !truthy opts.authToken then (.error .authTokenRequired, e)
      else if o.libConnect then (.ok e.openNew.1, e.openNew.2)
      else (.error (.connectionError .libConnect), e)
    else connectLocal st o opts e

/-! ### Open connections -/

/-- `e'` is `e` with the one fresh connection `c` opened. -/
def Opened (e e' : Engine) (c : Nat) : Prop := c ∉ e.openConns ∧ e'.openConns = e.openConns ++ [c]

theorem openNew_opened (e : Engine) : Opened e e.openNew.2 e.openNew.1 :=
  ⟨fun h => Nat.lt_irrefl _ (e.fresh _ h), rfl⟩

/-- A pragma whose rejection leaves the new connection open. -/
def IsSetupPragma : FailedCall → Prop
  | .execKey | .execForeignKeys => True
  | .libConnect => False

theorem temporaryStorageGuard_ne_connectionError (pool : PoolOptions) (err : ConnectError)
    (h : temporaryStorageGuard pool = some err) (call : FailedCall) :
    err ≠ .connectionError call := by
  unfold temporaryStorageGuard at h
  split_ifs at h <;> (try split at h) <;> cases h <;> nofun

/-- How one `connect` can end: it fails before opening anything, it resolves with a fresh
connection, or a setup pragma fails after `lib.connect` opened one. -/
def Ends (e : Engine) : Except ConnectError Nat × Engine → Prop := fun r =>
  (∃ err, r = (.error err, e) ∧ ∀ call, err = .connectionError call → ¬ IsSetupPragma call) ∨
  r = (.ok e.openNew.1, e.openNew.2) ∨
  ∃ call, IsSetupPragma call ∧ r = (.error (.connectionError call), e.openNew.2)

theorem connectLocal_ends (st : Setting) (o : Outcomes) (opts : ConnectionOptions) (e : Engine) :
    Ends e (connectLocal st o opts e) := by
  unfold connectLocal
  dsimp only
  split
  · rename_i err hg
    refine .inl ⟨err, rfl, fun call h => absurd h ?_⟩
    split_ifs at hg
    exact temporaryStorageGuard_ne_connectionError _ _ hg call
  · split_ifs
    · exact .inl ⟨_, rfl, fun call h => by cases h⟩
    · exact .inl ⟨_, rfl, fun call h => by cases h; exact id⟩
    · exact .inr (.inr ⟨.execKey, trivial, rfl⟩)
    · exact .inr (.inr ⟨.execForeignKeys, trivial, rfl⟩)
    · split <;> exact .inr (.inl rfl)

theorem connect_ends (st : Setting) (o : Outcomes) (opts : ConnectionOptions) (e : Engine) :
    Ends e (connect st o opts e) := by
  unfold connect
  split
  · exact .inl ⟨_, rfl, fun call h => by split_ifs at h⟩
  · split_ifs
    · exact .inl ⟨_, rfl, fun call h => by cases h⟩
    · exact .inr (.inl rfl)
    · exact .inl ⟨_, rfl, fun call h => by cases h; exact id⟩
    · exact connectLocal_ends st o opts e

/-- Every call `connect` makes resolves: the module loads, and `fs.mkdir` (when it is called),
`lib.connect` and the two setup pragmas resolve. -/
def AllResolve (o : Outcomes) : Prop :=
  o.getLib = none ∧ o.mkdir = true ∧ o.libConnect = true ∧ o.execKey = true ∧
    o.execForeignKeys = true

/-- The options pass the checks of `connect` itself: a remote database has an `authToken`, and
the guard accepts the pool of temporary local storage. -/
def OptionsAccepted (st : Setting) (opts : ConnectionOptions) : Prop :=
  (truthy opts.url = true → truthy opts.authToken = true) ∧
  (truthy opts.url = false → isTemporaryStorage (storagePath st opts) = true →
    temporaryStorageGuard st.pool = none)

/-- `connect` gets as far as `lib.connect(storage)` on the local path. -/
def ReachesLocalConnect (st : Setting) (o : Outcomes) (opts : ConnectionOptions) : Prop :=
  o.getLib = none ∧ truthy opts.url = false ∧
    (isTemporaryStorage (storagePath st opts) = true → temporaryStorageGuard st.pool = none) ∧
    (isTemporaryStorage (storagePath st opts) = false →
      o.storageDirExists = true ∨ o.mkdir = true)

theorem connectLocal_reached (st : Setting) (o : Outcomes) (opts : ConnectionOptions) (e : Engine)
    (hg : isTemporaryStorage (storagePath st opts) = true → temporaryStorageGuard st.pool = none)
    (hd : isTemporaryStorage (storagePath st opts) = false →
      o.storageDirExists = true ∨ o.mkdir = true) (hl : o.libConnect = true) :
    connectLocal st o opts e =
      if truthy opts.password ∧ !o.execKey then (.error (.connectionError .execKey), e.openNew.2)
      else if st.foreignKeys ≠ some false ∧ !o.execForeignKeys then
        (.error (.connectionError .execForeignKeys), e.openNew.2)
      else (.ok e.openNew.1, e.openNew.2) := by
  unfold connectLocal
  cases ht : isTemporaryStorage (storagePath st opts)
  · obtain hx | hx := hd ht <;> simp [hx, hl] <;> split_ifs <;> first | rfl | (split <;> rfl)
  · simp [hg ht, hl]
    split_ifs <;> first | rfl | (split <;> rfl)

theorem connectLocal_execWal (st : Setting) (o : Outcomes) (opts : ConnectionOptions)
    (e : Engine) (b : Bool) :
    connectLocal st { o with execWal := b } opts e = connectLocal st o opts e := by
  unfold connectLocal
  split
  · rfl
  · split_ifs <;> first | rfl | (split <;> split <;> rfl)

theorem connect_execWal (st : Setting) (o : Outcomes) (opts : ConnectionOptions) (e : Engine)
    (b : Bool) : connect st { o with execWal := b } opts e = connect st o opts e := by
  unfold connect
  rw [connectLocal_execWal]

theorem connect_ends_opened (st : Setting) (o : Outcomes) (opts : ConnectionOptions)
    (e : Engine) :
    (∀ c, (connect st o opts e).1 = .ok c → Opened e (connect st o opts e).2 c) ∧
    (∀ call, (connect st o opts e).1 = .error (.connectionError call) → IsSetupPragma call →
      ∃ c, Opened e (connect st o opts e).2 c) ∧
    (∀ err, (connect st o opts e).1 = .error err →
      (∀ call, err = .connectionError call → ¬ IsSetupPragma call) →
        (connect st o opts e).2.openConns = e.openConns) := by
  rcases connect_ends st o opts e with ⟨err, h, hnot⟩ | h | ⟨call, hcall, h⟩ <;> rw [h]
  · refine ⟨nofun, fun call h' hc => ?_, fun _ _ _ => rfl⟩
    cases h'
    exact absurd hc (hnot call rfl)
  · exact ⟨fun c hc => by cases hc; exact openNew_opened e, nofun, nofun⟩
  · refine ⟨nofun, fun _ _ _ => ⟨_, openNew_opened e⟩, fun err h' hnot => ?_⟩
    cases h'
    exact absurd hcall (hnot call rfl)

theorem connect_all_resolve {st : Setting} {o : Outcomes} {opts : ConnectionOptions}
    (hr : AllResolve o) (ha : OptionsAccepted st opts) (e : Engine) :
    connect st o opts e = (.ok e.openNew.1, e.openNew.2) := by
  obtain ⟨hlib, hmk, hl, hk, hf⟩ := hr
  unfold connect
  simp only [hlib]
  cases hu : truthy opts.url
  · rw [if_neg Bool.false_ne_true, connectLocal_reached st o opts e (ha.2 hu) (fun _ => .inr hmk) hl]
    simp [hk, hf]
  · simp [ha.1 hu, hl]

theorem connect_reaching_local {st : Setting} {o : Outcomes} {opts : ConnectionOptions}
    (hr : ReachesLocalConnect st o opts) (hl : o.libConnect = true) (e : Engine) :
    connect st o opts e =
      if truthy opts.password ∧ !o.execKey then (.error (.connectionError .execKey), e.openNew.2)
      else if st.foreignKeys ≠ some false ∧ !o.execForeignKeys then
        (.error (.connectionError .execForeignKeys), e.openNew.2)
      else (.ok e.openNew.1, e.openNew.2) := by
  obtain ⟨hlib, hu, hg, hd⟩ := hr
  unfold connect
  simp only [hlib, hu, Bool.false_eq_true, if_false]
  exact connectLocal_reached st o opts e hg hd hl

/-- Each `connect` opens at most one engine connection. If it resolves, it returns that
connection, fresh and open; it does resolve when every call it makes resolves and the options
pass its checks. If it rejects, the open connections are as they were, except when
`lib.connect` resolved and `PRAGMA KEY` or `PRAGMA foreign_keys = ON` then rejected: it then
rejects with a `ConnectionError` and that connection is left open. How the WAL pragma settles
does not change the result. -/
theorem connect_open_connections (st : Setting) (o : Outcomes) (opts : ConnectionOptions)
    (e : Engine) :
    (∀ c, (connect st o opts e).1 = .ok c → Opened e (connect st o opts e).2 c) ∧
    (∀ call, (connect st o opts e).1 = .error (.connectionError call) → IsSetupPragma call →
      ∃ c, Opened e (connect st o opts e).2 c) ∧
    (∀ err, (connect st o opts e).1 = .error err →
      (∀ call, err = .connectionError call → ¬ IsSetupPragma call) →
        (connect st o opts e).2.openConns = e.openConns) ∧
    (AllResolve o → OptionsAccepted st opts → connect st o opts e = (.ok e.openNew.1, e.openNew.2)) ∧
    (ReachesLocalConnect st o opts → o.libConnect = true → truthy opts.password = true →
      o.execKey = false →
        (connect st o opts e).1 = .error (.connectionError .execKey) ∧
          Opened e (connect st o opts e).2 e.openNew.1) ∧
    (ReachesLocalConnect st o opts → o.libConnect = true →
      (truthy opts.password = false ∨ o.execKey = true) → st.foreignKeys ≠ some false →
      o.execForeignKeys = false →
        (connect st o opts e).1 = .error (.connectionError .execForeignKeys) ∧
          Opened e (connect st o opts e).2 e.openNew.1) ∧
    (∀ b, connect st { o with execWal := b } opts e = connect st o opts e) := by
  obtain ⟨hok, hsetup, hother⟩ := connect_ends_opened st o opts e
  refine ⟨hok, hsetup, hother, fun hr ha => connect_all_resolve hr ha e, fun hr hl hp hk => ?_,
    fun hr hl hp hfk hf => ?_, connect_execWal st o opts e⟩
  · rw [connect_reaching_local hr hl, if_pos ⟨hp, by rw [hk]; rfl⟩]
    exact ⟨rfl, openNew_opened e⟩
  · have hkey : ¬ (truthy opts.password = true ∧ (!o.execKey) = true) := by
      rcases hp with hp | hp <;> simp [hp]
    rw [connect_reaching_local hr hl, if_neg hkey, if_pos ⟨hfk, by rw [hf]; rfl⟩]
    exact ⟨rfl, openNew_opened e⟩

/-- A local database with a password, in a directory that exists. -/
def keyedOptions : ConnectionOptions := ⟨none, none, some "/srv/app.turso", some "secret", none⟩

def localSetting : Setting := ⟨none, ⟨some 10000, none, some 5, false⟩, "/srv"⟩

/-- Every call resolves but `PRAGMA KEY`. -/
def keyRejected : Outcomes := ⟨none, true, true, true, false, true, true⟩

/-- `PRAGMA KEY` rejects after `lib.connect` opened a connection: `connect` rejects with a
`ConnectionError` and the connection stays open. -/
theorem rejected_key_leaves_connection_open :
    ¬ ∀ (st : Setting) (o : Outcomes) (opts : ConnectionOptions) (e : Engine) (err : ConnectError),
      (connect st o opts e).1 = .error err → (connect st o opts e).2.openConns = e.openConns :=
  fun h => absurd (h localSetting keyRejected keyedOptions Engine.empty _ rfl) (by decide)

/-- Every call resolves but the WAL pragma. -/
def walRejected : Outcomes := ⟨none, true, true, true, true, true, false⟩

/-- On the same options, `connect` resolves with the new connection when only the WAL pragma
rejects, and rejects with the new connection left open when `PRAGMA KEY` rejects. -/
theorem keyed_connect_outcomes :
    connect localSetting walRejected keyedOptions Engine.empty =
        (.ok Engine.empty.openNew.1, Engine.empty.openNew.2) ∧
      (connect localSetting keyRejected keyedOptions Engine.empty).1 =
        .error (.connectionError .execKey) ∧
      Opened Engine.empty (connect localSetting keyRejected keyedOptions Engine.empty).2
        Engine.empty.openNew.1 :=
  have hreach : ReachesLocalConnect localSetting keyRejected keyedOptions :=
    ⟨rfl, rfl, by decide, fun _ => .inl rfl⟩
  ⟨(connect_open_connections localSetting walRejected keyedOptions Engine.empty).2.2.2.1
      ⟨rfl, rfl, rfl, rfl, rfl⟩ ⟨by decide, by decide⟩,
    (connect_open_connections localSetting keyRejected keyedOptions Engine.empty).2.2.2.2.1
      hreach rfl rfl rfl⟩

end SequelizeTurso.Connect

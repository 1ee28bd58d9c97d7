import Mathlib.Logic.Function.Basic

/-!
The two caches in front of `import('@tursodatabase/database')`. The module-level pair
`cachedDefaultModule` / `defaultModulePromise` makes every manager share one import attempt,
and each manager's `#lib` / `#libPromise` makes its callers share one call of
`loadDefaultTursoModule`. A handler attached with `.then` or `.catch` runs in a later turn,
after what it waits on has settled. The model lets every handler run at any point after that,
which includes the order the event loop picks, so what holds here holds for it.

Two kinds of guarantee follow, over every interleaving. Safety: at most one import is pending,
none starts once one has succeeded, and a resumed call holds the outcome of the import it
joined. Delivery: once the handlers of what a call awaits have run, the call resumes with the
module or with its import's error, however that import settles; and once a failed import's
handlers have run, the next call starts a fresh one.
-/

namespace SequelizeTurso.ModuleLoader

open Function (update update_noteq update_same)

/-- What a promise of the loader settles with: the module, or the error of import attempt
`attempt`. -/
inductive Outcome
  | module
  | error (attempt : Nat)
  deriving DecidableEq, Repr

/-- What a manager promise waits on: the chain of an import attempt, or the module that
`loadDefaultTursoModule` found cached. -/
inductive Source
  | attempt (k : Nat)
  | cached
  deriving DecidableEq, Repr

/-- What a `connect` call awaits: the module found in `#lib`, or manager promise `i`. -/
inductive Awaits
  | lib
  | managerPromise (i : Nat)
  deriving DecidableEq, Repr

/-- The loader's state across all managers. Attempts, manager promises and calls are numbered
in the order they start; `imported k` is how `import()` of attempt `k` settled, and
`chained k` how its chain `.then(..).catch(..)` settled, which happens when its handler runs. -/
structure LoaderState where
  cachedDefaultModule : Bool
  defaultModulePromise : Option Nat
  attempts : Nat
  imported : Nat → Option Outcome
  chained : Nat → Option Outcome
  lib : Nat → Bool
  libPromise : Nat → Option Nat
  promises : Nat
  promiseManager : Nat → Nat
  promiseSource : Nat → Source
  promiseSettled : Nat → Option Outcome
  calls : Nat
  callAwaits : Nat → Awaits
  received : Nat → Option Outcome

/-- Nothing loaded, nothing in flight; no manager was given a `tursoModule`. -/
def init : LoaderState :=
  ⟨false, none, 0, fun _ => none, fun _ => none, fun _ => false, fun _ => none, 0, fun _ => 0,
    fun _ => .cached, fun _ => none, 0, fun _ => .lib, fun _ => none⟩

inductive Event
  /-- `connect()` on manager `m`, up to `await this.#getLib()`. -/
  | call (m : Nat)
  /-- `import()` of attempt `k` settles. -/
  | settle (k : Nat) (ok : Bool)
  /-- The `.then` or `.catch` handler of attempt `k`'s chain runs. -/
  | chainReact (k : Nat)
  /-- The `.then` or `.catch` handler of manager promise `i` runs. -/
  | managerReact (i : Nat)
  /-- Call `c` resumes with what it awaited. -/
  | resume (c : Nat)

/-- `loadDefaultTursoModule()` up to its `return`: what it hands back, with a new attempt
started when no module is cached and no attempt is in flight. -/
def loadDefaultTursoModule (s : LoaderState) : Source × LoaderState :=
  if s.cachedDefaultModule then (.cached, s)
  else match s.defaultModulePromise with
    | some k => (.attempt k, s)
    | none => (.attempt s.attempts,
        { s with attempts := s.attempts + 1, defaultModulePromise := some s.attempts })

/-- `this.#libPromise = loadDefaultTursoModule().then(..).catch(..)` on manager `m`. -/
def newLibPromise (s : LoaderState) (m : Nat) : LoaderState :=
  let r := loadDefaultTursoModule s
  { r.2 with
    promises := r.2.promises + 1
    promiseManager := update r.2.promiseManager r.2.promises m
    promiseSource := update r.2.promiseSource r.2.promises r.1
    libPromise := update r.2.libPromise m (some r.2.promises) }

/-- `#getLib()` on manager `m` up to its `return`: what the call awaits, and the state. -/
def getLib (s : LoaderState) (m : Nat) : Awaits × LoaderState :=
  if s.lib m then (.lib, s)
  else match s.libPromise m with
    | some i => (.managerPromise i, s)
    | none => (.managerPromise s.promises, newLibPromise s m)

def call (s : LoaderState) (m : Nat) : LoaderState :=
  let r := getLib s m
  { r.2 with calls := r.2.calls + 1, callAwaits := update r.2.callAwaits r.2.calls r.1 }

def settle (s : LoaderState) (k : Nat) (ok : Bool) : LoaderState :=
  if k < s.attempts ∧ s.imported k = none then
    { s with imported := update s.imported k (some (if ok then .module else .error k)) }
  else s

/-- `.then(module => { cachedDefaultModule = module; .. })` or
`.catch(error => { defaultModulePromise = undefined; throw error; })`. -/
def chainReact (s : LoaderState) (k : Nat) : LoaderState :=
  match s.imported k, s.chained k with
  | some .module, none =>
    { s with
      chained := update s.chained k (some .module)
      cachedDefaultModule := true }
  | some (.error e), none =>
    { s with
      chained := update s.chained k (some (.error e))
      defaultModulePromise := none }
  | _, _ => s

/-- How what a manager promise waits on has settled, given how the chains have. -/
def sourceOutcome (chained : Nat → Option Outcome) : Source → Option Outcome
  | .attempt k => chained k
  | .cached => some .module

/-- `.then(module => { this.#lib = module; .. })` or
`.catch(error => { this.#libPromise = undefined; throw error; })`. -/
def managerReact (s : LoaderState) (i : Nat) : LoaderState :=
  if i < s.promises ∧ s.promiseSettled i = none then
    match sourceOutcome s.chained (s.promiseSource i) with
    | some .module =>
      { s with
        promiseSettled := update s.promiseSettled i (some .module)
        lib := update s.lib (s.promiseManager i) true }
    | some (.error e) =>
      { s with
        promiseSettled := update s.promiseSettled i (some (.error e))
        libPromise := update s.libPromise (s.promiseManager i) none }
    | none => s
  else s

/-- How what a call awaits has settled, given how the manager promises have. -/
def awaitedOutcome (promiseSettled : Nat → Option Outcome) : Awaits → Option Outcome
  | .lib => some .module
  | .managerPromise i => promiseSettled i

def resume (s : LoaderState) (c : Nat) : LoaderState :=
  if c < s.calls ∧ s.received c = none then
    match awaitedOutcome s.promiseSettled (s.callAwaits c) with
    | some o => { s with received := update s.received c (some o) }
    | none => s
  else s

def step (s : LoaderState) : Event → LoaderState
  | .call m => call s m
  | .settle k ok => settle s k ok
  | .chainReact k => chainReact s k
  | .managerReact i => managerReact s i
  | .resume c => resume s c

def run (s : LoaderState) (trace : List Event) : LoaderState := trace.foldl step s

theorem run_append (s : LoaderState) (t t' : List Event) : run s (t ++ t') = run (run s t) t' :=
  List.foldl_append _ _ _ _

inductive Reachable : LoaderState → Prop
  | init : Reachable init
  | step {s : LoaderState} (e : Event) : Reachable s → Reachable (step s e)

/-! ### The invariant -/

/-- What holds in every reachable state. An attempt whose chain has not settled is the one in
`defaultModulePromise`, the latest attempt, which never holds a failed import; only the latest
attempt can have loaded the module, which is cached once some chain delivered it; each
manager's `#libPromise` is its own latest promise and has not failed; calls and promises wait
on promises and attempts that exist; every settled promise and every resumed call carries the
outcome of what it waited on. -/
structure Inv (s : LoaderState) : Prop where
  imported_fresh : ∀ k, s.attempts ≤ k → s.imported k = none
  chained_imported : ∀ k o, s.chained k = some o → s.imported k = some o
  unchained_current : ∀ k, k < s.attempts → s.chained k = none → s.defaultModulePromise = some k
  current_not_failed : ∀ k, s.defaultModulePromise = some k →
    k < s.attempts ∧ ∀ e, s.chained k ≠ some (.error e)
  cached_of_chained : ∀ k, s.chained k = some .module → s.cachedDefaultModule = true
  chained_of_cached : s.cachedDefaultModule = true → ∃ k, s.chained k = some .module
  cached_of_lib : ∀ m, s.lib m = true → s.cachedDefaultModule = true
  promise_fresh : ∀ i, s.promises ≤ i → s.promiseSettled i = none
  promise_settled : ∀ i o, s.promiseSettled i = some o →
    sourceOutcome s.chained (s.promiseSource i) = some o
  cached_of_source : ∀ i, i < s.promises → s.promiseSource i = .cached →
    s.cachedDefaultModule = true
  libPromise_current : ∀ m i, s.libPromise m = some i → i < s.promises ∧
    s.promiseManager i = m ∧ (s.promiseSettled i = none ∨ s.promiseSettled i = some .module)
  call_fresh : ∀ c, s.calls ≤ c → s.received c = none
  received_awaited : ∀ c o, s.received c = some o →
    awaitedOutcome s.promiseSettled (s.callAwaits c) = some o
  current_latest : ∀ k, s.defaultModulePromise = some k → k + 1 = s.attempts
  imported_form : ∀ k o, s.imported k = some o → o = .module ∨ o = .error k
  success_last : ∀ k, s.imported k = some .module → k + 1 = s.attempts
  awaits_lt : ∀ c < s.calls, ∀ i, s.callAwaits c = .managerPromise i → i < s.promises
  source_lt : ∀ i < s.promises, ∀ k, s.promiseSource i = .attempt k → k < s.attempts

theorem init_inv : Inv init := by
  constructor <;> simp [init]

/-- Settling one chain does not change the outcome of a source that had already settled. -/
theorem sourceOutcome_update {chained : Nat → Option Outcome} {k : Nat} (hk : chained k = none)
    (v : Option Outcome) {src : Source} {o : Outcome} (h : sourceOutcome chained src = some o) :
    sourceOutcome (update chained k v) src = some o := by
  cases src with
  | attempt k' =>
    have hne : k' ≠ k := fun e => by simp_all [sourceOutcome]
    simpa [sourceOutcome, update_noteq hne] using h
  | cached => exact h

theorem awaitedOutcome_update {settled : Nat → Option Outcome} {i : Nat} (hi : settled i = none)
    (v : Option Outcome) {a : Awaits} {o : Outcome} (h : awaitedOutcome settled a = some o) :
    awaitedOutcome (update settled i v) a = some o := by
  cases a with
  | lib => exact h
  | managerPromise i' =>
    have hne : i' ≠ i := fun e => by simp_all [awaitedOutcome]
    simpa [awaitedOutcome, update_noteq hne] using h

/-- Entries at or past a counter stay unset when one entry below it is set. -/
theorem update_fresh {β : Type} {f : Nat → Option β} {n a : Nat} (hf : ∀ x, n ≤ x → f x = none)
    (ha : a < n) (v : Option β) : ∀ x, n ≤ x → update f a v x = none := fun x hx => by
  rw [update_noteq (by omega)]
  exact hf x hx

/-- A fact about every set entry survives setting one more entry that has it. -/
theorem update_settled {α β : Type} [DecidableEq α] {f : α → Option β} {P : α → β → Prop}
    (hf : ∀ x o, f x = some o → P x o) {a : α} {b : β} (hb : P a b) :
    ∀ x o, update f a (some b) x = some o → P x o := fun x o hx => by
  by_cases e : x = a
  · subst e
    rw [update_same] at hx
    cases hx
    exact hb
  · rw [update_noteq e] at hx
    exact hf x o hx

/-- An entry that differs from the value just set was not the one set. -/
theorem ne_of_update_eq {α β : Type} [DecidableEq α] {f : α → β} {a x : α} {v b : β}
    (h : update f a v x = b) (hv : v ≠ b) : x ≠ a ∧ f x = b := by
  by_cases e : x = a
  · subst e
    rw [update_same] at h
    exact absurd h hv
  · rw [update_noteq e] at h
    exact ⟨e, h⟩

/-- Changing what an unset entry depends on keeps a fact about every set entry. -/
theorem update_unset {α β γ : Type} [DecidableEq α] {f : α → Option β} {g : α → γ} {a : α}
    (ha : f a = none) (P : γ → β → Prop) (hf : ∀ x o, f x = some o → P (g x) o) (v : γ) :
    ∀ x o, f x = some o → P (update g a v x) o := fun x o hx => by
  have e : x ≠ a := fun e => by rw [e, ha] at hx; cases hx
  rw [update_noteq e]
  exact hf x o hx

theorem Inv.chained_of_imported {s : LoaderState} (h : Inv s) {k : Nat}
    (hn : s.imported k = none) : s.chained k = none := by
  cases hc : s.chained k with
  | none => rfl
  | some o =>
    rw [h.chained_imported k o hc] at hn
    cases hn

theorem loadDefaultTursoModule_promises (s : LoaderState) :
    (loadDefaultTursoModule s).2.promises = s.promises := by
  unfold loadDefaultTursoModule
  split
  · rfl
  · split <;> rfl

section Preservation

variable {s : LoaderState} (h : Inv s)
include h

theorem resume_inv (c : Nat) : Inv (resume s c) := by
  unfold resume
  split
  · rename_i hg
    split
    · rename_i o ho
      exact { h with
        call_fresh := update_fresh h.call_fresh hg.1 _
        received_awaited := update_settled h.received_awaited ho }
    · exact h
  · exact h

theorem settle_inv (k : Nat) (ok : Bool) : Inv (settle s k ok) := by
  unfold settle
  split
  · rename_i hg
    exact { h with
      imported_fresh := update_fresh h.imported_fresh hg.1 _
      chained_imported :=
        update_unset (h.chained_of_imported hg.2) (fun i o => i = some o) h.chained_imported _
      imported_form := update_settled h.imported_form (by cases ok <;> simp)
      success_last := fun k' hk' => by
        by_cases e : k' = k
        · exact e ▸ h.current_latest k (h.unchained_current k hg.1 (h.chained_of_imported hg.2))
        · exact h.success_last k' (by dsimp only at hk'; rwa [update_noteq e] at hk') }
  · exact h

/-- The chain of an attempt whose import settled had not settled before: what it settles with
is fresh for every promise that already settled. -/
theorem chainReact_inv (k : Nat) : Inv (chainReact s k) := by
  unfold chainReact
  split
  · rename_i himp hch
    exact { h with
      chained_imported := update_settled h.chained_imported himp
      unchained_current := fun k' hk' hn =>
        h.unchained_current k' hk' (ne_of_update_eq hn (Option.some_ne_none _)).2
      current_not_failed := fun k' hk' => ⟨(h.current_not_failed k' hk').1, fun err he =>
        (h.current_not_failed k' hk').2 err (ne_of_update_eq he nofun).2⟩
      cached_of_chained := fun _ _ => rfl
      chained_of_cached := fun _ => ⟨k, update_same _ _ _⟩
      cached_of_lib := fun _ _ => rfl
      promise_settled := fun i o hi => sourceOutcome_update hch _ (h.promise_settled i o hi)
      cached_of_source := fun _ _ _ => rfl }
  · rename_i err himp hch
    have hk : k < s.attempts := by
      by_contra hk
      simp_all [h.imported_fresh k (by omega)]
    have hcur := h.unchained_current k hk hch
    exact { h with
      chained_imported := update_settled h.chained_imported himp
      unchained_current := fun k' hk' hn => by
        obtain ⟨e, hn⟩ := ne_of_update_eq hn (Option.some_ne_none _)
        exact absurd (Option.some.inj (hcur.symm.trans (h.unchained_current k' hk' hn))) (Ne.symm e)
      current_not_failed := fun k' hk' => by simp at hk'
      current_latest := fun k' hk' => by simp at hk'
      cached_of_chained := fun k' hk' => h.cached_of_chained k' (ne_of_update_eq hk' nofun).2
      chained_of_cached := fun hc => by
        obtain ⟨k', hk'⟩ := h.chained_of_cached hc
        have e : k' ≠ k := fun e => by simp_all
        exact ⟨k', by dsimp only; rw [update_noteq e]; exact hk'⟩
      promise_settled := fun i o hi => sourceOutcome_update hch _ (h.promise_settled i o hi) }
  · exact h

/-- A manager promise settles with what its source settled with; a failure clears its
manager's `#libPromise`, which is that promise. -/
theorem managerReact_inv (i : Nat) : Inv (managerReact s i) := by
  unfold managerReact
  split
  · rename_i hg
    split
    · rename_i hsrc
      exact { h with
        cached_of_lib := fun m hm => by
          dsimp only at hm ⊢
          by_cases e : m = s.promiseManager i
          · cases hs : s.promiseSource i with
            | attempt k =>
              rw [hs] at hsrc
              exact h.cached_of_chained k hsrc
            | cached => exact h.cached_of_source i hg.1 hs
          · rw [update_noteq e] at hm
            exact h.cached_of_lib m hm
        promise_fresh := update_fresh h.promise_fresh hg.1 _
        promise_settled := update_settled h.promise_settled hsrc
        libPromise_current := fun m i' hm => by
          obtain ⟨h1, h2, h3⟩ := h.libPromise_current m i' hm
          refine ⟨h1, h2, ?_⟩
          dsimp only
          by_cases e : i' = i
          · subst e
            simp
          · rw [update_noteq e]
            exact h3
        received_awaited := fun c o hc =>
          awaitedOutcome_update hg.2 _ (h.received_awaited c o hc) }
    · rename_i err hsrc
      exact { h with
        promise_fresh := update_fresh h.promise_fresh hg.1 _
        promise_settled := update_settled h.promise_settled hsrc
        libPromise_current := fun m i' hm => by
          obtain ⟨em, hm⟩ := ne_of_update_eq hm nofun
          obtain ⟨h1, h2, h3⟩ := h.libPromise_current m i' hm
          have e : i' ≠ i := fun e => em (e ▸ h2.symm)
          exact ⟨h1, h2, by dsimp only; rw [update_noteq e]; exact h3⟩
        received_awaited := fun c o hc =>
          awaitedOutcome_update hg.2 _ (h.received_awaited c o hc) }
    · exact h
  · exact h

/-- A new call, awaiting a promise that exists, has received nothing yet. -/
theorem addCall_inv (a : Awaits) (ha : ∀ i, a = .managerPromise i → i < s.promises) :
    Inv { s with calls := s.calls + 1, callAwaits := update s.callAwaits s.calls a } :=
  { h with
    call_fresh := fun c hc => h.call_fresh c (by dsimp only at hc; omega)
    received_awaited := update_unset (h.call_fresh _ (Nat.le_refl _))
      (fun a o => awaitedOutcome s.promiseSettled a = some o) h.received_awaited a
    awaits_lt := fun c hc i hi => by
      dsimp only at hc hi
      by_cases e : c = s.calls
      · rw [e, update_same] at hi
        exact ha i hi
      · rw [update_noteq e] at hi
        exact h.awaits_lt c (by omega) i hi }

/-- `loadDefaultTursoModule` starts an attempt only when none is in flight, and hands back
the cached module only when it is cached. -/
theorem loadDefaultTursoModule_inv :
    Inv (loadDefaultTursoModule s).2 ∧
      ((loadDefaultTursoModule s).1 = .cached →
        (loadDefaultTursoModule s).2.cachedDefaultModule = true) ∧
      (∀ k, (loadDefaultTursoModule s).1 = .attempt k → k < (loadDefaultTursoModule s).2.attempts) := by
  unfold loadDefaultTursoModule
  split
  · exact ⟨h, fun _ => ‹_›, nofun⟩
  · split
    · rename_i k hk
      exact ⟨h, nofun, fun k' e => by cases e; exact (h.current_not_failed k hk).1⟩
    · rename_i hc _ hd
      refine ⟨{ h with
        imported_fresh := fun k hk => h.imported_fresh k (by dsimp only at hk; omega)
        unchained_current := fun k hk hn => by
          dsimp only at hk ⊢
          rcases Nat.lt_succ_iff_lt_or_eq.mp hk with hk | rfl
          · rw [h.unchained_current k hk hn] at hd
            cases hd
          · rfl
        current_not_failed := fun k hk => by
          dsimp only at hk
          cases hk
          refine ⟨Nat.lt_succ_self _, fun e he => ?_⟩
          have hi := h.chained_imported _ _ he
          rw [h.imported_fresh _ (Nat.le_refl _)] at hi
          cases hi
        current_latest := fun k hk => by
          dsimp only at hk ⊢
          cases hk
          rfl
        success_last := fun k hk => by
          dsimp only at hk
          have hlt : k < s.attempts := by have := h.success_last k hk; omega
          exfalso
          cases hch : s.chained k with
          | none => rw [h.unchained_current k hlt hch] at hd; cases hd
          | some o =>
            have ho := h.chained_imported k o hch
            rw [hk] at ho
            cases ho
            exact hc (h.cached_of_chained k hch)
        source_lt := fun i hi k hk => Nat.lt_succ_of_lt (h.source_lt i hi k hk) }, nofun,
        fun k e => by cases e; exact Nat.lt_succ_self _⟩

theorem newLibPromise_inv (m : Nat) : Inv (newLibPromise s m) := by
  obtain ⟨h', hsrc, hatt⟩ := loadDefaultTursoModule_inv h
  have hfresh := h'.promise_fresh _ (Nat.le_refl _)
  exact { h' with
    awaits_lt := fun c hc i hi => Nat.lt_succ_of_lt (h'.awaits_lt c hc i hi)
    source_lt := fun i hi k hk => by
      dsimp only [newLibPromise] at hi hk ⊢
      by_cases e : i = (loadDefaultTursoModule s).2.promises
      · rw [e, update_same] at hk
        exact hatt k hk
      · rw [update_noteq e] at hk
        exact h'.source_lt i (by omega) k hk
    promise_fresh := fun i hi => h'.promise_fresh i (by dsimp only [newLibPromise] at hi; omega)
    promise_settled := update_unset hfresh
      (fun src o => sourceOutcome (loadDefaultTursoModule s).2.chained src = some o)
      h'.promise_settled _
    cached_of_source := fun i hi hs => by
      dsimp only [newLibPromise] at hi hs ⊢
      by_cases e : i = (loadDefaultTursoModule s).2.promises
      · subst e
        rw [update_same] at hs
        exact hsrc hs
      · rw [update_noteq e] at hs
        exact h'.cached_of_source i (by omega) hs
    libPromise_current := fun m' i hm => by
      dsimp only [newLibPromise] at hm ⊢
      by_cases e : m' = m
      · subst e
        rw [update_same] at hm
        cases hm
        exact ⟨Nat.lt_succ_self _, update_same _ _ _, .inl hfresh⟩
      · rw [update_noteq e] at hm
        obtain ⟨h1, h2, h3⟩ := h'.libPromise_current m' i hm
        have ei : i ≠ (loadDefaultTursoModule s).2.promises := by omega
        exact ⟨by omega, by rw [update_noteq ei]; exact h2, h3⟩ }

theorem call_inv (m : Nat) : Inv (call s m) := by
  have hget : Inv (getLib s m).2 ∧
      ∀ i, (getLib s m).1 = .managerPromise i → i < (getLib s m).2.promises := by
    unfold getLib
    split
    · exact ⟨h, nofun⟩
    · split
      · rename_i i hi
        exact ⟨h, fun i' e => by cases e; exact (h.libPromise_current m i hi).1⟩
      · refine ⟨newLibPromise_inv h m, fun i' e => ?_⟩
        cases e
        simp only [newLibPromise, loadDefaultTursoModule_promises s]
        exact Nat.lt_succ_self _
  exact addCall_inv hget.1 _ hget.2

theorem step_inv : ∀ e, Inv (step s e)
  | .call m => call_inv h m
  | .settle k ok => settle_inv h k ok
  | .chainReact k => chainReact_inv h k
  | .managerReact i => managerReact_inv h i
  | .resume c => resume_inv h c

end Preservation

theorem Reachable.inv {s : LoaderState} (hs : Reachable s) : Inv s := by
  induction hs with
  | init => exact init_inv
  | step e _ ih => exact step_inv ih e

theorem Reachable.run_trace {s : LoaderState} (hs : Reachable s) :
    ∀ trace : List Event, Reachable (run s trace)
  | [] => hs
  | e :: trace => Reachable.run_trace (.step e hs) trace

/-! ### Single flight -/

/-- A call starts an import attempt exactly when its manager has neither `#lib` nor
`#libPromise` and the module is neither cached nor in flight. -/
theorem call_attempts (s : LoaderState) (m : Nat) :
    (call s m).attempts = if s.lib m = false ∧ s.libPromise m = none ∧
      s.cachedDefaultModule = false ∧ s.defaultModulePromise = none then s.attempts + 1
      else s.attempts := by
  unfold call getLib
  cases hl : s.lib m
  · cases hp : s.libPromise m
    · unfold newLibPromise loadDefaultTursoModule
      cases hc : s.cachedDefaultModule
      · cases hd : s.defaultModulePromise <;> simp [hd]
      · simp
    · simp
  · simp

/-- A handler, anything but a call, starts no attempt, promise or call, and changes neither
what a call awaits nor what a promise waits on. -/
theorem step_frame_of_not_call (s : LoaderState) (e : Event) (he : ∀ m, e ≠ .call m) :
    (step s e).attempts = s.attempts ∧ (step s e).promises = s.promises ∧
      (step s e).calls = s.calls ∧ (step s e).callAwaits = s.callAwaits ∧
      (step s e).promiseSource = s.promiseSource := by
  cases e with
  | call m => exact absurd rfl (he m)
  | settle k ok => simp only [step]; unfold settle; split <;> exact ⟨rfl, rfl, rfl, rfl, rfl⟩
  | chainReact k => simp only [step]; unfold chainReact; split <;> exact ⟨rfl, rfl, rfl, rfl, rfl⟩
  | managerReact i =>
    simp only [step]; unfold managerReact
    split <;> (try split) <;> exact ⟨rfl, rfl, rfl, rfl, rfl⟩
  | resume c =>
    simp only [step]; unfold resume
    split <;> (try split) <;> exact ⟨rfl, rfl, rfl, rfl, rfl⟩

theorem run_frame_of_not_call (trace : List Event) (htr : ∀ e ∈ trace, ∀ m, e ≠ .call m) :
    ∀ s : LoaderState, (run s trace).calls = s.calls ∧ (run s trace).callAwaits = s.callAwaits ∧
      (run s trace).promiseSource = s.promiseSource := by
  induction trace with
  | nil => exact fun _ => ⟨rfl, rfl, rfl⟩
  | cons e es ih =>
    intro s
    obtain ⟨-, -, hc, ha, hp⟩ := step_frame_of_not_call s e (htr e (List.mem_cons_self _ _))
    obtain ⟨hc', ha', hp'⟩ := ih (fun e' he' => htr e' (List.mem_cons_of_mem _ he')) (step s e)
    exact ⟨hc'.trans hc, ha'.trans ha, hp'.trans hp⟩

theorem run_inv {s : LoaderState} (h : Inv s) : ∀ trace : List Event, Inv (run s trace)
  | [] => h
  | e :: trace => run_inv (step_inv h e) trace

/-- The import attempt a call joined; `none` when it found the module in `#lib` or in
`cachedDefaultModule`. -/
def joinedAttempt (s : LoaderState) (c : Nat) : Option Nat :=
  match s.callAwaits c with
  | .lib => none
  | .managerPromise i =>
    match s.promiseSource i with
    | .attempt k => some k
    | .cached => none

/-! ### Handlers that deliver -/

/-- Settling an import that exists leaves its outcome set. -/
theorem settle_imported (s : LoaderState) {k : Nat} (hk : k < s.attempts) (ok : Bool) :
    (settle s k ok).imported k ≠ none := by
  unfold settle
  split
  · simp
  · rename_i hnot
    exact fun hn => hnot ⟨hk, hn⟩

/-- Once an import has settled, its chain's handler leaves the chain settled. -/
theorem chainReact_chained (s : LoaderState) {k : Nat} (hk : s.imported k ≠ none) :
    (chainReact s k).chained k ≠ none := by
  cases hi : s.imported k with
  | none => exact absurd hi hk
  | some o =>
    cases hc : s.chained k with
    | some _ => simp [chainReact, hi, hc]
    | none => cases o <;> simp [chainReact, hi, hc]

/-- Once what a manager promise waits on has settled, its handler leaves it settled. -/
theorem managerReact_settled (s : LoaderState) {i : Nat} (hi : i < s.promises)
    (hsrc : sourceOutcome s.chained (s.promiseSource i) ≠ none) :
    (managerReact s i).promiseSettled i ≠ none := by
  cases hp : s.promiseSettled i with
  | some _ => simp [managerReact, hp]
  | none =>
    obtain ⟨o, ho⟩ := Option.ne_none_iff_exists'.mp hsrc
    cases o <;> simp [managerReact, hi, hp, ho]

theorem resume_imported (s : LoaderState) (c : Nat) : (resume s c).imported = s.imported := by
  unfold resume
  split <;> (try split) <;> rfl

/-- A call resumed once what it awaits has settled receives that outcome. -/
theorem resume_delivers {s : LoaderState} (h : Inv s) {c : Nat} (hc : c < s.calls) {o : Outcome}
    (ho : awaitedOutcome s.promiseSettled (s.callAwaits c) = some o) :
    (resume s c).received c = some o := by
  cases hr : s.received c with
  | none => simp [resume, hc, hr, ho]
  | some o' =>
    have e : o = o' := Option.some.inj (ho.symm.trans (h.received_awaited c o' hr))
    simp [resume, hr, e]

/-- What settles what call `c` awaits, the import it joined settling with `ok` if it has not
yet: that import, its chain's handler, then the handler of the manager promise. -/
def handlersFor (s : LoaderState) (c : Nat) (ok : Bool) : List Event :=
  match s.callAwaits c with
  | .lib => []
  | .managerPromise i =>
    match s.promiseSource i with
    | .attempt k => [.settle k ok, .chainReact k, .managerReact i]
    | .cached => [.managerReact i]

theorem handlersFor_not_call (s : LoaderState) (c : Nat) (ok : Bool) :
    ∀ e ∈ handlersFor s c ok, ∀ m, e ≠ .call m := by
  unfold handlersFor
  split
  · simp
  · split <;> simp

/-- After its handlers, what a call awaits has settled. -/
theorem handlersFor_settle {s : LoaderState} (h : Inv s) {c : Nat} (hc : c < s.calls) (ok : Bool) :
    ∃ o, awaitedOutcome (run s (handlersFor s c ok)).promiseSettled (s.callAwaits c) = some o := by
  unfold handlersFor
  split
  · rename_i ha
    exact ⟨.module, by rw [ha]; rfl⟩
  · rename_i i ha
    have hi := h.awaits_lt c hc i ha
    rw [ha]
    split
    · rename_i k hsrc
      have hk := h.source_lt i hi k hsrc
      obtain ⟨-, hp1, -, -, hs1⟩ := step_frame_of_not_call s (.settle k ok) nofun
      obtain ⟨-, hp2, -, -, hs2⟩ := step_frame_of_not_call (step s (.settle k ok)) (.chainReact k) nofun
      have hset := managerReact_settled (step (step s (.settle k ok)) (.chainReact k))
        (by rw [hp2, hp1]; exact hi)
        (by rw [hs2, hs1, hsrc]; exact chainReact_chained _ (settle_imported s hk ok))
      exact Option.ne_none_iff_exists'.mp hset
    · rename_i hsrc
      exact Option.ne_none_iff_exists'.mp
        (managerReact_settled s hi (by rw [hsrc]; exact Option.some_ne_none _))

section Guarantees

variable {s : LoaderState} (h : Inv s)
include h

theorem at_most_one_pending {k k' : Nat} (hk : k < s.attempts) (hn : s.imported k = none)
    (hk' : k' < s.attempts) (hn' : s.imported k' = none) : k = k' :=
  Option.some.inj ((h.unchained_current k hk (h.chained_of_imported hn)).symm.trans
    (h.unchained_current k' hk' (h.chained_of_imported hn')))

theorem no_attempt_after_success {k : Nat} (hk : s.imported k = some .module) (e : Event) :
    (step s e).attempts = s.attempts := by
  have hloaded : s.cachedDefaultModule = true ∨ s.defaultModulePromise = some k := by
    cases hc : s.chained k with
    | none =>
      refine .inr (h.unchained_current k ?_ hc)
      by_contra hlt
      rw [h.imported_fresh k (by omega)] at hk
      cases hk
    | some o =>
      have := h.chained_imported k o hc
      rw [hk] at this
      cases this
      exact .inl (h.cached_of_chained k hc)
  cases e with
  | call m =>
    simp only [step, call_attempts]
    rcases hloaded with hx | hx <;> simp [hx]
  | _ => exact (step_frame_of_not_call s _ (by intro _ h; cases h)).1

/-- Once the latest import has failed, and the handler of its chain and that of manager `m`'s
promise have run, a call on `m` starts a fresh import. -/
theorem retry_after_failure {k m : Nat} (hk : s.imported k = some (.error k))
    (hlast : k + 1 = s.attempts) (hch : s.chained k ≠ none)
    (hm : ∀ i, s.libPromise m = some i → s.promiseSettled i ≠ none) :
    (step s (.call m)).attempts = s.attempts + 1 := by
  have hno : ∀ k', s.imported k' ≠ some .module := fun k' hk' => by
    obtain rfl : k' = k := by have := h.success_last k' hk'; omega
    rw [hk] at hk'
    cases hk'
  have hcached : s.cachedDefaultModule = false := Bool.eq_false_iff.mpr fun hc =>
    let ⟨k', hk'⟩ := h.chained_of_cached hc
    hno k' (h.chained_imported k' _ hk')
  have hlib : s.lib m = false := Bool.eq_false_iff.mpr fun hl => by
    simp [h.cached_of_lib m hl] at hcached
  have hdmp : s.defaultModulePromise = none := by
    cases hd : s.defaultModulePromise with
    | none => rfl
    | some k' =>
      obtain rfl : k' = k := by have := h.current_latest k' hd; omega
      obtain ⟨o, ho⟩ := Option.ne_none_iff_exists'.mp hch
      have hi := h.chained_imported k' o ho
      rw [hk] at hi
      cases hi
      exact absurd ho ((h.current_not_failed k' hd).2 k')
  have hlp : s.libPromise m = none := by
    cases hp : s.libPromise m with
    | none => rfl
    | some i =>
      obtain ⟨hi, -, hs⟩ := h.libPromise_current m i hp
      have ho := h.promise_settled i _ (hs.resolve_left (hm i hp))
      cases e : s.promiseSource i with
      | attempt k' =>
        rw [e] at ho
        exact absurd (h.chained_imported k' _ ho) (hno k')
      | cached => simp [h.cached_of_source i hi e] at hcached
  simp [step, call_attempts, hlib, hlp, hcached, hdmp]

theorem received_joined {c : Nat} {o : Outcome} (hc : s.received c = some o) :
    (∀ k, joinedAttempt s c = some k → s.imported k = some o) ∧
      (joinedAttempt s c = none → o = .module) := by
  have ha := h.received_awaited c o hc
  cases hw : s.callAwaits c with
  | lib =>
    rw [hw] at ha
    simp only [joinedAttempt, hw]
    exact ⟨nofun, fun _ => (Option.some.inj ha).symm⟩
  | managerPromise i =>
    rw [hw] at ha
    have hs := h.promise_settled i o ha
    cases hsrc : s.promiseSource i with
    | attempt k =>
      rw [hsrc] at hs
      simp only [joinedAttempt, hw, hsrc, Option.some.injEq, forall_eq', reduceCtorEq,
        false_implies, and_true]
      exact h.chained_imported k o hs
    | cached =>
      rw [hsrc] at hs
      simp only [joinedAttempt, hw, hsrc]
      exact ⟨nofun, fun _ => (Option.some.inj hs).symm⟩

end Guarantees

/-- Whatever the import it joined settles with, a call whose handlers have run and which then
resumes receives the module, or the outcome of the import it joined, which is the module or
that import's error. -/
theorem call_receives {s : LoaderState} (h : Inv s) {c : Nat} (hc : c < s.calls) (ok : Bool) :
    ∃ o, (run s (handlersFor s c ok ++ [.resume c])).received c = some o ∧
      (joinedAttempt s c = none → o = .module) ∧
      ∀ k, joinedAttempt s c = some k →
        (run s (handlersFor s c ok)).imported k = some o ∧ (o = .module ∨ o = .error k) := by
  obtain ⟨o, ho⟩ := handlersFor_settle h hc ok
  obtain ⟨hcalls, hawaits, hsource⟩ := run_frame_of_not_call _ (handlersFor_not_call s c ok) s
  have ht := run_inv h (handlersFor s c ok)
  rw [run_append]
  generalize run s (handlersFor s c ok) = t at ho hcalls hawaits hsource ht ⊢
  have hres : (step t (.resume c)).received c = some o :=
    resume_delivers ht (hcalls ▸ hc) (by rw [hawaits]; exact ho)
  have hjoined : joinedAttempt (step t (.resume c)) c = joinedAttempt s c := by
    obtain ⟨-, -, -, ha, hp⟩ := step_frame_of_not_call t (.resume c) nofun
    unfold joinedAttempt
    rw [ha, hp, hawaits, hsource]
  obtain ⟨hk, hnone⟩ := received_joined (step_inv ht (.resume c)) hres
  rw [hjoined] at hk hnone
  refine ⟨o, hres, hnone, fun k hj => ?_⟩
  have himp : t.imported k = some o := by
    rw [← resume_imported t c]
    exact hk k hj
  exact ⟨himp, ht.imported_form k o himp⟩

/-- The guarantees of the two caches in a state: at most one import pending; no import
starts once one has succeeded; once the latest import has failed and its chain's handler and
that of a manager's promise have run, a call on that manager starts a fresh import; every call
that resumed got the outcome of the import it joined, or the module when it joined none; and
every call, once the handlers of what it awaits have run and it resumes, receives the module or
the outcome of the import it joined, whatever that import settles with. -/
def SingleFlight (s : LoaderState) : Prop :=
  (∀ k k', k < s.attempts → s.imported k = none → k' < s.attempts → s.imported k' = none →
    k = k') ∧
  (∀ k, s.imported k = some .module → ∀ e, (step s e).attempts = s.attempts) ∧
  (∀ k m, s.imported k = some (.error k) → k + 1 = s.attempts → s.chained k ≠ none →
    (∀ i, s.libPromise m = some i → s.promiseSettled i ≠ none) →
    (step s (.call m)).attempts = s.attempts + 1) ∧
  (∀ c o, s.received c = some o →
    (∀ k, joinedAttempt s c = some k → s.imported k = some o) ∧
      (joinedAttempt s c = none → o = .module)) ∧
  (∀ c < s.calls, ∀ ok, ∃ o, (run s (handlersFor s c ok ++ [.resume c])).received c = some o ∧
    (joinedAttempt s c = none → o = .module) ∧
    ∀ k, joinedAttempt s c = some k →
      (run s (handlersFor s c ok)).imported k = some o ∧ (o = .module ∨ o = .error k))

/-- Whatever the interleaving of calls on any number of managers and of the handlers, and
however each import settles, the two caches keep their guarantees. -/
theorem loader_single_flight (s : LoaderState) (hs : Reachable s) : SingleFlight s :=
  have h := hs.inv
  ⟨fun _ _ => at_most_one_pending h, fun _ hk => no_attempt_after_success h hk,
    fun _ _ hk hlast hch hm => retry_after_failure h hk hlast hch hm,
    fun _ _ => received_joined h, fun _ hc ok => call_receives h hc ok⟩

/-- Managers 0 and 1 call; the import fails; its handlers run and both calls resume with the
error. -/
def failedOnce : List Event :=
  [.call 0, .call 1, .settle 0 false, .chainReact 0, .managerReact 0, .managerReact 1,
    .resume 0, .resume 1]

/-- Manager 0 then calls again and starts a second import. -/
theorem loader_single_flight_retry :
    Reachable (run init failedOnce) ∧ SingleFlight (run init failedOnce) ∧
      (step (run init failedOnce) (.call 0)).attempts = (run init failedOnce).attempts + 1 := by
  have hs := Reachable.init.run_trace failedOnce
  have hsf := loader_single_flight _ hs
  have hlp : (run init failedOnce).libPromise 0 = none := by decide
  exact ⟨hs, hsf, hsf.2.2.1 0 0 (by decide) (by decide) (by decide)
    fun i hi => absurd (hlp.symm.trans hi) nofun⟩

end SequelizeTurso.ModuleLoader

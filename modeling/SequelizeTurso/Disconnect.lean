import SequelizeTurso.Connect

/-!
`TursoConnectionManager.validate` and `disconnect`, with `connect`, over every interleaving of
the pool's calls with the engine's answers to `connection.close()`. `disconnect` reads the
connection's `CLOSED_SYMBOL` flag; when it is unset it calls `close()` and awaits it, and only
its continuation, after the close has resolved, sets the flag. A rejected close is rethrown and
leaves the flag unset. `validate` passes a connection whose flag is unset. The pool disconnects
only connections `connect` handed out. A `connect` touches only the connection it opens, which
no `disconnect` can reach before it is handed out, so it is one step here.

Every engine connection is open until a `close()` of it resolves; one that `connect` opened but
never handed out is open for good. The flag's `true` is sound and final: a connection `validate`
rejects is closed in the engine, stays rejected, and never sees another `close()`. Its `false`
is not: from the engine's close to the continuation that sets the flag, `validate` still passes
the closed connection, and a `disconnect` started then calls `close()` on it again.
-/

namespace SequelizeTurso.Disconnect

open Connect
open Function (update update_noteq update_same)

/-- One `connection.close()`: the connection, and the engine's answer, `true` for resolved,
`none` while it is pending. -/
structure CloseCall where
  conn : Nat
  answer : Option Bool
  deriving DecidableEq, Repr

/-- Where one `disconnect(connection)` call is. -/
inductive Phase
  /-- At `await connection.close()`, on close call `k`. -/
  | awaiting (k : Nat)
  | resolved
  /-- `catch (err) { throw err; }`: rejected with the error of close call `k`. -/
  | rejected (k : Nat)
  deriving DecidableEq, Repr

/-- The engine, each connection's `CLOSED_SYMBOL` flag, the `close()` and `disconnect` calls,
each numbered in the order it started, and the connections `connect` handed out. -/
structure DisconnectState where
  engine : Engine
  closedFlag : Nat → Bool
  closes : List CloseCall
  calls : List (Nat × Phase)
  handedOut : List Nat

def init : DisconnectState := ⟨Engine.empty, fun _ => false, [], [], []⟩

/-- `validate(connection)`: `!connection[CLOSED_SYMBOL]`. -/
def validate (s : DisconnectState) (c : Nat) : Bool := !s.closedFlag c

/-- `disconnect(connection)` up to its first `await`: a call resolved at once when the flag is
set, else a new `close()` call that it awaits. -/
def disconnect (s : DisconnectState) (c : Nat) : DisconnectState :=
  if s.closedFlag c then { s with calls := s.calls ++ [(c, .resolved)] }
  else
    { s with
      closes := s.closes ++ [⟨c, none⟩]
      calls := s.calls ++ [(c, .awaiting s.closes.length)] }

/-- The engine closes connection `c`. -/
def closeConn (e : Engine) (c : Nat) : Engine :=
  ⟨e.openConns.filter (· != c), e.next, fun c' h => e.fresh c' (List.mem_filter.mp h).1⟩

/-- The engine settles pending close call `k`; one that resolves has closed its connection. -/
def answerClose (s : DisconnectState) (k : Nat) (ok : Bool) : DisconnectState :=
  match s.closes[k]? with
  | some ⟨c, none⟩ =>
    { s with
      engine := if ok then closeConn s.engine c else s.engine
      closes := s.closes.set k ⟨c, some ok⟩ }
  | _ => s

/-- Disconnect call `d` resumes once its close has settled: `connection[CLOSED_SYMBOL] = true`
when it resolved, `throw err` when it rejected. -/
def resume (s : DisconnectState) (d : Nat) : DisconnectState :=
  match s.calls[d]? with
  | some (c, .awaiting k) =>
    match s.closes[k]? with
    | some ⟨_, some true⟩ =>
      { s with closedFlag := update s.closedFlag c true, calls := s.calls.set d (c, .resolved) }
    | some ⟨_, some false⟩ => { s with calls := s.calls.set d (c, .rejected k) }
    | _ => s
  | _ => s

/-- One `connect` call, run to its end: the engine as it leaves it, and the connection it
resolves with handed to the pool. -/
def connectCall (s : DisconnectState) (st : Setting) (o : Outcomes) (opts : ConnectionOptions) :
    DisconnectState :=
  match connect st o opts s.engine with
  | (.ok c, e) => { s with engine := e, handedOut := s.handedOut ++ [c] }
  | (.error _, e) => { s with engine := e }

inductive Event
  | connect (st : Setting) (o : Outcomes) (opts : ConnectionOptions)
  /-- The pool calls `disconnect` on connection `c`. -/
  | disconnect (c : Nat)
  | answerClose (k : Nat) (ok : Bool)
  | resume (d : Nat)

/-- The pool disconnects only connections `connect` handed out. -/
def step (s : DisconnectState) : Event → DisconnectState
  | .connect st o opts => connectCall s st o opts
  | .disconnect c => if c ∈ s.handedOut then disconnect s c else s
  | .answerClose k ok => answerClose s k ok
  | .resume d => resume s d

def run (s : DisconnectState) (trace : List Event) : DisconnectState := trace.foldl step s

theorem run_append (s : DisconnectState) (t t' : List Event) :
    run s (t ++ t') = run (run s t) t' :=
  List.foldl_append _ _ _ _

/-- The connections `close()` was called on, in call order. -/
def closedConns (s : DisconnectState) : List Nat := s.closes.map CloseCall.conn

/-- How many times `close()` was called on connection `c`. -/
def closeCount (s : DisconnectState) (c : Nat) : Nat := (closedConns s).count c

/-! ### What each operation does to the flags and the close calls -/

theorem closedConns_disconnect (s : DisconnectState) (c : Nat) :
    closedConns (disconnect s c) =
      if s.closedFlag c then closedConns s else closedConns s ++ [c] := by
  unfold disconnect
  split <;> simp [closedConns]

/-- Replacing an entry by one with the same image keeps the mapped list. -/
theorem map_set_of_eq {α β : Type} {f : α → β} {l : List α} {k : Nat} {a : α}
    (hk : l[k]? = some a) {b : α} (hb : f b = f a) : (l.set k b).map f = l.map f := by
  rw [List.map_set]
  refine List.ext_getElem? fun i => ?_
  by_cases e : k = i
  · subst e
    simp [List.getElem?_set_self', hk, hb]
  · simp [List.getElem?_set_ne e]

/-- Recording an answer keeps the call's connection. -/
theorem map_conn_set_answer {closes : List CloseCall} {k c : Nat} {a : Option Bool}
    (hk : closes[k]? = some ⟨c, a⟩) (a' : Option Bool) :
    (closes.set k ⟨c, a'⟩).map CloseCall.conn = closes.map CloseCall.conn :=
  map_set_of_eq hk rfl

/-- Answering a close changes no call's connection. -/
theorem closedConns_answerClose (s : DisconnectState) (k : Nat) (ok : Bool) :
    closedConns (answerClose s k ok) = closedConns s := by
  unfold answerClose
  split
  · exact map_conn_set_answer ‹_› _
  · rfl

theorem closedConns_resume (s : DisconnectState) (d : Nat) :
    closedConns (resume s d) = closedConns s := by
  unfold resume
  split
  · split <;> rfl
  · rfl

theorem closedFlag_disconnect (s : DisconnectState) (c : Nat) :
    (disconnect s c).closedFlag = s.closedFlag := by
  unfold disconnect
  split <;> rfl

theorem closedFlag_answerClose (s : DisconnectState) (k : Nat) (ok : Bool) :
    (answerClose s k ok).closedFlag = s.closedFlag := by
  unfold answerClose
  split <;> rfl

/-- `resume` only ever sets a flag. -/
theorem closedFlag_resume (s : DisconnectState) (d c : Nat) (h : s.closedFlag c = true) :
    (resume s d).closedFlag c = true := by
  unfold resume
  split
  · split
    · simp [Function.update_apply, h]
    · exact h
    · exact h
  · exact h

/-! ### The invariant -/

/-- What every reachable state keeps. The pool got only opened connections, and `close()` is
called only on those; an opened connection is open exactly until a `close()` of it resolves;
a flagged connection had one resolve; each awaiting disconnect awaits a close of its own
connection; each resolved disconnect has flagged its connection. -/
structure Inv (s : DisconnectState) : Prop where
  handed_lt : ∀ c ∈ s.handedOut, c < s.engine.next
  closes_handed : ∀ call ∈ s.closes, call.conn ∈ s.handedOut
  open_iff : ∀ c, c ∈ s.engine.openConns ↔ c < s.engine.next ∧ ⟨c, some true⟩ ∉ s.closes
  flagged_resolved : ∀ c, s.closedFlag c = true → ⟨c, some true⟩ ∈ s.closes
  awaits_own : ∀ call ∈ s.calls, ∀ k, call.2 = .awaiting k → (closedConns s)[k]? = some call.1
  resolved_flagged : ∀ call ∈ s.calls, call.2 = .resolved → s.closedFlag call.1 = true

theorem init_inv : Inv init := by
  constructor <;> simp [init, Engine.empty, closedConns]

theorem Inv.flagged_shut {s : DisconnectState} (h : Inv s) {c : Nat} (hf : s.closedFlag c = true) :
    c ∉ s.engine.openConns := fun hm =>
  ((h.open_iff c).mp hm).2 (h.flagged_resolved c hf)

theorem forall_mem_concat {α : Type} {P : α → Prop} {l : List α} (hl : ∀ x ∈ l, P x) {a : α}
    (ha : P a) : ∀ x ∈ l ++ [a], P x :=
  List.forall_mem_append.mpr ⟨hl, List.forall_mem_singleton.mpr ha⟩

theorem forall_mem_set {α : Type} {P : α → Prop} {l : List α} (hl : ∀ x ∈ l, P x) {a : α}
    (ha : P a) (k : Nat) : ∀ x ∈ l.set k a, P x := fun x hx =>
  (List.mem_or_eq_of_mem_set hx).elim (hl x) fun e => e ▸ ha

/-- Replacing an entry keeps every other value's membership. -/
theorem mem_set_iff_of_ne {α : Type} {l : List α} {k : Nat} {a x : α} (hk : l[k]? = some a)
    (hx : x ≠ a) (b : α) : x ∈ l.set k b ↔ x = b ∨ x ∈ l := by
  refine ⟨fun hm => (List.mem_or_eq_of_mem_set hm).symm, ?_⟩
  rintro (rfl | hm)
  · exact List.mem_set _ _ (List.getElem?_eq_some_iff.mp hk).1 _
  · obtain ⟨j, hj⟩ := List.mem_iff_getElem?.mp hm
    have hjk : k ≠ j := by
      rintro rfl
      exact hx (Option.some.inj (hj.symm.trans hk))
    exact List.getElem?_mem (by rw [List.getElem?_set_ne hjk, hj])

/-- A fact about every flagged connection survives flagging one that has it. -/
theorem forall_flagged_update {f : Nat → Bool} {P : Nat → Prop} (hf : ∀ x, f x = true → P x)
    {c : Nat} (hc : P c) : ∀ x, update f c true x = true → P x := fun x hx => by
  by_cases e : x = c
  · exact e ▸ hc
  · rw [update_noteq e] at hx
    exact hf x hx

/-- Flagging a connection keeps every flag already set. -/
theorem update_flag_of_flag {f : Nat → Bool} {x : Nat} (hx : f x = true) (c : Nat) :
    update f c true x = true := by
  by_cases e : x = c
  · rw [e, update_same]
  · rw [update_noteq e, hx]

section Preservation

variable {s : DisconnectState} (h : Inv s)
include h

theorem opened_inv : Inv { s with engine := s.engine.openNew.2 } where
  handed_lt c hc := Nat.lt_succ_of_lt (h.handed_lt c hc)
  closes_handed := h.closes_handed
  open_iff c := by
    have hnext : ⟨s.engine.next, some true⟩ ∉ s.closes := fun hm =>
      Nat.lt_irrefl _ (h.handed_lt _ (h.closes_handed _ hm))
    simp only [Engine.openNew, List.mem_append, List.mem_singleton, h.open_iff c]
    constructor
    · rintro (⟨hc, hn⟩ | rfl)
      · exact ⟨Nat.lt_succ_of_lt hc, hn⟩
      · exact ⟨Nat.lt_succ_self _, hnext⟩
    · rintro ⟨hc, hn⟩
      rcases Nat.lt_succ_iff_lt_or_eq.mp hc with hc | rfl
      · exact .inl ⟨hc, hn⟩
      · exact .inr rfl
  flagged_resolved := h.flagged_resolved
  awaits_own := h.awaits_own
  resolved_flagged := h.resolved_flagged

theorem connectCall_inv (st : Setting) (o : Outcomes) (opts : ConnectionOptions) :
    Inv (connectCall s st o opts) := by
  unfold connectCall
  rcases connect_ends st o opts s.engine with ⟨err, hr, -⟩ | hr | ⟨call, -, hr⟩ <;> rw [hr]
  · exact h
  · have ho := opened_inv h
    exact { ho with
      handed_lt := forall_mem_concat ho.handed_lt (Nat.lt_succ_self s.engine.next)
      closes_handed := fun call hm => List.mem_append_left _ (ho.closes_handed call hm) }
  · exact opened_inv h

theorem disconnect_inv {c : Nat} (hc : c ∈ s.handedOut) : Inv (disconnect s c) := by
  unfold disconnect
  split
  · exact { h with
      awaits_own := forall_mem_concat h.awaits_own fun _ hk => by cases hk
      resolved_flagged := forall_mem_concat h.resolved_flagged fun _ => ‹_› }
  · have hconns : (s.closes ++ [(⟨c, none⟩ : CloseCall)]).map CloseCall.conn =
        closedConns s ++ [c] := by
      simp [closedConns]
    exact { h with
      closes_handed := forall_mem_concat h.closes_handed hc
      open_iff := fun c' => by simpa using h.open_iff c'
      flagged_resolved := fun c' hf => List.mem_append_left _ (h.flagged_resolved c' hf)
      awaits_own := by
        refine forall_mem_concat (fun call hm k hk => ?_) fun k hk => ?_
        · have hown := h.awaits_own call hm k hk
          rw [closedConns, hconns, List.getElem?_append_left (List.getElem?_eq_some_iff.mp hown).1]
          exact hown
        · cases hk
          rw [closedConns, hconns, ← List.length_map s.closes CloseCall.conn]
          exact List.getElem?_concat_length _ _
      resolved_flagged := forall_mem_concat h.resolved_flagged fun hr => by cases hr }

theorem answerClose_inv (k : Nat) (ok : Bool) : Inv (answerClose s k ok) := by
  unfold answerClose
  split
  · rename_i c hk
    have hc : c ∈ s.handedOut := h.closes_handed _ (List.getElem?_mem hk)
    have hconns := map_conn_set_answer hk (some ok)
    have hmem : ∀ c', ⟨c', some true⟩ ∈ s.closes.set k ⟨c, some ok⟩ ↔
        (c' = c ∧ ok = true) ∨ ⟨c', some true⟩ ∈ s.closes := fun c' => by
      rw [mem_set_iff_of_ne hk (by simp)]
      simp [eq_comm]
    refine { h with
      handed_lt := fun c' hc' => by cases ok <;> exact h.handed_lt c' hc'
      closes_handed := forall_mem_set h.closes_handed hc k
      flagged_resolved := fun c' hf => (hmem c').mpr (.inr (h.flagged_resolved c' hf))
      awaits_own := by rw [closedConns, hconns]; exact h.awaits_own
      open_iff := fun c' => ?_ }
    cases ok
    · simpa [hmem] using h.open_iff c'
    · simp only [closeConn, if_true, List.mem_filter, h.open_iff c', hmem, bne_iff_ne, ne_eq,
        decide_eq_true_eq, and_true]
      tauto
  · exact h

theorem resume_inv (d : Nat) : Inv (resume s d) := by
  unfold resume
  split
  · rename_i c k hd
    have hown := h.awaits_own _ (List.getElem?_mem hd) k rfl
    split
    · rename_i c' hk
      have hc' : c' = c := by
        simpa [closedConns, hk] using hown
      subst c'
      exact { h with
        flagged_resolved := forall_flagged_update h.flagged_resolved (List.getElem?_mem hk)
        awaits_own := forall_mem_set h.awaits_own (fun _ hk => by cases hk) d
        resolved_flagged := forall_mem_set
          (fun call hm hr => update_flag_of_flag (h.resolved_flagged call hm hr) c)
          (fun _ => update_same _ _ _) d }
    · exact { h with
        awaits_own := forall_mem_set h.awaits_own (fun _ hk => by cases hk) d
        resolved_flagged := forall_mem_set h.resolved_flagged (fun hr => by cases hr) d }
    · exact h
  · exact h

theorem step_inv (e : Event) : Inv (step s e) := by
  cases e with
  | connect st o opts => exact connectCall_inv h st o opts
  | disconnect c =>
    simp only [step]
    split
    · exact disconnect_inv h ‹_›
    · exact h
  | answerClose k ok => exact answerClose_inv h k ok
  | resume d => exact resume_inv h d

end Preservation

theorem run_inv {s : DisconnectState} (h : Inv s) (trace : List Event) : Inv (run s trace) := by
  induction trace generalizing s with
  | nil => exact h
  | cons e es ih => exact ih (step_inv h e)

/-- Whatever the interleaving of `connect` calls, the pool's `disconnect` calls and the
engine's answers, every connection the engine opened is open until a `close()` of it resolves,
and closed from then on. One that `connect` opened but never handed out, as when `PRAGMA KEY`
rejects, is therefore open in every later state: the pool can never close it. -/
theorem open_until_close_resolves (trace : List Event) (c : Nat) :
    (c ∈ (run init trace).engine.openConns ↔
      c < (run init trace).engine.next ∧ ⟨c, some true⟩ ∉ (run init trace).closes) ∧
    (c < (run init trace).engine.next → c ∉ (run init trace).handedOut →
      c ∈ (run init trace).engine.openConns) := by
  have hi := run_inv init_inv trace
  exact ⟨hi.open_iff c, fun hc hh => (hi.open_iff c).mpr ⟨hc, fun hm => hh (hi.closes_handed _ hm)⟩⟩

/-! ### What `validate` rejects -/

/-- Whatever the interleaving, a connection whose `disconnect` has resolved is rejected by
`validate`, and a connection that `validate` rejects is closed in the engine. -/
theorem disconnected_connections_closed (trace : List Event) (c : Nat) :
    ((c, .resolved) ∈ (run init trace).calls → validate (run init trace) c = false) ∧
    (validate (run init trace) c = false → c ∉ (run init trace).engine.openConns) := by
  have hi := run_inv init_inv trace
  refine ⟨fun hm => ?_, fun hv => hi.flagged_shut ?_⟩
  · simp [validate, hi.resolved_flagged _ hm rfl]
  · simpa [validate] using hv

theorem closedFlag_connectCall (s : DisconnectState) (st : Setting) (o : Outcomes)
    (opts : ConnectionOptions) : (connectCall s st o opts).closedFlag = s.closedFlag := by
  unfold connectCall
  split <;> rfl

theorem closedConns_connectCall (s : DisconnectState) (st : Setting) (o : Outcomes)
    (opts : ConnectionOptions) : closedConns (connectCall s st o opts) = closedConns s := by
  unfold connectCall
  split <;> rfl

/-- A flagged connection stays flagged, and no step calls `close()` on it. -/
theorem step_flagged (s : DisconnectState) (e : Event) {c : Nat} (hf : s.closedFlag c = true) :
    (step s e).closedFlag c = true ∧ closeCount (step s e) c = closeCount s c := by
  cases e with
  | connect st o opts =>
    simp only [step, closeCount, closedConns_connectCall, closedFlag_connectCall]
    exact ⟨hf, trivial⟩
  | disconnect c' =>
    simp only [step]
    split
    · refine ⟨by rw [closedFlag_disconnect]; exact hf, ?_⟩
      rw [closeCount, closeCount, closedConns_disconnect]
      split
      · rfl
      · have hne : c' ≠ c := fun e => by simp_all
        simpa using List.count_eq_zero.mpr (by simpa using hne.symm)
    · exact ⟨hf, rfl⟩
  | answerClose k ok =>
    simp only [step, closeCount, closedConns_answerClose, closedFlag_answerClose]
    exact ⟨hf, trivial⟩
  | resume d =>
    simp only [step, closeCount, closedConns_resume]
    exact ⟨closedFlag_resume s d c hf, trivial⟩

theorem run_flagged (trace : List Event) {c : Nat} :
    ∀ s : DisconnectState, s.closedFlag c = true →
      (run s trace).closedFlag c = true ∧ closeCount (run s trace) c = closeCount s c := by
  induction trace with
  | nil => exact fun _ hf => ⟨hf, rfl⟩
  | cons e es ih =>
    intro s hf
    obtain ⟨hf', hcount⟩ := step_flagged s e hf
    obtain ⟨hf'', hcount'⟩ := ih _ hf'
    exact ⟨hf'', hcount'.trans hcount⟩

/-- `validate`'s rejection is final: whatever runs after a state in which it rejects a
connection, it still rejects it, and `close()` is never called on it again. -/
theorem validate_false_final (s : DisconnectState) (trace : List Event) (c : Nat)
    (hv : validate s c = false) :
    validate (run s trace) c = false ∧ closeCount (run s trace) c = closeCount s c := by
  obtain ⟨hf, hcount⟩ := run_flagged trace s (by simpa [validate] using hv)
  exact ⟨by simp [validate, hf], hcount⟩

/-- A local database whose every call resolves. -/
def fileConnect : Event :=
  .connect ⟨none, ⟨some 10000, none, some 5, false⟩, "/srv"⟩
    ⟨none, true, true, true, true, true, true⟩ ⟨none, none, some "/srv/app.turso", none, none⟩

/-- `connect` handed out connection `0`, and a `disconnect` of it resolved. -/
def disconnectedOnce : DisconnectState :=
  run init [fileConnect, .disconnect 0, .answerClose 0 true, .resume 0]

/-- A later `disconnect` and a new connection leave it rejected, with its one `close()`. -/
theorem closed_connection_stays_closed :
    validate disconnectedOnce 0 = false ∧
    validate (run disconnectedOnce [.disconnect 0, fileConnect, .disconnect 0]) 0 = false ∧
    closeCount (run disconnectedOnce [.disconnect 0, fileConnect, .disconnect 0]) 0 =
      closeCount disconnectedOnce 0 := by
  refine ⟨?rejected, validate_false_final _ _ _ ?rejected⟩
  decide

/-! ### What `validate` passes -/

theorem disconnect_of_unflagged {s : DisconnectState} {c : Nat} (hf : s.closedFlag c = false) :
    disconnect s c =
      { s with
        closes := s.closes ++ [⟨c, none⟩]
        calls := s.calls ++ [(c, .awaiting s.closes.length)] } := by
  simp [disconnect, hf]

theorem answerClose_of_pending {s : DisconnectState} {k c : Nat}
    (hk : s.closes[k]? = some ⟨c, none⟩) (ok : Bool) :
    answerClose s k ok =
      { s with
        engine := if ok then closeConn s.engine c else s.engine
        closes := s.closes.set k ⟨c, some ok⟩ } := by
  simp [answerClose, hk]

/-- What a later state keeps of an earlier one: the connections of the `disconnect` calls and
those `close()` was called on only grow at the end, the handed-out connections stay, and a
resolved close stays resolved. -/
structure Grows (s s' : DisconnectState) : Prop where
  calls : s.calls.map Prod.fst <+: s'.calls.map Prod.fst
  closed : closedConns s <+: closedConns s'
  handed : ∀ c ∈ s.handedOut, c ∈ s'.handedOut
  resolved : ∀ c, ⟨c, some true⟩ ∈ s.closes → ⟨c, some true⟩ ∈ s'.closes

namespace Grows

theorem refl (s : DisconnectState) : Grows s s :=
  ⟨List.prefix_refl _, List.prefix_refl _, fun _ => id, fun _ => id⟩

theorem trans {s₁ s₂ s₃ : DisconnectState} (h₁ : Grows s₁ s₂) (h₂ : Grows s₂ s₃) :
    Grows s₁ s₃ :=
  ⟨h₁.calls.trans h₂.calls, h₁.closed.trans h₂.closed, fun c hc => h₂.handed c (h₁.handed c hc),
    fun c hc => h₂.resolved c (h₁.resolved c hc)⟩

end Grows

theorem connectCall_grows (s : DisconnectState) (st : Setting) (o : Outcomes)
    (opts : ConnectionOptions) : Grows s (connectCall s st o opts) := by
  unfold connectCall
  split
  · exact ⟨List.prefix_refl _, List.prefix_refl _, fun _ hc => List.mem_append_left _ hc,
      fun _ => id⟩
  · exact ⟨List.prefix_refl _, List.prefix_refl _, fun _ => id, fun _ => id⟩

theorem disconnect_grows (s : DisconnectState) (c : Nat) : Grows s (disconnect s c) := by
  unfold disconnect
  split
  · exact ⟨by simp, List.prefix_refl _, fun _ => id, fun _ => id⟩
  · exact ⟨by simp, by simp [closedConns], fun _ => id, fun _ hc => by simp [hc]⟩

theorem answerClose_grows (s : DisconnectState) (k : Nat) (ok : Bool) :
    Grows s (answerClose s k ok) := by
  refine ⟨?_, closedConns_answerClose s k ok ▸ List.prefix_refl _, ?_, fun c hc => ?_⟩ <;>
    unfold answerClose
  · split <;> exact List.prefix_refl _
  · split <;> exact fun _ => id
  · split
    · exact (mem_set_iff_of_ne ‹_› (by simp) _).mpr (.inr hc)
    · exact hc

theorem resume_grows (s : DisconnectState) (d : Nat) : Grows s (resume s d) := by
  refine ⟨?_, closedConns_resume s d ▸ List.prefix_refl _, ?_, ?_⟩ <;> unfold resume
  · split
    · rename_i c k hd
      have hcalls (p : Phase) : (s.calls.set d (c, p)).map Prod.fst = s.calls.map Prod.fst :=
        map_set_of_eq hd rfl
      split
      · exact (hcalls _).symm ▸ List.prefix_refl _
      · exact (hcalls _).symm ▸ List.prefix_refl _
      · exact List.prefix_refl _
    · exact List.prefix_refl _
  all_goals (split <;> (try split) <;> exact fun _ => id)

theorem step_grows (s : DisconnectState) (e : Event) : Grows s (step s e) := by
  cases e with
  | connect st o opts => exact connectCall_grows s st o opts
  | disconnect c =>
    simp only [step]
    split
    · exact disconnect_grows s c
    · exact Grows.refl s
  | answerClose k ok => exact answerClose_grows s k ok
  | resume d => exact resume_grows s d

theorem run_grows (trace : List Event) : ∀ s, Grows s (run s trace) := by
  induction trace with
  | nil => exact Grows.refl
  | cons e es ih => exact fun s => (step_grows s e).trans (ih (step s e))

theorem getElem?_of_prefix {α : Type} {l l' : List α} (h : l <+: l') {i : Nat} {x : α}
    (hx : l[i]? = some x) : l'[i]? = some x := by
  obtain ⟨t, rfl⟩ := h
  rw [List.getElem?_append_left (List.getElem?_eq_some_iff.mp hx).1]
  exact hx

/-- Only the resumption of a `disconnect` of `c` sets the flag of `c`. -/
theorem step_flag_unset (s : DisconnectState) (e : Event) {c : Nat}
    (hf : s.closedFlag c = false) (he : ∀ d, e = .resume d → (s.calls[d]?).map Prod.fst ≠ some c) :
    (step s e).closedFlag c = false := by
  cases e with
  | connect st o opts => rw [step, closedFlag_connectCall]; exact hf
  | disconnect c' =>
    simp only [step]
    split
    · rw [closedFlag_disconnect]; exact hf
    · exact hf
  | answerClose k ok => rw [step, closedFlag_answerClose]; exact hf
  | resume d =>
    have hd := he d rfl
    simp only [step]
    unfold resume
    split
    · rename_i c' k hcd
      have hne : c ≠ c' := fun e => hd (by rw [hcd, e]; rfl)
      split
      · simp only [update_noteq hne, hf]
      · exact hf
      · exact hf
    · exact hf

/-- Through events that resume no `disconnect` of `c`, the flag of `c` stays unset. -/
theorem run_flag_unset (trace : List Event) {c : Nat} :
    ∀ s : DisconnectState, s.closedFlag c = false →
      (∀ d, .resume d ∈ trace → ((run s trace).calls[d]?).map Prod.fst ≠ some c) →
      (run s trace).closedFlag c = false := by
  induction trace with
  | nil => exact fun _ hf _ => hf
  | cons e es ih =>
    intro s hf hres
    refine ih (step s e) (step_flag_unset s e hf fun d he hd => ?_) fun d hd => hres d (.tail _ hd)
    subst he
    have hcall : (s.calls.map Prod.fst)[d]? = some c := by rw [List.getElem?_map]; exact hd
    exact hres d (.head _) (by
      rw [← List.getElem?_map]
      exact getElem?_of_prefix (run_grows (.resume d :: es) s).calls hcall)

/-- A `disconnect` of an unflagged, handed-out connection whose `close()` the engine resolves,
followed by events that resume no `disconnect` of it: the flag is still unset, the close stays
resolved, and `close()` was called on it once more. -/
theorem close_then_window {s : DisconnectState} {c : Nat} (hc : c ∈ s.handedOut)
    (hf : s.closedFlag c = false) (window : List Event)
    (hwin : ∀ d, .resume d ∈ window →
      ((run s ([.disconnect c, .answerClose s.closes.length true] ++ window)).calls[d]?).map
        Prod.fst ≠ some c) :
    (run s ([.disconnect c, .answerClose s.closes.length true] ++ window)).closedFlag c = false ∧
    c ∈ (run s ([.disconnect c, .answerClose s.closes.length true] ++ window)).handedOut ∧
    ⟨c, some true⟩ ∈ (run s ([.disconnect c, .answerClose s.closes.length true] ++ window)).closes ∧
    closeCount s c + 1 ≤
      closeCount (run s ([.disconnect c, .answerClose s.closes.length true] ++ window)) c := by
  have hk : (disconnect s c).closes[s.closes.length]? = some ⟨c, none⟩ := by
    rw [disconnect_of_unflagged hf]
    exact List.getElem?_concat_length _ _
  have hclose : run s [.disconnect c, .answerClose s.closes.length true] =
      answerClose (disconnect s c) s.closes.length true := by
    simp [run, step, hc]
  rw [run_append, hclose] at hwin ⊢
  have hg := run_grows window (answerClose (disconnect s c) s.closes.length true)
  have hgrow := ((disconnect_grows s c).trans (answerClose_grows _ _ true)).trans hg
  refine ⟨run_flag_unset window _ (by rw [closedFlag_answerClose, closedFlag_disconnect, hf]) hwin,
    hgrow.handed c hc, hg.resolved c ?_, ?_⟩
  · rw [answerClose_of_pending hk true]
    exact List.mem_set _ _ (List.getElem?_eq_some_iff.mp hk).1 _
  · calc closeCount s c + 1
        = closeCount (answerClose (disconnect s c) s.closes.length true) c := by
          simp [closeCount, closedConns_answerClose, closedConns_disconnect, hf]
      _ ≤ _ := hg.closed.sublist.count_le c

/-- The state reached from the one `pre` leads to by a `disconnect` of `c`, the engine's
resolving that `close()`, then the events of `window`. -/
def closeWindow (pre window : List Event) (c : Nat) : DisconnectState :=
  run init (pre ++ ([.disconnect c, .answerClose (run init pre).closes.length true] ++ window))

/-- The flag lags the engine. From any state in which `validate` passes a connection `connect`
handed out, once the engine has resolved the `close()` of a `disconnect` of it, and through
every sequence of later events that resumes no `disconnect` of it (that call's own included),
`validate` still passes the connection though the engine has closed it, and a `disconnect`
started then calls `close()` on it again, its second call at least. -/
theorem close_window_passes_closed_connection (pre window : List Event) (c : Nat)
    (hc : c ∈ (run init pre).handedOut) (hv : validate (run init pre) c = true)
    (hwin : ∀ d, .resume d ∈ window →
      ((closeWindow pre window c).calls[d]?).map Prod.fst ≠ some c) :
    validate (closeWindow pre window c) c = true ∧
    c ∉ (closeWindow pre window c).engine.openConns ∧
    closeCount (step (closeWindow pre window c) (.disconnect c)) c =
      closeCount (closeWindow pre window c) c + 1 ∧
    closeCount (run init pre) c + 2 ≤
      closeCount (step (closeWindow pre window c) (.disconnect c)) c := by
  have hi := run_inv init_inv (pre ++ ([.disconnect c, .answerClose (run init pre).closes.length true] ++ window))
  unfold closeWindow at hwin ⊢
  rw [run_append] at hwin hi ⊢
  obtain ⟨hf, hhand, hres, hcount⟩ :=
    close_then_window hc (by simpa [validate] using hv) window hwin
  generalize run (run init pre)
    ([.disconnect c, .answerClose (run init pre).closes.length true] ++ window) = u
    at hf hhand hres hcount hi ⊢
  have hstep : closeCount (step u (.disconnect c)) c = closeCount u c + 1 := by
    simp [step, hhand, closeCount, closedConns_disconnect, hf]
  exact ⟨by simp [validate, hf], fun ho => ((hi.open_iff c).mp ho).2 hres, hstep, by omega⟩

/-- `connect` handed out connections `0` and `1`, and the pool started a `disconnect` of `1`. -/
def twoConnected : List Event := [fileConnect, fileConnect, .disconnect 1]

/-- The engine resolves the `close()` of connection `1`, and its `disconnect` resumes. -/
def otherResumed : List Event := [.answerClose 0 true, .resume 0]

/-- After the engine closes connection `0`, a window in which the `disconnect` of `1` resumes
leaves `0` passing `validate`, closed, and called `close()` on again. -/
theorem second_close_of_closed_connection :
    0 ∈ (run init twoConnected).handedOut ∧ validate (run init twoConnected) 0 = true ∧
    (∀ d, .resume d ∈ otherResumed →
      ((closeWindow twoConnected otherResumed 0).calls[d]?).map Prod.fst ≠ some 0) ∧
    (validate (closeWindow twoConnected otherResumed 0) 0 = true ∧
      0 ∉ (closeWindow twoConnected otherResumed 0).engine.openConns ∧
      closeCount (step (closeWindow twoConnected otherResumed 0) (.disconnect 0)) 0 =
        closeCount (closeWindow twoConnected otherResumed 0) 0 + 1 ∧
      closeCount (run init twoConnected) 0 + 2 ≤
        closeCount (step (closeWindow twoConnected otherResumed 0) (.disconnect 0)) 0) := by
  have hwin : ∀ d, .resume d ∈ otherResumed →
      ((closeWindow twoConnected otherResumed 0).calls[d]?).map Prod.fst ≠ some 0 := by
    intro d hd
    simp only [otherResumed, List.mem_cons, Event.resume.injEq, List.mem_singleton, reduceCtorEq,
      false_or, or_false, List.not_mem_nil] at hd
    subst hd
    decide
  refine ⟨?handed, ?valid, hwin, close_window_passes_closed_connection _ _ _ ?handed ?valid hwin⟩ <;>
    decide

end SequelizeTurso.Disconnect

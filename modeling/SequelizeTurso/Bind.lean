import SequelizeTurso.SqlText

/-!
The parameter binder of `TursoQuery`. `run` turns an absent bind into `[]`, stringifies
bigints and re-keys a named map under `$`-prefixed keys. `#allSeries` and `#runSeries` spread
a positional array as it is and pass a named map through `_convertNamedParamsToPositional`,
which reads the names off the SQL text with `/\$(\w+)/g` and looks each one up under
`$name`, then `name`, then the first key no earlier name has used.
-/

namespace SequelizeTurso.Bind

open Js

/-! ### Reading the names off the text -/

/-- `\w` without the `u` flag. -/
def isWordChar (c : Char) : Bool := c.isAlphanum || c == '_'

/-- The matches of `/\$(\w+)/g`, left to right. The state is `some w` after a `$`, with `w`
the word characters read since; a match ends at the first other character, and the search
goes on from there. -/
def scanParams : Option (List Char) → List Char → List (List Char)
  | none, [] => []
  | some w, [] => if w = [] then [] else [w]
  | none, c :: cs => scanParams (if c = '$' then some [] else none) cs
  | some w, c :: cs =>
    if isWordChar c then scanParams (some (w ++ [c])) cs
    else (if w = [] then [] else [w]) ++ scanParams (if c = '$' then some [] else none) cs

/-- `paramNames` of `_convertNamedParamsToPositional`. -/
def paramNames (query : String) : List String := (scanParams none query.data).map String.mk

/-- A word run: non-empty, of `\w` characters only. -/
def IsWord (w : List Char) : Prop := w ≠ [] ∧ ∀ c ∈ w, isWordChar c = true

/-- The run a cut flushes is a word. -/
theorem mem_flush_isWord {w v : List Char} (hw : ∀ c ∈ w, isWordChar c = true)
    (hv : v ∈ (if w = [] then [] else [w])) : IsWord v := by
  split at hv
  · cases hv
  · rename_i hne
    rw [List.mem_singleton.mp hv]
    exact ⟨hne, hw⟩

theorem scanParams_isWord (s : List Char) :
    ∀ st : Option (List Char), (∀ c ∈ st.getD [], isWordChar c = true) →
      ∀ w ∈ scanParams st s, IsWord w := by
  induction s with
  | nil =>
    rintro (_ | w) hst v hv
    · simp [scanParams] at hv
    · exact mem_flush_isWord hst hv
  | cons c cs ih =>
    rintro (_ | w) hst v hv
    · exact ih _ (by split <;> simp) v hv
    · simp only [scanParams] at hv
      split at hv
      · rename_i hc
        refine ih _ ?_ v hv
        simp only [Option.getD_some, List.mem_append, List.mem_singleton]
        rintro d (hd | rfl)
        exacts [hst d hd, hc]
      · rcases List.mem_append.mp hv with hv | hv
        · exact mem_flush_isWord hst hv
        · exact ih _ (by split <;> simp) v hv

theorem paramNames_isWord (query : String) : ∀ w ∈ paramNames query, IsWord w.data := by
  simp only [paramNames, List.mem_map]
  rintro _ ⟨w, hw, rfl⟩
  exact scanParams_isWord _ none (by simp) w hw

/-- A name never starts with `$`, which is not a word character. -/
theorem paramNames_head (query : String) (w : String) (hw : w ∈ paramNames query) :
    w.data.head? ≠ some '$' := by
  obtain ⟨hne, hall⟩ := paramNames_isWord query w hw
  cases hd : w.data with
  | nil => exact absurd hd hne
  | cons c cs =>
    have := hall c (by simp [hd])
    rintro ⟨⟩
    exact absurd this (by decide)

/-! ### `_convertNamedParamsToPositional` -/

/-- Where a placeholder's value came from. -/
inductive Resolution
  | exact (key : String)
  | fallback (key : String)
  | missing
  deriving DecidableEq, Repr

/-- The key a placeholder took, if any. -/
def Resolution.key? : Resolution → Option String
  | .exact k | .fallback k => some k
  | .missing => none

@[simp] theorem Resolution.key?_exact (k : String) : (Resolution.exact k).key? = some k := rfl
@[simp] theorem Resolution.key?_fallback (k : String) : (Resolution.fallback k).key? = some k := rfl
@[simp] theorem Resolution.key?_missing : Resolution.missing.key? = none := rfl

/-- The callback of `paramNames.map`, with the `usedKeys` set threaded through. -/
def resolveName (params : JsObject) (used : List String) (name : String) :
    Resolution × List String :=
  if params.hasOwn ("$" ++ name) then (.exact ("$" ++ name), ("$" ++ name) :: used)
  else if params.hasOwn name then (.exact name, name :: used)
  else match params.keys.find? (fun k => !used.contains k) with
    | some k => (.fallback k, k :: used)
    | none => (.missing, used)

def resolveNames (params : JsObject) : List String → List String → List Resolution
  | _, [] => []
  | used, name :: names =>
    (resolveName params used name).1 :: resolveNames params (resolveName params used name).2 names

/-- The value a placeholder is bound to; `null` when nothing resolves. -/
def Resolution.value (params : JsObject) : Resolution → JsValue
  | .exact k | .fallback k => params.get k
  | .missing => .null

def convertNamedParamsToPositional (query : String) (namedParams : JsObject) : List JsValue :=
  (resolveNames namedParams [] (paramNames query)).map (Resolution.value namedParams)

theorem resolveName_used (params : JsObject) (used : List String) (name : String) :
    (resolveName params used name).2 = (resolveName params used name).1.key?.toList ++ used := by
  unfold resolveName
  split
  · rfl
  · split
    · rfl
    · split <;> rfl

/-- A name falls back only when it has neither key, and takes the first key not in `used`. -/
theorem resolveName_fallback {o : JsObject} {used : List String} {name k : String}
    (h : (resolveName o used name).1 = .fallback k) :
    "$" ++ name ∉ o.keys ∧ name ∉ o.keys ∧ o.keys.find? (fun k' => !used.contains k') = some k := by
  unfold resolveName at h
  split at h
  · cases h
  rename_i h1
  split at h
  · cases h
  rename_i h2
  split at h
  · cases h
    exact ⟨by simpa [JsObject.hasOwn_iff] using h1, by simpa [JsObject.hasOwn_iff] using h2, ‹_›⟩
  · cases h

/-- The fallback runs only for a name with neither key, and takes the first key in
`Object.keys` order that is neither in `used` nor taken by an earlier placeholder. -/
theorem resolveNames_fallback (o : JsObject) :
    ∀ (names used : List String) (pre post : List (String × Resolution)) (name k : String),
      names.zip (resolveNames o used names) = pre ++ (name, .fallback k) :: post →
      "$" ++ name ∉ o.keys ∧ name ∉ o.keys ∧
        o.keys.find? (fun k' => decide (k' ∉ used ∧ k' ∉ pre.filterMap (·.2.key?))) = some k
  | [], _, pre, _, _, _, h => by cases pre <;> simp [resolveNames] at h
  | n :: ns, used, [], post, name, k, h => by
    simp only [resolveNames, List.zip_cons_cons, List.nil_append, List.cons.injEq,
      Prod.mk.injEq] at h
    obtain ⟨⟨rfl, hr⟩, -⟩ := h
    obtain ⟨h1, h2, h3⟩ := resolveName_fallback hr
    exact ⟨h1, h2, by simpa using h3⟩
  | n :: ns, used, p :: pre, post, name, k, h => by
    simp only [resolveNames, List.zip_cons_cons, List.cons_append, List.cons.injEq] at h
    obtain ⟨rfl, h⟩ := h
    obtain ⟨h1, h2, h3⟩ := resolveNames_fallback o ns _ pre post name k h
    refine ⟨h1, h2, ?_⟩
    rw [← h3, resolveName_used]
    generalize (resolveName o used n).1 = r
    congr 1
    funext k'
    cases r <;> simp only [List.filterMap_cons, Resolution.key?_exact, Resolution.key?_fallback,
      Resolution.key?_missing, Option.toList, List.mem_cons, List.mem_append, List.mem_singleton,
      List.not_mem_nil, Bool.decide_iff_dist, decide_eq_decide, or_false, false_or, not_or,
      and_assoc, and_left_comm]

/-- A placeholder falls back only when its name has no key of its own, and then takes the
first key in `Object.keys` order that no earlier placeholder of the text took, exactly or by
fallback; so no two fallbacks share a key. -/
theorem fallback_takes_first_untaken_key (query : String) (o : JsObject)
    (pre post : List (String × Resolution)) (name k : String)
    (h : (paramNames query).zip (resolveNames o [] (paramNames query)) =
      pre ++ (name, .fallback k) :: post) :
    "$" ++ name ∉ o.keys ∧ name ∉ o.keys ∧
      o.keys.find? (fun k' => decide (k' ∉ pre.filterMap (·.2.key?))) = some k := by
  simpa only [List.not_mem_nil, not_false_eq_true, true_and] using
    resolveNames_fallback o _ [] pre post name k h

/-- `{ $b: 1, $c: 2 }`: the bind map of the fallback examples. -/
def fallbackMap : JsObject := ⟨[("$b", .number 1), ("$c", .number 2)], by decide⟩

theorem fallback_takes_first_untaken_key_example :
    (paramNames "SELECT $a, $b").zip (resolveNames fallbackMap [] (paramNames "SELECT $a, $b")) =
        [] ++ ("a", .fallback "$b") :: [("b", .exact "$b")] ∧
      ("$" ++ "a" ∉ fallbackMap.keys ∧ "a" ∉ fallbackMap.keys ∧
        fallbackMap.keys.find? (fun k' => decide (k' ∉ ([] : List (String × Resolution)).filterMap
          (·.2.key?))) = some "$b") :=
  ⟨by decide, fallback_takes_first_untaken_key "SELECT $a, $b" fallbackMap [] [("b", .exact "$b")] "a" "$b"
    (by decide)⟩

/-- The fallback can take the exact key of a later placeholder: in `SELECT $a, $b` with
`{ $b: 1, $c: 2 }` both placeholders are bound to `$b`, and the arguments are `[1, 1]`. -/
theorem fallback_key_bound_twice :
    ¬ ∀ (query : String) (o : JsObject),
      ∀ p ∈ (paramNames query).zip (resolveNames o [] (paramNames query)),
      ∀ q ∈ (paramNames query).zip (resolveNames o [] (paramNames query)),
        p.1 ≠ q.1 → ∀ k, p.2.key? = some k → q.2.key? ≠ some k := fun h =>
  h "SELECT $a, $b" fallbackMap ("a", .fallback "$b") (by decide) ("b", .exact "$b") (by decide)
    (by decide) "$b" rfl rfl

example : convertNamedParamsToPositional "SELECT $a, $b" fallbackMap = [.number 1, .number 1] := by
  decide

/-! ### `run`'s normalisation -/

/-- The key `run` stores a named bind value under. -/
def normalizedKey (key : String) : String :=
  if key.data.head? = some '$' then key else "$" ++ key

theorem normalizedKey_eq_dollar_iff (key name : String) (h : name.data.head? ≠ some '$') :
    normalizedKey key = "$" ++ name ↔ key = "$" ++ name ∨ key = name := by
  unfold normalizedKey
  split
  · rename_i hk
    refine ⟨Or.inl, ?_⟩
    rintro (h' | rfl)
    · exact h'
    · exact absurd hk h
  · rename_i hk
    refine ⟨fun h' => Or.inr (by simpa [String.ext_iff] using h'), ?_⟩
    rintro (rfl | rfl)
    · simp at hk
    · rfl

/-- `newParameters` of `run`: `Object.create(null)` filled in `Object.keys` order. -/
def normalizeNamed (params : JsObject) : JsObject :=
  params.entries.foldl (fun acc e => acc.set (normalizedKey e.1) (stringifyIfBigint e.2)) .empty

theorem normalizeNamed_entry? (o : JsObject) (k : String) :
    (normalizeNamed o).entry? k = (o.entries.reverse.find? fun e => normalizedKey e.1 = k).map
      fun e => (normalizedKey e.1, stringifyIfBigint e.2) := by
  simpa [normalizeNamed, JsObject.entry?, JsObject.empty, JsObject.foldl_set_entries] using
    find?_foldl_setEntry (fun e => normalizedKey e.1) (fun e => stringifyIfBigint e.2) k
      o.entries []

/-- The value a name has in a named bind map: the one under `$name` or `name`, whichever key
comes later in `Object.keys` order. -/
def namedValue (o : JsObject) (name : String) : JsValue :=
  ((o.entries.reverse.find? fun e => e.1 = "$" ++ name ∨ e.1 = name).map Prod.snd).getD .undefined

private theorem normalizedKey_pred (name : String) (h : name.data.head? ≠ some '$') :
    (fun e : String × JsValue => decide (normalizedKey e.1 = "$" ++ name)) =
      fun e => decide (e.1 = "$" ++ name ∨ e.1 = name) := by
  funext e
  exact decide_eq_decide.mpr (normalizedKey_eq_dollar_iff e.1 name h)

theorem normalizeNamed_get_dollar (o : JsObject) (name : String) (h : name.data.head? ≠ some '$') :
    (normalizeNamed o).get ("$" ++ name) = stringifyIfBigint (namedValue o name) := by
  simp only [JsObject.get, normalizeNamed_entry?, normalizedKey_pred name h, namedValue]
  cases o.entries.reverse.find? _ <;> rfl

theorem normalizeNamed_hasOwn_dollar (o : JsObject) (name : String)
    (h : name.data.head? ≠ some '$') :
    (normalizeNamed o).hasOwn ("$" ++ name) = true ↔ "$" ++ name ∈ o.keys ∨ name ∈ o.keys := by
  rw [JsObject.hasOwn_iff, JsObject.mem_keys_iff, normalizeNamed_entry?, normalizedKey_pred name h]
  simp only [Option.isSome_map', List.find?_isSome, List.mem_reverse, decide_eq_true_eq,
    JsObject.keys, List.mem_map]
  constructor
  · rintro ⟨e, he, h' | h'⟩
    exacts [.inl ⟨e, he, h'⟩, .inr ⟨e, he, h'⟩]
  · rintro (⟨e, he, h'⟩ | ⟨e, he, h'⟩)
    exacts [⟨e, he, .inl h'⟩, ⟨e, he, .inr h'⟩]

/-- When every name has a key, each placeholder takes its `$name` key in the re-keyed map. -/
theorem resolveNames_normalizeNamed (o : JsObject) :
    ∀ (names used : List String), (∀ w ∈ names, w.data.head? ≠ some '$') →
      (∀ w ∈ names, "$" ++ w ∈ o.keys ∨ w ∈ o.keys) →
      resolveNames (normalizeNamed o) used names = names.map fun w => .exact ("$" ++ w)
  | [], _, _, _ => rfl
  | w :: ws, used, hh, hk => by
    have hw : (normalizeNamed o).hasOwn ("$" ++ w) = true :=
      (normalizeNamed_hasOwn_dollar o w (hh w (.head _))).mpr (hk w (.head _))
    simp only [resolveNames, resolveName, hw, if_true, List.map_cons]
    rw [resolveNames_normalizeNamed o ws _ (fun v hv => hh v (.tail _ hv))
      (fun v hv => hk v (.tail _ hv))]

/-! ### What `run` hands to the driver -/

/-- A bind as `sequelize.query` passes it. -/
inductive BindParams
  | positional (values : List JsValue)
  | named (map : JsObject)

/-- `parameters` after the first lines of `executeSql`: absent becomes `[]`. -/
def normalizeParameters : Option BindParams → BindParams
  | none => .positional []
  | some (.positional vs) => .positional (vs.map stringifyIfBigint)
  | some (.named o) => .named (normalizeNamed o)

/-- The arguments `#allSeries` and `#runSeries` spread into `stmt.all` and `stmt.run`. -/
def seriesArguments (query : String) : BindParams → List JsValue
  | .positional vs => vs
  | .named o => convertNamedParamsToPositional query o

/-- The arguments one `run(sql, parameters)` hands to the driver. -/
def runArguments (sql : String) (parameters : Option BindParams) : List JsValue :=
  seriesArguments sql (normalizeParameters parameters)

/-- A bigint entry of a list reaches the driver as its decimal text. -/
theorem getElem?_map_stringifyIfBigint {vs : List JsValue} {i : Nat} {n : Int}
    (h : vs[i]? = some (.bigint n)) :
    (vs.map stringifyIfBigint)[i]? = some (.string (toString n)) := by
  rw [List.getElem?_map, h, Option.map_some', stringifyIfBigint_bigint]

/-- `{ age: 40n, $id: 3 }`. -/
def updateMap : JsObject := ⟨[("age", .bigint 40), ("$id", .number 3)], by decide⟩

/-- `{ $age: 1, age: 2 }`, in that key order. -/
def clashingMap : JsObject := ⟨[("$age", .number 1), ("age", .number 2)], by decide⟩

end SequelizeTurso.Bind

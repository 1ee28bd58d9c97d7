import Mathlib.Data.List.Nodup

/-!
JavaScript values, plain objects and the string methods the Turso adapter calls. An object
is its own enumerable properties in `Object.keys` order, and its keys are distinct by
construction. Strings are scanned as character lists; every pattern the adapter searches
for is ASCII, so UTF-16 code units and characters agree on them.
-/

namespace SequelizeTurso.Js

/-- A JavaScript value as it reaches the adapter. Numbers keep their integral value: every
number the adapter compares is an SQLite INTEGER. `other` is any value the adapter passes
on without reading it (a non-integral number, a `Buffer`, a `Date`); `builtin` is a member
of `Object.prototype` that a property lookup can reach. -/
inductive JsValue
  | undefined
  | null
  | bool (b : Bool)
  | number (n : Int)
  | bigint (n : Int)
  | string (s : String)
  | other (tag : Nat)
  | builtin (name : String)
  deriving DecidableEq, Repr

/-- `String(v)`, the key a value is looked up under. Keys the adapter uses are strings,
numbers, `null` and `undefined`; the rest are never used as keys. -/
def JsValue.toPropertyKey : JsValue → String
  | .undefined => "undefined"
  | .null => "null"
  | .bool b => if b then "true" else "false"
  | .number n | .bigint n => toString n
  | .string s => s
  | .other _ => "[object Object]"
  | .builtin name => name

/-- The own and inherited property names of `Object.prototype`. -/
def objectPrototypeKeys : List String :=
  ["constructor", "__defineGetter__", "__defineSetter__", "hasOwnProperty", "__lookupGetter__",
    "__lookupSetter__", "isPrototypeOf", "propertyIsEnumerable", "toString", "valueOf",
    "__proto__", "toLocaleString"]

/-- `stringifyIfBigint`: the driver ignores bigints, so they are sent as decimal text. -/
def stringifyIfBigint : JsValue → JsValue
  | .bigint n => .string (toString n)
  | v => v

@[simp] theorem stringifyIfBigint_bigint (n : Int) :
    stringifyIfBigint (.bigint n) = .string (toString n) := rfl

/-! ### Plain objects -/

/-- Write `k := v` into an entry list: in place when `k` is present, appended otherwise. -/
def setEntry {β : Type} (k : String) (v : β) : List (String × β) → List (String × β)
  | [] => [(k, v)]
  | (k', v') :: rest => if k' = k then (k, v) :: rest else (k', v') :: setEntry k v rest

section SetEntry

variable {β : Type}

theorem setEntry_keys (k : String) (v : β) (es : List (String × β)) :
    (setEntry k v es).map Prod.fst =
      if k ∈ es.map Prod.fst then es.map Prod.fst else es.map Prod.fst ++ [k] := by
  induction es with
  | nil => rfl
  | cons e rest ih =>
    by_cases h : e.1 = k
    · simp [setEntry, h]
    · by_cases hk : k ∈ rest.map Prod.fst
      · simp [setEntry, h, ih, hk]
      · simp [setEntry, h, ih, hk, Ne.symm h]

/-- The first entry for a key after a write is the written one; other keys are unaffected. -/
theorem find?_setEntry (k k' : String) (v : β) (es : List (String × β)) :
    (setEntry k v es).find? (fun e => e.1 = k') =
      if k = k' then some (k, v) else es.find? (fun e => e.1 = k') := by
  induction es with
  | nil => by_cases h : k = k' <;> simp [setEntry, h]
  | cons e rest ih =>
    by_cases h0 : e.1 = k
    · by_cases h : k = k' <;> simp [setEntry, h0, h, List.find?_cons]
    · simp only [setEntry, h0, if_false, List.find?_cons, ih]
      by_cases h : k = k'
      · subst h
        simp [h0]
      · simp [h]

/-- After a run of writes, a key holds what the last write to it wrote. -/
theorem find?_foldl_setEntry {α : Type} (key : α → String) (val : α → β) (k : String) :
    ∀ (es : List α) (acc : List (String × β)),
      (es.foldl (fun acc e => setEntry (key e) (val e) acc) acc).find? (fun e => e.1 = k) =
        ((es.reverse.find? fun e => key e = k).map fun e => (key e, val e)).or
          (acc.find? fun e => e.1 = k)
  | [], acc => by simp
  | e :: es, acc => by
    rw [List.foldl_cons, find?_foldl_setEntry key val k es, List.reverse_cons, List.find?_append,
      find?_setEntry]
    by_cases h : key e = k
    · subst h
      cases es.reverse.find? _ <;> simp [List.find?_cons]
    · cases es.reverse.find? _ <;> simp [h, List.find?_cons]

theorem setEntry_nodup (k : String) (v : β) (es : List (String × β))
    (h : (es.map Prod.fst).Nodup) : ((setEntry k v es).map Prod.fst).Nodup := by
  rw [setEntry_keys]
  split
  · exact h
  · rename_i hk
    exact List.Nodup.append h (List.nodup_singleton k) (List.disjoint_singleton.mpr hk)

/-- In a list with distinct keys, searching by an element's key finds that element. -/
theorem find?_key_of_nodup {α : Type} (key : α → String) :
    ∀ (l : List α), (l.map key).Nodup → ∀ x ∈ l, l.find? (fun y => key y = key x) = some x
  | [], _, _, hx => absurd hx (List.not_mem_nil _)
  | y :: l, hnd, x, hx => by
    rw [List.map_cons, List.nodup_cons] at hnd
    rcases List.mem_cons.mp hx with rfl | hx
    · simp
    · have hne : key y ≠ key x := fun h => hnd.1 (h ▸ List.mem_map_of_mem key hx)
      simp [List.find?_cons, hne, find?_key_of_nodup key l hnd.2 x hx]

theorem mem_keys_setEntry (k k' : String) (v : β) (es : List (String × β)) :
    k ∈ (setEntry k' v es).map Prod.fst ↔ k = k' ∨ k ∈ es.map Prod.fst := by
  rw [setEntry_keys]
  split
  · exact ⟨Or.inr, fun h => h.elim (fun e => e ▸ ‹_›) id⟩
  · simp [or_comm]

theorem mem_setEntry {k : String} {v : β} {e : String × β} :
    ∀ {es : List (String × β)}, e ∈ setEntry k v es → e = (k, v) ∨ e ∈ es
  | [], h => by simpa [setEntry] using h
  | (j, u) :: rest, h => by
    unfold setEntry at h
    split_ifs at h
    · rcases List.mem_cons.mp h with h | h
      · exact .inl h
      · exact .inr (List.mem_cons_of_mem _ h)
    · rcases List.mem_cons.mp h with h | h
      · exact .inr (h ▸ List.mem_cons_self _ _)
      · exact (mem_setEntry h).imp_right (List.mem_cons_of_mem _)

theorem mem_foldl_setEntry {e : String × β} :
    ∀ (L es : List (String × β)), e ∈ L.foldl (fun acc e => setEntry e.1 e.2 acc) es →
      e ∈ es ∨ e ∈ L
  | [], _, h => .inl h
  | x :: L, es, h => by
    rcases mem_foldl_setEntry L _ h with h | h
    · rcases mem_setEntry h with rfl | h
      · exact .inr (List.mem_cons_self _ _)
      · exact .inl h
    · exact .inr (List.mem_cons_of_mem _ h)

theorem foldl_setEntry_nodup :
    ∀ (L es : List (String × β)), (es.map Prod.fst).Nodup →
      ((L.foldl (fun acc e => setEntry e.1 e.2 acc) es).map Prod.fst).Nodup
  | [], _, h => h
  | x :: L, es, h => foldl_setEntry_nodup L _ (setEntry_nodup x.1 x.2 es h)

/-- A write of what a key already holds, first, changes nothing. -/
theorem setEntry_of_find? (k : String) (v : β) :
    ∀ es : List (String × β), es.find? (fun e => e.1 = k) = some (k, v) → setEntry k v es = es
  | [], h => by simp at h
  | (j, u) :: rest, h => by
    by_cases hj : j = k
    · subst hj
      simp [List.find?_cons] at h
      simp [setEntry, h]
    · simp [List.find?_cons, hj] at h
      simp [setEntry, hj, setEntry_of_find? k v rest h]

theorem setEntry_setEntry_self (k : String) (v w : β) :
    ∀ es : List (String × β), setEntry k v (setEntry k w es) = setEntry k v es
  | [] => by simp [setEntry]
  | (j, u) :: rest => by
    by_cases hj : j = k
    · simp [setEntry, hj]
    · simp [setEntry, hj, setEntry_setEntry_self k v w rest]

/-- Writes to two keys commute when the first key is present: it is written in place. -/
theorem setEntry_comm {k k' : String} (hk : k ≠ k') (v v' : β) :
    ∀ es : List (String × β), k ∈ es.map Prod.fst →
      setEntry k v (setEntry k' v' es) = setEntry k' v' (setEntry k v es)
  | [], h => absurd h (List.not_mem_nil _)
  | (j, u) :: rest, h => by
    by_cases hj : j = k
    · subst hj
      simp [setEntry, hk]
    · have hrest : k ∈ rest.map Prod.fst := by simpa [Ne.symm hj] using h
      by_cases hj' : j = k'
      · subst hj'
        simp [setEntry, hj]
      · simp [setEntry, hj, hj', setEntry_comm hk v v' rest hrest]

theorem setEntry_append_cons (k : String) (v w : β) (B : List (String × β)) :
    ∀ A : List (String × β), k ∉ A.map Prod.fst →
      setEntry k v (A ++ (k, w) :: B) = A ++ (k, v) :: B
  | [], _ => by simp [setEntry]
  | (j, u) :: A, h => by
    have hj : j ≠ k := fun e => h (by simp [e])
    simp [setEntry, hj, setEntry_append_cons k v w B A fun hA => h (by simp [hA])]

theorem setEntry_of_not_mem (k : String) (v : β) :
    ∀ es : List (String × β), k ∉ es.map Prod.fst → setEntry k v es = es ++ [(k, v)]
  | [], _ => rfl
  | (j, u) :: rest, h => by
    have hj : j ≠ k := fun e => h (by simp [e])
    simp [setEntry, hj, setEntry_of_not_mem k v rest fun hr => h (by simp [hr])]

/-- A write to a present key commutes with a run of writes to other keys. -/
theorem setEntry_foldl_comm {k : String} (v : β) :
    ∀ (B Y : List (String × β)), k ∈ Y.map Prod.fst → (∀ b ∈ B, b.1 ≠ k) →
      setEntry k v (B.foldl (fun acc e => setEntry e.1 e.2 acc) Y) =
        B.foldl (fun acc e => setEntry e.1 e.2 acc) (setEntry k v Y)
  | [], _, _, _ => rfl
  | b :: B, Y, hY, hB => by
    have hb : b.1 ≠ k := hB b (List.mem_cons_self _ _)
    rw [List.foldl_cons, List.foldl_cons,
      setEntry_foldl_comm v B _ ((mem_keys_setEntry _ _ _ _).mpr (.inr hY))
        fun b' hb' => hB b' (List.mem_cons_of_mem _ hb'),
      setEntry_comm (Ne.symm hb) v b.2 Y hY]

/-- Writing `k` into a list of distinct keys and then folding its entries into `es` is folding
them first and writing `k` last. -/
theorem foldl_setEntry_setEntry (es : List (String × β)) (k : String) (v : β)
    (E : List (String × β)) (hE : (E.map Prod.fst).Nodup) :
    (setEntry k v E).foldl (fun acc e => setEntry e.1 e.2 acc) es =
      setEntry k v (E.foldl (fun acc e => setEntry e.1 e.2 acc) es) := by
  by_cases hk : k ∈ E.map Prod.fst
  · obtain ⟨⟨k0, w⟩, hmem, rfl⟩ := List.mem_map.mp hk
    obtain ⟨A, B, rfl⟩ := List.append_of_mem hmem
    rw [List.map_append, List.map_cons, List.nodup_append, List.nodup_cons] at hE
    obtain ⟨-, ⟨hB, -⟩, hdis⟩ := hE
    have hA : k0 ∉ A.map Prod.fst := fun h => hdis h (List.mem_cons_self _ _)
    rw [setEntry_append_cons k0 v w B A hA, List.foldl_append, List.foldl_cons,
      List.foldl_append, List.foldl_cons,
      setEntry_foldl_comm v B _ ((mem_keys_setEntry _ _ _ _).mpr (.inl rfl))
        fun b hb e => hB (by rw [← e]; exact List.mem_map_of_mem Prod.fst hb),
      setEntry_setEntry_self]
  · rw [setEntry_of_not_mem k v E hk, List.foldl_append]
    rfl

/-- The entries a run of writes leaves in an empty list, written into `es`, have the effect of
the run itself: the same keys in the same order, each with its last value. -/
theorem foldl_setEntry_collapse (es L : List (String × β)) :
    (L.foldl (fun acc e => setEntry e.1 e.2 acc) []).foldl (fun acc e => setEntry e.1 e.2 acc) es =
      L.foldl (fun acc e => setEntry e.1 e.2 acc) es := by
  induction L using List.reverseRecOn with
  | nil => rfl
  | append_singleton L x ih =>
    rw [List.foldl_append, List.foldl_append, List.foldl_cons, List.foldl_nil, List.foldl_cons,
      List.foldl_nil, foldl_setEntry_setEntry es x.1 x.2 _ (foldl_setEntry_nodup L [] List.nodup_nil),
      ih]

end SetEntry

/-- A plain object: its own properties in insertion order. `Object.keys` lists integer-like
keys (`"0"`, `"12"`) first, in ascending order, then the others in insertion order; the model
keeps insertion order for every key, so it is `Object.keys` order only for objects without
integer-like keys. -/
structure JsObject where
  entries : List (String × JsValue)
  keys_nodup : (entries.map Prod.fst).Nodup

namespace JsObject

/-- `Object.create(null)` and `{}` have no own keys. -/
def empty : JsObject := ⟨[], List.nodup_nil⟩

/-- `Object.keys(o)`. -/
def keys (o : JsObject) : List String := o.entries.map Prod.fst

/-- `Object.hasOwn(o, k)`. -/
def hasOwn (o : JsObject) (k : String) : Bool := o.keys.contains k

/-- The own entry for `k`, if any. -/
def entry? (o : JsObject) (k : String) : Option (String × JsValue) :=
  o.entries.find? (fun e => e.1 = k)

/-- `o[k]` for an own key, `undefined` otherwise. -/
def get (o : JsObject) (k : String) : JsValue := ((o.entry? k).map Prod.snd).getD .undefined

/-- `o[k] = v`. A new key goes last, also an integer-like one, which JS would list first. -/
def set (o : JsObject) (k : String) (v : JsValue) : JsObject :=
  ⟨setEntry k v o.entries, setEntry_nodup k v o.entries o.keys_nodup⟩

theorem hasOwn_iff (o : JsObject) (k : String) : o.hasOwn k = true ↔ k ∈ o.keys := by
  simp [hasOwn]

theorem mem_keys_iff (o : JsObject) (k : String) : k ∈ o.keys ↔ (o.entry? k).isSome := by
  simp [keys, entry?]

/-- A read after a write sees the write under its own key and the old value elsewhere. -/
@[simp] theorem get_set (o : JsObject) (k k' : String) (v : JsValue) :
    (o.set k v).get k' = if k = k' then v else o.get k' := by
  unfold get entry? set
  rw [find?_setEntry]
  split <;> rfl

theorem ext {o o' : JsObject} (h : o.entries = o'.entries) : o = o' := by
  cases o
  cases o'
  subst h
  rfl

/-- A write of the value a key already holds changes nothing. -/
theorem set_of_get {o : JsObject} {k : String} {v : JsValue} (h : o.get k = v)
    (hv : v ≠ .undefined) : o.set k v = o := by
  cases he : o.entry? k with
  | none => exact absurd (by simpa [get, he] using h.symm) hv
  | some e =>
    obtain ⟨k0, w⟩ := e
    have hk : k0 = k := by simpa using List.find?_some he
    have hw : w = v := by simpa [get, he] using h
    subst hk hw
    exact ext (setEntry_of_find? k0 w o.entries he)

theorem foldl_set_entries {α : Type} (key : α → String) (val : α → JsValue) :
    ∀ (es : List α) (acc : JsObject),
      (es.foldl (fun acc e => acc.set (key e) (val e)) acc).entries =
        es.foldl (fun acc e => setEntry (key e) (val e) acc) acc.entries
  | [], _ => rfl
  | e :: es, acc => foldl_set_entries key val es (acc.set (key e) (val e))

/-- The object a run of writes builds from nothing, written entry by entry into `o`, is the run
written into `o`. -/
theorem foldl_set_collapse (o : JsObject) (L : List (String × JsValue)) :
    (L.foldl (fun acc e => acc.set e.1 e.2) empty).entries.foldl (fun acc e => acc.set e.1 e.2) o =
      L.foldl (fun acc e => acc.set e.1 e.2) o :=
  ext (by
    rw [foldl_set_entries Prod.fst Prod.snd, foldl_set_entries Prod.fst Prod.snd,
      foldl_set_entries Prod.fst Prod.snd]
    exact foldl_setEntry_collapse _ _)

end JsObject

/-- `Boolean(v)`. An `other` value is an object or a non-integral number; SQLite has no
`NaN`, so it is truthy. -/
def JsValue.toBoolean : JsValue → Bool
  | .undefined | .null => false
  | .bool b => b
  | .number n | .bigint n => n != 0
  | .string s => s != ""
  | .other _ | .builtin _ => true

/-! ### Arrays written by index -/

/-- The value of a string of decimal digits. -/
def decimalValue (ds : List Char) : Nat := ds.foldl (fun n d => 10 * n + (d.toNat - '0'.toNat)) 0

/-- A property key that is an array index: decimal digits with no leading zero. The upper
bound of array indices, 2^32 - 2, is not modelled. -/
def canonicalIndex? : List Char → Option Nat
  | [] => none
  | d :: ds =>
    if (d :: ds).all Char.isDigit && (d != '0' || ds.isEmpty) then some (decimalValue (d :: ds))
    else none

/-- The array index a value names as a key: a non-negative integer names its decimal string. -/
def JsValue.arrayIndex? : JsValue → Option Nat
  | .number n | .bigint n => if 0 ≤ n then some n.toNat else none
  | .string s => canonicalIndex? s.data
  | _ => none

@[simp] theorem arrayIndex?_number (i : Nat) : (JsValue.number i).arrayIndex? = some i := by
  simp [JsValue.arrayIndex?, Int.ofNat_zero_le]

/-- An array written only by `arr[key] = v`: its elements, holes as `none`, and the values
stored under keys that are not array indices. -/
structure JsArray (α : Type) where
  elems : List (Option α)
  props : List (String × α)
  deriving DecidableEq, Repr

namespace JsArray

variable {α : Type}

/-- `[]`. -/
def empty : JsArray α := ⟨[], []⟩

/-- `arr[i] = v` for an index `i`: past the end the array grows, leaving holes. -/
def setIndex (elems : List (Option α)) (i : Nat) (v : α) : List (Option α) :=
  if i < elems.length then elems.set i (some v)
  else elems ++ List.replicate (i - elems.length) none ++ [some v]

/-- `arr[key] = v`. -/
def set (arr : JsArray α) (key : JsValue) (v : α) : JsArray α :=
  match key.arrayIndex? with
  | some i => { arr with elems := setIndex arr.elems i v }
  | none => { arr with props := setEntry key.toPropertyKey v arr.props }

/-- Writing the index just past the end appends. -/
theorem setIndex_length (elems : List (Option α)) (v : α) :
    setIndex elems elems.length v = elems ++ [some v] := by
  simp [setIndex]

theorem length_setIndex (elems : List (Option α)) (i : Nat) (v : α) :
    (setIndex elems i v).length = max elems.length (i + 1) := by
  unfold setIndex
  split <;> simp <;> omega

theorem getElem?_setIndex (elems : List (Option α)) (i n : Nat) (v : α) :
    (setIndex elems i v)[n]? =
      if n = i then some (some v)
      else if n < elems.length then elems[n]?
      else if n < i then some none else none := by
  unfold setIndex
  split
  · rw [List.getElem?_set]
    by_cases hn : n = i
    · simp [hn, *]
    · rw [if_neg (Ne.symm hn), if_neg hn]
      split
      · rfl
      · rw [List.getElem?_eq_none (by omega), if_neg (by omega)]
  · rw [List.append_assoc]
    by_cases hl : n < elems.length
    · rw [List.getElem?_append_left hl, if_neg (by omega), if_pos hl]
    · rw [List.getElem?_append_right (by omega), if_neg hl]
      rcases lt_trichotomy n i with h | rfl | h
      · rw [List.getElem?_append_left (by simp only [List.length_replicate]; omega),
          List.getElem?_replicate, if_pos (show n - elems.length < i - elems.length by omega),
          if_neg (show n ≠ i by omega), if_pos h]
      · rw [List.getElem?_append_right (by simp), if_pos rfl]
        simp
      · rw [List.getElem?_eq_none (by simp; omega), if_neg (show n ≠ i by omega),
          if_neg (show ¬ n < i by omega)]

/-- Read as a partial map, where a hole and a place past the end both hold nothing, a write
changes one place. -/
theorem join_getElem?_setIndex (elems : List (Option α)) (i n : Nat) (v : α) :
    (setIndex elems i v)[n]?.join = if n = i then some v else elems[n]?.join := by
  rw [getElem?_setIndex]
  split_ifs <;> simp_all [List.getElem?_eq_none]

/-- Two arrays of one length that hold the same at every place are equal. -/
theorem ext_join {l₁ l₂ : List (Option α)} (hlen : l₁.length = l₂.length)
    (h : ∀ n : Nat, l₁[n]?.join = l₂[n]?.join) : l₁ = l₂ := by
  apply List.ext_getElem hlen
  intro n h₁ h₂
  simpa [List.getElem?_eq_getElem h₁, List.getElem?_eq_getElem h₂] using h n

/-- Writes to two different indices commute. -/
theorem setIndex_comm (elems : List (Option α)) {i j : Nat} (hij : i ≠ j) (v w : α) :
    setIndex (setIndex elems i v) j w = setIndex (setIndex elems j w) i v := by
  apply ext_join
  · simp only [length_setIndex]
    omega
  · intro n
    simp only [join_getElem?_setIndex]
    by_cases hi : n = i <;> by_cases hj : n = j <;> simp_all

end JsArray

/-! ### String methods -/

/-- `s.includes(pat)` on character lists. -/
def includes (pat : List Char) : List Char → Bool
  | [] => pat.isEmpty
  | c :: cs => pat.isPrefixOf (c :: cs) || includes pat cs

theorem includes_iff (pat s : List Char) : includes pat s = true ↔ pat <:+: s := by
  induction s with
  | nil => cases pat <;> simp [includes]
  | cons c cs ih =>
    simp only [includes, Bool.or_eq_true, List.isPrefixOf_iff_prefix, ih]
    exact ⟨fun h => h.elim List.IsPrefix.isInfix (List.IsInfix.trans · (List.suffix_cons c cs).isInfix),
      fun h => (List.infix_cons_iff.mp h).imp id id⟩

/-- `s.toLowerCase()`; only ASCII letters matter for the adapter's patterns. -/
def toLowerCase (s : String) : String := ⟨s.data.map Char.toLower⟩

/-- `s.startsWith(pat)`. -/
def startsWith (s pat : String) : Bool := pat.data.isPrefixOf s.data

/-- `s.split(sep)` for a non-empty separator. `skip` counts the separator characters still
to pass after a cut; `cur` is the current field, reversed. -/
def splitOnAux (sep : List Char) : List Char → List Char → Nat → List (List Char)
  | [], cur, _ => [cur.reverse]
  | _ :: cs, cur, skip + 1 => splitOnAux sep cs cur skip
  | c :: cs, cur, 0 =>
    if sep.isPrefixOf (c :: cs) then cur.reverse :: splitOnAux sep cs [] (sep.length - 1)
    else splitOnAux sep cs (c :: cur) 0

/-- `s.split(sep)`. -/
def split (s : String) (sep : String) : List String :=
  (splitOnAux sep.data s.data [] 0).map String.mk

/-! ### `split` undoes joining -/

/-- Two occurrences of `sep` never overlap: no proper prefix of `sep` followed by `sep`
starts with `sep`. -/
def Unbordered (sep : List Char) : Prop :=
  ∀ n, n < sep.length → 0 < n → ¬ sep <+: sep.take n ++ sep

instance (sep : List Char) : Decidable (Unbordered sep) :=
  inferInstanceAs (Decidable (∀ n, n < sep.length → 0 < n → ¬ sep <+: sep.take n ++ sep))

/-- An unbordered `sep` that `p` does not contain cannot start inside `p` when what follows
`p` is empty or begins with `sep`. -/
theorem not_prefix_append {sep p rest : List Char} (hsep : Unbordered sep) (hp : ¬ sep <:+: p)
    (hne : p ≠ []) (hrest : rest = [] ∨ sep <+: rest) : ¬ sep <+: p ++ rest := by
  intro h
  by_cases hl : sep.length ≤ p.length
  · exact hp (List.prefix_of_prefix_length_le h (List.prefix_append p rest) hl).isInfix
  · have hps : p <+: sep := List.prefix_of_prefix_length_le (List.prefix_append p rest) h (by omega)
    rcases hrest with rfl | ⟨r, rfl⟩
    · exact hl (by simpa using h.length_le)
    · have h2 : sep <+: p ++ sep := List.prefix_of_prefix_length_le h
        (by simp) (by simp)
      rw [List.prefix_iff_eq_take.mp hps] at h2
      exact hsep p.length (by omega) (List.length_pos.mpr hne) h2

/-- The characters of a separator after a cut are skipped. -/
theorem splitOnAux_skip (sep l rest cur : List Char) :
    splitOnAux sep (l ++ rest) cur l.length = splitOnAux sep rest cur 0 := by
  induction l with
  | nil => rfl
  | cons c l ih => simpa [splitOnAux] using ih

theorem splitOnAux_sep (sep rest cur : List Char) (hne : sep ≠ []) :
    splitOnAux sep (sep ++ rest) cur 0 = cur.reverse :: splitOnAux sep rest [] 0 := by
  obtain ⟨s, ss, rfl⟩ := List.exists_cons_of_ne_nil hne
  simp [splitOnAux, splitOnAux_skip]

/-- A chunk in which no separator starts is pushed onto the current field. -/
theorem splitOnAux_append {sep rest : List Char} (hsep : Unbordered sep)
    (hrest : rest = [] ∨ sep <+: rest) : ∀ (p cur : List Char), ¬ sep <:+: p →
      splitOnAux sep (p ++ rest) cur 0 = splitOnAux sep rest (p.reverse ++ cur) 0
  | [], _, _ => rfl
  | c :: p, cur, hp => by
    have hnot := not_prefix_append hsep hp (List.cons_ne_nil c p) hrest
    have hp' : ¬ sep <:+: p := fun h => hp (h.trans (List.suffix_cons c p).isInfix)
    rw [List.cons_append, splitOnAux.eq_3, if_neg (by simpa using hnot),
      splitOnAux_append hsep hrest p _ hp']
    simp

theorem intercalate_cons_cons {α : Type} (sep x y : List α) (ys : List (List α)) :
    sep.intercalate (x :: y :: ys) = x ++ (sep ++ sep.intercalate (y :: ys)) := by
  simp [List.intercalate, List.intersperse_cons₂]

theorem mem_intercalate {α : Type} {sep : List α} {a : α} :
    ∀ {xs : List (List α)}, a ∈ sep.intercalate xs → a ∈ sep ∨ ∃ x ∈ xs, a ∈ x
  | [], h => by simp [List.intercalate] at h
  | [x], h => .inr ⟨x, List.mem_singleton_self x, by simpa [List.intercalate] using h⟩
  | x :: y :: ys, h => by
    rw [intercalate_cons_cons] at h
    rcases List.mem_append.mp h with h | h
    · exact .inr ⟨x, List.mem_cons_self x _, h⟩
    rcases List.mem_append.mp h with h | h
    · exact .inl h
    rcases mem_intercalate h with h | ⟨z, hz, h⟩
    · exact .inl h
    · exact .inr ⟨z, List.mem_cons_of_mem x hz, h⟩

/-- Splitting on an unbordered separator that no part contains gives the parts back. -/
theorem splitOnAux_intercalate {sep : List Char} (hsep : Unbordered sep) (hne : sep ≠ []) :
    ∀ xs : List (List Char), xs ≠ [] → (∀ x ∈ xs, ¬ sep <:+: x) →
      splitOnAux sep (sep.intercalate xs) [] 0 = xs
  | [], h, _ => absurd rfl h
  | [x], _, hx => by
    simpa [List.intercalate, splitOnAux] using
      splitOnAux_append hsep (.inl rfl) x [] (hx x (List.mem_singleton_self x))
  | x :: y :: ys, _, hx => by
    rw [intercalate_cons_cons, splitOnAux_append hsep (.inr (List.prefix_append _ _)) x []
      (hx x (List.mem_cons_self x _)), splitOnAux_sep _ _ _ hne,
      splitOnAux_intercalate hsep hne (y :: ys) (List.cons_ne_nil y ys)
        (fun z hz => hx z (List.mem_cons_of_mem x hz))]
    simp

/-- `sep.join(xs).split(sep) = xs` when no part contains the separator. -/
theorem split_intercalate (sep : String) (hsep : Unbordered sep.data) (hne : sep.data ≠ [])
    (xs : List String) (hxs : xs ≠ []) (hx : ∀ x ∈ xs, ¬ sep.data <:+: x.data) :
    split ⟨sep.data.intercalate (xs.map String.data)⟩ sep = xs := by
  rw [split, splitOnAux_intercalate hsep hne _ (by simpa using hxs) (by simpa using hx)]
  simp [Function.comp_def]

/-- `s.replaceAll(c, '')` for a one-character pattern. -/
def removeAll (s : String) (c : Char) : String := ⟨s.data.filter (· ≠ c)⟩

end SequelizeTurso.Js

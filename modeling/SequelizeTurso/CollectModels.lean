import SequelizeTurso.Js

/-!
`TursoQuery._collectModels(include, prefix)`: the models of an `include` tree, keyed by path.
The loop writes each include's model under its key, then merges in, with lodash's `merge`, what
the same walk gives for that include's own `include`. The key is the include's `as` when the
prefix is falsy, and `prefix.as` otherwise. When every model is defined, the walk builds what
writing each include's model under its key, one include after another in preorder, builds.
-/

namespace SequelizeTurso.CollectModels

open Js

/-- An element of an `include` array, with the fields `_collectModels` reads. -/
inductive IncludeOption
  | mk («as» : JsValue) (model : JsValue) («include» : Option (List IncludeOption))

/-- `!prefix ? _include.as : `${prefix}.${_include.as}``, the parent's key being the prefix. -/
def includeKey (parentKey «as» : JsValue) : JsValue :=
  if parentKey.toBoolean then .string (parentKey.toPropertyKey ++ "." ++ «as».toPropertyKey)
  else «as»

/-- lodash's `assignMergeValue(object, key, value)`: a defined value is written unless the key
already holds it; `undefined` is written only under a key that `key in object` misses. -/
def assignMergeValue (object : JsObject) (key : String) (value : JsValue) : JsObject :=
  if (value ≠ .undefined ∧ object.get key ≠ value) ∨
      (value = .undefined ∧ key ∉ object.keys ∧ key ∉ objectPrototypeKeys) then
    object.set key value
  else object

/-- lodash's `merge(object, source)` when no value of `source` is a plain object or an array,
as for models, which are classes: `assignMergeValue` for each key of `source`, in order. -/
def merge (object source : JsObject) : JsObject :=
  source.entries.foldl (fun object e => assignMergeValue object e.1 e.2) object

mutual

/-- `for (const _include of include) { .. }`, writing into `ret`. -/
def collectEach (parentKey : JsValue) : List IncludeOption → JsObject → JsObject
  | [], ret => ret
  | inc :: incs, ret => collectEach parentKey incs (collectOne parentKey inc ret)

/-- One pass of the loop: `ret[key] = _include.model`, then, when `_include.include` is set,
`merge(ret, this._collectModels(_include.include, key))`. -/
def collectOne (parentKey : JsValue) : IncludeOption → JsObject → JsObject
  | .mk «as» model (some sub), ret =>
    merge (ret.set (includeKey parentKey «as»).toPropertyKey model)
      (collectEach (includeKey parentKey «as») sub .empty)
  | .mk «as» model none, ret => ret.set (includeKey parentKey «as»).toPropertyKey model

end

/-- `_collectModels(include, prefix)`, from `const ret = {}`; a falsy `include` gives `ret`. -/
def collectModels («include» : Option (List IncludeOption)) (parentKey : JsValue) : JsObject :=
  match «include» with
  | some incs => collectEach parentKey incs .empty
  | none => .empty

/-! ### The walk as a sequence of writes -/

mutual

/-- Each include's key and model, a parent before its children. -/
def preorderEach (parentKey : JsValue) : List IncludeOption → List (String × JsValue)
  | [] => []
  | inc :: incs => preorderOne parentKey inc ++ preorderEach parentKey incs

def preorderOne (parentKey : JsValue) : IncludeOption → List (String × JsValue)
  | .mk «as» model (some sub) =>
    ((includeKey parentKey «as»).toPropertyKey, model) :: preorderEach (includeKey parentKey «as») sub
  | .mk «as» model none => [((includeKey parentKey «as»).toPropertyKey, model)]

end

def preorder («include» : Option (List IncludeOption)) (parentKey : JsValue) :
    List (String × JsValue) :=
  match «include» with
  | some incs => preorderEach parentKey incs
  | none => []

theorem assignMergeValue_of_defined (object : JsObject) (key : String) {value : JsValue}
    (hv : value ≠ .undefined) : assignMergeValue object key value = object.set key value := by
  unfold assignMergeValue
  by_cases hg : object.get key = value
  · rw [if_neg (by simp [hg, hv]), JsObject.set_of_get hg hv]
  · rw [if_pos (.inl ⟨hv, hg⟩)]

/-- Merging defined values writes them one by one. -/
theorem foldl_assignMergeValue :
    ∀ (es : List (String × JsValue)) (object : JsObject), (∀ e ∈ es, e.2 ≠ .undefined) →
      es.foldl (fun object e => assignMergeValue object e.1 e.2) object =
        es.foldl (fun object e => object.set e.1 e.2) object
  | [], _, _ => rfl
  | e :: es, object, h => by
    rw [List.foldl_cons, List.foldl_cons, assignMergeValue_of_defined _ _ (h e (List.mem_cons_self _ _))]
    exact foldl_assignMergeValue es _ fun e' he' => h e' (List.mem_cons_of_mem _ he')

/-- Merging what a run of defined writes builds from nothing is making those writes. -/
theorem merge_foldl_set (object : JsObject) (L : List (String × JsValue))
    (h : ∀ e ∈ L, e.2 ≠ .undefined) :
    merge object (L.foldl (fun o e => o.set e.1 e.2) .empty) =
      L.foldl (fun o e => o.set e.1 e.2) object := by
  rw [merge, foldl_assignMergeValue _ _ fun e he => ?_, JsObject.foldl_set_collapse]
  rw [JsObject.foldl_set_entries Prod.fst Prod.snd] at he
  rcases mem_foldl_setEntry L [] he with he | he
  · cases he
  · exact h e he

mutual

theorem collectEach_eq (parentKey : JsValue) :
    ∀ (incs : List IncludeOption) (ret : JsObject),
      (∀ e ∈ preorderEach parentKey incs, e.2 ≠ .undefined) →
      collectEach parentKey incs ret =
        (preorderEach parentKey incs).foldl (fun o e => o.set e.1 e.2) ret
  | [], _, _ => rfl
  | inc :: incs, ret, h => by
    rw [collectEach, collectOne_eq parentKey inc ret fun e he => h e (List.mem_append_left _ he),
      collectEach_eq parentKey incs _ fun e he => h e (List.mem_append_right _ he), preorderEach,
      List.foldl_append]

theorem collectOne_eq (parentKey : JsValue) :
    ∀ (inc : IncludeOption) (ret : JsObject),
      (∀ e ∈ preorderOne parentKey inc, e.2 ≠ .undefined) →
      collectOne parentKey inc ret =
        (preorderOne parentKey inc).foldl (fun o e => o.set e.1 e.2) ret
  | .mk «as» model (some sub), ret, h => by
    have hsub : ∀ e ∈ preorderEach (includeKey parentKey «as») sub, e.2 ≠ .undefined :=
      fun e he => h e (List.mem_cons_of_mem _ he)
    rw [collectOne, collectEach_eq _ sub _ hsub, merge_foldl_set _ _ hsub, preorderOne,
      List.foldl_cons]
  | .mk «as» model none, ret, _ => rfl

end

/-- When every model is defined, `_collectModels` builds what writing each include's model under
its key builds, one include after another in preorder: merging a sub-result has the effect of
the sub-tree's own writes, so each key sits where it was first written (in insertion order,
which is `Object.keys` order for keys that are not integer-like) and holds the model of the last
include written under it. -/
theorem collectModels_eq_preorder («include» : Option (List IncludeOption)) (parentKey : JsValue)
    (h : ∀ e ∈ preorder «include» parentKey, e.2 ≠ .undefined) :
    collectModels «include» parentKey =
      (preorder «include» parentKey).foldl (fun o e => o.set e.1 e.2) .empty := by
  cases «include» with
  | none => rfl
  | some incs => exact collectEach_eq parentKey incs .empty h

/-- `[{ as: 'author', model: User, include: [{ as: 'avatar', model: Image }] },
{ as: 'comments', model: Comment }]`. -/
def postIncludes : List IncludeOption :=
  [.mk (.string "author") (.other 1) (some [.mk (.string "avatar") (.other 2) none]),
    .mk (.string "comments") (.other 3) none]

theorem post_models_in_preorder :
    (∀ e ∈ preorder (some postIncludes) .undefined, e.2 ≠ .undefined) ∧
    collectModels (some postIncludes) .undefined =
      (preorder (some postIncludes) .undefined).foldl (fun o e => o.set e.1 e.2) .empty := by
  refine ⟨?defined, collectModels_eq_preorder _ _ ?defined⟩
  decide

end SequelizeTurso.CollectModels

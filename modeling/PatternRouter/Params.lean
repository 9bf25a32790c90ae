/-!
# Parameter maps

The values that a request binds to keys, taken from its path or from its query. A key is bound at
most once. A path binds with `insert`, so the last binding of a key stands; a query binds with
`insertNew`, so the first one does.

* `get?_insert`: after `insert`, the key has the new value and every other key what it had.
* `get?_insertNew`: after `insertNew`, a key that was bound keeps its value.
-/

namespace PatternRouter

/-- Values bound to keys, in the order in which the keys were first bound. -/
structure Params where
  /-- The bindings, one for each key. -/
  entries : List (String × String)
deriving DecidableEq, Repr

namespace Params

/-- No key is bound. -/
def empty : Params := ⟨[]⟩

/-- The value of a key, if it is bound. -/
def get? (params : Params) (key : String) : Option String :=
  params.entries.lookup key

/-- Replace the value of `key` in a list of bindings, or add the binding at the end. -/
private def put (key value : String) : List (String × String) → List (String × String)
  | [] => [(key, value)]
  | (k, v) :: rest => if key == k then (k, value) :: rest else (k, v) :: put key value rest

/-- Bind `key` to `value`, whatever it was bound to before. -/
def insert (params : Params) (key value : String) : Params :=
  ⟨put key value params.entries⟩

/-- Bind `key` to `value` unless it is bound already. -/
def insertNew (params : Params) (key value : String) : Params :=
  if (params.get? key).isSome then params else params.insert key value

/-- The empty map binds nothing. -/
@[simp]
theorem get?_empty (key : String) : empty.get? key = none := rfl

private theorem lookup_put (key value k : String) (entries : List (String × String)) :
    (put key value entries).lookup k = if k == key then some value else entries.lookup k := by
  induction entries with
  | nil => cases h : k == key <;> simp [put, List.lookup_cons, h]
  | cons entry rest ih =>
    obtain ⟨k', v'⟩ := entry
    simp only [put]
    by_cases h : key = k'
    · subst h
      cases hk : k == key <;> simp [List.lookup_cons, hk]
    · have h' : (key == k') = false := by simp [h]
      simp only [h', Bool.false_eq_true, if_false, List.lookup_cons]
      by_cases hk : k = k'
      · subst hk
        simp [Ne.symm h]
      · have hk' : (k == k') = false := by simp [hk]
        simp [hk', ih]

/-- After `insert` the key has the new value, and every other key what it had. -/
theorem get?_insert (params : Params) (key value k : String) :
    (params.insert key value).get? k = if k = key then some value else params.get? k := by
  simp [get?, insert, lookup_put]

/-- After `insertNew` a key that was bound keeps its value. -/
theorem get?_insertNew (params : Params) (key value k : String) :
    (params.insertNew key value).get? k =
      if k = key then some ((params.get? key).getD value) else params.get? k := by
  unfold insertNew
  by_cases hk : k = key
  · subst hk
    cases h : params.get? k <;> simp [h, get?_insert]
  · split
    · simp
    · simp [get?_insert, if_neg hk]

end Params

end PatternRouter

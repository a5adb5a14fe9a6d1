import Mathlib.Data.List.AList

/-!
# Go maps

Every table of the mapper code is a Go `map[string]V`: `FileMapper`'s
`lowercaseRoleMap` and friends, `MapStore`'s five tables, and the `Data` field of
a ConfigMap. They are modelled as Mathlib association lists, `GoMap V`, whose
entries carry one value per key.

Three operations of Go reach the model:

* `m[k] = v` is `GoMap.set`, which replaces the value of a present key;
* `v, ok := m[k]` is `GoMap.get?`;
* `for _, v := range m` visits `GoMap.values` in an order the runtime picks
  afresh on every loop. A loop over a map is therefore modelled as a loop over
  an explicit `m.Order`, a list carrying its proof that it permutes
  `m.values`, and a statement about such a loop quantifies over every order.

Every table the code fills is built by setting `key a ↦ val a` for the elements
`a` of a list in order (`GoMap.build`). The two facts later modules use are that
a lookup in such a table finds the *last* element with that key
(`get?_build`), and that the values of the table are exactly those last
elements (`mem_values_build`).
-/

namespace IamAuthenticator

/-- A Go `map[string]V`. -/
abbrev GoMap (V : Type) := AList (fun _ : String => V)

namespace GoMap

variable {V α : Type}

/-- `m[k] = v`. -/
def set (m : GoMap V) (k : String) (v : V) : GoMap V := AList.insert k v m

/-- `v, ok := m[k]`, with `ok` read as `isSome`. -/
def get? (m : GoMap V) (k : String) : Option V := AList.lookup k m

/-- The values a `for _, v := range m` loop visits, in the order of the entries. -/
def values (m : GoMap V) : List V := m.entries.map Sigma.snd

/-- One order in which `for _, v := range m` visits the values of `m`. -/
def Order (m : GoMap V) : Type := {o : List V // o.Perm m.values}

/-- The order of the entries. -/
def Order.entries (m : GoMap V) : m.Order := ⟨m.values, List.Perm.refl _⟩

/-- The table a loop `for _, a := range l { m[key(a)] = val(a) }` builds from an
empty map. -/
def build (key : α → String) (val : α → V) (l : List α) : GoMap V :=
  l.foldl (fun m a => m.set (key a) (val a)) ∅

@[simp] theorem get?_empty (k : String) : (∅ : GoMap V).get? k = none := rfl

@[simp] theorem get?_set (m : GoMap V) (k k' : String) (v : V) :
    (m.set k v).get? k' = if k = k' then some v else m.get? k' := by
  by_cases h : k = k'
  · subst h; simp [set, get?, AList.lookup_insert]
  · simp [set, get?, h, AList.lookup_insert_ne (Ne.symm h)]

@[simp] theorem values_empty : (∅ : GoMap V).values = [] := rfl

theorem mem_values_iff {m : GoMap V} {v : V} : v ∈ m.values ↔ ∃ k, m.get? k = some v := by
  simp only [values, List.mem_map, get?, ← Option.mem_def, AList.mem_lookup_iff]
  exact ⟨fun ⟨⟨k, w⟩, hk, hw⟩ => ⟨k, hw ▸ hk⟩, fun ⟨k, hk⟩ => ⟨⟨k, v⟩, hk, rfl⟩⟩

/-- The last element of `l` whose key is `k`. -/
def lastWith (key : α → String) (l : List α) (k : String) : Option α :=
  l.reverse.find? (fun a => key a = k)

theorem find?_congr {p q : α → Bool} {l : List α} (h : ∀ a ∈ l, p a = q a) :
    l.find? p = l.find? q := by
  induction l with
  | nil => rfl
  | cons a l ih =>
    simp only [List.find?_cons, h a (List.mem_cons_self a l),
      ih (fun b hb => h b (List.mem_cons_of_mem a hb))]

theorem lastWith_cons (key : α → String) (a : α) (l : List α) (k : String) :
    lastWith key (a :: l) k = (lastWith key l k).or (if key a = k then some a else none) := by
  by_cases h : key a = k <;> simp [lastWith, h]

theorem lastWith_key {key : α → String} {l : List α} {k : String} {a : α}
    (h : lastWith key l k = some a) : key a = k ∧ a ∈ l := by
  have := List.find?_some h
  exact ⟨by simpa using this, List.mem_reverse.mp (List.mem_of_find?_eq_some h)⟩

theorem lastWith_isSome_iff {key : α → String} {l : List α} {k : String} :
    (lastWith key l k).isSome ↔ ∃ a ∈ l, key a = k := by
  simp [lastWith, List.find?_isSome]

theorem lastWith_congr {key key' : α → String} {l : List α} (h : ∀ a ∈ l, key a = key' a)
    (k : String) : lastWith key l k = lastWith key' l k :=
  find?_congr fun a ha => by simp [h a (List.mem_reverse.1 ha)]

/-- An element appended last is the last one with its key. -/
theorem lastWith_append_singleton (key : α → String) (l : List α) {a : α} {k : String}
    (h : key a = k) : lastWith key (l ++ [a]) k = some a := by
  simp [lastWith, h]

theorem lastWith_eq_none_iff {key : α → String} {l : List α} {k : String} :
    lastWith key l k = none ↔ ∀ a ∈ l, key a ≠ k := by
  simp [lastWith, List.find?_eq_none]

theorem get?_foldl_set (key : α → String) (val : α → V) (l : List α) (m : GoMap V)
    (k : String) :
    (l.foldl (fun m a => m.set (key a) (val a)) m).get? k =
      ((lastWith key l k).map val).or (m.get? k) := by
  induction l generalizing m with
  | nil => simp [lastWith]
  | cons a l ih =>
    rw [List.foldl_cons, ih, lastWith_cons, get?_set]
    cases lastWith key l k <;> by_cases h : key a = k <;> simp [h]

/-- A lookup in a built table finds the last element with that key. -/
theorem get?_build (key : α → String) (val : α → V) (l : List α) (k : String) :
    (build key val l).get? k = (lastWith key l k).map val := by
  simp [build, get?_foldl_set]

/-- A table keyed by the elements themselves holds exactly the list's elements. -/
theorem isSome_get?_build_id (val : String → V) (l : List String) (k : String) :
    ((build id val l).get? k).isSome = decide (k ∈ l) := by
  rw [get?_build, Option.isSome_map', Bool.eq_iff_iff, lastWith_isSome_iff]
  simp

/-- The values of a built table are the elements that are last for their key. -/
theorem mem_values_build {key : α → String} {val : α → V} {l : List α} {v : V} :
    v ∈ (build key val l).values ↔ ∃ a, lastWith key l (key a) = some a ∧ val a = v := by
  simp only [mem_values_iff, get?_build, Option.map_eq_some']
  constructor
  · rintro ⟨k, a, ha, rfl⟩
    exact ⟨a, (lastWith_key ha).1 ▸ ha, rfl⟩
  · rintro ⟨a, ha, rfl⟩
    exact ⟨key a, a, ha, rfl⟩

/-- A scan, in any order, of a built table for a value satisfying a test that
holds exactly of the values with key `k` finds the last element with key `k`. -/
theorem find?_build {key : α → String} {l : List α} {k : String} {P : α → Bool}
    (o : (build key id l).Order) (hP : ∀ a ∈ o.1, P a ↔ key a = k) :
    o.1.find? P = lastWith key l k := by
  have hval : ∀ {a}, a ∈ o.1 ↔ lastWith key l (key a) = some a := fun {a} => by
    rw [o.2.mem_iff, mem_values_build]
    exact ⟨fun ⟨b, hb, hab⟩ => hab ▸ hb, fun h => ⟨a, h, rfl⟩⟩
  cases h : o.1.find? P with
  | none =>
    cases hl : lastWith key l k with
    | none => rfl
    | some a =>
      have hk := (lastWith_key hl).1
      have ha : a ∈ o.1 := hval.mpr (hk ▸ hl)
      exact absurd ((hP a ha).mpr hk) (by simpa using List.find?_eq_none.mp h a ha)
  | some a =>
    have ha := List.mem_of_find?_eq_some h
    have hk := (hP a ha).mp (List.find?_some h)
    rw [← hk, hval.mp ha]

end GoMap

end IamAuthenticator

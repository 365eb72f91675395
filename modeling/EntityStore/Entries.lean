/-!
# Ordered entries

A list of pairs that holds one value per key, in the order in which the keys were first written.
Writing to a key that is present changes its value and not its place; a new key goes to the end.
Objects, registries, caches and the contents of a container are all kept this way.
-/

namespace EntityStore

/-- Pairs of a key and a value, in the order in which the keys were first written. -/
abbrev Entries (κ ν : Type) := List (κ × ν)

namespace Entries

variable {κ ν : Type} [BEq κ]

/-- The value under a key. -/
def get? (e : Entries κ ν) (k : κ) : Option ν :=
  match e with
  | [] => none
  | (k', v) :: r => if k' == k then some v else get? r k

/-- Whether a key is present. -/
def contains (e : Entries κ ν) (k : κ) : Bool :=
  (e.get? k).isSome

/-- **Writes a value under a key**, in place if the key is present and at the end if not. -/
def put (e : Entries κ ν) (k : κ) (v : ν) : Entries κ ν :=
  match e with
  | [] => [(k, v)]
  | (k', v') :: r => if k' == k then (k', v) :: r else (k', v') :: put r k v

/-- Removes a key. -/
def erase (e : Entries κ ν) (k : κ) : Entries κ ν :=
  match e with
  | [] => []
  | (k', v') :: r => if k' == k then r else (k', v') :: erase r k

/-- The entries that a list of pairs leaves when they are written one after the other. -/
def ofList (l : List (κ × ν)) : Entries κ ν :=
  l.foldl (fun e (k, v) => put e k v) []

/-- The keys, in order. -/
def keys (e : Entries κ ν) : List κ := e.map Prod.fst

/-! ### What an operation does to a lookup -/

@[simp] theorem get?_nil (k : κ) : get? ([] : Entries κ ν) k = none := rfl

variable [LawfulBEq κ]

@[simp] theorem get?_put_self (e : Entries κ ν) (k : κ) (v : ν) : (put e k v).get? k = some v := by
  induction e with
  | nil => simp [put, get?]
  | cons p r ih => by_cases h : p.1 == k <;> simp [put, get?, h, ih]

theorem get?_put_of_ne (e : Entries κ ν) {k k' : κ} (v : ν) (h : k ≠ k') :
    (put e k v).get? k' = e.get? k' := by
  induction e with
  | nil => simp [put, get?, h]
  | cons p r ih =>
    by_cases hk : p.1 == k
    · have : p.1 = k := eq_of_beq hk
      simp [put, get?, this, h]
    · by_cases hk' : p.1 == k' <;> simp [put, get?, hk, hk', ih]

/-- After writing, the key is present, and so are those that were. -/
theorem contains_put (e : Entries κ ν) (k k' : κ) (v : ν) :
    (put e k v).contains k' = true ↔ k' = k ∨ e.contains k' = true := by
  rw [contains, contains]
  by_cases h : k' = k
  · simp [h]
  · simp [h, get?_put_of_ne e v (Ne.symm h)]

end Entries

end EntityStore

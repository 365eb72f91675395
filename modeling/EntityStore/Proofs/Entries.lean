import EntityStore.Entries

/-!
# Entries under keys of any kind

The keys of a container are compared by what they hold, so two keys can be equal without being the
same, and a key need not even equal itself.  What writing and removing do is therefore said of the
first entry under a key, with the entries before it and behind it (`split_of_get?`).

`Distinct` says that no key equals a later one.  It is kept, and where keys that equal the same key
equal each other, writing leaves no other entry under the key (`mem_put_of_distinct`).
-/

namespace EntityStore

namespace Entries

variable {κ ν : Type} [BEq κ] {e before after : Entries κ ν} {k k' : κ} {v v' : ν}

/-! ### The first entry under a key -/

theorem get?_cons_of_eq (hk : (k' == k) = true) : get? ((k', v) :: e) k = some v := by
  rw [get?, if_pos hk]

theorem get?_cons_of_ne (hk : (k' == k) = false) : get? ((k', v) :: e) k = e.get? k := by
  rw [get?, hk, if_neg Bool.false_ne_true]

theorem get?_eq_none_iff : e.get? k = none ↔ ∀ p ∈ e, (p.1 == k) = false := by
  induction e with
  | nil => simp
  | cons p r ih =>
    rcases p with ⟨k', v⟩
    rw [List.forall_mem_cons, ← ih]
    cases hk : k' == k with
    | true => simp [get?_cons_of_eq hk]
    | false => simp [get?_cons_of_ne hk]

/-- **What is found under a key** is the value of the first entry whose key equals it. -/
theorem split_of_get? (h : e.get? k = some v) :
    ∃ before k' after, e = before ++ (k', v) :: after ∧ (k' == k) = true
      ∧ get? before k = none := by
  induction e with
  | nil => cases h
  | cons p r ih =>
    rcases p with ⟨k₁, v₁⟩
    cases hk : k₁ == k with
    | true =>
      rw [get?_cons_of_eq hk] at h
      cases h
      exact ⟨[], k₁, r, rfl, hk, rfl⟩
    | false =>
      rw [get?_cons_of_ne hk] at h
      obtain ⟨before, k', after, rfl, hk', hbefore⟩ := ih h
      exact ⟨(k₁, v₁) :: before, k', after, rfl, hk', (get?_cons_of_ne hk).trans hbefore⟩

/-- A new key goes to the end. -/
theorem put_of_new (h : e.get? k = none) : e.put k v = e ++ [(k, v)] := by
  induction e with
  | nil => rfl
  | cons p r ih =>
    rcases p with ⟨k', v'⟩
    have hk : (k' == k) = false := get?_eq_none_iff.1 h _ (List.mem_cons_self ..)
    rw [get?_cons_of_ne hk] at h
    rw [put, hk, if_neg Bool.false_ne_true, ih h, List.cons_append]

theorem put_split (hbefore : get? before k = none) (hk : (k' == k) = true) :
    put (before ++ (k', v') :: after) k v = before ++ (k', v) :: after := by
  induction before with
  | nil => rw [List.nil_append, put, if_pos hk, List.nil_append]
  | cons p r ih =>
    rcases p with ⟨k₁, v₁⟩
    have hk₁ : (k₁ == k) = false := get?_eq_none_iff.1 hbefore _ (List.mem_cons_self ..)
    rw [get?_cons_of_ne hk₁] at hbefore
    rw [List.cons_append, put, hk₁, if_neg Bool.false_ne_true, ih hbefore, List.cons_append]

/-- The first entry under a key is removed, and no other. -/
theorem erase_split (hbefore : get? before k = none) (hk : (k' == k) = true) :
    erase (before ++ (k', v') :: after) k = before ++ after := by
  induction before with
  | nil => rw [List.nil_append, erase, if_pos hk, List.nil_append]
  | cons p r ih =>
    rcases p with ⟨k₁, v₁⟩
    have hk₁ : (k₁ == k) = false := get?_eq_none_iff.1 hbefore _ (List.mem_cons_self ..)
    rw [get?_cons_of_ne hk₁] at hbefore
    rw [List.cons_append, erase, hk₁, if_neg Bool.false_ne_true, ih hbefore, List.cons_append]

/-- A write makes no key but its own. -/
theorem key_of_mem_put {p : κ × ν} (hp : p ∈ e.put k v) : p.1 = k ∨ ∃ v', (p.1, v') ∈ e := by
  cases hget : e.get? k with
  | none =>
    rw [put_of_new hget] at hp
    rcases List.mem_append.1 hp with hp | hp
    · exact .inr ⟨p.2, hp⟩
    · rw [List.mem_singleton.1 hp]
      exact .inl rfl
  | some v' =>
    obtain ⟨before, k', after, rfl, hk, hbefore⟩ := split_of_get? hget
    rw [put_split hbefore hk] at hp
    rcases List.mem_append.1 hp with hp | hp
    · exact .inr ⟨p.2, List.mem_append_left _ hp⟩
    rcases List.mem_cons.1 hp with rfl | hp
    · exact .inr ⟨v', List.mem_append_right _ (List.mem_cons_self ..)⟩
    · exact .inr ⟨p.2, List.mem_append_right _ (List.mem_cons_of_mem _ hp)⟩

/-- A write makes no value but its own, -/
theorem value_of_mem_put {p : κ × ν} (hp : p ∈ e.put k v) : p.2 = v ∨ p ∈ e := by
  cases hget : e.get? k with
  | none =>
    rw [put_of_new hget] at hp
    rcases List.mem_append.1 hp with hp | hp
    · exact .inr hp
    · rw [List.mem_singleton.1 hp]
      exact .inl rfl
  | some v' =>
    obtain ⟨before, k', after, rfl, hk, hbefore⟩ := split_of_get? hget
    rw [put_split hbefore hk] at hp
    rcases List.mem_append.1 hp with hp | hp
    · exact .inr (List.mem_append_left _ hp)
    rcases List.mem_cons.1 hp with rfl | hp
    · exact .inl rfl
    · exact .inr (List.mem_append_right _ (List.mem_cons_of_mem _ hp))

/-- and makes that one. -/
theorem exists_mem_put (e : Entries κ ν) (k : κ) (v : ν) : ∃ p ∈ e.put k v, p.2 = v := by
  cases hget : e.get? k with
  | none =>
    rw [put_of_new hget]
    exact ⟨(k, v), List.mem_append_right _ (List.mem_singleton_self _), rfl⟩
  | some v' =>
    obtain ⟨before, k', after, rfl, hk, hbefore⟩ := split_of_get? hget
    rw [put_split hbefore hk]
    exact ⟨(k', v), List.mem_append_right _ List.mem_cons_self, rfl⟩

/-- What is found stands in an entry. -/
theorem exists_mem_of_get? (h : e.get? k = some v) : ∃ p ∈ e, p.2 = v := by
  obtain ⟨before, k', after, rfl, -, -⟩ := split_of_get? h
  exact ⟨(k', v), List.mem_append_right _ List.mem_cons_self, rfl⟩

theorem erase_sublist (e : Entries κ ν) (k : κ) : (e.erase k).Sublist e := by
  induction e with
  | nil => exact .slnil
  | cons p r ih =>
    rw [erase]
    split
    · exact List.sublist_cons_self ..
    · exact ih.cons_cons _

/-- Entries under other keys stay. -/
theorem mem_erase_of_ne {p : κ × ν} (hp : p ∈ e) (hk : (p.1 == k) = false) : p ∈ e.erase k := by
  induction e with
  | nil => cases hp
  | cons q r ih =>
    rcases q with ⟨k₁, v₁⟩
    rw [erase]
    split
    · next hk₁ =>
      rcases List.mem_cons.1 hp with rfl | hp
      · rw [hk] at hk₁
        contradiction
      · exact hp
    · rcases List.mem_cons.1 hp with rfl | hp
      · exact List.mem_cons_self
      · exact List.mem_cons_of_mem _ (ih hp)

/-! ### Entries under different keys -/

/-- No key equals a later one. -/
def Distinct (e : Entries κ ν) : Prop := e.Pairwise fun p q => (p.1 == q.1) = false

theorem Distinct.put (h : e.Distinct) (k : κ) (v : ν) : (e.put k v).Distinct := by
  cases hget : e.get? k with
  | none =>
    rw [put_of_new hget]
    refine List.pairwise_append.2 ⟨h, List.pairwise_singleton .., ?_⟩
    intro p hp q hq
    rw [List.mem_singleton.1 hq]
    exact get?_eq_none_iff.1 hget p hp
  | some v' =>
    obtain ⟨before, k', after, rfl, hk, hbefore⟩ := split_of_get? hget
    rw [put_split hbefore hk]
    obtain ⟨hfirst, hrest, hcross⟩ := List.pairwise_append.1 h
    obtain ⟨hnext, hafter⟩ := List.pairwise_cons.1 hrest
    refine List.pairwise_append.2 ⟨hfirst, List.pairwise_cons.2 ⟨hnext, hafter⟩, ?_⟩
    intro p hp q hq
    rcases List.mem_cons.1 hq with rfl | hq
    · exact hcross p hp (k', v') (List.mem_cons_self ..)
    · exact hcross p hp q (List.mem_cons_of_mem _ hq)

/-- Entries under new keys are written one behind the other. -/
theorem Distinct.foldl_put {l : Entries κ ν} (h : (e ++ l).Distinct) :
    l.foldl (fun e (k, v) => Entries.put e k v) e = e ++ l := by
  induction l generalizing e with
  | nil => rw [List.foldl_nil, List.append_nil]
  | cons p l ih =>
    rcases p with ⟨k, v⟩
    have hnew : e.get? k = none := by
      apply get?_eq_none_iff.2
      intro q hq
      exact (List.pairwise_append.1 h).2.2 q hq (k, v) List.mem_cons_self
    have hsplit : e ++ (k, v) :: l = e ++ [(k, v)] ++ l := by
      rw [List.append_assoc, List.singleton_append]
    rw [hsplit, ← put_of_new hnew] at h ⊢
    exact ih h

/-- **Entries under different keys** are what writing them leaves. -/
theorem Distinct.ofList_eq {l : Entries κ ν} (h : l.Distinct) : ofList l = l :=
  Distinct.foldl_put (e := []) h

/-- **After a write** an entry is the one written, or one that was there under another key. -/
theorem mem_put_of_distinct (h : e.Distinct)
    (hmeet : ∀ p ∈ e, ∀ q ∈ e, (p.1 == k) = true → (q.1 == k) = true → (p.1 == q.1) = true)
    {p : κ × ν} (hp : p ∈ e.put k v) :
    (p ∈ e ∧ (p.1 == k) = false) ∨ (p.2 = v ∧ (p.1 = k ∨ (p.1 == k) = true)) := by
  cases hget : e.get? k with
  | none =>
    rw [put_of_new hget] at hp
    rcases List.mem_append.1 hp with hp | hp
    · exact .inl ⟨hp, get?_eq_none_iff.1 hget p hp⟩
    · rw [List.mem_singleton.1 hp]
      exact .inr ⟨rfl, .inl rfl⟩
  | some v' =>
    obtain ⟨before, k', after, rfl, hk, hbefore⟩ := split_of_get? hget
    rw [put_split hbefore hk] at hp
    rcases List.mem_append.1 hp with hp | hp
    · exact .inl ⟨List.mem_append_left _ hp, get?_eq_none_iff.1 hbefore p hp⟩
    rcases List.mem_cons.1 hp with rfl | hp
    · exact .inr ⟨rfl, .inr hk⟩
    -- An entry behind the first one under the key is under another: the two would be equal.
    have hmem : p ∈ before ++ (k', v') :: after :=
      List.mem_append_right _ (List.mem_cons_of_mem _ hp)
    refine .inl ⟨hmem, ?_⟩
    rw [← Bool.not_eq_true]
    intro hpk
    have hfirst : (k', v') ∈ before ++ (k', v') :: after :=
      List.mem_append_right _ (List.mem_cons_self ..)
    have hequal : (k' == p.1) = true := hmeet _ hfirst p hmem hk hpk
    have hdistinct : (k' == p.1) = false :=
      (List.pairwise_cons.1 (List.pairwise_append.1 h).2.1).1 p hp
    rw [hequal] at hdistinct
    contradiction

/-! ### Other names for the keys -/

section Rename

variable {κ' : Type} [BEq κ'] {f : κ → κ'}

/-- Entries whose keys go by other names. -/
def rename (f : κ → κ') (e : Entries κ ν) : Entries κ' ν := e.map fun p => (f p.1, p.2)

variable (hf : ∀ a b, (f a == f b) = (a == b))

include hf

theorem get?_rename (e : Entries κ ν) (k : κ) : get? (e.rename f) (f k) = e.get? k := by
  induction e with
  | nil => rfl
  | cons p r ih =>
    show (if f p.1 == f k then some p.2 else get? (rename f r) (f k))
      = if p.1 == k then some p.2 else get? r k
    rw [hf, ih]

theorem put_rename (e : Entries κ ν) (k : κ) (v : ν) :
    put (e.rename f) (f k) v = (e.put k v).rename f := by
  induction e with
  | nil => rfl
  | cons p r ih =>
    show (if f p.1 == f k then (f p.1, v) :: rename f r
        else (f p.1, p.2) :: put (rename f r) (f k) v)
      = rename f (if p.1 == k then (p.1, v) :: r else (p.1, p.2) :: put r k v)
    rw [hf, ih]
    split <;> rfl

theorem erase_rename (e : Entries κ ν) (k : κ) :
    erase (e.rename f) (f k) = (e.erase k).rename f := by
  induction e with
  | nil => rfl
  | cons p r ih =>
    show (if f p.1 == f k then rename f r else (f p.1, p.2) :: erase (rename f r) (f k))
      = rename f (if p.1 == k then r else (p.1, p.2) :: erase r k)
    rw [hf, ih]
    split <;> rfl

end Rename

/-! ### Different entries under keys that are told apart -/

section Lawful

variable [LawfulBEq κ]

theorem get?_erase_of_ne (e : Entries κ ν) (h : k ≠ k') : (e.erase k).get? k' = e.get? k' := by
  induction e with
  | nil => rfl
  | cons p r ih =>
    rcases p with ⟨k₁, v₁⟩
    rw [erase]
    split
    · next hk =>
      have hk' : (k₁ == k') = false := by
        rw [eq_of_beq hk]
        exact beq_false_of_ne h
      rw [get?_cons_of_ne hk']
    · rw [get?, get?, ih]

theorem Distinct.get?_erase_self (h : e.Distinct) (k : κ) : (e.erase k).get? k = none := by
  induction e with
  | nil => rfl
  | cons p r ih =>
    rcases p with ⟨k₁, v₁⟩
    obtain ⟨hfirst, hrest⟩ := List.pairwise_cons.1 h
    rw [erase]
    split
    · next hk =>
      rw [← eq_of_beq hk, get?_eq_none_iff]
      intro q hq
      have hdifferent := hfirst q hq
      dsimp only at hdifferent
      rw [BEq.comm]
      exact hdifferent
    · next hk =>
      rw [Bool.not_eq_true] at hk
      rw [get?_cons_of_ne hk]
      exact ih hrest

end Lawful

end Entries

end EntityStore

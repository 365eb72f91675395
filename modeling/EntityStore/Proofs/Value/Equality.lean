import EntityStore.Value.Equality

/-!
# Values that have a digest

A value can be part of a key when it has a digest (`Value.Hashable`).  Among such values equality is
symmetric and transitive, so that keys can be told apart by it; it need not be reflexive, since what
is not a number equals nothing.

Both proofs go through values, their items, and filters together, as equality does.
-/

namespace EntityStore

/-- A value that has a digest. -/
def Value.Hashable (v : Value) : Prop := ∃ d, v.digest = .ok d

/-- Items that all have a digest. -/
def Value.HashableItems (items : List Value) : Prop := ∃ ds, Value.digests items = .ok ds

/-- A filter that has a digest. -/
def Filter.Hashable (f : Filter) : Prop := ∃ d, f.digest = .ok d

theorem exists_of_map_ok {ε α β : Type} {x : Except ε α} {f : α → β} {b : β}
    (h : x.map f = .ok b) : ∃ a, x = .ok a := by
  cases x with
  | error e => cases h
  | ok a => exact ⟨a, rfl⟩

/-! ### Parts of what has a digest -/

namespace Value

theorem eq_null_of_isNull {v : Value} (h : v.isNull = true) : v = null := by
  unfold isNull at h
  split at h
  · rfl
  · cases h

theorem hashable_str (s : String) : (str s).Hashable := ⟨_, by rw [digest]; rfl⟩

theorem hashableItems_cons {v : Value} {items : List Value} (h : HashableItems (v :: items)) :
    v.Hashable ∧ HashableItems items := by
  obtain ⟨ds, h⟩ := h
  rw [digests] at h
  split at h
  · next d ds hv hitems => exact ⟨⟨d, hv⟩, ⟨ds, hitems⟩⟩
  · cases h
  · cases h

theorem hashableItems_of_tuple {items : List Value} (h : (tuple items).Hashable) :
    HashableItems items := by
  obtain ⟨d, h⟩ := h
  rw [digest] at h
  exact exists_of_map_ok h

theorem hashable_of_filter {f : Filter} (h : (filter f).Hashable) : f.Hashable := by
  obtain ⟨d, h⟩ := h
  rw [digest] at h
  exact ⟨d, h⟩

theorem not_hashable_list (items : List Value) : ¬ (list items).Hashable := by
  rintro ⟨d, h⟩
  rw [digest] at h
  cases h

theorem not_hashable_object (fields : Fields) : ¬ (object fields).Hashable := by
  rintro ⟨d, h⟩
  rw [digest] at h
  cases h

end Value

namespace Filter

/-- The operand of a comparison that has a digest has one, or is a list whose items have. -/
theorem hashable_operand {path operator : String} {v : Value}
    (h : (compare path operator v).Hashable) :
    v.Hashable ∨ ∃ items, v = .list items ∧ Value.HashableItems items := by
  obtain ⟨d, h⟩ := h
  cases v with
  | list items =>
    rw [digest] at h
    exact .inr ⟨items, rfl, exists_of_map_ok h⟩
  | scalar | tuple | object | filter =>
    rw [digest] at h
    · exact .inl (exists_of_map_ok h)
    · rintro items ⟨⟩

theorem not_hashable_combine (operator : String) (children : List Filter) :
    ¬ (combine operator children).Hashable := by
  rintro ⟨d, h⟩
  rw [digest] at h
  cases h

end Filter

/-! ### Symmetry -/

theorem Scalar.equal_symm {a b : Scalar} (h : a.equal b = true) : b.equal a = true := by
  obtain ⟨c, ha, hb⟩ := equal_iff.1 h
  exact equal_iff.2 ⟨c, hb, ha⟩

theorem Scalar.equal_trans {a b c : Scalar} (h : a.equal b = true) (h' : b.equal c = true) :
    a.equal c = true := by
  obtain ⟨x, ha, hb⟩ := equal_iff.1 h
  obtain ⟨y, hb', hc⟩ := equal_iff.1 h'
  rw [hb] at hb'
  cases hb'
  exact equal_iff.2 ⟨x, ha, hc⟩

mutual

/-- **Equality of values that have a digest is symmetric.** -/
theorem Value.equal_symm : ∀ {a b : Value}, a.Hashable → a.equal b = true → b.equal a = true := by
  intro a b ha h
  match a with
  | .scalar s =>
    cases b with
    | scalar t =>
      rw [Value.equal] at h ⊢
      exact Scalar.equal_symm h
    | list | tuple | object | filter => simp [Value.equal] at h
  | .tuple items =>
    cases b with
    | tuple items' =>
      rw [Value.equal] at h ⊢
      exact Value.equalLists_symm (Value.hashableItems_of_tuple ha) h
    | scalar | list | object | filter => simp [Value.equal] at h
  | .filter f =>
    cases b with
    | filter g =>
      rw [Value.equal] at h ⊢
      exact Filter.equal_symm (Value.hashable_of_filter ha) h
    | scalar | list | tuple | object => simp [Value.equal] at h
  | .list items => exact absurd ha (Value.not_hashable_list items)
  | .object fields => exact absurd ha (Value.not_hashable_object fields)

theorem Value.equalLists_symm : ∀ {l r : List Value}, Value.HashableItems l →
    Value.equalLists l r = true → Value.equalLists r l = true := by
  intro l r hl h
  match l, r with
  | [], [] => exact h
  | [], _ :: _ => simp [Value.equalLists] at h
  | _ :: _, [] => simp [Value.equalLists] at h
  | a :: l, b :: r =>
    rw [Value.equalLists, Bool.and_eq_true] at h ⊢
    obtain ⟨ha, hl⟩ := Value.hashableItems_cons hl
    exact ⟨Value.equal_symm ha h.1, Value.equalLists_symm hl h.2⟩

theorem Filter.equal_symm : ∀ {f g : Filter}, f.Hashable → f.equal g = true →
    g.equal f = true := by
  intro f g hf h
  match f with
  | .bare => simp [Filter.equal] at h
  | .combine operator children => exact absurd hf (Filter.not_hashable_combine operator children)
  | .compare path operator v =>
    cases g with
    | combine | bare => simp [Filter.equal] at h
    | compare path' operator' v' =>
      rw [Filter.equal, Bool.and_eq_true, Bool.and_eq_true] at h ⊢
      obtain ⟨⟨hpath, hoperator⟩, hv⟩ := h
      refine ⟨⟨BEq.symm hpath, BEq.symm hoperator⟩, ?_⟩
      rcases Filter.hashable_operand hf with hoperand | ⟨items, rfl, hitems⟩
      · exact Value.equal_symm hoperand hv
      · cases v' with
        | list items' =>
          rw [Value.equal] at hv ⊢
          exact Value.equalLists_symm hitems hv
        | scalar | tuple | object | filter => simp [Value.equal] at hv

end

/-! ### Transitivity -/

mutual

/-- **Equality of values that have a digest is transitive.** -/
theorem Value.equal_trans : ∀ {a b c : Value}, a.Hashable → a.equal b = true →
    b.equal c = true → a.equal c = true := by
  intro a b c ha h h'
  match a with
  | .scalar s =>
    cases b with
    | scalar t =>
      cases c with
      | scalar u =>
        rw [Value.equal] at h h' ⊢
        exact Scalar.equal_trans h h'
      | list | tuple | object | filter => simp [Value.equal] at h'
    | list | tuple | object | filter => simp [Value.equal] at h
  | .tuple items =>
    cases b with
    | tuple items' =>
      cases c with
      | tuple items'' =>
        rw [Value.equal] at h h' ⊢
        exact Value.equalLists_trans (Value.hashableItems_of_tuple ha) h h'
      | scalar | list | object | filter => simp [Value.equal] at h'
    | scalar | list | object | filter => simp [Value.equal] at h
  | .filter f =>
    cases b with
    | filter g =>
      cases c with
      | filter k =>
        rw [Value.equal] at h h' ⊢
        exact Filter.equal_trans (Value.hashable_of_filter ha) h h'
      | scalar | list | tuple | object => simp [Value.equal] at h'
    | scalar | list | tuple | object => simp [Value.equal] at h
  | .list items => exact absurd ha (Value.not_hashable_list items)
  | .object fields => exact absurd ha (Value.not_hashable_object fields)

theorem Value.equalLists_trans : ∀ {l r t : List Value}, Value.HashableItems l →
    Value.equalLists l r = true → Value.equalLists r t = true → Value.equalLists l t = true := by
  intro l r t hl h h'
  match l, r, t with
  | [], [], t => exact h'
  | [], _ :: _, _ => simp [Value.equalLists] at h
  | _ :: _, [], _ => simp [Value.equalLists] at h
  | _ :: _, _ :: _, [] => simp [Value.equalLists] at h'
  | a :: l, b :: r, c :: t =>
    rw [Value.equalLists, Bool.and_eq_true] at h h' ⊢
    obtain ⟨ha, hl⟩ := Value.hashableItems_cons hl
    exact ⟨Value.equal_trans ha h.1 h'.1, Value.equalLists_trans hl h.2 h'.2⟩

theorem Filter.equal_trans : ∀ {f g k : Filter}, f.Hashable → f.equal g = true →
    g.equal k = true → f.equal k = true := by
  intro f g k hf h h'
  match f with
  | .bare => simp [Filter.equal] at h
  | .combine operator children => exact absurd hf (Filter.not_hashable_combine operator children)
  | .compare path operator v =>
    cases g with
    | combine | bare => simp [Filter.equal] at h
    | compare path' operator' v' =>
      cases k with
      | combine | bare => simp [Filter.equal] at h'
      | compare path'' operator'' v'' =>
        rw [Filter.equal, Bool.and_eq_true, Bool.and_eq_true] at h h' ⊢
        obtain ⟨⟨hpath, hoperator⟩, hv⟩ := h
        obtain ⟨⟨hpath', hoperator'⟩, hv'⟩ := h'
        refine ⟨⟨BEq.trans hpath hpath', BEq.trans hoperator hoperator'⟩, ?_⟩
        rcases Filter.hashable_operand hf with hoperand | ⟨items, rfl, hitems⟩
        · -- The operand is hashable as a whole,
          exact Value.equal_trans hoperand hv hv'
        · -- or it is a list whose items are.
          cases v' with
          | list items' =>
            cases v'' with
            | list items'' =>
              rw [Value.equal] at hv hv' ⊢
              exact Value.equalLists_trans hitems hv hv'
            | scalar | tuple | object | filter => simp [Value.equal] at hv'
          | scalar | tuple | object | filter => simp [Value.equal] at hv

end

end EntityStore

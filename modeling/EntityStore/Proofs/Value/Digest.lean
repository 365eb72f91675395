import EntityStore.Proofs.Value.Equality
import EntityStore.Proofs.Value.Parts

/-!
# Which values have a digest

Equal values have the same digest (`Value.digest_of_equal`).  If one of two equal values has a digest
then so does the other: they are made alike, and what keeps a value from having one is how it is
made.  An object does, a combination of filters, and a list, unless the list is the operand of a
comparison, which is where it counts as a tuple (`Place.bars`, `Value.hashable_iff`).

A signaling not-a-number is the only scalar without a digest.
-/

namespace EntityStore

/-! ### Equal values -/

/-- The digest of a scalar is that of its class. -/
theorem Scalar.digest?_of_class {s : Scalar} {c : ScalarClass} (h : s.class? = some c) :
    s.digest? = some c.digest := by
  unfold digest?
  split
  · next d =>
    rw [h]
    cases d with
    | finite | infinite => rfl
    | nan => cases h
  · rw [h]
    rfl

theorem Scalar.digest?_of_equal {a b : Scalar} (h : a.equal b = true) : a.digest? = b.digest? := by
  obtain ⟨c, ha, hb⟩ := equal_iff.1 h
  rw [digest?_of_class ha, digest?_of_class hb]

/-- An operand that is not a list is digested as it is. -/
theorem Filter.digest_compare {path operator : String} {v : Value} (h : ¬ ∃ items, v = .list items) :
    (compare path operator v).digest = v.digest.map (digestComparison path operator) := by
  rw [digest]
  rintro items rfl
  exact h ⟨items, rfl⟩

mutual

/-- **Equal values have the same digest**, if one of them has any. -/
theorem Value.digest_of_equal : ∀ {a b : Value} {d : UInt64}, a.equal b = true →
    a.digest = .ok d → b.digest = .ok d := by
  intro a b d h hd
  match a with
  | .scalar s =>
    cases b with
    | scalar t =>
      rw [Value.equal] at h
      rw [Value.digest] at hd ⊢
      rw [← Scalar.digest?_of_equal h]
      cases hs : s.digest? with
      | none => rw [hs] at hd; cases hd
      | some e => rw [hs] at hd; exact hd
    | list | tuple | object | filter => simp [Value.equal] at h
  | .tuple items =>
    cases b with
    | tuple items' =>
      rw [Value.equal] at h
      rw [Value.digest] at hd ⊢
      obtain ⟨ds, hds⟩ := exists_of_map_ok hd
      rw [hds] at hd
      rw [Value.digests_of_equalLists h hds]
      exact hd
    | scalar | list | object | filter => simp [Value.equal] at h
  | .filter f =>
    cases b with
    | filter g =>
      rw [Value.equal] at h
      rw [Value.digest] at hd ⊢
      exact Filter.digest_of_equal h hd
    | scalar | list | tuple | object => simp [Value.equal] at h
  | .list items => exact absurd ⟨d, hd⟩ (Value.not_hashable_list items)
  | .object fields => exact absurd ⟨d, hd⟩ (Value.not_hashable_object fields)

theorem Value.digests_of_equalLists : ∀ {l r : List Value} {ds : List UInt64},
    Value.equalLists l r = true → Value.digests l = .ok ds → Value.digests r = .ok ds := by
  intro l r ds h hds
  match l, r with
  | [], [] => exact hds
  | [], _ :: _ => simp [Value.equalLists] at h
  | _ :: _, [] => simp [Value.equalLists] at h
  | a :: l, b :: r =>
    rw [Value.equalLists, Bool.and_eq_true] at h
    rw [Value.digests] at hds ⊢
    split at hds
    · next d ds' ha hl =>
      rw [Value.digest_of_equal h.1 ha, Value.digests_of_equalLists h.2 hl]
      exact hds
    · cases hds
    · cases hds

theorem Filter.digest_of_equal : ∀ {f g : Filter} {d : UInt64}, f.equal g = true →
    f.digest = .ok d → g.digest = .ok d := by
  intro f g d h hd
  match f with
  | .bare => simp [Filter.equal] at h
  | .combine operator children => exact absurd ⟨d, hd⟩ (Filter.not_hashable_combine operator children)
  | .compare path operator v =>
    cases g with
    | combine | bare => simp [Filter.equal] at h
    | compare path' operator' v' =>
      rw [Filter.equal, Bool.and_eq_true, Bool.and_eq_true, beq_iff_eq, beq_iff_eq] at h
      obtain ⟨⟨rfl, rfl⟩, hv⟩ := h
      -- A list has no digest, but as an operand it is digested item by item.
      by_cases hlist : ∃ items, v = .list items
      · obtain ⟨items, rfl⟩ := hlist
        cases v' with
        | list items' =>
          rw [Value.equal] at hv
          rw [Filter.digest] at hd ⊢
          obtain ⟨ds, hds⟩ := exists_of_map_ok hd
          rw [hds] at hd
          rw [Value.digests_of_equalLists hv hds]
          exact hd
        | scalar | tuple | object | filter => simp [Value.equal] at hv
      · have hlist' : ¬ ∃ items, v' = .list items := by
          rintro ⟨items', rfl⟩
          cases v with
          | list items => exact hlist ⟨items, rfl⟩
          | scalar | tuple | object | filter => simp [Value.equal] at hv
        rw [Filter.digest_compare hlist] at hd
        rw [Filter.digest_compare hlist']
        obtain ⟨e, he⟩ := exists_of_map_ok hd
        rw [he] at hd
        rw [Value.digest_of_equal hv he]
        exact hd

end

/-! ### Values without a digest -/

/-- **Whether a part, in its place, keeps the whole from having a digest.** -/
def Place.bars : Place → Value → Bool
  | _, .object _ => true
  | _, .filter (.combine _ _) => true
  | .elsewhere, .list _ => true
  | _, .scalar (.decimal d) => d.isSignaling
  | _, _ => false

/-- A list is the only value for which it makes a difference to be an operand. -/
theorem Place.bars_operand {v : Value} (h : ¬ ∃ items, v = .list items) :
    operand.bars v = elsewhere.bars v := by
  cases v with
  | list items => exact absurd ⟨items, rfl⟩ h
  | scalar s => cases s <;> rfl
  | tuple | object => rfl
  | filter f => cases f <;> rfl

namespace Value

theorem hashable_scalar_iff (s : Scalar) :
    (scalar s).Hashable ↔ Place.elsewhere.bars (scalar s) = false := by
  have hdigest : (scalar s).Hashable ↔ s.digest?.isSome = true := by
    rw [Hashable, digest]
    cases s.digest? with
    | none => simp
    | some d => simp
  rw [hdigest]
  cases s with
  | decimal d =>
    rw [Scalar.digest?, Place.bars]
    cases d.isSignaling <;> simp
  | null | bool | int | float | datetime | date | str | bytes => exact iff_of_true rfl rfl

theorem hashable_tuple_iff (items : List Value) :
    (tuple items).Hashable ↔ HashableItems items := by
  refine ⟨hashableItems_of_tuple, ?_⟩
  rintro ⟨ds, hds⟩
  rw [Hashable, digest, hds]
  exact ⟨_, rfl⟩

theorem hashableItems_cons_iff (v : Value) (items : List Value) :
    HashableItems (v :: items) ↔ v.Hashable ∧ HashableItems items := by
  refine ⟨hashableItems_cons, ?_⟩
  rintro ⟨⟨d, hd⟩, ds, hds⟩
  rw [HashableItems, digests, hd, hds]
  exact ⟨_, rfl⟩

theorem hashable_filter_iff (f : Filter) : (filter f).Hashable ↔ f.Hashable := by
  rw [Hashable, digest, Filter.Hashable]

end Value

namespace Filter

theorem hashable_compare_list_iff (path operator : String) (items : List Value) :
    (compare path operator (.list items)).Hashable ↔ Value.HashableItems items := by
  rw [Hashable, digest]
  constructor
  · rintro ⟨d, hd⟩
    exact exists_of_map_ok hd
  · rintro ⟨ds, hds⟩
    rw [hds]
    exact ⟨_, rfl⟩

theorem hashable_compare_iff {path operator : String} {v : Value}
    (h : ¬ ∃ items, v = .list items) : (compare path operator v).Hashable ↔ v.Hashable := by
  rw [Hashable, digest_compare h]
  constructor
  · rintro ⟨d, hd⟩
    exact exists_of_map_ok hd
  · rintro ⟨d, hd⟩
    rw [hd]
    exact ⟨_, rfl⟩

end Filter

mutual

/-- **A value has a digest** exactly when no part of it bars that. -/
theorem Value.hashable_iff : ∀ v : Value,
    v.Hashable ↔ ∀ q ∈ v.parts .elsewhere, q.1.bars q.2 = false
  | .scalar s => by
    rw [Value.parts, List.forall_mem_singleton]
    exact Value.hashable_scalar_iff s
  | .list items => by
    rw [Value.parts, List.forall_mem_cons]
    exact iff_of_false (Value.not_hashable_list items) fun h => Bool.noConfusion h.1
  | .tuple items => by
    rw [Value.parts, List.forall_mem_cons, Value.hashable_tuple_iff, Value.hashableItems_iff]
    exact (and_iff_right rfl).symm
  | .object fields => by
    rw [Value.parts, List.forall_mem_cons]
    exact iff_of_false (Value.not_hashable_object fields) fun h => Bool.noConfusion h.1
  | .filter f => by
    rw [Value.parts, List.forall_mem_cons, Value.hashable_filter_iff]
    exact Filter.hashable_iff f

theorem Value.hashableItems_iff : ∀ items : List Value,
    Value.HashableItems items ↔ ∀ q ∈ Value.partsOfItems items, q.1.bars q.2 = false
  | [] => by
    rw [Value.partsOfItems]
    exact iff_of_true ⟨[], rfl⟩ (List.forall_mem_nil _)
  | v :: items => by
    rw [Value.partsOfItems, List.forall_mem_append, Value.hashableItems_cons_iff,
      Value.hashable_iff v, Value.hashableItems_iff items]

theorem Filter.hashable_iff : ∀ f : Filter,
    f.Hashable ↔ Place.elsewhere.bars (.filter f) = false ∧ ∀ q ∈ f.parts, q.1.bars q.2 = false
  | .bare => by
    rw [Filter.parts]
    exact iff_of_true ⟨_, by rw [Filter.digest]⟩ ⟨rfl, List.forall_mem_nil _⟩
  | .combine operator children =>
    iff_of_false (Filter.not_hashable_combine operator children) fun h => Bool.noConfusion h.1
  | .compare path operator v => by
    rw [Filter.parts]
    by_cases hlist : ∃ items, v = .list items
    · obtain ⟨items, rfl⟩ := hlist
      rw [Filter.hashable_compare_list_iff, Value.hashableItems_iff items, Value.parts,
        List.forall_mem_cons]
      exact ⟨fun h => ⟨rfl, rfl, h⟩, fun h => h.2.2⟩
    · rw [Filter.hashable_compare_iff hlist, Value.hashable_iff v,
        Value.parts_eq_cons .operand .elsewhere, Value.parts_eq_cons .elsewhere .elsewhere,
        List.forall_mem_cons, List.forall_mem_cons, List.tail_cons, Place.bars_operand hlist]
      exact (and_iff_right rfl).symm

end

/-! ### Comparisons -/

/-- Whether a scalar is a number that is not a number. -/
def Scalar.isNaN : Scalar → Bool
  | .float .nan => true
  | .decimal (.nan _ _ _) => true
  | _ => false

/-- What bars a digest in the absence of such numbers. -/
theorem Place.bars_iff {place : Place} {v : Value} (h : ∀ s, v = .scalar s → s.isNaN = false) :
    place.bars v = true ↔ (∃ fields, v = .object fields)
      ∨ (∃ operator children, v = .filter (.combine operator children))
      ∨ place = .elsewhere ∧ ∃ items, v = .list items := by
  cases v with
  | scalar s =>
    have hbars : place.bars (.scalar s) = false := by
      cases s with
      | decimal d =>
        cases d with
        | nan => exact absurd (h _ rfl) Bool.noConfusion
        | finite | infinite => cases place <;> rfl
      | null | bool | int | float | datetime | date | str | bytes => cases place <;> rfl
    simp [hbars]
  | list items => cases place <;> simp [Place.bars]
  | tuple items => cases place <;> simp [Place.bars]
  | object fields => cases place <;> simp [Place.bars]
  | filter f => cases f <;> cases place <;> simp [Place.bars]

/-- **Digests agree with equality.**  Of two equal comparisons with one the other has the same digest.
And where nothing in it is a number that is not a number, a comparison has no digest exactly when there
is an object in its operand, or a combination of filters, or a list that is not the operand of a
comparison itself. -/
theorem Filter.digests_agree :
    (∀ path operator v path' operator' v',
      (compare path operator v).equal (compare path' operator' v') = true →
      ∀ d, (compare path operator v).digest = .ok d →
        (compare path' operator' v').digest = .ok d)
    ∧ ∀ path operator v,
      (∀ q ∈ v.parts .operand, ∀ s, q.2 = .scalar s → s.isNaN = false) →
      ((∃ kind, (compare path operator v).digest = .error kind) ↔
        ∃ q ∈ v.parts .operand, (∃ fields, q.2 = .object fields)
          ∨ (∃ operator children, q.2 = .filter (.combine operator children))
          ∨ q.1 = .elsewhere ∧ ∃ items, q.2 = .list items) := by
  constructor
  · intro path operator v path' operator' v' h d hd
    exact digest_of_equal h hd
  · intro path operator v hnumbers
    -- A filter has a digest, or there is an error: it is hashable or it is not.
    have herror : (∃ kind, (compare path operator v).digest = .error kind)
        ↔ ¬ (compare path operator v).Hashable := by
      rw [Hashable]
      cases (compare path operator v).digest <;> simp
    -- It is hashable when no part bars it, wherever the part stands.
    have hparts : (compare path operator v).Hashable
        ↔ ∀ q ∈ v.parts .operand, q.1.bars q.2 = false := by
      rw [hashable_iff, parts]
      exact and_iff_right rfl
    rw [herror, hparts, Classical.not_forall]
    simp only [Classical.not_imp, Bool.not_eq_false]
    exact exists_congr fun q => and_congr_right fun hq => Place.bars_iff (hnumbers q hq)

/-- A list as the operand of a comparison in a tuple, and a list in a tuple. -/
theorem Filter.digests_agree_nested :
    let held (first : Value) := Value.filter (compare "tags" "$in" (.list [first, .str "x"]))
    let f := compare "a" "$eq" (.tuple [held (.int 1)])
    let g := compare "a" "$eq" (.tuple [held (.bool true)])
    f.equal g = true ∧ (∃ d, f.digest = .ok d ∧ g.digest = .ok d)
      ∧ ∃ kind, (compare "a" "$eq" (.tuple [.list [.int 1]])).digest = .error kind := by
  intro held f g
  obtain ⟨hsame, herror⟩ := digests_agree
  have hequal : f.equal g = true := by
    simp only [f, g, held, Filter.equal, Value.equal, Value.equalLists]
    decide +kernel
  -- None of its parts bars the filter, so it has a digest.
  have hf : ¬ ∃ kind, f.digest = .error kind := by
    have hnumbers : ∀ q ∈ (Value.tuple [held (.int 1)]).parts .operand, ∀ s, q.2 = .scalar s →
        s.isNaN = false := by
      simp [held, Value.parts, Value.partsOfItems, parts, Scalar.isNaN]
    rw [herror "a" "$eq" (.tuple [held (.int 1)]) hnumbers]
    simp [held, Value.parts, Value.partsOfItems, parts]
  refine ⟨hequal, ?_, ?_⟩
  · cases hd : f.digest with
    | error kind => exact absurd ⟨kind, hd⟩ hf
    | ok d => exact ⟨d, rfl, hsame _ _ _ _ _ _ hequal d hd⟩
  · rw [herror]
    · simp [Value.parts, Value.partsOfItems]
    · simp [Value.parts, Value.partsOfItems, Scalar.isNaN]

end EntityStore

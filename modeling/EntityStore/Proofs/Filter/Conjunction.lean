import EntityStore.Proofs.Entries
import EntityStore.Proofs.Filter.Pruned
import EntityStore.Proofs.Sql.Renumbering

/-!
# Conjunctions of filters

`Statement.and` joins two statements: the placeholders of the second are shifted by as many as the
first has parameters, the texts are joined with `AND`, and the parameters follow one another.  A text
that is empty is left out.

Compiling takes the conjunction of two filters to the conjunction of their statements
(`filterFrom_and`), and so it does with two rows of filters that become one
(`filterFrom_conjunction_append`).  Rows are associative, and the empty row is their unit, so the same
holds of statements.  A conjunction can be written in several ways, as a list, under `$and`, as one
object with the fields of both, or with two filters put together.  All of them compile to the same
statement (`conjunction_compiled`).
-/

namespace EntityStore

open Sql (Condition documentAlias filterFrom shifted)

/-! ### Conditions in a row -/

namespace Sql.Condition

theorem valuesOfParts_append (cs ds : List Condition) :
    valuesOfParts (cs ++ ds) = valuesOfParts cs ++ valuesOfParts ds := by
  induction cs with
  | nil => rfl
  | cons c cs ih => rw [List.cons_append, valuesOfParts, valuesOfParts, ih, List.append_assoc]

theorem textsFrom_append (alias_ : String) (n : Nat) (cs ds : List Condition) :
    textsFrom alias_ n (cs ++ ds)
      = textsFrom alias_ n cs ++ textsFrom alias_ (n + (valuesOfParts cs).length) ds := by
  induction cs generalizing n with
  | nil => rfl
  | cons c cs ih =>
    rw [List.cons_append, textsFrom, textsFrom, valuesOfParts, List.length_append, ih,
      ← Nat.add_assoc]
    split_ifs
    · rfl
    · rw [List.cons_append]

/-- The texts of conditions that have none are left out. -/
theorem ne_empty_of_mem_textsFrom {alias_ : String} {n : Nat} {cs : List Condition} {s : String}
    (hs : s ∈ textsFrom alias_ n cs) : s ≠ "" := by
  induction cs generalizing n with
  | nil => contradiction
  | cons c cs ih =>
    rw [textsFrom] at hs
    split_ifs at hs with hempty
    · exact ih hs
    · rcases List.mem_cons.1 hs with rfl | hs
      · intro h
        rw [h] at hempty
        exact hempty rfl
      · exact ih hs

/-! ### The text of a conjunction -/

/-- **The conjunction of two texts**; one that is empty is left out. -/
def conjoined (s t : String) : String :=
  if s.isEmpty then t else if t.isEmpty then s else s ++ " AND " ++ t

theorem conjoined_empty (s : String) : conjoined s "" = s := by
  unfold conjoined
  split_ifs with hs
  · exact (String.isEmpty_iff.1 hs).symm
  · rfl
  · contradiction

/-- Texts that are there, joined, are there. -/
theorem joinAll_ne_empty {s : String} (hs : s ≠ "") (ss : List String) : joinAll (s :: ss) ≠ "" := by
  unfold joinAll
  cases ss with
  | nil =>
    rw [String.intercalate_singleton]
    exact hs
  | cons t ts =>
    rw [String.intercalate_cons_cons]
    simp

/-- **A row of texts that is cut in two** is the conjunction of the parts. -/
theorem joinAll_append {ss ts : List String} (hs : ∀ s ∈ ss, s ≠ "") (ht : ∀ t ∈ ts, t ≠ "") :
    joinAll (ss ++ ts) = conjoined (joinAll ss) (joinAll ts) := by
  cases ss with
  | nil => rfl
  | cons s ss =>
    cases ts with
    | nil =>
      have hnone : joinAll [] = "" := rfl
      rw [List.append_nil, hnone, conjoined_empty]
    | cons t ts =>
      have hleft := joinAll_ne_empty (hs s List.mem_cons_self) ss
      have hright := joinAll_ne_empty (ht t List.mem_cons_self) ts
      rw [conjoined, if_neg (by simpa using hleft), if_neg (by simpa using hright)]
      exact String.intercalate_append_of_ne_nil (by simp) (by simp)

/-- The text of one condition in a row of one. -/
theorem joinAll_textsFrom_singleton (alias_ : String) (n : Nat) (c : Condition) :
    joinAll (textsFrom alias_ n [c]) = c.textFrom alias_ n := by
  rw [textsFrom, textsFrom]
  split_ifs with hempty
  · exact (String.isEmpty_iff.1 hempty).symm
  · exact String.intercalate_singleton

end Sql.Condition

namespace Filter

open Sql.Condition

theorem conditions_append (fs gs : List Filter) :
    conditions (fs ++ gs) = conditions fs ++ conditions gs := by
  induction fs with
  | nil => rfl
  | cons f fs ih => rw [List.cons_append, conditions, conditions, ih, List.cons_append]

theorem conjunction_cases (fs : List Filter) :
    (∃ f, fs = [f]) ∨ conjunction fs = .combine andOp fs := by
  cases fs with
  | nil => exact .inr rfl
  | cons f fs =>
    cases fs with
    | nil => exact .inl ⟨f, rfl⟩
    | cons g fs => exact .inr rfl

/-- A conjunction says what its parts say in a row. -/
theorem textFrom_conjunction (alias_ : String) (n : Nat) (fs : List Filter) :
    (conjunction fs).condition.textFrom alias_ n = joinAll (textsFrom alias_ n (conditions fs)) := by
  rcases conjunction_cases fs with ⟨f, rfl⟩ | hfs
  · exact (joinAll_textsFrom_singleton alias_ n f.condition).symm
  · rw [hfs, condition_combine (by decide), Sql.combination, if_pos rfl, textFrom]

theorem values_conjunction (fs : List Filter) :
    (conjunction fs).condition.values = valuesOfParts (conditions fs) := by
  rcases conjunction_cases fs with ⟨f, rfl⟩ | hfs
  · exact (List.append_nil f.condition.values).symm
  · rw [hfs, condition_combine (by decide), values_combination]

/-- **The conjunction of two rows of filters** has the text of the two in a row. -/
theorem textFrom_conjunction_append (alias_ : String) (n : Nat) (fs gs : List Filter) :
    (conjunction (fs ++ gs)).condition.textFrom alias_ n
      = conjoined ((conjunction fs).condition.textFrom alias_ n)
        ((conjunction gs).condition.textFrom alias_
          (n + (conjunction fs).condition.values.length)) := by
  rw [textFrom_conjunction, textFrom_conjunction, textFrom_conjunction, values_conjunction,
    conditions_append, textsFrom_append]
  exact joinAll_append (fun s => ne_empty_of_mem_textsFrom) fun s => ne_empty_of_mem_textsFrom

theorem values_conjunction_append (fs gs : List Filter) :
    (conjunction (fs ++ gs)).condition.values
      = (conjunction fs).condition.values ++ (conjunction gs).condition.values := by
  rw [values_conjunction, values_conjunction, values_conjunction, conditions_append,
    valuesOfParts_append]

end Filter

/-! ### Statements -/

/-- **The conjunction of two statements.** -/
def Statement.and (s t : Statement) : Statement :=
  let t' := t.renamed (shifted s.parameters.length)
  ⟨Sql.Condition.conjoined s.text t'.text, s.parameters ++ t'.parameters⟩

namespace Sql

open Condition

/-- The statement of a filter that is compiled after other values have been bound: its text, and all
parameters so far. -/
def filterOnto (alias_ : String) (bound : List Parameter) (f : Filter) : Statement :=
  let s := filterFrom alias_ bound.length f
  ⟨s.text, bound ++ s.parameters⟩

/-- What is made of a filter in wire form when no values have been bound. -/
def compiled (alias_ : String) (v : Value) : Except FilterError Statement :=
  (Filter.ofWire v).map (filterFrom alias_ 0)

theorem numbered_append (n : Nat) (vs ws : List Value) :
    numbered n (vs ++ ws) = numbered n vs ++ numbered (n + vs.length) ws := by
  have hnumber (i : Nat) : n + (vs.length + i) = n + vs.length + i := by omega
  simp only [numbered, List.zipIdx_append, List.map_append, List.append_cancel_left_eq]
  rw [List.zipIdx_eq_map_add]
  simp [Function.comp_def, hnumber]

section

variable {alias_ : String} (halias : Fixed alias_.toList) (n : Nat)

include halias

/-- **The conjunction of two rows of filters compiles to the conjunction of their statements.** -/
theorem filterFrom_conjunction_append (fs gs : List Filter) :
    filterFrom alias_ n (Filter.conjunction (fs ++ gs))
      = (filterFrom alias_ n (Filter.conjunction fs)).and
        (filterFrom alias_ n (Filter.conjunction gs)) := by
  rw [Statement.and, ← filterFrom_add halias]
  dsimp only [filterFrom]
  rw [length_numbered, Filter.textFrom_conjunction_append, Filter.values_conjunction_append,
    numbered_append, Nat.add_comm n]

/-- **A conjunction of two filters compiles to the conjunction of their statements.** -/
theorem filterFrom_and (f g : Filter) :
    filterFrom alias_ n (f.and g) = (filterFrom alias_ n f).and (filterFrom alias_ n g) :=
  filterFrom_conjunction_append halias n [f] [g]

/-- **Conjunctions of compiled filters are associative**, as rows of filters are. -/
theorem and_assoc_filterFrom (f g h : Filter) :
    ((filterFrom alias_ n f).and (filterFrom alias_ n g)).and (filterFrom alias_ n h)
      = (filterFrom alias_ n f).and ((filterFrom alias_ n g).and (filterFrom alias_ n h)) := by
  have happend := filterFrom_conjunction_append halias n
  calc
    _ = filterFrom alias_ n (.conjunction ([f] ++ [g] ++ [h])) := by
      rw [happend, happend]
      rfl
    _ = filterFrom alias_ n (.conjunction ([f] ++ ([g] ++ [h]))) := by rw [List.append_assoc]
    _ = _ := by
      rw [happend, happend]
      rfl

/-- A statement without conditions is the unit. -/
theorem and_empty_filterFrom (f : Filter) :
    (filterFrom alias_ n f).and ⟨"", []⟩ = filterFrom alias_ n f
      ∧ Statement.and ⟨"", []⟩ (filterFrom alias_ n f) = filterFrom alias_ n f := by
  have happend := filterFrom_conjunction_append halias n
  exact ⟨(happend [f] []).symm, (happend [] [f]).symm⟩

end

/-! ### The ways to write a conjunction -/

/-- **A value that stands for the conjunction of two objects.** -/
inductive Conjoins (A B : Entries String Value) : Value → Prop
  /-- The list of the two. -/
  | list : Conjoins A B (.list [.object A, .object B])
  /-- This list under `$and`. -/
  | underAnd : Conjoins A B (.object [("$and", .list [.object A, .object B])])
  /-- One object with the fields of both, when these are different fields. -/
  | merged (h : Entries.Distinct (A ++ B)) : Conjoins A B (.object (Entries.ofList (A ++ B)))
  /-- The conjunction of the filters that the two stand for. -/
  | filters {f g : Filter} (hf : Filter.ofWire (.object A) = .ok f)
    (hg : Filter.ofWire (.object B) = .ok g) : Conjoins A B (.filter (f.and g))

theorem ofFields_append (A B : Entries String Value) :
    Filter.ofFields (A ++ B) = Filter.ofFields A ++ Filter.ofFields B := by
  induction A with
  | nil => rfl
  | cons p A ih =>
    rw [List.cons_append, Filter.ofFields, Filter.ofFields, ih, List.append_assoc]

/-- **However it is written, a conjunction of two objects compiles to the conjunction of their
statements.** -/
theorem compiled_of_conjoins {alias_ : String} (halias : Fixed alias_.toList)
    {A B : Entries String Value} {v : Value} (h : Conjoins A B v) :
    compiled alias_ v = .ok ((filterFrom alias_ 0 (.conjunction (Filter.ofFields A))).and
      (filterFrom alias_ 0 (.conjunction (Filter.ofFields B)))) := by
  -- Only the merged object stands for another filter, with the fields of both in one row.
  cases h with
  | list | underAnd =>
    rw [← filterFrom_and halias]
    rfl
  | merged h =>
    rw [h.ofList_eq, ← filterFrom_conjunction_append halias, ← ofFields_append]
    rfl
  | filters hf hg =>
    cases hf
    cases hg
    rw [← filterFrom_and halias]
    rfl

/-- **Conjunctions are compiled part by part.**  A filter that is compiled after other values have
been bound has the text that it has alone, with every placeholder shifted by as many, and its values
come behind them.  However the conjunction of two objects is written, it compiles to the conjunction
of their statements.  So conjunctions are associative, and the empty object is their unit. -/
theorem conjunction_compiled {alias_ : String} (halias : alias_.toList.all isUnmarked = true) :
    (∀ bound f, filterOnto alias_ bound f
        = let s := (filterFrom alias_ 0 f).renamed (shifted bound.length)
          ⟨s.text, bound ++ s.parameters⟩)
      ∧ (∀ A B, ∃ s t, compiled alias_ (.object A) = .ok s ∧ compiled alias_ (.object B) = .ok t
        ∧ ∀ v, Conjoins A B v → compiled alias_ v = .ok (s.and t))
      ∧ (∀ u v w s t r, compiled alias_ u = .ok s → compiled alias_ v = .ok t →
        compiled alias_ w = .ok r → (s.and t).and r = s.and (t.and r))
      ∧ ∃ e, compiled alias_ (.object []) = .ok e
        ∧ ∀ v s, compiled alias_ v = .ok s → s.and e = s ∧ e.and s = s := by
  have hfixed := Fixed.unmarked halias
  -- What has been compiled comes from a filter.
  have hfilter {v : Value} {s : Statement} (h : compiled alias_ v = .ok s) :
      ∃ f, s = filterFrom alias_ 0 f := by
    unfold compiled at h
    cases hf : Filter.ofWire v with
    | error e =>
      rw [hf] at h
      contradiction
    | ok f =>
      rw [hf] at h
      cases h
      exact ⟨f, rfl⟩
  refine ⟨?_, ?_, ?_, ?_⟩
  · -- Compiling behind other parameters shifts the placeholders,
    intro bound f
    have hadd := filterFrom_add hfixed bound.length 0 f
    rw [Nat.zero_add] at hadd
    rw [filterOnto, hadd]
  · -- what combines two objects compiles to the conjunction of their statements,
    intro A B
    exact ⟨_, _, rfl, rfl, fun v hv => compiled_of_conjoins hfixed hv⟩
  · -- and conjunctions of statements are associative, with the empty one as their unit.
    intro u v w s t r hs ht hr
    obtain ⟨f, rfl⟩ := hfilter hs
    obtain ⟨g, rfl⟩ := hfilter ht
    obtain ⟨h, rfl⟩ := hfilter hr
    exact and_assoc_filterFrom hfixed 0 f g h
  · refine ⟨⟨"", []⟩, rfl, ?_⟩
    intro v s hs
    obtain ⟨f, rfl⟩ := hfilter hs
    exact and_empty_filterFrom hfixed 0 f

/-- A name in quotes looks like a placeholder, and stays. -/
theorem conjunction_compiled_quoted :
    ∃ s t, compiled documentAlias (.object [("a", .int 1)]) = .ok s
      ∧ compiled documentAlias (.object [("@p0", .int 2)]) = .ok t
      ∧ compiled documentAlias (.object [("a", .int 1), ("@p0", .int 2)]) = .ok (s.and t)
      ∧ s.and t = ⟨"c.a = @p0 AND c[\"@p0\"] = @p1", [⟨"@p0", .int 1⟩, ⟨"@p1", .int 2⟩]⟩ := by
  have halias : documentAlias.toList.all isUnmarked = true := by decide
  obtain ⟨s, t, hs, ht, hconjoined⟩ :=
    (conjunction_compiled halias).2.1 [("a", .int 1)] [("@p0", .int 2)]
  have hdistinct : Entries.Distinct [("a", Value.int 1), ("@p0", .int 2)] := by
    simp [Entries.Distinct]
  have hmerged := hconjoined _ (.merged hdistinct)
  have hlist := hconjoined _ .list
  refine ⟨s, t, hs, ht, hmerged, ?_⟩
  exact (Except.ok.inj hlist).symm

end Sql

end EntityStore

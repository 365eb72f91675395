import EntityStore.Proofs.Filter.Pruned
import EntityStore.Sql.Statement

/-!
# A filter and its text mean the same

The text of a filter is a condition.  Read with the usual precedence, it is what is left of the
filter (`spelled_filterFrom`), and so it is true exactly when the pruned filter is
(`filterFrom_meaning`), whatever the truth of the single probes.
-/

namespace EntityStore

/-- Of a filter something is left exactly when the pruned filter is there. -/
theorem Filter.surviving?_eq_none_iff {f : Filter} (h : Boolean f) (n : Nat) :
    f.surviving? n = none ↔ f.prune = none := by
  have hholds := holds_surviving? (fun _ => true) h n
  cases hF : f.surviving? n with
  | none =>
    cases hg : f.prune with
    | none => simp
    | some g => rw [hF, hg] at hholds; contradiction
  | some F =>
    cases hg : f.prune with
    | none => rw [hF, hg] at hholds; contradiction
    | some g => simp

namespace Sql

/-- **A text that is read as a formula means what the formula does.** -/
theorem Spells.meaning {s : List Char} {f : Formula} (h : Spells s f) :
    ∃ ts c, Token.lex s = some ts ∧ readCondition ts = some (c, [])
      ∧ ∀ truth, c.holds truth = f.holds truth := by
  obtain ⟨ts, c, hpiece, hread, hnormal, -⟩ := h.read
  have hend := hread [] (Follows.nil _)
  rw [List.append_nil] at hend
  refine ⟨ts, c, hpiece.lex_eq, hend, ?_⟩
  intro truth
  rw [← Formula.holds_normal, hnormal, Formula.holds_normal]

/-- **The text of a filter says what is left of it**, whatever the operators in it are. -/
theorem spelled_filterFrom (n : Nat) (f : Filter) :
    Condition.Spelled (filterFrom documentAlias n f).text (f.surviving? n) := by
  rw [← Filter.formula?_condition]
  exact Condition.spelled f.condition n

/-- **The meaning of the text of a filter.**  The text is empty exactly when the pruned filter is
not there.  Otherwise it is a condition, with negation before conjunction before disjunction, and
the condition is true exactly when the pruned filter is, whichever of the probes that begin with no
`NOT` are true. -/
theorem filterFrom_meaning {f : Filter} (h : f.Obtained) :
    ((filterFrom documentAlias 0 f).text = "" ↔ f.prune = none)
      ∧ ∀ g, f.prune = some g →
        ∃ ts c, Token.lex (filterFrom documentAlias 0 f).text.toList = some ts
          ∧ readCondition ts = some (c, []) ∧ ∀ truth, c.holds truth = g.holds truth 0 := by
  have hb := h.boolean
  rcases spelled_filterFrom 0 f with ⟨htext, hnone⟩ | ⟨c, hsome, hc⟩
  · -- Nothing of the filter is left, in the text or by pruning.
    have hprune := (Filter.surviving?_eq_none_iff hb 0).1 hnone
    refine ⟨iff_of_true htext hprune, ?_⟩
    intro g hg
    rw [hprune] at hg
    contradiction
  · -- Something is left: what has been pruned is what the text is read as.
    have hprune : f.prune ≠ none := by
      rw [ne_eq, ← Filter.surviving?_eq_none_iff hb 0, hsome]
      simp
    have htext : (filterFrom documentAlias 0 f).text ≠ "" := by
      intro htext
      rw [htext, String.toList_empty] at hc
      exact hc.ne_nil rfl
    refine ⟨iff_of_false htext hprune, ?_⟩
    intro g hg
    obtain ⟨ts, c', hlex, hread, hmeaning⟩ := hc.meaning
    refine ⟨ts, c', hlex, hread, ?_⟩
    intro truth
    have hholds := Filter.holds_surviving? truth hb 0
    rw [hsome, hg] at hholds
    exact (hmeaning truth).trans (List.cons.inj hholds).1

/-- A comparison without a use for its operand leaves the disjunction to the other. -/
theorem filterFrom_meaning_not_or :
    ∃ ts c, Token.lex (filterFrom documentAlias 0
          (((Filter.compare "a" "$eq" (.int 1)).or (.compare "b" "$gt" (.list []))).not)).text.toList
        = some ts
      ∧ readCondition ts = some (c, [])
      ∧ ∀ truth, c.holds truth = !truth (.compare .eq [.name "a"] "@p0") := by
  have hobtained : Filter.Obtained
      ((Filter.compare "a" "$eq" (.int 1)).or (.compare "b" "$gt" (.list []))).not :=
    .not (.or (.compare ..) (.compare ..))
  obtain ⟨ts, c, hlex, hread, hholds⟩ := (filterFrom_meaning hobtained).2
    (Filter.combine Filter.orOp [.compare "a" "$eq" (.int 1)]).not rfl
  have hprobe : Filter.probe? 0 "a" "$eq" (.int 1) = some (.compare .eq [.name "a"] "@p0") := by
    decide
  refine ⟨ts, c, hlex, hread, fun truth => (hholds truth).trans ?_⟩
  rw [Filter.holds_not, Filter.holds, Filter.truths, Filter.holds, hprobe]
  simp [Filter.combined, Filter.truths, Filter.orOp, Filter.notOp, Probe.holds]

end Sql

end EntityStore

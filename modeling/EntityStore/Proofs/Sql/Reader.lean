import EntityStore.Proofs.Sql.Token
import Mathlib.Data.List.Forall2

/-!
# Readers of tokens

A `Reader` takes something off the front of a list of tokens.  `Reads stop read ts a` says that
`read` makes `a` of the tokens `ts`, whatever stands behind them, provided that it begins with a
token that satisfies `stop`.

`separated` reads things of one kind with a separator between them.  Of the tokens of a joined
list it makes the list (`Reads.separated`).
-/

namespace EntityStore.Sql

/-- Takes something off the front of a list of tokens. -/
abbrev Reader (α : Type) := List Token → Option (α × List Token)

/-- What stands behind the tokens that are read: nothing, or a token that satisfies `stop` and what
is behind it. -/
def Follows (stop : Token → Prop) (r : List Token) : Prop := ∀ t ∈ r.head?, stop t

theorem Follows.nil (stop : Token → Prop) : Follows stop [] := by
  intro t ht
  cases ht

theorem Follows.cons {stop : Token → Prop} {t : Token} (ht : stop t) (r : List Token) :
    Follows stop (t :: r) := by
  intro u hu
  cases hu
  exact ht

theorem Follows.imp {stop stop' : Token → Prop} (h : ∀ t, stop t → stop' t) {r : List Token}
    (hr : Follows stop r) : Follows stop' r := fun t ht => h t (hr t ht)

/-- **What a reader makes of some tokens**, whatever follows them. -/
def Reads {α : Type} (stop : Token → Prop) (read : Reader α) (ts : List Token) (a : α) : Prop :=
  ∀ r, Follows stop r → read (ts ++ r) = some (a, r)

/-- Takes a token off the front, if it is the one expected. -/
def expect (t : Token) : List Token → Option (List Token)
  | u :: r => if u = t then some r else none
  | [] => none

@[simp] theorem expect_self (t : Token) (r : List Token) : expect t (t :: r) = some r := if_pos rfl

/-! ### Lists with separators -/

variable {α : Type}

/-- **Reads a list** of at most `n` things with a separator between them. -/
def separated (separator : Token) (read : Reader α) : (n : Nat) → Reader (List α)
  | 0, _ => none
  | n + 1, ts => do
    let (a, r) ← read ts
    match expect separator r with
    | some r => (separated separator read n r).map fun (as, r) => (a :: as, r)
    | none => some ([a], r)

theorem expect_of_follows {separator : Token} {r : List Token}
    (h : Follows (· ≠ separator) r) : expect separator r = none := by
  cases r with
  | nil => rfl
  | cons t r => exact if_neg (h t rfl)

/-- **A joined list is read**, when what follows is neither the separator nor goes on with the last
thing of the list. -/
theorem Reads.separated {stop : Token → Prop} {separator : Token} {read : Reader α}
    (hsep : stop separator) {tss : List (List Token)} {as : List α}
    (h : List.Forall₂ (Reads stop read) tss as) (hne : as ≠ []) {n : Nat} (hn : as.length ≤ n) :
    Reads (fun t => stop t ∧ t ≠ separator) (separated separator read n)
      ([separator].intercalate tss) as := by
  induction h generalizing n with
  | nil => contradiction
  | @cons ts a tss as hread hreads ih =>
    intro r hr
    obtain ⟨n, rfl⟩ : ∃ m, n = m + 1 := Nat.exists_eq_succ_of_ne_zero (by
      rintro rfl
      exact absurd hn (by simp))
    have hlen : as.length ≤ n := Nat.le_of_succ_le_succ hn
    cases hreads with
    | nil =>
      have hfirst := hread r fun t ht => (hr t ht).1
      -- Behind the last item there is no separator.
      have hend : expect separator r = none := expect_of_follows fun t ht => (hr t ht).2
      rw [List.intercalate_singleton, Sql.separated, hfirst]
      simp only [Option.bind_eq_bind, Option.bind_some, hend]
    | @cons us b uss bs hread' hreads' =>
      -- Behind any other item there is one, at which reading it stops.
      have hfirst := hread (separator :: ([separator].intercalate (us :: uss) ++ r))
        (Follows.cons hsep _)
      have hrest := ih (by simp) hlen r hr
      rw [List.intercalate_cons_cons, List.append_assoc, List.append_assoc, List.singleton_append,
        Sql.separated, hfirst]
      simp only [Option.bind_eq_bind, Option.bind_some, expect_self, hrest, Option.map_some]

/-- Reads a list of things with a separator between them; there are no more of them than tokens,
and one. -/
def joined (separator : Token) (read : Reader α) : Reader (List α) := fun ts =>
  separated separator read (ts.length + 1) ts

theorem length_le_intercalate (separator : Token) (tss : List (List Token)) :
    tss.length ≤ ([separator].intercalate tss).length + 1 := by
  induction tss with
  | nil => exact Nat.zero_le _
  | cons ts tss ih =>
    cases tss with
    | nil => exact Nat.succ_le_succ (Nat.zero_le _)
    | cons us uss =>
      rw [List.intercalate_cons_cons]
      simp only [List.length_append, List.length_cons, List.length_nil] at ih ⊢
      omega

/-- **A joined list is read**, however long it is. -/
theorem Reads.joined {stop : Token → Prop} {separator : Token} {read : Reader α}
    (hsep : stop separator) {tss : List (List Token)} {as : List α}
    (h : List.Forall₂ (Reads stop read) tss as) (hne : as ≠ []) :
    Reads (fun t => stop t ∧ t ≠ separator) (joined separator read) ([separator].intercalate tss)
      as := by
  intro r hr
  have hlen : as.length ≤ ([separator].intercalate tss ++ r).length + 1 := by
    have := length_le_intercalate separator tss
    rw [h.length_eq] at this
    rw [List.length_append]
    omega
  exact Reads.separated hsep h hne hlen r hr

/-! ### Readers that go into depth -/

/-- What a reader that goes to a given depth makes of some tokens, when the depth is at least their
number. -/
def ReadsWithin (stop : Token → Prop) (read : Nat → Reader α) (ts : List Token) (a : α) : Prop :=
  ∀ n, ts.length ≤ n → Reads stop (read n) ts a

/-- The things of a list are read at the depth of the whole list. -/
theorem ReadsWithin.forall₂ {stop : Token → Prop} {separator : Token} {read : Nat → Reader α}
    {tss : List (List Token)} {as : List α} (h : List.Forall₂ (ReadsWithin stop read) tss as)
    {n : Nat} (hn : ([separator].intercalate tss).length ≤ n) :
    List.Forall₂ (Reads stop (read n)) tss as := by
  induction h with
  | nil => exact .nil
  | @cons ts a tss as hread hreads ih =>
    cases hreads with
    | nil =>
      rw [List.intercalate_singleton] at hn
      exact .cons (hread n hn) .nil
    | cons _ _ =>
      rw [List.intercalate_cons_cons, List.length_append, List.length_append] at hn
      exact .cons (hread n (by omega)) (ih (by omega))

/-- **A joined list is read** at the depth of its tokens. -/
theorem ReadsWithin.joined {stop : Token → Prop} {separator : Token} {read : Nat → Reader α}
    (hsep : stop separator) {tss : List (List Token)} {as : List α}
    (h : List.Forall₂ (ReadsWithin stop read) tss as) (hne : as ≠ []) :
    ReadsWithin (fun t => stop t ∧ t ≠ separator) (fun n => joined separator (read n))
      ([separator].intercalate tss) as := fun _ hn => Reads.joined hsep (ReadsWithin.forall₂ h hn) hne

/-- What is made of the thing read can be changed. -/
theorem ReadsWithin.map {β : Type} {stop : Token → Prop} {read : Nat → Reader α} {ts : List Token}
    {a : α} (h : ReadsWithin stop read ts a) (f : α → β) :
    ReadsWithin stop (fun n ts => (read n ts).map fun (a, r) => (f a, r)) ts (f a) := by
  intro n hn r hr
  simp only [h n hn r hr, Option.map_some]

end EntityStore.Sql

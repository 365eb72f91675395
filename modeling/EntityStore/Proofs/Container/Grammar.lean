import EntityStore.Container.Config
import EntityStore.Proofs.Store.Run
import Mathlib.Data.List.Forall2

/-!
# The grammar of container configurations

An entry is a mapping that names an entity and may name a container and a partition field; whatever
it names is a text that is not empty.  `Describes` says which configuration it gives, with the
entity's own name and the id in the place of what is absent, and `Lists` is the grammar of a list of
entries: each describes a configuration, and no two of them are of one entity.

`parseAll_grammar` says that a value is accepted exactly when it has such a list, and is read as the
list says.  What is reported of any other is what is wrong with the first entry at which the list
leaves the grammar (`Faulty`); of two things that are wrong with an entry the earlier in the order
of its fields counts.
-/

namespace EntityStore.ContainerConfig

/-! ### The grammar -/

/-- A field holds a text that is not empty. -/
def Names (fields : Fields) (name text : String) : Prop :=
  fields.get? name = some (.str text) ∧ text ≠ ""

/-- What a field that may be absent stands for: the text that it holds, or the usual one. -/
inductive Chooses (fields : Fields) (name usual : String) : String → Prop
  | given {text : String} (h : Names fields name text) : Chooses fields name usual text
  | absent (h : fields.get? name = none) : Chooses fields name usual usual

/-- **The configuration that an entry gives.** -/
inductive Describes : Value → ContainerConfig → Prop
  | entry {fields : Fields} {c : ContainerConfig} (hentity : Names fields "entityName" c.entity)
    (hcontainer : Chooses fields "containerId" c.entity c.containerId)
    (hpartition : Chooses fields "partitionKeyField" "id" c.partitionField) :
    Describes (.object fields) c

/-- **The configurations that a list of entries gives**, which are those of different entities. -/
structure Lists (entries : List Value) (configs : List ContainerConfig) : Prop where
  described : List.Forall₂ Describes entries configs
  distinct : (configs.map entity).Nodup

/-- A mapping whose `containers` are these. -/
def Holds (data : Value) (entries : List Value) : Prop :=
  ∃ fields : Fields, data = .object fields ∧ fields.get? "containers" = some (.list entries)

/-- **What is wrong with the entry at an index**, when those of some entities stand before it. -/
inductive Faulty (index : Nat) (earlier : List String) : Value → ConfigError → Prop
  | noMapping {v : Value} (h : v.isObject = false) : Faulty index earlier v (.entryNotMapping index)
  | nameless {fields : Fields} (h : ∀ entity, ¬ Names fields "entityName" entity) :
    Faulty index earlier (.object fields) (.entityMissing index)
  | twice {fields : Fields} {entity : String} (hentity : Names fields "entityName" entity)
    (hearlier : entity ∈ earlier) : Faulty index earlier (.object fields) (.entityTwice entity)
  | noContainer {fields : Fields} {entity : String} (hentity : Names fields "entityName" entity)
    (hnew : entity ∉ earlier) (h : ∀ text, ¬ Chooses fields "containerId" entity text) :
    Faulty index earlier (.object fields) (.containerIdEmpty index)
  | noPartition {fields : Fields} {entity containerId : String}
    (hentity : Names fields "entityName" entity) (hnew : entity ∉ earlier)
    (hcontainer : Chooses fields "containerId" entity containerId)
    (h : ∀ text, ¬ Chooses fields "partitionKeyField" "id" text) :
    Faulty index earlier (.object fields) (.partitionFieldEmpty index)

/-! ### The fields of an entry -/

section Fields

variable {fields : Fields} {name usual text : String}

theorem nonEmptyText?_eq_some_iff {v : Value} :
    nonEmptyText? v = some text ↔ v = .str text ∧ text ≠ "" := by
  unfold nonEmptyText?
  split
  · next s =>
    rw [Value.scalar.injEq, Scalar.str.injEq]
    split_ifs with hs
    · rw [String.isEmpty_iff] at hs
      refine ⟨by rintro ⟨⟩, ?_⟩
      rintro ⟨rfl, htext⟩
      exact absurd hs htext
    · rw [String.isEmpty_iff] at hs
      rw [Option.some.injEq]
      exact ⟨fun heq => ⟨heq, heq ▸ hs⟩, And.left⟩
  · next htext =>
    refine ⟨by rintro ⟨⟩, ?_⟩
    rintro ⟨rfl, -⟩
    exact (htext text rfl).elim

/-- The text under a field that has to be there. -/
theorem bind_nonEmptyText?_eq_some_iff :
    (fields.get? name).bind nonEmptyText? = some text ↔ Names fields name text := by
  rw [Option.bind_eq_some_iff, Names]
  simp only [nonEmptyText?_eq_some_iff]
  constructor
  · rintro ⟨v, hfield, rfl, htext⟩
    exact ⟨hfield, htext⟩
  · rintro ⟨hfield, htext⟩
    exact ⟨_, hfield, rfl, htext⟩

/-- The text of a field that may be absent. -/
theorem nonEmptyText?_getD_eq_some_iff (husual : usual ≠ "") :
    nonEmptyText? ((fields.get? name).getD (.str usual)) = some text
      ↔ Chooses fields name usual text := by
  rw [nonEmptyText?_eq_some_iff]
  cases hfield : fields.get? name with
  -- The field is absent, and the usual text is taken.
  | none =>
    rw [Option.getD_none, Value.scalar.injEq, Scalar.str.injEq]
    constructor
    · rintro ⟨rfl, -⟩
      exact .absent hfield
    · rintro (⟨hgiven, -⟩ | -)
      · rw [hfield] at hgiven
        cases hgiven
      · exact ⟨rfl, husual⟩
  | some v =>
    rw [Option.getD_some]
    constructor
    · rintro ⟨rfl, htext⟩
      exact .given ⟨hfield, htext⟩
    · rintro (⟨hgiven, htext⟩ | habsent)
      · rw [hfield] at hgiven
        exact ⟨Option.some.inj hgiven, htext⟩
      · rw [hfield] at habsent
        cases habsent

end Fields

/-! ### One entry -/

section Entry

variable {index : Nat} {earlier : List String} {v : Value} {c : ContainerConfig} {e : ConfigError}

/-- An entry gives a configuration, or something is wrong with it. -/
theorem parseEntry_spec (index : Nat) (earlier : List String) (v : Value) :
    (∃ c, parseEntry index earlier v = .ok c ∧ Describes v c ∧ c.entity ∉ earlier)
      ∨ ∃ e, parseEntry index earlier v = .error e ∧ Faulty index earlier v e := by
  cases v with
  | scalar | list | tuple | filter => exact .inr ⟨_, rfl, .noMapping rfl⟩
  | object fields =>
    rw [parseEntry]
    -- The fields are looked at one after the other, and the first that is wrong is reported.
    split
    · -- There is no name, or it is none.
      next hname =>
      refine .inr ⟨_, rfl, .nameless fun entity hentity => ?_⟩
      rw [bind_nonEmptyText?_eq_some_iff.2 hentity] at hname
      cases hname
    · next entity hname =>
      have hentity := bind_nonEmptyText?_eq_some_iff.1 hname
      split
      · -- The entity has been described before.
        next hseen => exact .inr ⟨_, rfl, .twice hentity (List.contains_iff_mem.1 hseen)⟩
      · next hseen =>
        have hnew : entity ∉ earlier := fun hmem => hseen (List.contains_iff_mem.2 hmem)
        split
        · -- The container or the partition field is given but is no text, or an empty one.
          next hnone =>
          refine .inr ⟨_, rfl, .noContainer hentity hnew fun text hchooses => ?_⟩
          rw [(nonEmptyText?_getD_eq_some_iff hentity.2).2 hchooses] at hnone
          cases hnone
        · next containerId hsome hnone =>
          have hcontainer := (nonEmptyText?_getD_eq_some_iff hentity.2).1 hsome
          refine .inr ⟨_, rfl, .noPartition hentity hnew hcontainer fun text hchooses => ?_⟩
          rw [(nonEmptyText?_getD_eq_some_iff (by decide)).2 hchooses] at hnone
          cases hnone
        · next containerId partitionField hsome hfield =>
          have hcontainer := (nonEmptyText?_getD_eq_some_iff hentity.2).1 hsome
          have hpartition := (nonEmptyText?_getD_eq_some_iff (by decide)).1 hfield
          exact .inl ⟨_, rfl, .entry hentity hcontainer hpartition, hnew⟩

theorem parseEntry_of_describes (h : Describes v c) (hnew : c.entity ∉ earlier) :
    parseEntry index earlier v = .ok c := by
  obtain ⟨hentity, hcontainer, hpartition⟩ := h
  rw [parseEntry, bind_nonEmptyText?_eq_some_iff.2 hentity]
  dsimp only
  rw [(nonEmptyText?_getD_eq_some_iff hentity.2).2 hcontainer,
    (nonEmptyText?_getD_eq_some_iff (by decide)).2 hpartition]
  rw [if_neg fun hmem => hnew (List.contains_iff_mem.1 hmem)]

theorem parseEntry_of_faulty (h : Faulty index earlier v e) :
    parseEntry index earlier v = .error e := by
  cases h with
  | noMapping hmapping =>
    cases v with
    | object => cases hmapping
    | scalar | list | tuple | filter => rfl
  | nameless hentity =>
    have hnone := Option.eq_none_iff_forall_ne_some.2 fun entity hentity' =>
      hentity entity (bind_nonEmptyText?_eq_some_iff.1 hentity')
    rw [parseEntry, hnone]
  | twice hentity hearlier =>
    rw [parseEntry, bind_nonEmptyText?_eq_some_iff.2 hentity]
    dsimp only
    rw [if_pos (List.contains_iff_mem.2 hearlier)]
  -- What has been found in order before the fault is passed over.
  | noContainer hentity hnew hcontainer =>
    have hnone := Option.eq_none_iff_forall_ne_some.2 fun text htext =>
      hcontainer text ((nonEmptyText?_getD_eq_some_iff hentity.2).1 htext)
    rw [parseEntry, bind_nonEmptyText?_eq_some_iff.2 hentity]
    dsimp only
    rw [if_neg fun hmem => hnew (List.contains_iff_mem.1 hmem), hnone]
  | noPartition hentity hnew hcontainer hpartition =>
    have hnone := Option.eq_none_iff_forall_ne_some.2 fun text htext =>
      hpartition text ((nonEmptyText?_getD_eq_some_iff (by decide)).1 htext)
    rw [parseEntry, bind_nonEmptyText?_eq_some_iff.2 hentity]
    dsimp only
    rw [if_neg fun hmem => hnew (List.contains_iff_mem.1 hmem),
      (nonEmptyText?_getD_eq_some_iff hentity.2).2 hcontainer, hnone]

/-- **An entry is read as what it describes**, unless its entity has been named before. -/
theorem parseEntry_ok_iff :
    parseEntry index earlier v = .ok c ↔ Describes v c ∧ c.entity ∉ earlier := by
  refine ⟨fun h => ?_, fun h => parseEntry_of_describes h.1 h.2⟩
  rcases parseEntry_spec index earlier v with ⟨c', hok, hdescribes⟩ | ⟨e, herror, -⟩
  · rw [h] at hok
    cases hok
    exact hdescribes
  · rw [h] at herror
    cases herror

/-- **What is reported of an entry is what is wrong with it.** -/
theorem parseEntry_error_iff :
    parseEntry index earlier v = .error e ↔ Faulty index earlier v e := by
  refine ⟨fun h => ?_, parseEntry_of_faulty⟩
  rcases parseEntry_spec index earlier v with ⟨c, hok, -⟩ | ⟨e', herror, hfaulty⟩
  · rw [h] at hok
    cases hok
  · rw [h] at herror
    cases herror
    exact hfaulty

/-- Of the entities that stand before an entry their order does not matter. -/
theorem Faulty.congr {later : List String} (hmem : ∀ entity, entity ∈ earlier ↔ entity ∈ later)
    (h : Faulty index earlier v e) : Faulty index later v e := by
  cases h with
  | noMapping hmapping => exact .noMapping hmapping
  | nameless hentity => exact .nameless hentity
  | twice hentity hearlier => exact .twice hentity ((hmem _).1 hearlier)
  | noContainer hentity hnew hcontainer =>
    exact .noContainer hentity (mt (hmem _).2 hnew) hcontainer
  | noPartition hentity hnew hcontainer hpartition =>
    exact .noPartition hentity (mt (hmem _).2 hnew) hcontainer hpartition

end Entry

/-! ### Entries one after the other -/

/-- The configurations that entries give behind those of some other entities. -/
structure ListsBehind (earlier : List String) (entries : List Value)
    (configs : List ContainerConfig) : Prop where
  lists : Lists entries configs
  new : ∀ c ∈ configs, c.entity ∉ earlier

section Entries

variable {index : Nat} {earlier : List String} {v : Value} {entries : List Value}
  {configs : List ContainerConfig} {e : ConfigError}

theorem listsBehind_nil : ListsBehind earlier [] [] := ⟨⟨.nil, List.nodup_nil⟩, by simp⟩

/-- **One more entry in front**: the entities behind it have one more before them. -/
theorem listsBehind_cons {c : ContainerConfig} :
    ListsBehind earlier (v :: entries) (c :: configs)
      ↔ Describes v c ∧ c.entity ∉ earlier ∧ ListsBehind (c.entity :: earlier) entries configs := by
  constructor
  · rintro ⟨⟨hdescribed, hdistinct⟩, hnew⟩
    rw [List.forall₂_cons] at hdescribed
    rw [List.map_cons, List.nodup_cons] at hdistinct
    obtain ⟨hfirst, hothers⟩ := hdistinct
    refine ⟨hdescribed.1, hnew c List.mem_cons_self, ⟨hdescribed.2, hothers⟩, fun c' hc' => ?_⟩
    have hearlier := hnew c' (List.mem_cons_of_mem c hc')
    rw [List.mem_cons]
    rintro (hsame | hmem)
    · exact hfirst (hsame ▸ List.mem_map_of_mem hc')
    · exact hearlier hmem
  · rintro ⟨hdescribes, hfirst, ⟨hdescribed, hdistinct⟩, hnew⟩
    refine ⟨⟨.cons hdescribes hdescribed, ?_⟩, ?_⟩
    · rw [List.map_cons, List.nodup_cons]
      refine ⟨fun hmem => ?_, hdistinct⟩
      obtain ⟨c', hc', hsame⟩ := List.mem_map.1 hmem
      exact hnew c' hc' (hsame ▸ List.mem_cons_self)
    · rintro c' (_ | ⟨_, hc'⟩)
      · exact hfirst
      · exact fun hmem => hnew c' hc' (List.mem_cons_of_mem _ hmem)

theorem listsBehind_cons_left (h : ListsBehind earlier (v :: entries) configs) :
    ∃ c rest, configs = c :: rest ∧ Describes v c ∧ c.entity ∉ earlier
      ∧ ListsBehind (c.entity :: earlier) entries rest := by
  obtain ⟨c, rest, -, -, rfl⟩ := List.forall₂_cons_left_iff.1 h.lists.described
  exact ⟨c, rest, rfl, listsBehind_cons.1 h⟩

/-- **Entries are read as what they give**, -/
theorem parseEntries_ok_iff :
    parseEntries index earlier entries = .ok configs ↔ ListsBehind earlier entries configs := by
  induction entries generalizing index earlier configs with
  | nil =>
    constructor
    · rintro ⟨⟩
      exact listsBehind_nil
    · rintro ⟨⟨hdescribed, -⟩, -⟩
      cases hdescribed
      rfl
  | cons v r ih =>
    -- The entities behind this entry must be new to `earlier` and to the entry's own.
    rw [parseEntries]
    constructor
    · intro h
      obtain ⟨c, hc, h⟩ := ok_of_bind h
      obtain ⟨rest, hrest, h⟩ := ok_of_bind h
      cases h
      obtain ⟨hdescribes, hnew⟩ := parseEntry_ok_iff.1 hc
      exact listsBehind_cons.2 ⟨hdescribes, hnew, ih.1 hrest⟩
    · intro h
      obtain ⟨c, rest, rfl, hdescribes, hnew, hbehind⟩ := listsBehind_cons_left h
      rw [parseEntry_ok_iff.2 ⟨hdescribes, hnew⟩]
      show (parseEntries (index + 1) (c.entity :: earlier) r >>= fun rest => .ok (c :: rest)) = _
      rw [ih.2 hbehind]
      rfl

/-- **and what is reported is what is wrong with the first that is out of place.** -/
theorem parseEntries_error_iff :
    parseEntries index earlier entries = .error e
      ↔ ∃ before v after configs, entries = before ++ v :: after
        ∧ ListsBehind earlier before configs
        ∧ Faulty (index + before.length) ((configs.map entity).reverse ++ earlier) v e := by
  induction entries generalizing index earlier with
  | nil =>
    constructor
    · rintro ⟨⟩
    · rintro ⟨before, v, after, configs, hsplit, -⟩
      simp at hsplit
  | cons w r ih =>
    rw [parseEntries]
    constructor
    · intro h
      -- The fault is in this entry or behind it: there is none in putting the two together.
      rcases error_of_bind h with herror | ⟨c, hc, h⟩
      · exact ⟨[], w, r, [], rfl, listsBehind_nil, parseEntry_error_iff.1 herror⟩
      · rcases error_of_bind h with herror | ⟨rest, -, h⟩
        · obtain ⟨before, v, after, configs, rfl, hbefore, hfaulty⟩ := ih.1 herror
          obtain ⟨hdescribes, hnew⟩ := parseEntry_ok_iff.1 hc
          refine ⟨w :: before, v, after, c :: configs, rfl,
            listsBehind_cons.2 ⟨hdescribes, hnew, hbefore⟩, ?_⟩
          rw [List.length_cons, List.map_cons, List.reverse_cons, List.append_assoc]
          rwa [Nat.add_right_comm, Nat.add_assoc] at hfaulty
        · cases h
    · rintro ⟨before, v, after, configs, hsplit, hbefore, hfaulty⟩
      -- The entry at fault is the first one, or lies behind it.
      cases before with
      | nil =>
        obtain ⟨rfl, rfl⟩ := List.cons.inj hsplit
        obtain rfl := List.forall₂_nil_left_iff.1 hbefore.lists.described
        have hfirst : parseEntry index earlier w = .error e := parseEntry_error_iff.2 hfaulty
        rw [hfirst]
        rfl
      | cons w' before =>
        rw [List.cons_append] at hsplit
        obtain ⟨rfl, rfl⟩ := List.cons.inj hsplit
        obtain ⟨c, rest, rfl, hdescribes, hnew, hbehind⟩ := listsBehind_cons_left hbefore
        rw [List.length_cons, List.map_cons, List.reverse_cons, List.append_assoc] at hfaulty
        rw [← Nat.add_assoc, Nat.add_right_comm] at hfaulty
        rw [parseEntry_ok_iff.2 ⟨hdescribes, hnew⟩]
        show (parseEntries (index + 1) (c.entity :: earlier) (before ++ v :: after)
          >>= fun rest => .ok (c :: rest)) = _
        rw [ih.2 ⟨before, v, after, rest, rfl, hbehind, hfaulty⟩]
        rfl

theorem listsBehind_nothing : ListsBehind [] entries configs ↔ Lists entries configs :=
  ⟨ListsBehind.lists, fun h => ⟨h, by simp⟩⟩

/-- Nothing that follows the grammar ends in an entry with which something is wrong. -/
theorem Faulty.not_lists {before : List Value} (hbefore : Lists before configs)
    (h : Faulty before.length (configs.map entity) v e) (configs' : List ContainerConfig) :
    ¬ Lists (before ++ [v]) configs' := by
  intro hlists
  -- The reader would have to accept the entries, and to report the last of them.
  have hok : parseEntries 0 [] (before ++ [v]) = .ok configs' :=
    parseEntries_ok_iff.2 (listsBehind_nothing.2 hlists)
  have herror : parseEntries 0 [] (before ++ [v]) = .error e := by
    refine parseEntries_error_iff.2
      ⟨before, v, [], configs, rfl, listsBehind_nothing.2 hbefore, ?_⟩
    rw [Nat.zero_add]
    exact h.congr fun entity => by rw [List.append_nil, List.mem_reverse]
  rw [hok] at herror
  cases herror

end Entries

/-! ### Whole configurations -/

/-- A value is read by its entries, if it has any. -/
theorem parseAll_spec (data : Value) :
    (∃ entries, Holds data entries ∧ parseAll data = parseEntries 0 [] entries)
      ∨ (∀ entries, ¬ Holds data entries) ∧ parseAll data = .error .notMapping := by
  unfold parseAll
  split
  · next fields =>
    split
    · next entries hentries => exact .inl ⟨entries, ⟨fields, rfl, hentries⟩, rfl⟩
    · next hnone =>
      refine .inr ⟨?_, rfl⟩
      rintro entries ⟨fields', hdata, hentries⟩
      cases hdata
      exact hnone entries hentries
  · next hmapping =>
    refine .inr ⟨?_, rfl⟩
    rintro entries ⟨fields, hdata, -⟩
    exact hmapping fields hdata

/-- There is one list of entries at most. -/
theorem Holds.unique {data : Value} {entries entries' : List Value} (h : Holds data entries)
    (h' : Holds data entries') : entries = entries' := by
  obtain ⟨fields, rfl, hentries⟩ := h
  obtain ⟨fields', hdata, hentries'⟩ := h'
  cases hdata
  rw [hentries] at hentries'
  cases hentries'
  rfl

/-- **Configurations are read from the values of their grammar and from no others.**  A value is
read as the configurations of its entries, in their order, exactly when the entries follow the
grammar.  Otherwise either it is no mapping with a list of entries; or what is reported is what is
wrong with one of them, the entries before which follow the grammar while those up to it do not. -/
theorem parseAll_grammar (data : Value) :
    (∀ configs, parseAll data = .ok configs ↔ ∃ entries, Holds data entries ∧ Lists entries configs)
      ∧ ∀ e, parseAll data = .error e ↔
        (e = .notMapping ∧ ∀ entries, ¬ Holds data entries)
          ∨ ∃ before v after configs, Holds data (before ++ v :: after) ∧ Lists before configs
            ∧ (∀ configs', ¬ Lists (before ++ [v]) configs')
            ∧ Faulty before.length (configs.map entity) v e := by
  rcases parseAll_spec data with ⟨entries, hholds, hparse⟩ | ⟨hnone, hparse⟩
  · -- The data holds entries, and these are the only ones.
    rw [hparse]
    refine ⟨fun configs => ?_, fun e => ?_⟩
    · rw [parseEntries_ok_iff, listsBehind_nothing]
      constructor
      · exact fun hlists => ⟨entries, hholds, hlists⟩
      · rintro ⟨entries', hholds', hlists⟩
        exact hholds.unique hholds' ▸ hlists
    · rw [parseEntries_error_iff]
      constructor
      · rintro ⟨before, v, after, configs, rfl, hbefore, hfaulty⟩
        rw [listsBehind_nothing] at hbefore
        rw [Nat.zero_add, List.append_nil] at hfaulty
        have hwrong : Faulty before.length (configs.map entity) v e :=
          hfaulty.congr fun _ => List.mem_reverse
        exact .inr ⟨before, v, after, configs, hholds, hbefore, hwrong.not_lists hbefore, hwrong⟩
      · rintro (⟨-, hnone⟩ | ⟨before, v, after, configs, hholds', hbefore, -, hfaulty⟩)
        · exact absurd hholds (hnone entries)
        · refine ⟨before, v, after, configs, hholds.unique hholds', ?_, ?_⟩
          · exact listsBehind_nothing.2 hbefore
          rw [Nat.zero_add, List.append_nil]
          exact hfaulty.congr fun _ => List.mem_reverse.symm
  · -- The data holds no entries.
    rw [hparse]
    refine ⟨fun configs => ?_, fun e => ?_⟩
    · refine ⟨by rintro ⟨⟩, ?_⟩
      rintro ⟨entries, hholds, -⟩
      exact absurd hholds (hnone entries)
    · constructor
      · rintro ⟨⟩
        exact .inl ⟨rfl, hnone⟩
      · rintro (⟨rfl, -⟩ | ⟨before, v, after, configs, hholds, -⟩)
        · rfl
        · exact absurd hholds (hnone _)

-- A field that is there but null is not absent.
example :
    parseAll (.object [("containers", .list
      [.object [("entityName", .str "order"), ("partitionKeyField", .str "tenantId")],
       .object [("entityName", .str "note"), ("containerId", .null)]])])
      = .error (.containerIdEmpty 1) := by
  rfl

end EntityStore.ContainerConfig

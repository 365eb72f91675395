import EntityStore.Proofs.Sql.Address
import EntityStore.Proofs.Sql.Placeholder
import EntityStore.Proofs.Store.DocumentMap
import EntityStore.Proofs.Store.Filed
import EntityStore.Proofs.Value.Digest

/-!
# The partition field in containers and in statements

The partition field of an entity is read in two ways.  A container has it as a path, whose segments
are cut at points and slashes, and each of them names a property.  The statement that selects
documents by their ids refers to it as to any field, so that a slash is part of a name, and digits
and brackets ask for elements.

The two lead to the same value in every document exactly if the field is a path of properties
(`isPropertyPath`).  In such a field no slash stands and no point at the start, and each segment is
referred to by its name (`isProperty`).  For any other field there is a document in which they lead
to different values, and it is a small one, with a text at the path and nothing else (`nested`).
-/

namespace EntityStore

namespace Sql

/-! ### What is held at an address -/

/-- What a value holds one step on, or nothing if it has no such property or element. -/
def Selector.step : Selector → Value → Value
  | .property name, v => (v.fields?.bind fun fields => Entries.get? fields name).getD .null
  | .element index, .list items | .element index, .tuple items => items[index]?.getD .null
  | .element _, _ => .null

/-- **What a value holds at an address.** -/
def heldAt (v : Value) (address : List Selector) : Value := address.foldl (fun v s => s.step v) v

theorem heldAt_cons (v : Value) (s : Selector) (address : List Selector) :
    heldAt v (s :: address) = heldAt (s.step v) address := rfl

/-- An address of properties is a path. -/
theorem heldAt_properties (v : Value) (path : List String) :
    heldAt v (path.map .property) = MemoryContainer.valueAt v path := by
  induction path generalizing v with
  | nil => rfl
  | cons segment path ih => exact ih _

/-- Nothing is held at any address in nothing. -/
theorem heldAt_null (address : List Selector) : heldAt .null address = .null := by
  induction address with
  | nil => rfl
  | cons t address ih => cases t <;> exact ih

/-- An object that holds a value at a path, and nothing else. -/
def nested (v : Value) : List String → Value
  | [] => v
  | segment :: path => .object [(segment, nested v path)]

theorem step_nested (v : Value) (segment : String) (path : List String) :
    (Selector.property segment).step (nested v (segment :: path)) = nested v path := by
  simp [Selector.step, nested, Value.fields?, Entries.get?]

/-- A step that is not the one of the path leads to nothing. -/
theorem step_nested_of_ne (v : Value) {segment : String} (path : List String) {t : Selector}
    (ht : t ≠ .property segment) : t.step (nested v (segment :: path)) = .null := by
  cases t with
  | element => rfl
  | property name =>
    have hname : segment ≠ name := fun h => ht (congrArg Selector.property h.symm)
    simp [Selector.step, nested, Value.fields?, Entries.get?, hname]

/-- **In such an object a text is held at its path only.** -/
theorem heldAt_nested {s : String} {path : List String} {address : List Selector} :
    heldAt (nested (.str s) path) address = .str s ↔ address = path.map .property := by
  -- A step that is not the one of the path leads to nothing, and no other step leads back.
  have hastray (address : List Selector) : heldAt .null address ≠ .str s := by
    rw [heldAt_null]
    rintro ⟨⟩
  induction path generalizing address with
  | nil =>
    cases address with
    | nil => exact ⟨fun _ => rfl, fun _ => rfl⟩
    | cons t address =>
      have hnone : t.step (.str s) = .null := by cases t <;> rfl
      rw [nested, heldAt_cons, hnone]
      exact ⟨fun h => absurd h (hastray _), by rintro ⟨⟩⟩
  | cons segment path ih =>
    cases address with
    | nil => exact ⟨by rintro ⟨⟩, by rintro ⟨⟩⟩
    | cons t address =>
      rw [heldAt_cons, List.map_cons, List.cons.injEq]
      by_cases ht : t = .property segment
      · subst ht
        rw [step_nested]
        exact ⟨fun h => ⟨rfl, ih.1 h⟩, fun h => ih.2 h.2⟩
      · rw [step_nested_of_ne _ path ht]
        exact ⟨fun h => absurd h (hastray _), fun h => absurd h.1 ht⟩

/-! ### Segments that are referred to by their names -/

/-- **Whether the reference to a segment is to the property of that name**: the segment is quoted, or
stands behind a dot without indexes or a line feed. -/
def isProperty (segment : List Char) : Bool :=
  if followsDot segment then segment.all isIdentifierChar else !isIndex segment

theorem addressedBy_of_isProperty {segment : List Char} (h : isProperty segment = true) :
    addressedBy segment = [.property (String.ofList segment)] := by
  unfold isProperty at h
  split_ifs at h with hdot
  · have hchars := List.all_eq_true.1 h
    have hno : '[' ∉ segment := fun hmem => absurd (hchars _ hmem) (by decide)
    have hindexes : indexRoute segment = [] := by
      have happend := indexRoute_append hno []
      rwa [List.append_nil] at happend
    rw [addressedBy, segmentRoute, if_pos hdot, hindexes, List.takeWhile_eq_self_iff.2 hchars]
    rfl
  · rw [Bool.not_eq_true'] at h
    rw [addressedBy, segmentRoute, if_neg hdot, h, if_neg Bool.false_ne_true]
    rfl

/-- No other segment is referred to by its name, not even in the first step. -/
theorem isProperty_of_addressedBy {segment : List Char} {rest : List Selector}
    (h : addressedBy segment = .property (String.ofList segment) :: rest) :
    isProperty segment = true := by
  rw [addressedBy, segmentRoute] at h
  unfold isProperty
  split_ifs at h ⊢ with hdot hindex
  · have hname : segment.takeWhile isIdentifierChar = segment :=
      String.ofList_injective (Selector.property.inj (List.cons.inj h).1)
    exact List.all_eq_true.2 (List.takeWhile_eq_self_iff.1 hname)
  · cases h
  · rw [Bool.eq_false_of_not_eq_true hindex]
    rfl

theorem addressedBy_ne_nil (segment : List Char) : addressedBy segment ≠ [] := by
  rw [addressedBy, segmentRoute]
  split_ifs <;> exact List.cons_ne_nil _ _

/-- **Segments are referred to by their names** exactly when each of them is. -/
theorem flatMap_addressedBy_names {segments : List (List Char)} :
    segments.flatMap addressedBy = segments.map (fun s => .property (String.ofList s))
      ↔ ∀ segment ∈ segments, isProperty segment = true := by
  induction segments with
  | nil => simp
  | cons segment segments ih =>
    rw [List.flatMap_cons, List.map_cons, List.forall_mem_cons, ← ih]
    constructor
    · intro h
      obtain ⟨a, as, ha⟩ := List.exists_cons_of_ne_nil (addressedBy_ne_nil segment)
      have hfirst : a = .property (String.ofList segment) := by
        rw [ha] at h
        exact (List.cons.inj h).1
      have hproperty := isProperty_of_addressedBy (hfirst ▸ ha)
      rw [addressedBy_of_isProperty hproperty] at h
      exact ⟨hproperty, (List.cons.inj h).2⟩
    · rintro ⟨hproperty, hrest⟩
      rw [addressedBy_of_isProperty hproperty, hrest]
      rfl

/-! ### Slashes -/

/-- A segment with a slash is quoted. -/
theorem isProperty_of_slash {segment : List Char} (h : '/' ∈ segment) :
    isProperty segment = true := by
  have hdot : followsDot segment = false := by
    rw [Bool.eq_false_iff]
    intro hdot
    obtain ⟨w, r, rfl, -, hchars, -, hr⟩ := followsDot_spec hdot
    rcases List.mem_append.1 h with hw | hr'
    · exact absurd (hchars _ hw) (by decide)
    · exact absurd (mem_indexes hr hr') (by decide)
  have hindex : isIndex segment = false := by
    rw [Bool.eq_false_iff]
    intro hindex
    obtain ⟨d, ds, r, rfl, hds, hr⟩ := isIndex_spec hindex
    rcases List.mem_append.1 h with hd | hr'
    · exact absurd (hds _ hd) (by decide)
    · rcases hr with rfl | rfl <;> simp at hr'
  rw [isProperty, hdot, hindex]
  rfl

/-- No segment of a partition path has a slash in it. -/
theorem slash_not_mem_pathSegments {path segment : String}
    (h : segment ∈ MemoryContainer.pathSegments path) : '/' ∉ segment.toList := by
  obtain ⟨part, hpart, rfl⟩ := List.mem_map.1 h
  rw [String.toList_ofList]
  intro hslash
  obtain ⟨c, -, hc⟩ := List.mem_map.1 (Text.mem_of_mem_splitOn hpart hslash)
  split_ifs at hc with hc'
  · contradiction
  · exact hc' hc

/-! ### The statement of ids -/

/-- Reads the reference with which the condition of a statement begins, if what it leads to is
compared with the partition value. -/
def readScope (ts : List Token) : Option Route := do
  let r ← expect (.word "SELECT") ts
  let r ← expect .star r
  let r ← expect (.word "FROM") r
  let r ← expect (.word documentAlias) r
  let r ← expect (.word "WHERE") r
  let (route, r) ← readReference r
  let r ← expect (.comparator .eq) r
  let _ ← expect (.placeholder partitionPlaceholder) r
  return route

/-- The reference is read, whatever the condition goes on with. -/
theorem readScope_tokens (route : Route) (r : List Token) :
    readScope ([.word "SELECT", .star, .word "FROM", .word documentAlias, .word "WHERE"]
      ++ (route.tokens ++ [.comparator .eq, .placeholder partitionPlaceholder] ++ r))
        = some route := by
  have hread := reads_reference route
    (.comparator .eq :: .placeholder partitionPlaceholder :: r)
    (Follows.cons (by simp [endsRoute]) _)
  simp [readScope, hread]

/-- **Where a statement looks for the partition value.** -/
def scopedAt? (text : String) : Option (List Selector) :=
  ((Token.lex text.toList).bind readScope).map (·.map Accessor.selector)

/-- The statement of ids looks for it at what the reference to the partition field addresses. -/
theorem scopedAt?_idsStatement (ids : List Value) (field : String) {partition : Value}
    (h : partition.isNull = false) :
    scopedAt? (idsStatement ids field partition).text
      = some ((routeOf field).map Accessor.selector) := by
  have hlex := (piece_selectWhere (piece_and (piece_partition field)
    (piece_membership ids.length))).lex_eq
  rw [List.intercalate_cons_cons, List.append_assoc ((routeOf field).tokens ++ _)] at hlex
  have htext : (idsStatement ids field partition).text
      = "SELECT * FROM " ++ documentAlias ++ " WHERE " ++ " AND ".intercalate
        [reference documentAlias field ++ " = " ++ partitionPlaceholder,
          reference documentAlias "id" ++ " IN ("
            ++ ", ".intercalate ((List.range ids.length).map idPlaceholder) ++ ")"] := by
    unfold idsStatement
    rw [h]
    rfl
  rw [scopedAt?, htext, hlex, Option.bind_some, readScope_tokens, Option.map_some]

end Sql

namespace ContainerConfig

open Sql

/-! ### Paths of properties -/

/-- **Whether a partition field is a path of properties**: it has no slash, no point at the start, and
only segments that are referred to by their names. -/
def isPropertyPath (field : String) : Bool :=
  !field.toList.contains '/' && field.toList.head? != some '.'
    && (field.toList.splitOn '.').all isProperty

variable {config : ContainerConfig}

/-- A slash is part of a name that is quoted, and separates the segments of a path. -/
theorem route_ne_of_slash (h : '/' ∈ config.partitionField.toList) :
    (routeOf config.partitionField).map Accessor.selector
      ≠ (MemoryContainer.pathSegments config.partitionPath).map .property := by
  rw [routeOf_selectors]
  intro heq
  obtain hpoint | ⟨part, hpart, hmem⟩ := Text.mem_splitOn '.' h
  · exact absurd hpoint (by decide)
  · have haddressed := addressedBy_of_isProperty (isProperty_of_slash hmem)
    have hname : Selector.property (String.ofList part)
        ∈ (config.partitionField.toList.splitOn '.').flatMap addressedBy :=
      List.mem_flatMap.2 ⟨part, hpart, by rw [haddressed]; exact List.mem_singleton_self _⟩
    rw [heq] at hname
    obtain ⟨segment, hsegment, hproperty⟩ := List.mem_map.1 hname
    cases hproperty
    exact slash_not_mem_pathSegments hsegment (by rwa [String.toList_ofList])

/-- Behind a point at the start the reference is to a property without a name, and the path has lost
it. -/
theorem route_ne_of_point (hslash : '/' ∉ config.partitionField.toList)
    (h : config.partitionField.toList.head? = some '.') :
    (routeOf config.partitionField).map Accessor.selector
      ≠ (MemoryContainer.pathSegments config.partitionPath).map .property := by
  obtain ⟨r, hr⟩ := List.head?_eq_some_iff.1 h
  have hempty : addressedBy [] = [.property ""] := by decide
  rw [routeOf_selectors, pathSegments_of_no_slash hslash, hr, List.splitOn_cons_eq_if_modifyHead,
    if_pos (by decide), List.flatMap_cons, hempty, List.map_map]
  intro heq
  -- If only points stand in the field, the path has one segment and the reference has more; else the
  -- first segment of the path has a name.
  cases hrest : ('.' :: r).dropWhile (· = '.') with
  | nil =>
    rw [hrest] at heq
    have hnone : (r.splitOn '.').flatMap addressedBy = [] := (List.cons.inj heq).2
    obtain ⟨first, rest, hparts⟩ := List.exists_cons_of_ne_nil (List.splitOn_ne_nil '.' r)
    rw [hparts, List.flatMap_cons, List.append_eq_nil_iff] at hnone
    exact addressedBy_ne_nil first hnone.1
  | cons c q =>
    have hc : c ≠ '.' := by
      have hstop := List.head?_dropWhile_not (· = '.') ('.' :: r)
      rw [hrest] at hstop
      simpa using hstop
    obtain ⟨first, rest, hparts⟩ := List.exists_cons_of_ne_nil (List.splitOn_ne_nil '.' q)
    rw [hrest, List.splitOn_cons_eq_if_modifyHead, if_neg (by simpa using hc), hparts] at heq
    have hname : Selector.property "" = .property (String.ofList (c :: first)) :=
      (List.cons.inj heq).1
    exact absurd (congrArg String.toList (Selector.property.inj hname)) (by simp)

/-- **The reference and the path of a partition field name the same properties** exactly for a path
of properties. -/
theorem route_eq_segments_iff :
    (routeOf config.partitionField).map Accessor.selector
        = (MemoryContainer.pathSegments config.partitionPath).map .property
      ↔ isPropertyPath config.partitionField = true := by
  by_cases hslash : '/' ∈ config.partitionField.toList
  · simp [isPropertyPath, hslash, route_ne_of_slash hslash]
  by_cases hpoint : config.partitionField.toList.head? = some '.'
  · simp [isPropertyPath, hpoint, route_ne_of_point hslash hpoint]
  · rw [routeOf_selectors, pathSegments_partitionPath hslash hpoint, List.map_map]
    refine flatMap_addressedBy_names.trans ?_
    simp [isPropertyPath, hslash, hpoint]

/-- **An address leads to the partition value in every document** exactly if it is the path. -/
theorem heldAt_eq_partitionOf_iff {address : List Selector} :
    (∀ d : Fields, heldAt (.object d) address = config.partitionOf d)
      ↔ address = (MemoryContainer.pathSegments config.partitionPath).map .property := by
  constructor
  · intro h
    -- One document tells the path from all other addresses.
    rw [← heldAt_nested (s := "")]
    obtain ⟨segment, rest, hsegments⟩ : ∃ segment rest,
        MemoryContainer.pathSegments config.partitionPath = segment :: rest :=
      List.exists_cons_of_ne_nil (List.map_eq_nil_iff.not.2 (List.splitOn_ne_nil '.' _))
    have hd := h [(segment, nested (.str "") rest)]
    have hself : heldAt (nested (.str "") (segment :: rest))
        ((segment :: rest).map .property) = .str "" := heldAt_nested.2 rfl
    rw [partitionOf, hsegments, ← heldAt_properties] at hd
    rw [hsegments]
    exact hd.trans hself
  · intro haddress d
    rw [haddress, heldAt_properties, partitionOf]

end ContainerConfig

/-! ### Documents in partitions -/

/-- In a filed container a document is in the partition of a value exactly if it holds an equal one
at the partition path. -/
theorem MemoryContainer.Filed.equal_partition {c : MemoryContainer} (h : c.Filed)
    {p : DocumentKey × Fields} (hp : p ∈ c.documents) (v : Value) :
    p.1.partition.equal v = (c.partitionOf p.2).equal v := by
  rcases h.partition p hp with hkey | hkey
  · rw [hkey]
  · have hhashable := h.sound.hashable p hp
    have hvalue : (c.partitionOf p.2).Hashable := by
      obtain ⟨digest, hdigest⟩ := hhashable
      exact ⟨digest, Value.digest_of_equal hkey hdigest⟩
    rw [Bool.eq_iff_iff]
    constructor
    · exact fun hv => Value.equal_trans hvalue (Value.equal_symm hhashable hkey) hv
    · exact fun hv => Value.equal_trans hhashable hkey hv

namespace Crew

variable {σ : Type} {b : Backend σ String} {memory : σ → Memory}

open Sql in
/-- **Where the statement of ids looks for the partition value** is where the container has it, in
every document, exactly if the partition field is a path of properties.  Then the documents of a
partition are those that fulfil the condition on it, whatever calls have run side by side over a
database that was empty, if no other of the entities in use has the container. -/
theorem scoped_as_partitioned (hb : b.InMemory memory) {s : Session σ String}
    (hempty : (memory s.outside).containers = []) {config : ContainerConfig} {calls : List Call}
    (hspares : ∀ call ∈ calls, ∀ e, call.entity? = some e → s.router.registry.Spares config e)
    (schedule : List Nat) :
    let container := (memory
      ((⟨s, calls.map .starting⟩ : Crew σ String).run b schedule).session.outside).container
        config.containerId
    ∃ address,
      (∀ (ids : List Value) (v : Value), v.isNull = false →
        scopedAt? (idsStatement ids config.partitionField v).text = some address)
      ∧ ((∀ d : Fields, heldAt (.object d) address = config.partitionOf d)
        ↔ ContainerConfig.isPropertyPath config.partitionField = true)
      ∧ (ContainerConfig.isPropertyPath config.partitionField = true →
        ∀ p ∈ container.documents, ∀ v : Value,
          p.1.partition.equal v = (heldAt (.object p.2) address).equal v) := by
  intro container
  refine ⟨(routeOf config.partitionField).map Accessor.selector, ?_, ?_, ?_⟩
  · -- The reader takes the address from the text of the statement.
    exact fun ids v hv => scopedAt?_idsStatement ids config.partitionField hv
  · -- The two agree on all documents when the steps are the same.
    rw [ContainerConfig.heldAt_eq_partitionOf_iff, ContainerConfig.route_eq_segments_iff]
  · -- The key of a stored document holds its partition value, as long as the container has this
    -- path.
    intro hpath p hp v
    rcases partitioned_run hb hempty hspares schedule with hpartitioned | hnone
    · have hfiled : container.Filed := filed_run hb hempty calls schedule config.containerId
      have haddress := ContainerConfig.route_eq_segments_iff.2 hpath
      have hheld := ContainerConfig.heldAt_eq_partitionOf_iff.2 haddress p.2
      have hpartitionOf : container.partitionOf p.2 = config.partitionOf p.2 := by
        rw [MemoryContainer.partitionOf, show container.partitionPath = _ from hpartitioned]
        rfl
      rw [hfiled.equal_partition hp, hpartitionOf, hheld]
    · rw [show container.documents = [] from hnone] at hp
      cases hp

end Crew

namespace NestedTenants

/-- Orders that are partitioned on a field. -/
def orders (field : String) : ContainerConfig := ⟨"order", "orders", field⟩

def start (field : String) : Session LocalState String :=
  ⟨{ registry := .ofList [orders field] true }, 10,
    { clock := ⟨⟨2024, 1, 1⟩, 0, 0, 0, 0, none⟩, ids := ⟨[], 0⟩ }⟩

/-- An order of a tenant, which is a property of a property of the document. -/
def order (id outer inner tenant : String) : Call :=
  .create (some "order") (some id) (.object [(outer, .object [(inner, .str tenant)])])

/-- The documents that calls have led to. -/
def stored (field : String) (calls : List Call) (schedule : List Nat) :
    Entries DocumentKey Fields :=
  (((⟨start field, calls.map .starting⟩ : Crew LocalState String).run LocalState.backend
    schedule).session.outside.memory.container "orders").documents

/-- Two tenants have an order of one id. -/
def twoTenants : List Call := [order "1" "order" "tenant id" "a", order "1" "order" "tenant id" "b"]

theorem spared (field : String) {call : Call} (hcall : call ∈ twoTenants) {e : String}
    (he : call.entity? = some e) : (start field).router.registry.Spares (orders field) e := by
  obtain rfl : e = "order" := by
    rcases List.mem_pair.1 hcall with rfl | rfl <;> cases he <;> rfl
  rintro c hc -
  cases hc
  rfl

end NestedTenants

open NestedTenants Sql in
/-- The statement that asks for an order of a tenant looks for the tenant where it is, although one of
the names on the way is reserved and the other has a blank in it. -/
theorem Crew.scoped_as_partitioned_tenants :
    let documents := stored "order.tenant id" twoTenants [0, 1, 0, 1]
    documents.map (fun p => (p.1.partition.text, p.1.id)) = [("a", "1"), ("b", "1")]
      ∧ ∃ address,
        scopedAt? (idsStatement [.str "1"] "order.tenant id" (.str "b")).text = some address
        ∧ (∀ d : Fields, heldAt (.object d) address = (orders "order.tenant id").partitionOf d)
        ∧ ∀ p ∈ documents,
          p.1.partition.equal (.str "b") = (heldAt (.object p.2) address).equal (.str "b") := by
  intro documents
  have hpath : ContainerConfig.isPropertyPath (orders "order.tenant id").partitionField = true := by
    decide
  obtain ⟨address, hscope, hagree, hdocuments⟩ := Crew.scoped_as_partitioned
    LocalState.backend_inMemory (s := start "order.tenant id") rfl
    (fun call hcall e he => spared "order.tenant id" hcall he) [0, 1, 0, 1]
  refine ⟨by decide +kernel, address, hscope _ _ rfl, hagree.2 hpath, ?_⟩
  exact fun p hp => hdocuments hpath p hp _

open NestedTenants Sql in
/-- **Partition fields that are read in two ways**: with a slash, with an index, of digits, and with a
point at the start.  Where the field has a slash, an order is stored in the partition of a tenant, and
nothing is where the statement looks for the tenant. -/
theorem partition_misread :
    let scope (field : String) := scopedAt? (idsStatement [.str "1"] field (.str "x")).text
    let path (field : String) := MemoryContainer.pathSegments (orders field).partitionPath
    (scope "a/b" = some [.property "a/b"] ∧ path "a/b" = ["a", "b"])
      ∧ (scope "tags[0]" = some [.property "tags", .element 0] ∧ path "tags[0]" = ["tags[0]"])
      ∧ (scope "0" = some [.element 0] ∧ path "0" = ["0"])
      ∧ (scope ".a" = some [.property "", .property "a"] ∧ path ".a" = ["a"])
      ∧ (stored "a/b" [order "1" "a" "b" "x"] [0, 0]).map
          (fun p => (p.1.partition.text, p.1.id, (heldAt (.object p.2) [.property "a/b"]).isNull))
        = [("x", "1", true)] := by
  intro scope path
  have hscope (field : String) : scope field = some ((routeOf field).map Accessor.selector) :=
    scopedAt?_idsStatement [.str "1"] field rfl
  simp only [hscope]
  exact ⟨by decide, by decide, by decide, by decide, by decide +kernel⟩

end EntityStore

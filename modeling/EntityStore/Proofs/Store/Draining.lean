import EntityStore.Proofs.Store.Retrieval

/-!
# Draining pages

A driver may cut the answer to a query into any pages it likes, empty ones included.  So here the pages
come from a script: whatever is asked for, the driver hands out the page that is next
(`Backend.Plays`).

Three loops go through pages, and all are `drain`.  It reads pages that lead on, and then one that ends
the chain, as it leads no further or enough has been found (`drain_through`).  The invariant is that
what has been made of the pages so far is what is made of their items at once, and that each page has
been asked for with the token of the one before.
-/

namespace EntityStore

/-! ### Scripts -/

/-- **A backend that plays a script**, in those states that have one: it hands out the pages one after
the other, whatever is asked for, and takes note of what was.  It provisions every container, and lets
as many pages be asked for as there are. -/
structure Backend.Plays {σ κ : Type} (b : Backend σ κ) (script : σ → Option (List Page))
    (asked : σ → List (κ × PageRequest)) : Prop where
  page : ∀ {o p rest} container request, script o = some (p :: rest) →
    ∃ o', b.perform (.page container request) o = (.ok p, o') ∧ script o' = some rest
      ∧ asked o' = asked o ++ [(container, request)]
  provision : ∀ {o pages} containerId path, script o = some pages →
    ∃ handle o', b.provision containerId path o = (.ok handle, o') ∧ script o' = some pages
      ∧ asked o' = asked o
  patience : ∀ {o pages}, script o = some pages → pages.length ≤ b.patience o

namespace LocalState

/-- The pages that are still to be handed out, if pages are given beforehand and no container is
refused. -/
def script? (o : LocalState) : Option (List Page) :=
  if o.memory.refusals ≤ 0 then o.memory.script else none

/-- The pages that were asked for. -/
def asked (o : LocalState) : List (String × PageRequest) :=
  o.memory.events.filterMap fun
    | .query containerId request => some (containerId, request)
    | .provision .. => none

theorem script?_eq_some_iff {o : LocalState} {pages : List Page} :
    o.script? = some pages ↔ o.memory.refusals ≤ 0 ∧ o.memory.script = some pages := by
  rw [script?]
  split
  · next haccepts => exact (and_iff_right haccepts).symm
  · next hrefuses => exact iff_of_false (Option.some_ne_none _).symm fun h => hrefuses h.1

/-- **The local backend plays the pages that it is given.** -/
theorem backend_plays : backend.Plays script? asked where
  page {o p rest} container request h := by
    obtain ⟨haccepts, hpages⟩ := script?_eq_some_iff.1 h
    -- Writing the query down leaves the script alone.
    have hlogged : (o.memory.log (.query container request)).script = some (p :: rest) := hpages
    have hperform : o.memory.perform (.page container request)
        = (.ok p, { o.memory.log (.query container request) with script := some rest }) := by
      rw [Memory.perform]
      simp only [hlogged]
    refine ⟨{ o with memory := (o.memory.perform (.page container request)).2 }, ?_, ?_, ?_⟩
    · have hanswer : (o.memory.perform (.page container request)).1 = .ok p := by rw [hperform]
      exact Prod.ext hanswer rfl
    · rw [hperform]
      exact if_pos haccepts
    · rw [hperform]
      exact List.filterMap_append
  provision {o pages} containerId path h := by
    obtain ⟨haccepts, hpages⟩ := script?_eq_some_iff.1 h
    obtain ⟨hanswer, -⟩ := Memory.provision_accepts haccepts containerId path
    have hsettings := Memory.provision_settings haccepts containerId path
    refine ⟨containerId, { o with memory := (o.memory.provision containerId path).2 }, ?_, ?_, ?_⟩
    · exact Prod.ext hanswer rfl
    · exact script?_eq_some_iff.2
        ⟨hsettings.refusals.trans_le haccepts, hsettings.script.trans hpages⟩
    · -- Provisioning is written down too, but it is no query.
      have hevents : (o.memory.provision containerId path).2.events
          = o.memory.events ++ [.provision containerId path] := by
        rw [Memory.provision]
        dsimp only
        split
        · rfl
        · split <;> rfl
      rw [asked, hevents]
      exact List.filterMap_append.trans (List.append_nil _)
  patience {o pages} h := by
    obtain ⟨-, hpages⟩ := script?_eq_some_iff.1 h
    show pages.length ≤ o.memory.documentCount + (o.memory.script.getD []).length + 2
    rw [hpages, Option.getD_some]
    -- The patience exceeds the length of the script.
    omega

end LocalState

variable {σ κ : Type} {b : Backend σ κ} {script : σ → Option (List Page)}
  {asked : σ → List (κ × PageRequest)}

/-! ### Chains of pages -/

/-- What goes on behind some items has gone on behind the first of them. -/
theorem Sequential.goOn_append {α : Type} {absorb : α → List Value → Except Failure (Absorbed α)}
    (h : Sequential absorb) {soFar result : α} {items more : List Value}
    (hresult : absorb soFar (items ++ more) = .ok (.goOn result)) :
    ∃ a, absorb soFar items = .ok (.goOn a) ∧ absorb a more = .ok (.goOn result) := by
  rw [h] at hresult
  obtain ⟨absorbed, hitems, hmore⟩ := ok_of_bind hresult
  cases absorbed with
  | stop r => cases hmore
  | goOn a => exact ⟨a, hitems, hmore⟩

/-- Whether a page holds nothing. -/
def Page.isEmpty (p : Page) : Bool := p.items.isEmpty

/-- **The requests of a chain**: the first one has no token, and the others have the tokens of pages. -/
def PageRequest.chain (request : PageRequest) (pages : List Page) : List PageRequest :=
  (none :: pages.map Page.token).map fun token => { request with token := token }

theorem PageRequest.map_chain (request : PageRequest) (h : request.token = none)
    (pages : List Page) (container : κ) :
    (request.token :: pages.map Page.token).map
        (fun token => (container, { request with token := token }))
      = (request.chain pages).map fun r => (container, r) := by
  rw [h, chain, List.map_map]
  rfl

/-- Behind the pages of a script that are skipped there is one that holds something, or the last one. -/
theorem exists_behind_skipped (pages : List Page) (last : Page) :
    ∃ p rest, pages ++ [last] = pages.takeWhile Page.isEmpty ++ p :: rest
      ∧ (p.isEmpty = true → p = last ∧ rest = []) := by
  have hpages : pages.takeWhile Page.isEmpty ++ pages.dropWhile Page.isEmpty = pages :=
    List.takeWhile_append_dropWhile
  have hhead := List.head?_dropWhile_not Page.isEmpty pages
  cases hdrop : pages.dropWhile Page.isEmpty with
  | nil =>
    rw [hdrop, List.append_nil] at hpages
    exact ⟨last, [], by rw [hpages], fun _ => ⟨rfl, rfl⟩⟩
  | cons p rest =>
    rw [hdrop] at hpages hhead
    have hsome : p.isEmpty = false := by simpa using hhead
    refine ⟨p, rest ++ [last], ?_, fun hnone => ?_⟩
    · rw [← List.cons_append, ← List.append_assoc, hpages]
    · rw [hsome] at hnone
      contradiction

/-- **A chain of pages** goes through pages that lead on, and ends with one that has enough or leads no
further.  Each page is asked for once, with the token of the one before. -/
theorem drain_through {α : Type} {absorb : α → List Value → Except Failure (Absorbed α)}
    (hb : b.Plays script asked) (habsorb : Sequential absorb) (container : κ)
    (request : PageRequest) {read rest : List Page} {p : Page} {patience : Nat} {soFar a result : α}
    {s : Session σ κ} (hscript : script s.outside = some (read ++ p :: rest))
    (hlead : ∀ q ∈ read, leadsOn q.token = true)
    (hread : absorb soFar (read.flatMap Page.items) = .ok (.goOn a))
    (hend : absorb a p.items = .ok (.stop result)
      ∨ absorb a p.items = .ok (.goOn result) ∧ leadsOn p.token = false)
    (hpatience : read.length < patience) :
    ∃ o, drain b container absorb patience request soFar s
        = (.ok result, { s with outside := o }) ∧ script o = some rest
      ∧ asked o = asked s.outside ++ (request.token :: read.map Page.token).map
        fun token => (container, { request with token := token }) := by
  obtain ⟨n, rfl⟩ : ∃ n, patience = n + 1 := Nat.exists_eq_succ_of_ne_zero (by omega)
  induction read generalizing s request soFar n with
  -- The page at hand is the one to end with.
  | nil =>
    obtain ⟨o, hperform, hrest, hasked⟩ := hb.page container request hscript
    have hpage : absorb soFar p.items = absorb a p.items := by
      have happend := habsorb soFar [] p.items
      rw [show absorb soFar [] = .ok (.goOn a) from hread] at happend
      exact happend
    refine ⟨o, ?_, hrest, hasked⟩
    rw [drain, Run.bind_eq, Session.consult_eq, hperform]
    dsimp only
    rw [Run.bind_eq, Run.lift_eq, hpage]
    rcases hend with hstop | ⟨hgoOn, hlast⟩
    · rw [hstop]
      rfl
    · rw [hgoOn]
      dsimp only
      rw [hlast, if_neg Bool.false_ne_true]
      rfl
  | cons q read ih =>
    obtain ⟨hq, hlead⟩ := List.forall_mem_cons.1 hlead
    obtain ⟨o, hperform, hrest, hasked⟩ := hb.page container request hscript
    -- A page before it leaves something to be absorbed later, and leads on.
    obtain ⟨a', hq', hread'⟩ := habsorb.goOn_append hread
    obtain ⟨m, rfl⟩ : ∃ m, n = m + 1 := Nat.exists_eq_succ_of_ne_zero (by
      rw [List.length_cons] at hpatience
      omega)
    obtain ⟨o', hdrain, hrest', hasked'⟩ := ih { request with token := q.token }
      (s := { s with outside := o }) hrest hlead hread' m (Nat.lt_of_succ_lt_succ hpatience)
    refine ⟨o', ?_, hrest', ?_⟩
    · rw [drain, Run.bind_eq, Session.consult_eq, hperform]
      dsimp only
      rw [Run.bind_eq, Run.lift_eq, hq']
      dsimp only
      rw [hq, if_pos rfl]
      exact hdrain
    · rw [hasked', hasked, List.append_assoc]
      rfl

/-! ### What is made of the items -/

/-- **The last item under an id stays**, or what was found under it before. -/
theorem absorbDocuments_found {items : List Value} (hids : ∀ v ∈ items, ∃ id, itemId v = .ok id)
    (found : Entries String Value) :
    ∃ found', absorbDocuments found items = .ok (.goOn found') ∧ ∀ id, found'.get? id
      = (items.filter fun v => (itemId v).toOption = some id).getLast?.or (found.get? id) := by
  induction items generalizing found with
  | nil => exact ⟨found, rfl, fun _ => rfl⟩
  | cons v r ih =>
    obtain ⟨⟨k, hk⟩, hr⟩ := List.forall_mem_cons.1 hids
    obtain ⟨found', habsorb, hfound⟩ := ih hr (found.put k v)
    refine ⟨found', ?_, ?_⟩
    · rw [absorbDocuments, hk]
      exact habsorb
    · intro id
      have hown : (itemId v).toOption = some k := by
        rw [hk]
        rfl
      rw [hfound]
      by_cases hid : k = id
      · rw [List.filter_cons_of_pos (by rw [hown, hid]; exact decide_eq_true rfl),
          List.getLast?_cons, hid, Entries.get?_put_self]
        cases (r.filter fun v => (itemId v).toOption = some id).getLast? <;> rfl
      · rw [List.filter_cons_of_neg (by simpa [hown] using hid), Entries.get?_put_of_ne _ _ hid]

/-- **The numbers of all items are added up.** -/
theorem absorbCounts_sum {items : List Value} {numbers : List Int}
    (h : List.Forall₂ (fun v n => countedNumber v = .ok n) items numbers) (total : Int) :
    absorbCounts total items = .ok (.goOn (total + numbers.sum)) := by
  induction h generalizing total with
  | nil =>
    rw [List.sum_nil, Int.add_zero]
    rfl
  | cons hn _ ih =>
    rw [absorbCounts, hn, List.sum_cons, ← Int.add_assoc]
    exact ih _

/-- Numbers may be added up page by page. -/
theorem absorbCounts_sequential : Sequential absorbCounts := by
  intro total items more
  induction items generalizing total with
  | nil => rfl
  | cons v r ih =>
    rw [List.cons_append, absorbCounts, absorbCounts]
    cases countedNumber v with
    | error e => rfl
    | ok n => exact ih _

/-! ### Calls -/

/-- **The session while a script is played** for an entity: its container is to be had, and neither
have pages been handed out nor been asked for. -/
structure Session.Ready (script : σ → Option (List Page)) (asked : σ → List (κ × PageRequest))
    (entity : String) (container : κ) (s s' : Session σ κ) : Prop where
  registry : s.router.registry.Agrees s'.router.registry
  pageSize : s'.pageSize = s.pageSize
  handle : s'.router.handles.get? entity = some container
  script : script s'.outside = script s.outside
  asked : asked s'.outside = asked s.outside

/-- The container of a known entity is to be had while a script is played. -/
theorem Session.resolve_played (hb : b.Plays script asked) {s : Session σ κ}
    (hfree : s.router.AllFree) {entity : String} {config : ContainerConfig}
    (hknown : (s.router.registry.lookup entity).1 = .ok config) {pages : List Page}
    (hscript : script s.outside = some pages) :
    ∃ container s', resolve b entity s = (.ok container, s')
      ∧ s.Ready script asked entity container s' := by
  cases hhandle : s.router.handles.get? entity with
  | some container =>
    exact ⟨container, s, resolve_cached hhandle, fun _ => rfl, rfl, hhandle, rfl, rfl⟩
  | none =>
    rcases hlookup : s.router.registry.lookup entity with ⟨r, registry⟩
    rw [hlookup] at hknown
    obtain rfl : r = .ok config := hknown
    obtain ⟨container, o, hprovision, hsame, hasked⟩ :=
      hb.provision config.containerId config.partitionPath hscript
    obtain ⟨locks, hresolve, -⟩ := resolve_free b hhandle hlookup hfree hprovision
    have hagrees : s.router.registry.Agrees registry := by
      have hnext := s.router.registry.lookup_agrees entity
      rw [hlookup] at hnext
      exact hnext
    exact ⟨container, _, hresolve, hagrees, rfl, Entries.get?_put_self .., hsame.trans hscript.symm,
      hasked⟩

/-- **A call is answered from a script**: it asks the container of its entity for certain pages, and
leaves the rest of the script. -/
def Call.Draws (b : Backend σ κ) (script : σ → Option (List Page))
    (asked : σ → List (κ × PageRequest)) (s : Session σ κ) (entity : String) (call : Call)
    (answer : Answer κ) (requests : List PageRequest) (rest : List Page) : Prop :=
  ∃ container s', call.run b s = (.ok answer, s')
    ∧ s'.router.handles.get? entity = some container ∧ script s'.outside = some rest
    ∧ asked s'.outside = asked s.outside ++ requests.map fun request => (container, request)

section

variable (hb : b.Plays script asked) {s : Session σ κ} (hfree : s.router.AllFree) {entity : String}
  {config : ContainerConfig} (hentity : Text.isBlankText entity = false)
  (hknown : (s.router.registry.lookup entity).1 = .ok config) {pages : List Page} {last : Page}
  (hscript : script s.outside = some (pages ++ [last]))
  (hlead : ∀ p ∈ pages, leadsOn p.token = true) (hlast : leadsOn last.token = false)

include hb hlead hlast in
/-- **A chain that never has enough** goes through the whole script. -/
theorem drain_played {α : Type} {absorb : α → List Value → Except Failure (Absorbed α)}
    (habsorb : Sequential absorb) (container : κ) (request : PageRequest)
    (htoken : request.token = none) {soFar result : α}
    (hresult : absorb soFar ((pages ++ [last]).flatMap Page.items) = .ok (.goOn result))
    {s : Session σ κ} (hscript : script s.outside = some (pages ++ [last])) :
    ∃ o, drain b container absorb (b.patience s.outside) request soFar s
        = (.ok result, { s with outside := o }) ∧ script o = some []
      ∧ asked o = asked s.outside ++ (request.chain pages).map fun r => (container, r) := by
  have hpatience := hb.patience hscript
  rw [List.length_append, List.length_singleton] at hpatience
  rw [List.flatMap_append, List.flatMap_singleton] at hresult
  obtain ⟨a, hpages, hend⟩ := habsorb.goOn_append hresult
  obtain ⟨o, hdrain, hrest, hasked⟩ := drain_through hb habsorb container request hscript hlead
    hpages (.inr ⟨hend, hlast⟩) hpatience
  exact ⟨o, hdrain, hrest, hasked.trans (congrArg _ (request.map_chain htoken _ _))⟩

include hb hlead hlast in
/-- **A search** goes through the pages up to the first one that is not empty. -/
theorem search_played (container : κ) (request : PageRequest) (htoken : request.token = none)
    {s : Session σ κ} (hscript : script s.outside = some (pages ++ [last])) :
    ∃ o, drain b container absorbFirst (b.patience s.outside) request none s
        = (.ok ((pages ++ [last]).flatMap Page.items).head?, { s with outside := o })
      ∧ script o = some ((pages ++ [last]).dropWhile Page.isEmpty).tail
      ∧ asked o = asked s.outside
        ++ (request.chain (pages.takeWhile Page.isEmpty)).map fun r =>
          (container, r) := by
  obtain ⟨p, rest, hsplit, hp⟩ := exists_behind_skipped pages last
  have hempty : ∀ q ∈ pages.takeWhile Page.isEmpty, q.isEmpty = true :=
    List.all_eq_true.1 List.all_takeWhile
  have hlead' : ∀ q ∈ pages.takeWhile Page.isEmpty, leadsOn q.token = true := fun q hq =>
    hlead q ((List.takeWhile_sublist _).subset hq)
  have hitems : (pages.takeWhile Page.isEmpty).flatMap Page.items = [] :=
    List.flatMap_eq_nil_iff.2 fun q hq => List.isEmpty_iff.1 (hempty q hq)
  -- The empty pages in front leave nothing found.
  have hread : absorbFirst none ((pages.takeWhile Page.isEmpty).flatMap Page.items)
      = .ok (.goOn none) := by
    rw [hitems]
    rfl
  rw [hsplit] at hscript
  have hpatience : (pages.takeWhile Page.isEmpty).length < b.patience s.outside := by
    have hlength := hb.patience hscript
    rw [List.length_append, List.length_cons] at hlength
    omega
  cases hfirst : p.items with
  | nil =>
    -- All pages are empty.
    have hnone : p.isEmpty = true := List.isEmpty_iff.2 hfirst
    obtain ⟨rfl, rfl⟩ := hp hnone
    have hend : absorbFirst none p.items = .ok (.goOn none) := by
      rw [hfirst]
      rfl
    obtain ⟨o, hdrain, hrest, hasked⟩ := drain_through hb absorbFirst_sequential container request
      hscript hlead' hread (.inr ⟨hend, hlast⟩) hpatience
    refine ⟨o, ?_, ?_, hasked.trans (congrArg _ (request.map_chain htoken _ _))⟩
    · rw [hdrain, hsplit, List.flatMap_append, hitems, List.flatMap_singleton, hfirst]
      rfl
    · rw [hrest, hsplit, List.dropWhile_append_of_pos hempty,
        List.dropWhile_cons_of_pos hnone]
      rfl
  | cons v r =>
    -- The first page that is not empty ends the search, and the rest of the script stays.
    have hend : absorbFirst none p.items = .ok (.stop (some v)) := by
      rw [hfirst]
      rfl
    have hsome : ¬ p.isEmpty = true := by
      rw [Page.isEmpty, hfirst]
      exact Bool.false_ne_true
    obtain ⟨o, hdrain, hrest, hasked⟩ := drain_through hb absorbFirst_sequential container request
      hscript hlead' hread (.inl hend) hpatience
    refine ⟨o, ?_, ?_, hasked.trans (congrArg _ (request.map_chain htoken _ _))⟩
    · rw [hdrain, hsplit, List.flatMap_append, hitems, List.flatMap_cons, hfirst]
      rfl
    · rw [hrest, hsplit, List.dropWhile_append_of_pos hempty, List.dropWhile_cons_of_neg hsome]
      rfl

include hb hfree hentity hknown hscript hlead hlast

/-- **Documents that are read by their ids** come from the whole script. -/
theorem readMap_draws {given partition : Value} {ids : List Value}
    (hrequired : requireIds given = .ok ids) (hne : ids ≠ [])
    (hids : ∀ v ∈ (pages ++ [last]).flatMap Page.items, ∃ id, itemId v = .ok id) :
    ∃ found, Call.Draws b script asked s entity (.readMap (some entity) partition given)
        (.documents found)
        ({ statement := Sql.idsStatement ids config.partitionField partition, size := ids.length
           partition := partition : PageRequest }.chain pages) []
      ∧ ∀ id, found.get? id = (((pages ++ [last]).flatMap Page.items).filter fun v =>
        (itemId v).toOption = some id).getLast? := by
  let request : PageRequest :=
    { statement := Sql.idsStatement ids config.partitionField partition, size := ids.length
      partition := partition }
  -- Looking the configuration up may register the entity.
  obtain ⟨s₁, hs₁⟩ : ∃ s₁, s₁ = (Session.configOf entity s).2 := ⟨_, rfl⟩
  have hconfig : Session.configOf entity s = (.ok config, s₁) := hs₁ ▸ Session.configOf_eq hknown
  have happroached : s.Approached b s₁ := hs₁ ▸ Session.configOf_approached entity s
  have houtside : s₁.outside = s.outside := hs₁ ▸ rfl
  have hprepare : (Call.readMap (some entity) partition given).prepare b s
      = (.ok (.ready entity (.readMap request)), s₁) := by
    refine (Run.lift_bind_eq (require_ok hentity) _ s).trans ?_
    refine (Run.lift_bind_eq hrequired _ s).trans ?_
    rw [List.isEmpty_eq_false_iff.2 hne, if_neg Bool.false_ne_true, Run.bind_eq, hconfig]
    rfl
  have hfree₁ : s₁.router.AllFree := fun e => by
    rw [Router.lockOf, happroached.router.locks]
    exact hfree e
  obtain ⟨container, s₂, hresolve, hready⟩ := Session.resolve_played hb hfree₁
    ((happroached.router.registry entity).trans hknown) (houtside ▸ hscript)
  -- Everything on the pages is filed by its id.
  obtain ⟨found, habsorb, hfound⟩ := absorbDocuments_found hids []
  obtain ⟨o, hdrain, hrest, hasked⟩ := drain_played hb hlead hlast absorbDocuments_sequential
    container request rfl habsorb (hready.script.trans (houtside ▸ hscript))
  refine ⟨found, ⟨container, { s₂ with outside := o }, ?_, hready.handle, hrest, ?_⟩, ?_⟩
  · rw [Call.run_of_ready hprepare hresolve]
    show (drain b container absorbDocuments (b.patience s₂.outside) request []
      >>= fun found => pure (Answer.documents found)) s₂ = _
    rw [Run.bind_pure_eq, hdrain]
    rfl
  · rw [hasked, hready.asked, houtside]
  · intro id
    rw [hfound]
    exact Option.or_none

/-- **A count** comes from the whole script. -/
theorem count_draws {input : QueryInput} {q : Query} {statement : Statement} {numbers : List Int}
    (hrequired : requireCounted input = .ok q) (hstatement : Sql.countStatement q = .ok statement)
    (hnumbers : List.Forall₂ (fun v n => countedNumber v = .ok n)
      ((pages ++ [last]).flatMap Page.items) numbers) :
    Call.Draws b script asked s entity (.count (some entity) input) (.count numbers.sum)
      ({ statement := statement, size := s.pageSize : PageRequest }.chain pages) [] := by
  have hprepare : (Call.count (some entity) input).prepare b s
      = (.ok (.ready entity (.count { statement := statement, size := s.pageSize })), s) := by
    refine (Run.lift_bind_eq (require_ok hentity) _ s).trans ?_
    refine (Run.lift_bind_eq hrequired _ s).trans ?_
    rw [hstatement]
    rfl
  obtain ⟨container, s₁, hresolve, hready⟩ := Session.resolve_played hb hfree hknown hscript
  obtain ⟨o, hdrain, hrest, hasked⟩ := drain_played hb hlead hlast absorbCounts_sequential
    container { statement := statement, size := s.pageSize } rfl
    (absorbCounts_sum hnumbers 0) (hready.script.trans hscript)
  refine ⟨container, { s₁ with outside := o }, ?_, hready.handle, hrest, ?_⟩
  · rw [Call.run_of_ready hprepare hresolve]
    show (drain b container absorbCounts (b.patience s₁.outside) _ 0
      >>= fun n => pure (Answer.count n)) s₁ = _
    rw [Run.bind_pure_eq, hdrain, Int.zero_add]
    rfl
  · rw [hasked, hready.asked]

/-- **A document that is looked for in all partitions** is the first one of all pages, and no page behind
it is asked for. -/
theorem read_draws {id : String} (hid : Text.isBlankText id = false)
    (hfield : config.partitionField ≠ Document.idField) :
    Call.Draws b script asked s entity (.read (some entity) (some id) .null)
      (((pages ++ [last]).flatMap Page.items).head?.elim .noDocument fun v =>
        if v.isNull then .noDocument else .document v)
      ((lookupRequest id).chain (pages.takeWhile Page.isEmpty))
      ((pages ++ [last]).dropWhile Page.isEmpty).tail := by
  obtain ⟨container, s₁, hresolve, hready⟩ := Session.resolve_played hb hfree hknown hscript
  let s₂ := (Session.configOf entity s₁).2
  -- The configuration is looked up once more, now to tell how the document is addressed.
  have hconfig : Session.configOf entity s₁ = (.ok config, s₂) :=
    Session.configOf_eq ((hready.registry entity).trans hknown)
  have hscript₂ : script s₂.outside = some (pages ++ [last]) := hready.script.trans hscript
  obtain ⟨o, hdrain, hrest, hasked⟩ := search_played hb hlead hlast container (lookupRequest id)
    rfl hscript₂
  refine ⟨container, { s₂ with outside := o }, ?_, hready.handle, hrest, ?_⟩
  · rw [Call.run_of_ready (Call.prepare_read_eq hentity hid .null) hresolve]
    show (Session.configOf entity >>= fun config =>
      if config.partitionField = Document.idField then readItem b container id (.str id)
      else findItem b container id) s₁ = _
    rw [Run.bind_eq, hconfig]
    dsimp only
    rw [if_neg hfield, findItem, Run.get_bind_eq, Run.bind_eq, hdrain]
    cases ((pages ++ [last]).flatMap Page.items).head? <;> rfl
  · rw [hasked]
    exact congrArg (· ++ _) hready.asked

end

theorem leadsOn_iff (token : Option String) :
    leadsOn token = true ↔ token ≠ none ∧ token ≠ some "" := by
  cases token with
  | none => exact iff_of_false Bool.false_ne_true fun h => h.1 rfl
  | some t =>
    show (!t.isEmpty) = true ↔ _
    rw [Bool.not_eq_true', String.isEmpty_eq_false_iff]
    simp

/-- **Draining pages is complete and exact.**  A backend plays a script of any pages, empty ones among
them, in which all tokens but the last lead on.  Then for a known entity, and whatever the session has
kept so far:

Reading documents by their ids asks for every page once, the first one without a token and each other
one with the token of the page before, and with all else the same.  The last item under an id is found
under it, and nothing else is found.

Counting asks for the pages alike, and adds up the numbers on all of them.

Reading a document in all partitions gives the first item of the first page that is not empty, asks for
the pages up to that one alike and leaves the others.  Unless an item is null, there is no document only
when every page is empty. -/
theorem drained_pages (b : Backend σ κ) (script : σ → Option (List Page))
    (asked : σ → List (κ × PageRequest)) (hb : b.Plays script asked) (s : Session σ κ)
    (hfree : s.router.AllFree) (entity : String) (config : ContainerConfig)
    (hentity : Text.isBlankText entity = false)
    (hknown : (s.router.registry.lookup entity).1 = .ok config) (pages : List Page) (last : Page)
    (hscript : script s.outside = some (pages ++ [last]))
    (hlead : ∀ p ∈ pages, p.token ≠ none ∧ p.token ≠ some "")
    (hlast : last.token = none ∨ last.token = some "") :
    let items := (pages ++ [last]).flatMap Page.items
    (∀ given partition ids, requireIds given = .ok ids → ids ≠ [] →
      (∀ v ∈ items, ∃ id, itemId v = .ok id) →
      let request : PageRequest :=
        { statement := Sql.idsStatement ids config.partitionField partition, size := ids.length
          partition := partition }
      ∃ found, Call.Draws b script asked s entity (.readMap (some entity) partition given)
          (.documents found) (request.chain pages) []
        ∧ ∀ id, found.get? id = (items.filter fun v => (itemId v).toOption = some id).getLast?)
    ∧ (∀ input q statement numbers, requireCounted input = .ok q →
      Sql.countStatement q = .ok statement →
      List.Forall₂ (fun v n => countedNumber v = .ok n) items numbers →
      let request : PageRequest := { statement := statement, size := s.pageSize }
      Call.Draws b script asked s entity (.count (some entity) input) (.count numbers.sum)
        (request.chain pages) [])
    ∧ ∀ id, Text.isBlankText id = false → config.partitionField ≠ Document.idField →
      let answer : Answer κ := items.head?.elim .noDocument fun v =>
        if v.isNull then .noDocument else .document v
      Call.Draws b script asked s entity (.read (some entity) (some id) .null) answer
          ((lookupRequest id).chain (pages.takeWhile Page.isEmpty))
          ((pages ++ [last]).dropWhile Page.isEmpty).tail
        ∧ ((∀ v ∈ items, v.isNull = false) →
          (answer = .noDocument ↔ ∀ p ∈ pages ++ [last], p.isEmpty = true)) := by
  intro items
  have hleads : ∀ p ∈ pages, leadsOn p.token = true := fun p hp => (leadsOn_iff _).2 (hlead p hp)
  -- No token and the empty one both end a chain.
  have hends : leadsOn last.token = false := by
    rcases hlast with hlast | hlast <;> rw [hlast] <;> rfl
  refine ⟨?_, ?_, ?_⟩
  · intro given partition ids hrequired hne hids
    exact readMap_draws hb hfree hentity hknown hscript hleads hends hrequired hne hids
  · intro input q statement numbers hrequired hstatement hnumbers
    exact count_draws hb hfree hentity hknown hscript hleads hends hrequired hstatement hnumbers
  · intro id hid hfield answer
    refine ⟨read_draws hb hfree hentity hknown hscript hleads hends hid hfield, fun hsome => ?_⟩
    -- Nothing is found when no page has an item, and only then as long as no item is null.
    have hempty : items = [] ↔ ∀ p ∈ pages ++ [last], p.isEmpty = true := by
      rw [List.flatMap_eq_nil_iff]
      exact forall₂_congr fun p _ => List.isEmpty_iff.symm
    rw [← hempty]
    dsimp only [answer]
    cases hitems : items with
    | nil => exact iff_of_true rfl rfl
    | cons v r =>
      have hv : v.isNull = false := hsome v (hitems ▸ List.mem_cons_self)
      refine iff_of_false ?_ (List.cons_ne_nil v r)
      rw [List.head?_cons, Option.elim_some, hv, if_neg Bool.false_ne_true]
      exact fun h => by cases h

/-- A session over a database that hands out pages that are given beforehand. -/
def scriptedOrders (pages : List Page) : Session LocalState String :=
  ⟨{ registry := .ofList [⟨"order", "orders", "tenantId"⟩] false }, 10,
    { memory := { script := some pages }, clock := ⟨⟨2024, 1, 1⟩, 0, 0, 0, 0, none⟩
      ids := ⟨[], 0⟩ }⟩

/-- Of two orders with one id, on different pages behind an empty one, reading by ids gives the second
and reading in all partitions the first, after which the last page is left.  And numbers on several
pages are added up. -/
theorem drained_pages_scriptedOrders :
    let order (n : Int) : Value := .object [("id", .str "a"), ("n", .int n)]
    let orders := [⟨[], some "x"⟩, ⟨[order 1], some "y"⟩, ⟨[order 2], none⟩]
    let counts := [⟨[.int 2], some "x"⟩, ⟨[], some "y"⟩, ⟨[.str "3", .int 4], some ""⟩]
    let draws (pages : List Page) := Call.Draws LocalState.backend LocalState.script?
      LocalState.asked (scriptedOrders pages) "order"
    (∃ found requests, draws orders (.readMap (some "order") (.str "t") (.list [.str "a"]))
        (.documents found) requests []
      ∧ requests.map PageRequest.token = [none, some "x", some "y"]
      ∧ found.get? "a" = some (order 2))
    ∧ (∃ requests, draws counts (.count (some "order") (.ready {})) (.count 9) requests []
      ∧ requests.map PageRequest.token = [none, some "x", some "y"])
    ∧ ∃ requests, draws orders (.read (some "order") (some "a") .null) (.document (order 1)) requests
        [⟨[order 2], none⟩]
      ∧ requests.map PageRequest.token = [none, some "x"] := by
  intro order orders counts draws
  have hfree (pages : List Page) : (scriptedOrders pages).router.AllFree := fun e => rfl
  obtain ⟨hread, -, hfirst⟩ := drained_pages LocalState.backend LocalState.script? LocalState.asked
    LocalState.backend_plays (scriptedOrders orders) (hfree orders) "order"
    ⟨"order", "orders", "tenantId"⟩ (by decide) rfl [⟨[], some "x"⟩, ⟨[order 1], some "y"⟩]
    ⟨[order 2], none⟩ rfl (by simp) (.inl rfl)
  obtain ⟨-, hcount, -⟩ := drained_pages LocalState.backend LocalState.script? LocalState.asked
    LocalState.backend_plays (scriptedOrders counts) (hfree counts) "order"
    ⟨"order", "orders", "tenantId"⟩ (by decide) rfl [⟨[.int 2], some "x"⟩, ⟨[], some "y"⟩]
    ⟨[.str "3", .int 4], some ""⟩ rfl (by simp) (.inr rfl)
  refine ⟨?_, ?_, ?_⟩
  · have hids : ∀ v ∈ [order 1, order 2], ∃ id, itemId v = .ok id := by
      intro v hv
      rcases List.mem_pair.1 hv with rfl | rfl <;> exact ⟨"a", rfl⟩
    obtain ⟨found, hdraws, hfound⟩ := hread (.list [.str "a"]) (.str "t") [.str "a"] rfl
      (List.cons_ne_nil _ _) hids
    exact ⟨found, _, hdraws, rfl, hfound "a"⟩
  · obtain ⟨statement, hstatement⟩ : ∃ statement, Sql.countStatement {} = .ok statement := ⟨_, rfl⟩
    have hnumbers : List.Forall₂ (fun v n => countedNumber v = .ok n)
        [.int 2, .str "3", .int 4] [2, 3, 4] :=
      .cons rfl (.cons rfl (.cons rfl .nil))
    exact ⟨_, hcount (.ready {}) {} statement [2, 3, 4] rfl hstatement hnumbers, rfl⟩
  · exact ⟨_, (hfirst "a" (by decide) (by decide)).1, rfl⟩

end EntityStore

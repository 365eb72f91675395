import EntityStore.Filter.Builder
import EntityStore.Store.Call

/-!
# Work in a container

When the container of a call is known, `Work.perform` does what is left.  Reading several
documents, counting and looking for an id in all partitions go through the pages of one request
(`drain`); each page is asked for with the token of the one before.

`Call.run` is a whole call.
-/

namespace EntityStore

/-! ### Going through pages -/

section Pages

variable {σ κ α : Type}

/-- What is made of one page: the result of the whole, or what to go on with. -/
inductive Absorbed (α : Type) where
  | stop (result : α)
  | goOn (soFar : α)

/-- Whether a token leads to another page. -/
def leadsOn (token : Option String) : Bool := !(token.getD "").isEmpty

/-- **Goes through the pages of a request**, one after the other, until there is no further page
or `absorb` has had enough. -/
def drain (b : Backend σ κ) (container : κ)
    (absorb : α → List Value → Except Failure (Absorbed α)) :
    (patience : Nat) → PageRequest → α → Run (Session σ κ) α
  | 0, _, _ => throw .endless
  | n + 1, request, soFar => do
    let page ← Session.consult (b.perform (.page container request))
    match ← absorb soFar page.items with
    | .stop result => return result
    | .goOn soFar =>
      if leadsOn page.token then
        drain b container absorb n { request with token := page.token } soFar
      else return soFar

/-- The first item of a page, which ends the search. -/
def absorbFirst (_ : Option Value) : List Value → Except Failure (Absorbed (Option Value))
  | v :: _ => .ok (.stop (some v))
  | [] => .ok (.goOn none)

/-- The field of an item under which it is filed. -/
def itemId (v : Value) : Except Failure String :=
  match v with
  | .object fields =>
    match Entries.get? fields Document.idField with
    | some id => .ok id.text
    | none => .error (.missingKey Document.idField)
  | .str _ | .scalar (.bytes _) | .list _ | .tuple _ =>
    .error (.misuse (.indexNotInteger (kindOf v)))
  | v => .error (.misuse (.notSubscriptable (kindOf v)))

/-- Files the items of a page under their ids. -/
def absorbDocuments (found : Entries String Value) :
    List Value → Except Failure (Absorbed (Entries String Value))
  | [] => .ok (.goOn found)
  | v :: r => do
    let id ← itemId v
    absorbDocuments (found.put id v) r

/-- The whole number that an item of a count stands for. -/
def countedNumber (v : Value) : Except Failure Int :=
  match v with
  | .bool b => .ok (if b then 1 else 0)
  | .int n => .ok n
  | .float .nan => .error (.notANumber false)
  | .float x => (x.truncate?.map Except.ok).getD (.error (.infiniteNumber false))
  | .scalar (.decimal (.nan ..)) => .error (.notANumber true)
  | .scalar (.decimal d) => (d.truncate?.map Except.ok).getD (.error (.infiniteNumber true))
  | .str s => (Numeral.read s).mapError .numeral
  | .scalar (.bytes b) => (Numeral.readBytes b).mapError .numeral
  | v => .error (.misuse (.notIntegral (kindOf v)))

/-- Adds the items of a page to a total. -/
def absorbCounts (total : Int) : List Value → Except Failure (Absorbed Int)
  | [] => .ok (.goOn total)
  | v :: r => do
    let n ← countedNumber v
    absorbCounts (total + n) r

end Pages

/-! ### Working -/

section Perform

variable {σ κ : Type}

/-- The request for the documents with an id, in whatever partition. -/
def lookupRequest (id : String) : PageRequest :=
  let condition := Sql.filterFrom Sql.documentAlias 0 (Field.eq ⟨Document.idField⟩ (.str id))
  { statement :=
      ⟨"SELECT * FROM " ++ Sql.documentAlias ++ Sql.optionalClause "WHERE" condition.text,
        condition.parameters⟩
    size := 1 }

/-- Reads the document under a key; that there is none is an answer. -/
def readItem (b : Backend σ κ) (container : κ) (id : String) (partition : Value) :
    Run (Session σ κ) (Answer κ) :=
  tryCatch
    (do return .document (← Session.consult (b.perform (.read container id partition))))
    fun
      | .absent .. => return .noDocument
      | e => throw e

/-- Reads the first document with an id, in whatever partition. -/
def findItem (b : Backend σ κ) (container : κ) (id : String) : Run (Session σ κ) (Answer κ) := do
  let patience := b.patience (← get).outside
  match ← drain b container absorbFirst patience (lookupRequest id) none with
  | some v => return if v.isNull then .noDocument else .document v
  | none => return .noDocument

/-- **Does the work of a call of an entity in its container.** -/
def Work.perform (b : Backend σ κ) (entity : String) (container : κ) :
    Work → Run (Session σ κ) (Answer κ)
  | .resolve => return .container container
  | .create body =>
    return .document (← Session.consult (b.perform (.create container body)))
  | .read id partition => do
    if partition.isNull then
      let config ← Session.configOf entity
      if config.partitionField = Document.idField then readItem b container id (.str id)
      else findItem b container id
    else readItem b container id partition
  | .replace id body =>
    return .document (← Session.consult (b.perform (.replace container id body)))
  | .delete id partition => do
    Session.consult (b.perform (.delete container id partition))
    return .deleted
  | .readMap request => do
    let patience := b.patience (← get).outside
    return .documents (← drain b container absorbDocuments patience request [])
  | .query request => do
    let page ← Session.consult (b.perform (.page container request))
    return .page (← inPage page)
  | .count request => do
    let patience := b.patience (← get).outside
    return .count (← drain b container absorbCounts patience request 0)

end Perform

/-- **A whole call.** -/
def Call.run {σ κ : Type} (b : Backend σ κ) (call : Call) : Run (Session σ κ) (Answer κ) := do
  match ← call.prepare b with
  | .answered a => return a
  | .ready entity work => work.perform b entity (← Session.resolve b entity)

end EntityStore

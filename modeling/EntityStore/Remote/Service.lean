import EntityStore.Remote.Wire
import EntityStore.Store.Backend

/-!
# The service of a remote database

A `Service` is what a remote database offers: it provisions containers, answers calls about the
items in one, and hands out the pages of a query.  Each call may fail with an error of the service.

`Service.backend` builds the store on a service.  It translates one error and no other: that a
resource was not found becomes the absence of the document where the call was for one document by
its key, which are reading, replacing and deleting.  Parameters are put in wire form before a query
is made, and of the pages of a query the first is taken.
-/

namespace EntityStore

/-- Why a call was not carried out. -/
inductive ServiceError where
  | answered (e : RemoteError)
  | refused (reason : String)
deriving DecidableEq, Repr

/-- The error as a failure of the store. -/
def ServiceError.toFailure : ServiceError → Failure
  | .answered e => .remote e
  | .refused reason => .refused reason

/-- The error of a call for one document by its key. -/
def ServiceError.toFailureOf (containerId id : String) : ServiceError → Failure
  | .answered e =>
    if e.kind = .resourceNotFound then .absent containerId id (some e) else .remote e
  | .refused reason => .refused reason

/-- A call about one item of a container. -/
inductive ItemCall where
  | create (body : Fields)
  | read (id : String) (partition : Value)
  | replace (id : String) (body : Fields)
  | delete (id : String) (partition : Value)

/-- **What a remote database offers.** -/
structure Service (σ : Type) where
  provision : (containerId path : String) → σ → Except ServiceError Unit × σ
  item : (containerId : String) → ItemCall → σ → Except ServiceError Value × σ
  pages : (containerId : String) → PageRequest → σ → Except ServiceError (List Page) × σ

namespace Service

variable {σ : Type}

/-- A call about an item, made from a request. -/
def callItem (service : Service σ) (containerId : String) (call : ItemCall)
    (failure : ServiceError → Failure) (s : σ) : Except Failure Value × σ :=
  let (r, s) := service.item containerId call s
  (r.mapError failure, s)

/-- The first page of a query; that there is none is like an empty page. -/
def firstPage : List Page → Page
  | p :: _ => p
  | [] => ⟨[], none⟩

/-- **The page that a request is answered with.**  No call is made when a parameter cannot be
sent. -/
def page (service : Service σ) (containerId : String) (request : PageRequest) (s : σ) :
    Except Failure Page × σ :=
  match Parameter.allToWire request.statement.parameters with
  | .error e => (.error e, s)
  | .ok parameters =>
    let statement : Statement := { request.statement with parameters := parameters }
    let (r, s) := service.pages containerId { request with statement := statement } s
    ((r.map firstPage).mapError ServiceError.toFailure, s)

/-- **The answer to a request.** -/
def perform (service : Service σ) (q : Request String) (s : σ) : Except Failure q.Reply × σ :=
  match q with
  | .create container body =>
    service.callItem container (.create body) ServiceError.toFailure s
  | .read container id partition =>
    service.callItem container (.read id partition) (ServiceError.toFailureOf container id) s
  | .replace container id body =>
    service.callItem container (.replace id body) (ServiceError.toFailureOf container id) s
  | .delete container id partition =>
    let (r, s) :=
      service.callItem container (.delete id partition) (ServiceError.toFailureOf container id) s
    (r.map fun _ => (), s)
  | .page container request => service.page container request s

/-- Provisions a container; its handle is its id. -/
def provisionContainer (service : Service σ) (containerId path : String) (s : σ) :
    Except Failure String × σ :=
  let (r, s) := service.provision containerId path s
  ((r.map fun _ => containerId).mapError ServiceError.toFailure, s)

/-- **The store on a service**, with the clock and the source of ids of another backend, which is
also where closing and patience come from. -/
def backend (service : Service σ) (base : Backend σ String) : Backend σ String :=
  { base with
    provision := service.provisionContainer
    perform := service.perform }

end Service

end EntityStore

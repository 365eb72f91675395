import EntityStore.Console.Host
import EntityStore.Store.Memory

/-!
# The local host

Commands can run on the database in memory.  Any endpoint and any key open it, it is not refused
under any name, and all clients see the same documents.
-/

namespace EntityStore

/-- The account of the database in memory. -/
def LocalState.account : Account LocalState where
  connect _ _ s := s
  openDatabase _ s := (.ok (), s)
  close s := s

/-- **The host with the database in memory.** -/
def Console.Host.onMemory (environment : Environment) (files : FileSystem) :
    Console.Host LocalState String where
  environment := environment
  files := files
  account := LocalState.account
  backend := LocalState.backend

end EntityStore

import WaterRegistry.Store.Basic

/-!
# Reaching the store

A client talks to a store that may be out of reach: gone, dropping requests unanswered, or silent.
Only searches are bounded in time, so a silent store shows as a timeout there and as an answer that
never comes elsewhere.
-/

namespace WaterRegistry

/-- How a store deals with requests. -/
inductive Reach where
  | live
  | closed
  | dropping
  | silent
  deriving DecidableEq

/-- A store and the way it can be reached. -/
structure StoreClient where
  reach : Reach
  store : Store
  deriving DecidableEq

/-- The answer to a request; `none` when it never comes. -/
abbrev Reply (α : Type) := Option (Except RegistryError α)

/-- Whether a request buffer can have a size. -/
def isBufferSize (size : Nat) : Bool :=
  0 < size ∧ size < Nat.pow 2 61

namespace StoreClient

/-- The answer to a request that a live store answers with `result`. -/
def reply {α : Type} (client : StoreClient) (result : Except RegistryError α) : Reply α :=
  match client.reach with
  | .live => some result
  | .closed => some (.error .storeClosed)
  | .dropping => some (.error .storeDropped)
  | .silent => none

/-- Asks for an insertion, which only a live store carries out. -/
def insert (client : StoreClient) (insertion : Insertion) : Reply String × StoreClient :=
  let (result, store) := client.store.insert insertion
  (client.reply result, if client.reach = .live then { client with store } else client)

/-- Asks for the document of a type that is stored under an id. -/
def get (client : StoreClient) (entityType osid : String) : Reply (Option Json) :=
  client.reply (.ok (client.store.get? entityType osid))

/-- Asks for the response to a query, however long it takes. -/
def find (client : StoreClient) (query : SearchQuery) : Reply Json :=
  client.reply (.ok (client.store.search query))

/-- Asks for the response to a query, within the time limit. -/
def search (client : StoreClient) (query : SearchQuery) : SearchResult :=
  match client.find query with
  | some (.ok response) => .ok response
  | some (.error error) => .error (.unavailable error.message)
  | none => .error .timeout

end StoreClient
end WaterRegistry

import WaterRegistry.Store.Basic

/-!
# Requests to the store

Three kinds of requests reach the store: to insert a document, to read one back by its id, and to
answer a search.  They are served one after the other, each on the store that the last one has
left.
-/

namespace WaterRegistry

/-- A request to the store. -/
inductive StoreRequest where
  | insert (insertion : Insertion)
  | get (entityType osid : String)
  | search (query : SearchQuery)
  deriving DecidableEq

/-- The answer to a request. -/
inductive StoreAnswer where
  | inserted (result : Except RegistryError String)
  | found (document : Option Json)
  | matched (response : Json)

/-- The id that an answer gives out, if it is that of an insertion that has been accepted. -/
def StoreAnswer.osid? : StoreAnswer → Option String
  | .inserted (.ok osid) => some osid
  | _ => none

namespace Store

/-- Serves a request, and gives the answer with the store after it. -/
def serve (store : Store) : StoreRequest → StoreAnswer × Store
  | .insert insertion => (store.insert insertion).map .inserted id
  | .get entityType osid => (.found (store.get? entityType osid), store)
  | .search query => (.matched (store.search query), store)

/-- Serves requests one after the other, and gives the answers with the store at the end. -/
def serveAll : List StoreRequest → Store → List StoreAnswer × Store
  | [], store => ([], store)
  | request :: rest, store =>
    let (answer, after) := store.serve request
    let (answers, last) := serveAll rest after
    (answer :: answers, last)

end Store
end WaterRegistry

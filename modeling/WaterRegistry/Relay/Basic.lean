import WaterRegistry.Json.Basic

/-!
# The relay

While an entity is being created, its document and type are bound in the relay of the task that
creates it, where generators find them.  A task is outside any relay scope, or inside one with at
most one binding.  Outside, binding and clearing do nothing.
-/

namespace WaterRegistry

/-- The document and type of the entity that is being created. -/
structure Binding where
  payload : Json
  entityType : String
  deriving DecidableEq

/-- What a creation request carries: the first key of the root object and its value. -/
def Binding.ofRoot? : Json → Option Binding
  | .obj ((entityType, payload) :: _) => some ⟨payload, entityType⟩
  | _ => none

/-- The relay as a task sees it. -/
inductive Relay where
  | outside
  | inside (binding : Option Binding)
  deriving DecidableEq

namespace Relay

/-- Whether the task is in a relay scope. -/
def inScope : Relay → Bool
  | outside => false
  | inside _ => true

/-- What is bound. -/
def current : Relay → Option Binding
  | outside => none
  | inside binding => binding

/-- The document that is bound. -/
def payload (relay : Relay) : Option Json :=
  relay.current.map (·.payload)

/-- The entity type that is bound. -/
def entityType (relay : Relay) : Option String :=
  relay.current.map (·.entityType)

/-- Binds an entity in place of what was bound. -/
def set (binding : Binding) : Relay → Relay
  | outside => outside
  | inside _ => inside (some binding)

/-- Removes what is bound. -/
def clear : Relay → Relay
  | outside => outside
  | inside _ => inside none

/-- The relay at the start of a scope. -/
def fresh : Relay :=
  inside none

/-- Binds what a creation request carries, if it carries an entity. -/
def bindRoot (root : Json) (relay : Relay) : Relay :=
  match Binding.ofRoot? root with
  | some binding => relay.set binding
  | none => relay

/-- The relay during the creation that a request asks for. -/
def capturing (root : Json) : Relay :=
  fresh.bindRoot root

end Relay
end WaterRegistry

import WaterRegistry.Registry.Error
import WaterRegistry.Relay.Basic

/-!
# Relay programs

A relay program is a list of steps run on one task.  Some steps are blocks: they run steps of their
own in a relay scope of their own, or on a task of their own.  Every step answers with the relay as
it is after the step; a block also answers with what its steps have answered.

A step can crash, which ends every enclosing block except for a task: there the crash is an answer.
Two sides of a `join` share one task.  Each keeps its own relay, which stands in for the relay of
the task for as long as the side runs a step; the order in which the sides take turns is a schedule.
-/

namespace WaterRegistry
namespace Relay

/-- A step of a relay program. -/
inductive Step where
  | look
  | set (binding : Binding)
  | clear
  | crash
  /-- Steps in a fresh scope. -/
  | scope (steps : List Step)
  /-- Steps on a task of their own. -/
  | spawn (steps : List Step)
  /-- Steps while the entity of a creation request is bound. -/
  | withEntity (root : Json) (steps : List Step)
  /-- The same, in a creation that never ends and is cancelled after its steps. -/
  | cancel (root : Json) (steps : List Step)
  /-- A creation that takes note of the relay and then succeeds or fails. -/
  | capture (root : Json) (fails : Bool)
  /-- Two creations that take turns on the same task. -/
  | join (leftRoot : Json) (left : List Step) (rightRoot : Json) (right : List Step)

/-- What a step answers besides the relay after it. -/
inductive Inner where
  | nothing
  | answers (inner : List (Relay × Inner))
  | crashed
  | captured (result : Except RegistryError String) (seen : Relay)
  | joined (left right : List (Relay × Inner))

/-- The answer of a step: the relay after it, and what the step itself answers. -/
abbrev Answer := Relay × Inner

/-- A step as a change of the relay; there is no answer if it crashes. -/
abbrev Action := Relay → Option Inner × Relay

/-- Runs actions one after the other, up to the first that crashes. -/
def runAll : List Action → Relay → Option (List Answer) × Relay
  | [], relay => (some [], relay)
  | action :: rest, relay =>
    match action relay with
    | (none, relay) => (none, relay)
    | (some inner, after) =>
      let (answers, relay) := runAll rest after
      (answers.map ((after, inner) :: ·), relay)

/-- Runs a body in a fresh scope; the enclosing relay comes back when the scope ends. -/
def inFreshScope {α : Type} (body : Relay → α × Relay) (relay : Relay) : α × Relay :=
  ((body fresh).1, relay)

/-- Binds the entity of a request, runs a body and clears the relay, however the body ends. -/
def bracket {α : Type} (root : Json) (body : Relay → α × Relay) (relay : Relay) : α × Relay :=
  let (result, relay) := body (relay.bindRoot root)
  (result, relay.clear)

/-- Runs a body in a scope in which the entity of a request is bound. -/
def withEntity {α : Type} (root : Json) (body : Relay → α × Relay) : Relay → α × Relay :=
  inFreshScope (bracket root body)

/-- The outcome of the creation that takes note of the relay. -/
def recorderResult (fails : Bool) : Except RegistryError String :=
  if fails then .error (.invalidPayload "recorder failure") else .ok "1-1"

/-- One side of a join: its own relay, the actions still to be run, and the answers so far. -/
structure Side where
  relay : Relay
  remaining : List Action
  answers : List Answer

/-- A side at its start. -/
def Side.start (root : Json) (actions : List Action) : Side :=
  ⟨capturing root, actions, []⟩

/-- Lets a side run its next action with its own relay in place of the task's relay.  Afterwards the
task has its own relay back.  There is no side left if the action crashes. -/
def Side.takeTurn (side : Side) (relay : Relay) : Option Side × Relay :=
  match side.remaining with
  | [] => (some side, relay)
  | action :: rest =>
    match action side.relay with
    | (none, _) => (none, relay)
    | (some inner, after) => (some ⟨after, rest, side.answers ++ [(after, inner)]⟩, relay)

/-- Whose turn it is. -/
inductive Turn where
  | left
  | right
  deriving DecidableEq

/-- Lets two sides take turns by a schedule. -/
def interleave : List Turn → Side → Side → Relay → Option (Side × Side) × Relay
  | [], left, right, relay => (some (left, right), relay)
  | .left :: schedule, left, right, relay =>
    match left.takeTurn relay with
    | (none, relay) => (none, relay)
    | (some left, relay) => interleave schedule left right relay
  | .right :: schedule, left, right, relay =>
    match right.takeTurn relay with
    | (none, relay) => (none, relay)
    | (some right, relay) => interleave schedule left right relay

/-- The schedule of `rounds` rounds in which both sides have their turn. -/
def alternating : Nat → List Turn
  | 0 => []
  | rounds + 1 => .left :: .right :: alternating rounds

mutual

/-- What a step does. -/
def Step.action : Step → Action
  | .look => fun relay => (some .nothing, relay)
  | .set binding => fun relay => (some .nothing, relay.set binding)
  | .clear => fun relay => (some .nothing, relay.clear)
  | .crash => fun relay => (none, relay)
  | .scope steps => fun relay =>
    let (answers, relay) := inFreshScope (runAll (Step.actions steps)) relay
    (answers.map .answers, relay)
  | .spawn steps => fun relay =>
    match (runAll (Step.actions steps) .outside).1 with
    | some answers => (some (.answers answers), relay)
    | none => (some .crashed, relay)
  | .withEntity root steps | .cancel root steps => fun relay =>
    let (answers, relay) := Relay.withEntity root (runAll (Step.actions steps)) relay
    (answers.map .answers, relay)
  | .capture root fails => fun relay =>
    let (seen, relay) := Relay.withEntity root (fun relay => (relay, relay)) relay
    (some (.captured (recorderResult fails) seen), relay)
  | .join leftRoot left rightRoot right => fun relay =>
    let left := Side.start leftRoot (Step.actions left)
    let right := Side.start rightRoot (Step.actions right)
    let rounds := max left.remaining.length right.remaining.length
    let (sides, relay) := interleave (alternating rounds) left right relay
    (sides.map fun sides => .joined sides.1.answers sides.2.answers, relay)

/-- What steps do. -/
def Step.actions : List Step → List Action
  | [] => []
  | step :: rest => step.action :: Step.actions rest

end

/-- Runs a relay program on a task whose relay is `relay`. -/
def run (steps : List Step) (relay : Relay) : Option (List Answer) × Relay :=
  runAll (Step.actions steps) relay

end Relay
end WaterRegistry

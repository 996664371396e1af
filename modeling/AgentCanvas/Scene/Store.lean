import AgentCanvas.Log.Event
import AgentCanvas.Scene.Basic
import AgentCanvas.Scene.IdSource

set_option autoImplicit false

namespace AgentCanvas

open Json

structure Store where
  scene : Scene
  inboxes : List (List Snapshot)
  ids : IdSource

/-- What an operation on the store yields. -/
structure StoreStep (α : Type) where
  answer : α
  store : Store
  events : List Event

structure InvalidPatch where
  id : ElementId
  source : Mismatch

def InvalidPatch.message (fault : InvalidPatch) : String :=
  "invalid patch for element " ++ fault.id.text ++ ": " ++ fault.source.message

namespace Store

def empty (ids : IdSource) : Store :=
  ⟨.empty, [], ids⟩

def subscribe (store : Store) : Store :=
  { store with inboxes := store.inboxes ++ [[]] }

/-- The store with a changed scene, which all observers are told of. -/
def announce (store : Store) (scene : Scene) : Store :=
  { store with scene, inboxes := store.inboxes.map fun inbox => inbox ++ [scene.snapshot] }

/-- Puts a new element on top, under a fresh id. -/
def add (store : Store) (props : ElementProps) : StoreStep ElementId :=
  let (id, ids) := store.ids.draw store.scene.taken
  let scene := store.scene.add ⟨id, props⟩
  { answer := id
    store := { store with ids }.announce scene
    events := [.elementAdded id props.kind scene.elements.length] }

/-- Patches an element. The answer is whether there is one with that id; a patch that does not fit
    changes nothing. -/
def update (store : Store) (id : ElementId) (patch : Fields) :
    StoreStep (Except InvalidPatch Bool) :=
  match store.scene.get? id with
  | none => ⟨.ok false, store, [.updateMissed id]⟩
  | some element =>
    match element.props.merged patch with
    | .error source => ⟨.error ⟨id, source⟩, store, []⟩
    | .ok props =>
      ⟨.ok true, store.announce (store.scene.update id props), [.elementUpdated id patch.length]⟩

/-- Takes an element out. The answer is whether there was one. -/
def remove (store : Store) (id : ElementId) : StoreStep Bool :=
  if store.scene.contains id then
    let scene := store.scene.remove id
    ⟨true, store.announce scene, [.elementRemoved id scene.elements.length]⟩
  else ⟨false, store, [.removeMissed id]⟩

/-- Selects an id, whether or not an element has it, or nothing. -/
def select (store : Store) (selected : Option ElementId) : StoreStep Unit :=
  { answer := ()
    store := store.announce (store.scene.select selected)
    events := [.selectionChanged selected (selected.any store.scene.contains)] }

def clearSelection (store : Store) : StoreStep Unit :=
  store.select none

def clearAll (store : Store) : StoreStep Nat :=
  let removed := store.scene.elements.length
  ⟨removed, store.announce .empty, [.sceneCleared removed]⟩

end Store
end AgentCanvas

import AgentCanvas.Element.Basic

set_option autoImplicit false

namespace AgentCanvas

open Json

structure Scene where
  elements : List Element
  selected : Option ElementId
  deriving DecidableEq, Repr

namespace Scene

def empty : Scene :=
  ⟨[], none⟩

def ids (scene : Scene) : List ElementId :=
  scene.elements.map Element.id

def get? (scene : Scene) (id : ElementId) : Option Element :=
  scene.elements.find? fun element => element.id == id

def contains (scene : Scene) (id : ElementId) : Bool :=
  (scene.get? id).isSome

def isSelected (scene : Scene) (id : ElementId) : Bool :=
  scene.selected == some id && scene.contains id

/-- The ids a new element must not get: those of the elements, and the selected one. -/
def taken (scene : Scene) : List ElementId :=
  scene.selected.toList ++ scene.ids

def add (scene : Scene) (element : Element) : Scene :=
  { scene with elements := scene.elements ++ [element] }

/-- Replaces the properties of the first element with an id. -/
def setProps (id : ElementId) (props : ElementProps) : List Element → List Element
  | [] => []
  | element :: rest =>
    if element.id = id then { element with props } :: rest else element :: setProps id props rest

def update (scene : Scene) (id : ElementId) (props : ElementProps) : Scene :=
  { scene with elements := setProps id props scene.elements }

def dropElement (id : ElementId) : List Element → List Element
  | [] => []
  | element :: rest => if element.id = id then rest else element :: dropElement id rest

/-- Takes an element out, with the selection if it names that element. -/
def remove (scene : Scene) (id : ElementId) : Scene where
  elements := dropElement id scene.elements
  selected := if scene.selected = some id then none else scene.selected

def select (scene : Scene) (selected : Option ElementId) : Scene :=
  { scene with selected }

end Scene

structure SnapshotEntry where
  element : Element
  selected : Bool
  deriving DecidableEq, Repr

structure Snapshot where
  entries : List SnapshotEntry
  selectedId : Option ElementId
  deriving DecidableEq, Repr

namespace SnapshotEntry

def json (entry : SnapshotEntry) : Value :=
  .object (entry.element.fields ++ [("selected", .bool entry.selected)])

end SnapshotEntry

namespace Snapshot

def capture (elements : List Element) (selected : Option ElementId) : Snapshot where
  entries := elements.map fun element => ⟨element, selected == some element.id⟩
  selectedId := selected

def get? (snapshot : Snapshot) (id : ElementId) : Option SnapshotEntry :=
  snapshot.entries.find? fun entry => entry.element.id == id

def flagged (snapshot : Snapshot) : List SnapshotEntry :=
  snapshot.entries.filter SnapshotEntry.selected

def size (snapshot : Snapshot) : Nat :=
  snapshot.entries.length

def json (snapshot : Snapshot) : Value :=
  .object [
    ("elements", .array (snapshot.entries.map SnapshotEntry.json)),
    ("selectedId", match snapshot.selectedId with | some id => id.json | none => .null)]

end Snapshot

def Scene.snapshot (scene : Scene) : Snapshot :=
  .capture scene.elements scene.selected

end AgentCanvas

import MotionStage.Data.Strings
import MotionStage.Sdk.LateDelegate
import MotionStage.Sdk.SceneSpec

/-!
This module contains the way of a position into Blender: the event pump of the Python SDK reads the
attributes of the active scene, sends those whose `repr` has changed, and the adapter writes them
into the objects that have their names.
-/

namespace MotionStage

variable {F : Floats}

namespace Sdk

open MotionStageServer (attributeChanges)

/--
What the adapter uses of `bpy`: the indexed access to the `location` of an object, and the value
that a slot has after a float has been assigned to it.
-/
structure Bpy (F : Floats) where
  Location : Type
  Slot : Type
  /-- `location[i]` -/
  getItem : Location → Fin 3 → Slot
  /-- `location[i] = value`, with `false` if it raises -/
  setItem : Location → Fin 3 → PyAny F → Location × Bool
  stored : F.f64 → Slot

namespace Bpy

variable (bpy : Bpy F)

/--
The assignments of a position to some slots, up to the first one that raises. An index that the
value does not have raises, too.
-/
def assign (value : List (PyAny F)) (location : bpy.Location)
    : List (Fin 3) → bpy.Location × Bool
  | [] => (location, true)
  | i :: is =>
    match value[i.val]? with
    | none => (location, false)
    | some item =>
      match bpy.setItem location i item with
      | (location, true) => assign value location is
      | (location, false) => (location, false)

def Reads (location : bpy.Location) (value : PyAny F) : Prop :=
  ∃ x y z rest, value = .list (.float x :: .float y :: .float z :: rest)
    ∧ bpy.getItem location 0 = bpy.stored x
    ∧ bpy.getItem location 1 = bpy.stored y
    ∧ bpy.getItem location 2 = bpy.stored z

variable {bpy}

end Bpy

variable {bpy : Bpy F}

structure BlenderObject (bpy : Bpy F) where
  location : Option bpy.Location

abbrev BlenderObjects (bpy : Bpy F) := IndexMap String (BlenderObject bpy)

/--
The list that an event writes, if its attribute is a position.
-/
def positionItems (event : AttributeChange (PyAny F)) : Option (List (PyAny F)) :=
  match event.value with
  | .list items => if event.attributeName = "position" then some items else none
  | _ => none

namespace BlenderAdapter

/--
The body of the loop over a batch. `false` stands for an exception.
-/
def onAttribute (objects : BlenderObjects bpy) (event : AttributeChange (PyAny F))
    : BlenderObjects bpy × Bool :=
  match objects.get? event.objectName with
  | none => (objects, true)
  | some obj =>
    match obj.location, positionItems event with
    | some location, some value =>
      let (location, ok) := bpy.assign value location [0, 1, 2]
      (objects.insert event.objectName { obj with location := some location }, ok)
    | _, _ => (objects, true)

def onAttributeBatch (objects : BlenderObjects bpy)
    : List (AttributeChange (PyAny F)) → BlenderObjects bpy × Bool
  | [] => (objects, true)
  | event :: batch =>
    match onAttribute objects event with
    | (objects, true) => onAttributeBatch objects batch
    | (objects, false) => (objects, false)

/--
The pump catches what a batch raises.
-/
def after (objects : BlenderObjects bpy) : DelegateCall (PyAny F) → BlenderObjects bpy
  | .onAttributeBatch batch => (onAttributeBatch objects batch).1
  | .onClientEvent _ | .onModeEvent _ => objects

end BlenderAdapter

/--
`runtime_attribute_values` of the Python module.
-/
def polledRows (s : RuntimeCore F) : List (AttributeRow (PyAny F)) :=
  (runtimeAttributeValues s).map fun row =>
    ⟨some (strip row.objectId), some row.objectName, some row.attributeName, row.value⟩

/--
A server with a Blender adapter that was bound before it is started. `rows` are the last rows that
the pump has cached.
-/
structure Viewport (F : Floats) where
  server : ServerState F
  sdk : MotionStageServer (PyAny F)
  rows : List (AttributeRow (PyAny F))

inductive ViewportEvent (F : Floats) where
  /-- any call of the server, or a client of it -/
  | server (op : ServerOp F)
  | start
  | stop
  | pollSessions (order : SetOrder) (sessions : List SessionRow)
  | pollMode (mode : String)
  | pollAttributes

namespace Viewport

variable (lower : String → String) (repr : PyAny F → String)

def start (config : ServerConfig) : Viewport F :=
  ⟨.new config, MotionStageServer.new.bindDelegate, []⟩

def pollAttributes (v : Viewport F) : Viewport F :=
  let rows := polledRows v.server.runtime
  { v with
    sdk := v.sdk.emitRuntimeAttributeBatch repr rows
    rows := if rows.isEmpty then v.rows else rows }

/--
A poll that comes after `stop` does nothing.
-/
def step (v : Viewport F) : ViewportEvent F → Viewport F
  | .server op => { v with server := v.server.step op }
  | .start => { v with sdk := v.sdk.start }
  | .stop => { v with sdk := v.sdk.stop, rows := [] }
  | .pollSessions order sessions =>
    if v.sdk.pumping then
      { v with sdk := v.sdk.emitClientDeltas lower order sessions }
    else
      v
  | .pollMode mode =>
    if v.sdk.pumping then { v with sdk := (v.sdk.emitModeDelta lower mode).2 } else v
  | .pollAttributes => if v.sdk.pumping then v.pollAttributes repr else v

def shown (objects : BlenderObjects bpy) (v : Viewport F) : BlenderObjects bpy :=
  v.sdk.sent.foldl BlenderAdapter.after objects

def positions (rows : List (AttributeRow (PyAny F))) : List (AttributeChange (PyAny F)) :=
  (attributeChanges rows).filter fun change => (positionItems change).isSome

/--
Every object that has the name of an object of the active scene shows a value with the `repr` of its
position.
-/
def Mirrors (repr : PyAny F → String) (objects : BlenderObjects bpy) (v : Viewport F) : Prop :=
  ∀ row ∈ runtimeAttributeValues v.server.runtime, strip row.attributeName = "position" →
    ∀ items, row.value = .list items →
      ∀ obj location, (v.shown objects).get? (strip row.objectName) = some obj →
        obj.location = some location →
          ∃ value, bpy.Reads location value ∧ repr value = repr row.value

end Viewport

section Adapter

/--
The objects show the values that the table has under their names.
-/
def Agrees (objects : BlenderObjects bpy) (table : String → Option (AttributeChange (PyAny F)))
    : Prop :=
  ∀ name obj location, objects.get? name = some obj → obj.location = some location →
    ∀ change, table name = some change → bpy.Reads location change.value

end Adapter

namespace Viewport

variable {lower : String → String} {repr : PyAny F → String} {objects : BlenderObjects bpy}

mutual

/--
`repr` of an object without dictionaries whose floats are integers.
-/
def demoRepr : PyAny Floats.rational → String
  | .pyNone => "None"
  | .bool v => if v then "True" else "False"
  | .int v => toString v
  | .float v => toString (Rat.num v) ++ ".0"
  | .str v => "'" ++ v ++ "'"
  | .list items => "[" ++ ", ".intercalate (demoReprs items) ++ "]"
  | .dict _ => "\x7b\x7d"

def demoReprs : List (PyAny Floats.rational) → List String
  | [] => []
  | item :: items => demoRepr item :: demoReprs items

end

end Viewport

end Sdk

end MotionStage

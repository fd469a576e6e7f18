import Mathlib.Data.List.Sort
import MotionStage.Data.Delta
import MotionStage.Data.Text

/-!
This module contains the `MotionStageServer` of the Python SDK as far as it notifies its delegate:
three polls compare what they get with what they have cached and send the differences.
`str.lower` and `repr` enter as functions.
-/

namespace MotionStage

namespace Sdk

/--
`str.isspace`, which adds the four separators of ASCII to the Unicode property.
-/
def isspace (c : Char) : Bool := Text.isWhitespace c || (0x1C ≤ c.toNat && c.toNat ≤ 0x1F)

def strip (s : String) : String :=
  String.ofList ((s.toList.dropWhile isspace).reverse.dropWhile isspace).reverse

def orElse (s t : String) : String := if s = "" then t else s

def tidied (values : Option (List String)) : List String :=
  (((values.getD []).map strip).filter fun s => decide (s ≠ "")).insertionSort (· ≤ ·)

/--
A session as `sessions` returns it. A key that is not in the dictionary is `none`.
-/
structure SessionRow where
  deviceId : Option String
  deviceName : Option String
  sessionId : Option String
  roles : Option (List String)
  features : Option (List String)
  advertisedAttributes : Option (List String)
  state : Option String

structure KnownClient where
  deviceName : String
  roles : List String
  features : List String
  advertisedAttributes : List String
  state : String
deriving DecidableEq

structure Client where
  deviceId : String
  known : KnownClient
  sessionId : Option String
deriving DecidableEq

inductive ClientEvent where
  | upsert (client : Client)
  | removed (deviceId : String)
deriving DecidableEq

structure AttributeRow (α : Type) where
  objectId : Option String
  objectName : Option String
  attributeName : Option String
  value : α

structure AttributeChange (α : Type) where
  objectId : String
  objectName : String
  attributeName : String
  value : α
deriving DecidableEq

inductive DelegateCall (α : Type) where
  | onClientEvent (event : ClientEvent)
  | onModeEvent (mode : String)
  | onAttributeBatch (batch : List (AttributeChange α))
deriving DecidableEq

structure SetOrder where
  order : List String → List String
  perm : ∀ ids, (order ids).Perm ids

def SetOrder.listed : SetOrder := ⟨id, fun _ => .refl _⟩

/--
`str.lower` for ASCII texts.
-/
def asciiLower (s : String) : String := String.ofList (s.toList.map Char.toLower)

def client? (lower : String → String) (session : SessionRow) : Option Client :=
  let deviceId := strip (session.deviceId.getD "")
  if deviceId = "" then
    none
  else
    let state := strip (session.state.getD "")
    if lower state = "closed" then
      none
    else
      some
        { deviceId := deviceId
          known :=
            { deviceName :=
                orElse (strip (orElse (session.deviceName.getD "") deviceId)) deviceId
              roles := tidied session.roles
              features := tidied session.features
              advertisedAttributes := tidied session.advertisedAttributes
              state := state }
          sessionId := session.sessionId }

def attributeChange? {α : Type} (row : AttributeRow α) : Option (AttributeChange α) :=
  let objectId := strip (row.objectId.getD "")
  let objectName := strip (row.objectName.getD "")
  let attributeName := strip (row.attributeName.getD "")
  if orElse objectId objectName = "" ∨ attributeName = "" then
    none
  else
    some ⟨objectId, objectName, attributeName, row.value⟩

def AttributeChange.key {α : Type} (change : AttributeChange α) : String × String :=
  (orElse change.objectId change.objectName, change.attributeName)

/--
`delegate` is what the bound delegate has been sent since it was bound.
-/
structure MotionStageServer (α : Type) where
  running : Bool
  pumping : Bool
  delegate : Option (List (DelegateCall α))
  knownClients : IndexMap String KnownClient
  knownMode : Option String
  knownAttributeValues : IndexMap (String × String) String

namespace MotionStageServer

variable {α : Type}

def new : MotionStageServer α := ⟨false, false, none, .empty, none, .empty⟩

def bindDelegate (s : MotionStageServer α) : MotionStageServer α :=
  { s with delegate := some [], pumping := s.pumping || s.running }

def start (s : MotionStageServer α) : MotionStageServer α :=
  { s with running := true, pumping := true }

def stop (s : MotionStageServer α) : MotionStageServer α :=
  { s with
    running := false
    pumping := false
    knownClients := .empty
    knownMode := none
    knownAttributeValues := .empty }

/--
`emit_client_event`, `emit_mode_event` and `emit_attribute_batch`.
-/
def emit (s : MotionStageServer α) (call : DelegateCall α) : MotionStageServer α :=
  { s with delegate := s.delegate.map fun calls => calls ++ [call] }

def emitSession (lower : String → String) (known : IndexMap String KnownClient)
    (p : MotionStageServer α × IndexMap String KnownClient) (session : SessionRow)
    : MotionStageServer α × IndexMap String KnownClient :=
  match client? lower session with
  | none => p
  | some client =>
    let s :=
      if known.get? client.deviceId ≠ some client.known then
        p.1.emit (.onClientEvent (.upsert client))
      else
        p.1
    (s, p.2.insert client.deviceId client.known)

def emitClientDeltas (lower : String → String) (order : SetOrder) (s : MotionStageServer α)
    (sessions : List SessionRow) : MotionStageServer α :=
  let (s, current) := sessions.foldl (emitSession lower s.knownClients) (s, .empty)
  let gone := s.knownClients.keys.filter fun deviceId => !current.contains deviceId
  let s := (order.order gone).foldl (fun s deviceId => s.emit (.onClientEvent (.removed deviceId))) s
  { s with knownClients := current }

def emitModeDelta (lower : String → String) (s : MotionStageServer α) (mode : String)
    : Bool × MotionStageServer α :=
  let normalized := lower (strip mode)
  if normalized = "" ∨ some normalized = s.knownMode then
    (false, s)
  else
    (true, { s with knownMode := some normalized }.emit (.onModeEvent normalized))

def emitRow (repr : α → String) (known : IndexMap (String × String) String)
    (p : List (AttributeChange α) × IndexMap (String × String) String) (row : AttributeRow α)
    : List (AttributeChange α) × IndexMap (String × String) String :=
  match attributeChange? row with
  | none => p
  | some change =>
    let changedBatch :=
      if known.get? change.key ≠ some (repr change.value) then p.1 ++ [change] else p.1
    (changedBatch, p.2.insert change.key (repr change.value))

def emitRuntimeAttributeBatch (repr : α → String) (s : MotionStageServer α)
    (rows : List (AttributeRow α)) : MotionStageServer α :=
  if rows.isEmpty then
    s
  else
    let (changedBatch, nextValues) := rows.foldl (emitRow repr s.knownAttributeValues) ([], .empty)
    let s := { s with knownAttributeValues := nextValues }
    if changedBatch.isEmpty then s else s.emit (.onAttributeBatch changedBatch)

def clients (lower : String → String) (sessions : List SessionRow) : List Client :=
  sessions.filterMap (client? lower)

def clientEvents (lower : String → String) (order : SetOrder) (known : IndexMap String KnownClient)
    (sessions : List SessionRow) : List ClientEvent :=
  (Delta.changes Client.deviceId Client.known known (clients lower sessions)).map .upsert
    ++ (order.order (Delta.vanished Client.deviceId Client.known known
        (clients lower sessions))).map .removed

def attributeChanges (rows : List (AttributeRow α)) : List (AttributeChange α) :=
  rows.filterMap attributeChange?

def emitAll (s : MotionStageServer α) (calls : List (DelegateCall α)) : MotionStageServer α :=
  { s with delegate := s.delegate.map fun sent => sent ++ calls }

theorem foldl_emit (s : MotionStageServer α) (calls : List (DelegateCall α))
    : calls.foldl emit s = s.emitAll calls := by
  induction calls generalizing s with
  | nil => simp [emitAll]
  | cons call calls ih =>
    rw [List.foldl_cons, ih]
    simp [emitAll, emit, Function.comp_def]

theorem foldl_emit_map {β : Type} (s : MotionStageServer α) (call : β → DelegateCall α)
    (items : List β)
    : items.foldl (fun s item => s.emit (call item)) s = s.emitAll (items.map call) := by
  rw [← foldl_emit, List.foldl_map]

theorem emitSession_eq (lower : String → String) (known : IndexMap String KnownClient)
    : emitSession (α := α) lower known
        = Delta.pollRow Client.deviceId Client.known (client? lower)
            (fun s client => s.emit (.onClientEvent (.upsert client))) known := by
  funext p session
  simp only [emitSession, Delta.pollRow]
  cases client? lower session <;> rfl

theorem emitClientDeltas_eq (lower : String → String) (order : SetOrder) (s : MotionStageServer α)
    (sessions : List SessionRow)
    : s.emitClientDeltas lower order sessions
        =
      { s.emitAll ((clientEvents lower order s.knownClients sessions).map .onClientEvent) with
        knownClients := Delta.cache Client.deviceId Client.known (clients lower sessions) } := by
  rw [emitClientDeltas, emitSession_eq, Delta.foldl_pollRow, ← clients]
  simp only [foldl_emit_map]
  simp only [emitAll, clientEvents, List.map_append, List.map_map, Option.map_map]
  congr 2
  funext sent
  simp [Delta.vanished, Function.comp_def]

def attributeCalls (repr : α → String) (known : IndexMap (String × String) String)
    (rows : List (AttributeRow α)) : List (DelegateCall α) :=
  let batch :=
    Delta.changes AttributeChange.key (fun change => repr change.value) known (attributeChanges rows)
  if batch.isEmpty then [] else [.onAttributeBatch batch]

theorem emitRow_eq (repr : α → String) (known : IndexMap (String × String) String)
    : emitRow repr known
        = Delta.pollRow AttributeChange.key (fun change => repr change.value) attributeChange?
            (fun batch change => batch ++ [change]) known := by
  funext p row
  simp only [emitRow, Delta.pollRow]
  cases attributeChange? row <;> rfl

theorem emit_batch (s : MotionStageServer α) (batch : List (AttributeChange α))
    : (if batch.isEmpty then s else s.emit (.onAttributeBatch batch))
        = s.emitAll (if batch.isEmpty then [] else [.onAttributeBatch batch]) := by
  cases batch with
  | nil => simp [emitAll]
  | cons => rfl

theorem emitRuntimeAttributeBatch_eq (repr : α → String) (s : MotionStageServer α)
    {rows : List (AttributeRow α)} (hrows : rows ≠ [])
    : s.emitRuntimeAttributeBatch repr rows
        =
      { s.emitAll (attributeCalls repr s.knownAttributeValues rows) with
        knownAttributeValues :=
          Delta.cache AttributeChange.key (fun change => repr change.value)
            (attributeChanges rows) } := by
  have hconcat (batch changes : List (AttributeChange α))
      : changes.foldl (fun batch change => batch ++ [change]) batch = batch ++ changes := by
    simp [List.foldl_append_eq_append, ← List.flatMap_def]
  rw [emitRuntimeAttributeBatch, if_neg (by simpa using hrows), emitRow_eq, Delta.foldl_pollRow]
  simp only [hconcat, List.nil_append]
  exact emit_batch { s with knownAttributeValues := _ } _

end MotionStageServer

end Sdk

end MotionStage

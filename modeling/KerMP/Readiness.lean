/-
Readiness of one player and of the whole session (`kermp/readiness.py`).

The fields hold whatever they are set to, what a client sent too, and are read by truth value. `advance` derives the
lifecycle state from them (`advance_gameReady`: what the state a game waits for means).
-/
import KerMP.Lib.PyValue

namespace KerMP

open Py

inductive PlayerLifecycle where
  | connected | compatibilityChecked | compatible | saveSyncing | saveSynced | simsBridgeWaiting | simsBridgeConnected
  | zoneLoading | zoneReady | gameReady | inSession | disconnected | error
deriving DecidableEq, Repr

def PlayerLifecycle.value : PlayerLifecycle → String
  | .connected => "CONNECTED"
  | .compatibilityChecked => "COMPATIBILITY_CHECKED"
  | .compatible => "COMPATIBLE"
  | .saveSyncing => "SAVE_SYNCING"
  | .saveSynced => "SAVE_SYNCED"
  | .simsBridgeWaiting => "SIMS_BRIDGE_WAITING"
  | .simsBridgeConnected => "SIMS_BRIDGE_CONNECTED"
  | .zoneLoading => "ZONE_LOADING"
  | .zoneReady => "ZONE_READY"
  | .gameReady => "GAME_READY"
  | .inSession => "IN_SESSION"
  | .disconnected => "DISCONNECTED"
  | .error => "ERROR"

structure PlayerReadiness where
  state : PlayerLifecycle := .connected
  compatibilityReasons : Json := .arr []
  saveBytesReceived : Json := .int 0
  saveTotalBytes : Json := .int 0
  saveHash : Json := .str ""
  bridgeConnected : Json := .bool false
  zoneReady : Json := .bool false
  simulationAuthorityReady : Json := .bool false
  nativeReady : Json := .bool false
  error : Json := .str ""
deriving DecidableEq

namespace PlayerReadiness

/-- the value of the chain of `and`s, whatever its type -/
def ready (r : PlayerReadiness) : Json :=
  (Json.bool !r.compatibilityReasons.truthy).and ((Json.bool !(r.saveHash.pyEq (.str ""))).and (r.bridgeConnected.and
    (r.zoneReady.and (r.simulationAuthorityReady.and (r.nativeReady.and (.bool !r.error.truthy))))))

def advance (r : PlayerReadiness) : PlayerReadiness :=
  { r with state :=
      if r.error.truthy then .error
      else if r.ready.truthy then .gameReady
      else if r.zoneReady.truthy then .zoneReady
      else if r.bridgeConnected.truthy then .simsBridgeConnected
      else if r.saveHash.truthy then .saveSynced
      else if r.saveTotalBytes.truthy then .saveSyncing
      else if r.compatibilityReasons.truthy then .compatibilityChecked
      else .compatible }

/-- a division of what the client sent: it may raise -/
def saveProgress (r : PlayerReadiness) : Except Exc Json :=
  if r.saveTotalBytes.truthy then Json.trueDiv r.saveBytesReceived r.saveTotalBytes else .ok (.float (.dec false 0 0))

def snapshot (r : PlayerReadiness) : Except Exc (List (String × Json)) := do
  let progress ← r.saveProgress
  return [("state", .str r.state.value), ("compatibility_reasons", r.compatibilityReasons),
    ("save_bytes_received", r.saveBytesReceived), ("save_total_bytes", r.saveTotalBytes), ("save_hash", r.saveHash),
    ("bridge_connected", r.bridgeConnected), ("zone_ready", r.zoneReady),
    ("simulation_authority_ready", r.simulationAuthorityReady), ("native_ready", r.nativeReady),
    ("error", r.error), ("save_progress", progress), ("ready", r.ready)]

/-- `setattr(ready, key, value)`; None for a key that is not an attribute. No caller passes the name of a method. -/
def setField (r : PlayerReadiness) (key : String) (v : Json) : Option PlayerReadiness :=
  match key with
  | "state" => some r -- `advance` sets it again
  | "compatibility_reasons" => some { r with compatibilityReasons := v }
  | "save_bytes_received" => some { r with saveBytesReceived := v }
  | "save_total_bytes" => some { r with saveTotalBytes := v }
  | "save_hash" => some { r with saveHash := v }
  | "bridge_connected" => some { r with bridgeConnected := v }
  | "zone_ready" => some { r with zoneReady := v }
  | "simulation_authority_ready" => some { r with simulationAuthorityReady := v }
  | "native_ready" => some { r with nativeReady := v }
  | "error" => some { r with error := v }
  | _ => none

/-- the fields a client may set -/
def clientFields : List String :=
  ["save_bytes_received", "save_total_bytes", "save_hash", "bridge_connected", "zone_ready",
    "simulation_authority_ready", "error"]

/-- none of them is what the host derives from the manifest -/
theorem setField_client {key : String} (hkey : key ∈ clientFields) (r : PlayerReadiness) (v : Json) :
    ∃ r', r.setField key v = some r' ∧ r'.compatibilityReasons = r.compatibilityReasons ∧
      r'.nativeReady = r.nativeReady := by
  simp only [clientFields, List.mem_cons, List.not_mem_nil, or_false] at hkey
  rcases hkey with rfl | rfl | rfl | rfl | rfl | rfl | rfl <;> exact ⟨_, rfl, rfl, rfl⟩

/-- `state` does not feed back into itself -/
theorem advance_advance (r : PlayerReadiness) : r.advance.advance = r.advance := rfl

theorem advance_gameReady {r : PlayerReadiness} :
    r.advance.state = .gameReady ↔ r.error.truthy = false ∧ r.ready.truthy = true := by
  unfold advance
  by_cases he : r.error.truthy = true
  · simp [he]
  · by_cases hr : r.ready.truthy = true
    · simp [he, hr]
    · simp only [he, hr]
      simp only [Bool.false_eq_true, if_false, and_false, iff_false]
      split_ifs <;> simp

end PlayerReadiness

/-- the session's readiness, field by field in the order of its snapshot -/
structure P0CoreReadiness where
  compatibilityReady : Bool
  saveReady : Bool
  bridgeReady : Bool
  zoneReady : Bool
  simulationAuthorityReady : Bool
  clockReady : Bool
  interactionRouterReady : Bool
  dialogRouterReady : Bool
  travelReady : Bool
  nativeBuildBuyReady : Bool
deriving DecidableEq

namespace P0CoreReadiness

/-- `asdict(self)` -/
def asdict (c : P0CoreReadiness) : List (String × Bool) :=
  [("compatibility_ready", c.compatibilityReady), ("save_ready", c.saveReady), ("bridge_ready", c.bridgeReady),
    ("zone_ready", c.zoneReady), ("simulation_authority_ready", c.simulationAuthorityReady),
    ("clock_ready", c.clockReady), ("interaction_router_ready", c.interactionRouterReady),
    ("dialog_router_ready", c.dialogRouterReady), ("travel_ready", c.travelReady),
    ("native_build_buy_ready", c.nativeBuildBuyReady)]

def coreReady (c : P0CoreReadiness) : Bool := c.asdict.all (·.2)

end P0CoreReadiness

end KerMP

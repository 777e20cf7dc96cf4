/-
The host as a whole: what can happen to it, and its runs.

An event is a line on some connection or an event of the host's game. A connection handles one line at a time, its
first line is a hello. Events of the game do not wait for each other: `run_coroutine_threadsafe` starts one task for
each. A run is a `Pool.run`: any order of arrivals and resumptions.
-/
import KerMP.Host.Game

namespace KerMP.Host

open Py Coop
open Coro hiding pure get modify

inductive Event where
  | line (conn : ℕ) (r : Recv)
  | game (event : BridgeEvent)

/-- the handler an event starts -/
def handle : Event → HostM Unit
  | .line conn r => do
    let h ← Coro.get
    match h.conns.lookup conn with
    | none => handleHello conn r
    | some (.idle player) => handleLine conn player r
    | some _ => pure ()
  | .game event => onGameEvent event

/-- a connection whose handler is at work or has ended yields no line -/
def enabled (h : Host) : Event → Bool
  | .line conn _ =>
    match h.conns.lookup conn with
    | none | some (.idle _) => true
    | some _ => false
  | .game _ => true

/-- a new host has added its own player -/
def init (playerId displayName sessionId : String) (manifest : CompatibilityManifest) (nativeRequired : Bool)
    (commands : NetworkedCommandRouter) : Host where
  playerId
  manifest
  session :=
    let s := { HostSession.init sessionId manifest nativeRequired with commands }
    ((s.addPlayer playerId displayName manifest).updateReadiness playerId [("save_hash", .str "host-local"),
      ("bridge_connected", .bool false), ("zone_ready", .bool false), ("simulation_authority_ready", .bool true)]).2
  peers := ∅
  seq := 0
  conns := ∅
  gameSequence := 0
  viewUpdatesSent := 0
  lastViewUpdateSize := 0
  lastViewUpdateMsgId := none
  travelBatchOpen := false
  now := 0
  uuids := 0
  log := []

abbrev Run := Pool Host Answer Exc Event

abbrev HostAct := Act Answer Event

/-- a host that has just started, and no handler -/
def started (playerId displayName sessionId : String) (manifest : CompatibilityManifest) (nativeRequired : Bool)
    (commands : NetworkedCommandRouter) : Run :=
  ⟨init playerId displayName sessionId manifest nativeRequired commands, []⟩

def runFrom (c : Run) (acts : List HostAct) : Run := Pool.run handle enabled c acts

/-! ## Small sessions -/

def lanManifest (player : String) : CompatibilityManifest where
  playerId := .str player
  displayName := .str player
  kermpProtocolVersion := .int PROTOCOL_VERSION
  kermpSidecarVersion := .str KERMP_VERSION
  kermpSimsModVersion := .str KERMP_VERSION
  simsModProtocolVersion := .int SIMS_MOD_PROTOCOL_VERSION
  nativeAvailable := .bool false
  nativeApiVersion := .int NATIVE_API_VERSION
  nativeGameBuildSupported := .bool false
  gameVersion := .str UNKNOWN
  enabledPacks := []
  installedPacks := []
  simsModPackageHash := .str UNKNOWN
  nativeBuildFingerprint := .str UNKNOWN

def lanHost : Run := started "host" "Host" "session" (lanManifest "host") false .init

/-- a client's line -/
def sends (conn : ℕ) (player : String) (type : MessageType) (payload : Json) : HostAct :=
  .arrive (.line conn (.line (.ok ⟨type, payload, player, .str "m", .null⟩))) []

def joins (conn : ℕ) (player : String) : HostAct :=
  sends conn player .hello (.obj [("display_name", .str player), ("manifest", (lanManifest player).toDict)])

/-- the host's game says something -/
def plays (type : MessageType) (payload : Json) : HostAct := .arrive (.game ⟨type, payload⟩) []

/-- the first suspended handler goes on -/
def goesOn : HostAct := .resume 0 default []

end KerMP.Host

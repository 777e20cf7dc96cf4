/-
The compatibility manifest a player presents in its hello (`kermp/compatibility.py`).

The fields are whatever JSON the hello carries: `from_dict` checks no type, so every field but the two pack lists is a
`Json`. A manifest read from a dict has sorted packs (`fromDict_sorted`). Reading the local game version, packs and
package hash from disk and environment is left out: the host's own manifest is a parameter of its session.
-/
import Mathlib.Data.List.Sort
import Mathlib.Data.String.Basic
import KerMP.BuildSync

namespace KerMP

open Py

def KERMP_VERSION : String := "0.1.0"
def PROTOCOL_VERSION : ℤ := 2
def SIMS_MOD_PROTOCOL_VERSION : ℤ := 2
def NATIVE_API_VERSION : ℤ := 1
def UNKNOWN : String := "UNKNOWN"

structure CompatibilityManifest where
  playerId : Json
  displayName : Json
  kermpProtocolVersion : Json
  kermpSidecarVersion : Json
  kermpSimsModVersion : Json
  simsModProtocolVersion : Json
  nativeAvailable : Json
  nativeApiVersion : Json
  nativeGameBuildSupported : Json
  gameVersion : Json
  enabledPacks : List String
  installedPacks : List String
  simsModPackageHash : Json
  nativeBuildFingerprint : Json
deriving DecidableEq

/-- `sorted(ids)` of a list of strs -/
def sortedStrs (xs : List String) : List String := xs.insertionSort (· ≤ ·)

/-- `tuple(sorted(map(str, value[key] or ())))`, or the default when the key is absent -/
def packs (value : List (String × Json)) (key : String) : Except Exc (List String) :=
  match value.lookup key with
  | none => .ok []
  | some v =>
    if v.truthy then do return sortedStrs ((← v.iter).map Json.toStr)
    else .ok []

namespace CompatibilityManifest

def fromDict (value : List (String × Json)) : Except Exc CompatibilityManifest := do
  let enabledPacks ← packs value "enabled_packs"
  let installedPacks ← packs value "installed_packs"
  match value.lookup "player_id", value.lookup "display_name" with
  | none, none => .error (.typeError
      "CompatibilityManifest.__init__() missing 2 required positional arguments: 'player_id' and 'display_name'")
  | none, _ => .error (.typeError
      "CompatibilityManifest.__init__() missing 1 required positional argument: 'player_id'")
  | _, none => .error (.typeError
      "CompatibilityManifest.__init__() missing 1 required positional argument: 'display_name'")
  | some playerId, some displayName =>
    return { playerId, displayName, enabledPacks, installedPacks
             kermpProtocolVersion := Json.field value "kermp_protocol_version" (.int PROTOCOL_VERSION)
             kermpSidecarVersion := Json.field value "kermp_sidecar_version" (.str KERMP_VERSION)
             kermpSimsModVersion := Json.field value "kermp_sims_mod_version" (.str KERMP_VERSION)
             simsModProtocolVersion := Json.field value "sims_mod_protocol_version" (.int SIMS_MOD_PROTOCOL_VERSION)
             nativeAvailable := Json.field value "native_available" (.bool false)
             nativeApiVersion := Json.field value "native_api_version" (.int NATIVE_API_VERSION)
             nativeGameBuildSupported := Json.field value "native_game_build_supported" (.bool false)
             gameVersion := Json.field value "game_version" (.str UNKNOWN)
             simsModPackageHash := Json.field value "sims_mod_package_hash" (.str UNKNOWN)
             nativeBuildFingerprint := Json.field value "native_build_fingerprint" (.str UNKNOWN) }

def toDict (m : CompatibilityManifest) : Json :=
  .obj [("player_id", m.playerId), ("display_name", m.displayName),
    ("kermp_protocol_version", m.kermpProtocolVersion), ("kermp_sidecar_version", m.kermpSidecarVersion),
    ("kermp_sims_mod_version", m.kermpSimsModVersion), ("sims_mod_protocol_version", m.simsModProtocolVersion),
    ("native_available", m.nativeAvailable), ("native_api_version", m.nativeApiVersion),
    ("native_game_build_supported", m.nativeGameBuildSupported), ("game_version", m.gameVersion),
    ("enabled_packs", .arr (m.enabledPacks.map .str)), ("installed_packs", .arr (m.installedPacks.map .str)),
    ("sims_mod_package_hash", m.simsModPackageHash), ("native_build_fingerprint", m.nativeBuildFingerprint)]

end CompatibilityManifest

def compareManifests (host client : CompatibilityManifest) (nativeRequired : Bool) : List String :=
  (if !host.kermpProtocolVersion.pyEq client.kermpProtocolVersion ||
      !host.simsModProtocolVersion.pyEq client.simsModProtocolVersion then ["protocol_mismatch"] else []) ++
  (if !host.kermpSidecarVersion.pyEq client.kermpSidecarVersion then ["sidecar_version_mismatch"] else []) ++
  (if !host.kermpSimsModVersion.pyEq client.kermpSimsModVersion then ["sims_mod_mismatch"] else []) ++
  (if (Json.str UNKNOWN).pyEq host.gameVersion || (Json.str UNKNOWN).pyEq client.gameVersion ||
      !host.gameVersion.pyEq client.gameVersion then ["game_version_mismatch"] else []) ++
  (if host.enabledPacks != client.enabledPacks then ["pack_mismatch"] else []) ++
  (if nativeRequired && (!host.nativeAvailable.truthy || !client.nativeAvailable.truthy ||
      !host.nativeGameBuildSupported.truthy || !client.nativeGameBuildSupported.truthy ||
      !host.nativeApiVersion.pyEq client.nativeApiVersion) then ["native_api_mismatch"] else [])

/-! ## Packs are kept sorted -/

theorem sortedStrs_sorted (xs : List String) : (sortedStrs xs).Pairwise (· ≤ ·) :=
  List.pairwise_insertionSort _ xs

theorem packs_sorted {value : List (String × Json)} {key : String} {ps : List String} (h : packs value key = .ok ps) :
    ps.Pairwise (· ≤ ·) := by
  unfold packs at h
  split at h
  · cases h; exact List.Pairwise.nil
  · split_ifs at h
    · simp only [bind, Except.bind, pure, Except.pure] at h
      split at h
      · cases h
      · cases h; exact sortedStrs_sorted _
    · cases h; exact List.Pairwise.nil

/-- the two pack lists compared by `compareManifests` are sorted -/
theorem fromDict_sorted {value : List (String × Json)} {m : CompatibilityManifest}
    (h : CompatibilityManifest.fromDict value = .ok m) :
    m.enabledPacks.Pairwise (· ≤ ·) ∧ m.installedPacks.Pairwise (· ≤ ·) := by
  unfold CompatibilityManifest.fromDict at h
  cases he : packs value "enabled_packs" with
  | error e => rw [he] at h; cases h
  | ok ps =>
    cases hi : packs value "installed_packs" with
    | error e => rw [he, hi] at h; cases h
    | ok qs =>
      rw [he, hi] at h
      simp only [bind, Except.bind, pure, Except.pure] at h
      split at h <;> cases h
      exact ⟨packs_sorted he, packs_sorted hi⟩

end KerMP

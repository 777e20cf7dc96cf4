/-
The game's interaction commands, and how a teardown gives them back (`_install_native_command_proxy`,
`_install_cancel_interception` and `teardown` in `kermp_mod/hooks.py`).

Two things are patched: at an install the attribute `cancel_super_interaction` of the game's `interaction_commands`
module, at a sidecar's welcome seven names of the command registry. The welcome saves, as the registry's originals, the
functions that are the module's attributes at that moment; a teardown registers what was saved, and then restores the
attribute.

- `installNativeCommandProxy`, `installCancelInterception`, `teardown`: the functions; `step`: the three calls.
- `during_cycle`, `cycle_restores`: the state in the course of a cycle, the calls up to a teardown, and after it.
- `registry_after`: the registry after any number of cycles is settled by the last one with a welcome.
- `teardown_restores`: a teardown gives back every command and attribute, in every order of the calls, exactly when no
  welcome was made, or the last cycle with a welcome begins with it and the registry had the module's functions.
- `wrapper_left_behind`: after an install, a welcome and a teardown the registry has KerMP's own wrapper.
-/
import KerMP.Lib.Patches
import KerMP.Lib.Prefixes

namespace KerMP.Game

open Patches Prefixes

namespace CommandProxy

/-! ## State and calls -/

/-- a function of the game, or one of KerMP's wrappers -/
inductive Fn where
  | native (id : ℕ)
  /-- the wrapper of `_install_cancel_interception` -/
  | cancelInterception (original : Fn)
  /-- a wrapper of a command, around the function that was the module's attribute -/
  | proxied (name : String) (original : Fn)
  /-- a wrapper of a command that looks the module's attribute up when it is called -/
  | choice (name : String)
deriving DecidableEq

/-- `getattr(f, '_kermp_wrapped', False)` -/
def Fn.kermpWrapped : Fn → Bool
  | .cancelInterception _ => true
  | _ => false

def Fn.isKermp : Fn → Bool
  | .native _ => false
  | _ => true

/-- a command that gets a wrapper: its name, and the module's attribute that is its function -/
structure Proxy where
  name : String
  attr : String
  keepsOriginal : Bool
deriving DecidableEq

def Proxy.wrapped (p : Proxy) (original : Fn) : Fn :=
  if p.keepsOriginal then .proxied p.name original else .choice p.name

def proxies : List Proxy :=
  [⟨"interactions.push", "push_interaction", true⟩,
    ⟨"interactions.push_targeting_sim_info", "push_targeting_sim_info", true⟩,
    ⟨"interactions.cancel_si", "cancel_super_interaction", true⟩,
    ⟨"interactions.cancel", "cancel_mixer_interaction", true⟩,
    ⟨"interactions.has_choices", "has_choices", false⟩,
    ⟨"interactions.choices", "generate_choices", false⟩,
    ⟨"interactions.select", "select_choice", false⟩]

/-- the command registry and the attributes of the `interaction_commands` module -/
structure GameCommands where
  registry : String → Option Fn
  interactionCommands : String → Fn

structure CommandHooks where
  installed : Bool
  cancelInterceptionInstalled : Bool
  commandProxyInstalled : Bool
  /-- the patches of `interaction_commands` -/
  patches : List (String × Fn)
  commandRegistryPatches : List (String × Fn)
  registry : String → Option Fn
  interactionCommands : String → Fn

/-- nothing is patched -/
def idle (m : String → Fn) (registry : String → Option Fn) : CommandHooks :=
  ⟨false, false, false, [], [], registry, m⟩

/-- `commands.unregister(name)` -/
def unregister (registry : String → Option Fn) (name : String) : String → Option Fn := Function.update registry name none

/-- `commands.Command(name)(f)` -/
def command (registry : String → Option Fn) (name : String) (f : Fn) : String → Option Fn :=
  Function.update registry name (some f)

def register (g : CommandHooks) (p : Proxy) : CommandHooks :=
  let original := g.interactionCommands p.attr
  { g with
    registry := command (unregister g.registry p.name) p.name (p.wrapped original)
    commandRegistryPatches := g.commandRegistryPatches ++ [(p.name, original)] }

def installNativeCommandProxy (g : CommandHooks) : CommandHooks :=
  if g.commandProxyInstalled then g else { proxies.foldl register g with commandProxyInstalled := true }

def teardownCommandProxy (g : CommandHooks) : CommandHooks :=
  { g with
    registry := g.commandRegistryPatches.reverse.foldl (fun registry p => command (unregister registry p.1) p.1 p.2)
      g.registry
    commandRegistryPatches := []
    commandProxyInstalled := false }

def installCancelInterception (g : CommandHooks) : CommandHooks :=
  if g.cancelInterceptionInstalled then g
  else
    let original := g.interactionCommands "cancel_super_interaction"
    if original.kermpWrapped then g
    else { g with
      interactionCommands := Function.update g.interactionCommands "cancel_super_interaction" (.cancelInterception original)
      patches := g.patches ++ [("cancel_super_interaction", original)]
      cancelInterceptionInstalled := true }

def install (g : CommandHooks) : CommandHooks :=
  if g.installed then g else installCancelInterception { g with installed := true }

def teardown (g : CommandHooks) : CommandHooks :=
  let g := teardownCommandProxy g
  { g with
    interactionCommands := restore g.patches g.interactionCommands
    patches := []
    cancelInterceptionInstalled := false
    commandProxyInstalled := false
    installed := false }

inductive Call where
  | install | sidecarWelcome | teardown
deriving DecidableEq

def step (g : CommandHooks) : Call → CommandHooks
  | .install => install g
  | .sidecarWelcome => installNativeCommandProxy g
  | .teardown => teardown g

/-- the hooks after the calls, from the game as it was before the first install -/
def after (game : GameCommands) (cs : List Call) : CommandHooks :=
  cs.foldl step (idle game.interactionCommands game.registry)

/-! ## A cycle -/

/-- the module's attributes while the interception is installed -/
def intercepted (m : String → Fn) : String → Fn :=
  Function.update m "cancel_super_interaction" (.cancelInterception (m "cancel_super_interaction"))

/-- the module's attributes when the first welcome of the cycle is made -/
def atWelcome (m : String → Fn) (c : List Call) : String → Fn :=
  if c.head? = some .sidecarWelcome then m else intercepted m

/-- the state in the course of a cycle, from one in which nothing is patched -/
structure During (m : String → Fn) (registry : String → Option Fn) (c : List Call) (g : CommandHooks) : Prop where
  installed : g.installed = decide (.install ∈ c)
  cancel : g.cancelInterceptionInstalled = decide (.install ∈ c)
  proxy : g.commandProxyInstalled = decide (.sidecarWelcome ∈ c)
  attributes : g.interactionCommands = if .install ∈ c then intercepted m else m
  patches : g.patches = if .install ∈ c then [("cancel_super_interaction", m "cancel_super_interaction")] else []
  saved : g.commandRegistryPatches =
    if .sidecarWelcome ∈ c then proxies.map fun p => (p.name, atWelcome m c p.attr) else []
  others : ∀ name, (.sidecarWelcome ∉ c ∨ name ∉ proxies.map Proxy.name) → g.registry name = registry name

theorem register_all (ps : List Proxy) (g : CommandHooks) : ∃ registry,
    ps.foldl register g = { g with
      registry := registry
      commandRegistryPatches := g.commandRegistryPatches ++ ps.map fun p => (p.name, g.interactionCommands p.attr) } ∧
    ∀ name, name ∉ ps.map Proxy.name → registry name = g.registry name := by
  induction ps generalizing g with
  | nil => exact ⟨g.registry, by simp, fun _ _ => rfl⟩
  | cons p ps ih =>
    obtain ⟨registry, hps, hothers⟩ := ih (register g p)
    refine ⟨registry, by rw [List.foldl_cons, hps]; simp [register], fun name hname => ?_⟩
    rw [List.map_cons, List.mem_cons, not_or] at hname
    rw [hothers name hname.2]
    simp [register, command, unregister, Function.update_of_ne hname.1]

variable {m : String → Fn} {registry : String → Option Fn} {c : List Call} {g : CommandHooks}

/-- a later call does not change what the first welcome found -/
theorem atWelcome_concat (hmem : .sidecarWelcome ∈ c) (call : Call) : atWelcome m (c ++ [call]) = atWelcome m c := by
  cases c with
  | nil => cases hmem
  | cons first c => rfl

theorem during_install (h : During m registry c g) (hnative : (m "cancel_super_interaction").kermpWrapped = false) :
    During m registry (c ++ [.install]) (install g) := by
  have hregistry : (install g).commandRegistryPatches = g.commandRegistryPatches ∧
      (install g).registry = g.registry ∧ (install g).commandProxyInstalled = g.commandProxyInstalled := by
    simp only [install, installCancelInterception]
    split_ifs <;> exact ⟨rfl, rfl, rfl⟩
  have hmodule : (install g).installed = true ∧ (install g).cancelInterceptionInstalled = true ∧
      (install g).interactionCommands = intercepted m ∧
      (install g).patches = [("cancel_super_interaction", m "cancel_super_interaction")] := by
    by_cases hmem : .install ∈ c
    · simp [install, h.installed, h.cancel, h.attributes, h.patches, hmem]
    · simp [install, installCancelInterception, intercepted, h.installed, h.cancel, h.attributes, h.patches, hmem, hnative]
  obtain ⟨hsaved, hregistry, hproxy⟩ := hregistry
  obtain ⟨hinstalled, hcancel, hattributes, hpatches⟩ := hmodule
  refine ⟨by simp [hinstalled], by simp [hcancel], by simp [hproxy, h.proxy], by simp [hattributes],
    by simp [hpatches], ?_, ?_⟩
  · rw [hsaved, h.saved]
    by_cases hw : .sidecarWelcome ∈ c
    · simp [hw, atWelcome_concat hw]
    · simp [hw]
  · simpa [hregistry] using h.others

theorem during_welcome (h : During m registry c g) (hc : .teardown ∉ c) :
    During m registry (c ++ [.sidecarWelcome]) (installNativeCommandProxy g) := by
  by_cases hmem : .sidecarWelcome ∈ c
  · have hnoop : installNativeCommandProxy g = g := by simp [installNativeCommandProxy, h.proxy, hmem]
    rw [hnoop]
    refine ⟨by simp [h.installed], by simp [h.cancel], by simp [h.proxy, hmem], by simp [h.attributes],
      by simp [h.patches], by simp [h.saved, hmem, atWelcome_concat hmem], ?_⟩
    simpa [hmem] using h.others
  · obtain ⟨registry', hregister, hothers⟩ := register_all proxies g
    have hcall : installNativeCommandProxy g = { g with
        registry := registry'
        commandRegistryPatches := proxies.map fun p => (p.name, g.interactionCommands p.attr)
        commandProxyInstalled := true } := by
      simp [installNativeCommandProxy, h.proxy, hmem, hregister, h.saved]
    -- up to its first welcome the cycle has made installs only
    have hsaved : g.interactionCommands = atWelcome m (c ++ [.sidecarWelcome]) := by
      rw [h.attributes]
      cases c with
      | nil => rfl
      | cons first c =>
        cases first with
        | install => simp [atWelcome]
        | sidecarWelcome => simp at hmem
        | teardown => simp at hc
    rw [hcall]
    refine ⟨by simp [h.installed], by simp [h.cancel], by simp, by simp [h.attributes], by simp [h.patches],
      by simp [hsaved], fun name hname => ?_⟩
    exact (hothers name (by simpa using hname)).trans (h.others name (Or.inl hmem))

/-- **What a cycle does.** In the course of a cycle the attribute is intercepted from the first install on, and what the
first welcome found is saved for the registry. -/
theorem during_cycle (hnative : (m "cancel_super_interaction").kermpWrapped = false) (hc : .teardown ∉ c) :
    During m registry c (c.foldl step (idle m registry)) := by
  induction c using List.reverseRecOn with
  | nil => exact ⟨rfl, rfl, rfl, rfl, rfl, rfl, fun _ _ => rfl⟩
  | append_singleton c call ih =>
    rw [List.foldl_append, List.foldl_cons, List.foldl_nil]
    obtain ⟨hc', hcall⟩ : .teardown ∉ c ∧ .teardown ≠ call := by simpa using hc
    cases call with
    | install => exact during_install (ih hc') hnative
    | sidecarWelcome => exact during_welcome (ih hc') hc'
    | teardown => exact absurd rfl hcall

/-! ## After a cycle -/

/-- the attribute that is a command's function -/
def attrOf (name : String) : Option String := (proxies.find? fun p => p.name = name).map Proxy.attr

/-- the registry with the seven commands registered anew, with the given attributes of the module -/
def withCommands (m : String → Fn) (registry : String → Option Fn) (name : String) : Option Fn :=
  match attrOf name with
  | some attr => some (m attr)
  | none => registry name

theorem attrOf_proxy : ∀ p ∈ proxies, attrOf p.name = some p.attr := by decide

theorem attrOf_eq_none {name : String} (h : name ∉ proxies.map Proxy.name) : attrOf name = none := by
  rw [attrOf, Option.map_eq_none_iff, List.find?_eq_none]
  intro p hp hname
  exact h (List.mem_map.2 ⟨p, hp, by simpa using hname⟩)

theorem withCommands_withCommands (m m' : String → Fn) (registry : String → Option Fn) :
    withCommands m (withCommands m' registry) = withCommands m registry := by
  funext name
  unfold withCommands
  cases attrOf name <;> rfl

theorem registered_eq_restore (ps : List (String × Fn)) (registry : String → Option Fn) :
    ps.foldl (fun registry p => command (unregister registry p.1) p.1 p.2) registry =
      restore (ps.map fun p => (p.1, some p.2)) registry := by
  rw [restore, List.foldl_map]
  simp [command, unregister]

/-- the registry after a cycle -/
def afterCycle (m : String → Fn) (registry : String → Option Fn) (c : List Call) : String → Option Fn :=
  if .sidecarWelcome ∈ c then withCommands (atWelcome m c) registry else registry

/-- **After a cycle.** A teardown leaves nothing patched and gives back the attributes; the commands are registered with
the functions that the first welcome of the cycle found. -/
theorem cycle_restores (hnative : (m "cancel_super_interaction").kermpWrapped = false) (hc : .teardown ∉ c) :
    step (c.foldl step (idle m registry)) .teardown = idle m (afterCycle m registry c) := by
  have h : During m registry c (c.foldl step (idle m registry)) := during_cycle hnative hc
  set g := c.foldl step (idle m registry)
  have hattributes : restore g.patches g.interactionCommands = m := by
    apply restore_eq
    rw [h.patches, h.attributes]
    by_cases hmem : .install ∈ c
    · simp only [hmem, if_true]
      refine ⟨by simp, fun k hk => ?_⟩
      rw [intercepted, Function.update_of_ne (by simpa using hk)]
    · simp only [hmem, if_false]
      exact Under.refl m
  have hregistry : restore (g.commandRegistryPatches.reverse.map fun p => (p.1, some p.2)) g.registry =
      afterCycle m registry c := by
    apply restore_eq
    rw [List.map_reverse]
    apply Under.reverse
    rw [h.saved, afterCycle]
    by_cases hmem : .sidecarWelcome ∈ c
    · simp only [hmem, if_true, List.map_map]
      refine ⟨?_, fun name hname => ?_⟩
      · intro q hq _
        obtain ⟨p, hp, rfl⟩ := List.mem_map.1 hq
        simp [withCommands, attrOf_proxy p hp]
      · have hother : name ∉ proxies.map Proxy.name := by simpa using hname
        rw [h.others name (Or.inr hother), withCommands, attrOf_eq_none hother]
    · simp only [hmem, if_false]
      exact ⟨nofun, fun name _ => h.others name (Or.inl hmem)⟩
  show teardown g = _
  simp only [teardown, teardownCommandProxy, registered_eq_restore, hattributes, hregistry, idle]

/-! ## Any number of cycles -/

/-- the last cycle in which there is a welcome -/
def lastWelcomed (cs : List Call) : Option (List Call) :=
  ((cs.splitOn .teardown).filter fun c => .sidecarWelcome ∈ c).getLast?

theorem cycles_restore (hnative : (m "cancel_super_interaction").kermpWrapped = false) {cycles : List (List Call)}
    (hcycles : ∀ c ∈ cycles, .teardown ∉ c) :
    cycles.foldl (fun g c => step (c.foldl step g) .teardown) (idle m registry) =
      idle m (cycles.foldl (afterCycle m) registry) := by
  induction cycles generalizing registry with
  | nil => rfl
  | cons c cycles ih =>
    rw [List.foldl_cons, cycle_restores hnative (hcycles c (List.mem_cons_self ..)),
      ih fun c hc => hcycles c (List.mem_cons_of_mem _ hc), List.foldl_cons]

/-- the registry after the cycles is that of the last one with a welcome -/
theorem registry_after (m : String → Fn) (registry : String → Option Fn) (cycles : List (List Call)) :
    cycles.foldl (afterCycle m) registry =
      match (cycles.filter fun c => .sidecarWelcome ∈ c).getLast? with
      | some c => withCommands (atWelcome m c) registry
      | none => registry := by
  induction cycles using List.reverseRecOn with
  | nil => rfl
  | append_singleton cycles c ih =>
    rw [List.foldl_append, List.foldl_cons, List.foldl_nil, ih, List.filter_append, afterCycle]
    by_cases hmem : .sidecarWelcome ∈ c
    · rw [if_pos hmem, List.filter_cons_of_pos (by simpa using hmem), List.filter_nil, List.getLast?_concat]
      split
      · exact withCommands_withCommands ..
      · rfl
    · rw [if_neg hmem, List.filter_cons_of_neg (by simpa using hmem), List.filter_nil, List.append_nil]

theorem after_teardown {game : GameCommands}
    (hnative : (game.interactionCommands "cancel_super_interaction").kermpWrapped = false) (cs : List Call) :
    after game (cs ++ [.teardown]) = idle game.interactionCommands
      (match lastWelcomed cs with
        | some c => withCommands (atWelcome game.interactionCommands c) game.registry
        | none => game.registry) := by
  rw [after, foldl_splitOn, cycles_restore hnative fun c => not_mem_of_mem_splitOn, registry_after]
  rfl

/-! ## What is given back -/

/-- none of the commands and attributes is a KerMP wrapper -/
structure Native (game : GameCommands) : Prop where
  registry : ∀ name f, game.registry name = some f → f.isKermp = false
  interactionCommands : ∀ attr, (game.interactionCommands attr).isKermp = false

/-- **Given back.** Every command and every attribute is what it was, and none is a KerMP wrapper. -/
structure GivenBack (game : GameCommands) (g : CommandHooks) : Prop where
  registry : g.registry = game.registry
  interactionCommands : g.interactionCommands = game.interactionCommands
  native : Native ⟨g.registry, g.interactionCommands⟩

/-- the registry has the module's functions for the seven commands -/
def Registered (game : GameCommands) : Prop := ∀ p ∈ proxies, game.registry p.name = some (game.interactionCommands p.attr)

theorem withCommands_eq_self {game : GameCommands} :
    withCommands game.interactionCommands game.registry = game.registry ↔ Registered game := by
  constructor
  · intro h p hp
    rw [← h]
    simp [withCommands, attrOf_proxy p hp]
  · intro h
    funext name
    by_cases hname : name ∈ proxies.map Proxy.name
    · obtain ⟨p, hp, rfl⟩ := List.mem_map.1 hname
      simp [withCommands, attrOf_proxy p hp, h p hp]
    · simp [withCommands, attrOf_eq_none hname]

/-- **When a teardown gives the game its commands back.** After any installs, welcomes and teardowns, a teardown gives
back every command and attribute if and only if no welcome was made, or the last cycle with a welcome begins with it and
the registry had the module's functions for the seven commands. -/
theorem teardown_restores (game : GameCommands) (hgame : Native game) (cs : List Call) :
    GivenBack game (after game (cs ++ [.teardown])) ↔
      ∀ c, lastWelcomed cs = some c → c.head? = some .sidecarWelcome ∧ Registered game := by
  have hcancel : (game.interactionCommands "cancel_super_interaction").kermpWrapped = false := by
    have hnative := hgame.interactionCommands "cancel_super_interaction"
    cases hf : game.interactionCommands "cancel_super_interaction" with
    | native id => rfl
    | cancelInterception original => simp [hf, Fn.isKermp] at hnative
    | proxied name original => rfl
    | choice name => rfl
  rw [after_teardown hcancel]
  cases hlast : lastWelcomed cs with
  | none => exact ⟨fun _ => nofun, fun _ => ⟨rfl, rfl, hgame⟩⟩
  | some c =>
    simp only [Option.some.injEq, forall_eq']
    by_cases hhead : c.head? = some .sidecarWelcome
    · simp only [atWelcome, hhead, if_true, true_and]
      rw [← withCommands_eq_self]
      constructor
      · exact fun h => h.registry
      · intro h
        simp only [h]
        exact ⟨rfl, rfl, hgame⟩
    · simp only [atWelcome, hhead, if_false, false_and, iff_false]
      -- the wrapper of the interception was saved as the command's function
      intro h
      have hwrapper := h.native.registry "interactions.cancel_si"
        (.cancelInterception (game.interactionCommands "cancel_super_interaction")) (by
          simp [idle, withCommands, attrOf_proxy ⟨"interactions.cancel_si", "cancel_super_interaction", true⟩ (by decide),
            intercepted])
      cases hwrapper

/-- a game whose registry has the module's functions -/
def plainGame : GameCommands :=
  let native attr := .native (proxies.findIdx fun p => p.attr = attr)
  ⟨fun name => (attrOf name).map native, native⟩

theorem native_plainGame : Native plainGame where
  registry := by
    intro name f h
    obtain ⟨attr, -, rfl⟩ := Option.map_eq_some_iff.1 h
    rfl
  interactionCommands := fun _ => rfl

theorem teardown_restores_welcomed_first :
    GivenBack plainGame (after plainGame [.sidecarWelcome, .install, .teardown]) ↔
      ∀ c, lastWelcomed [.sidecarWelcome, .install] = some c → c.head? = some .sidecarWelcome ∧ Registered plainGame :=
  teardown_restores plainGame native_plainGame [.sidecarWelcome, .install]

/-- after an install, a welcome and a teardown the command for a cancellation is KerMP's wrapper -/
theorem wrapper_left_behind : Native plainGame ∧
    (after plainGame [.install, .sidecarWelcome, .teardown]).registry "interactions.cancel_si" =
      some (.cancelInterception (.native 2)) ∧
    ¬ GivenBack plainGame (after plainGame [.install, .sidecarWelcome, .teardown]) := by
  have hleft : (after plainGame [.install, .sidecarWelcome, .teardown]).registry "interactions.cancel_si" =
      some (.cancelInterception (.native 2)) := by decide +kernel
  refine ⟨native_plainGame, hleft, fun h => ?_⟩
  have hwrapper := h.native.registry "interactions.cancel_si" _ hleft
  cases hwrapper

end CommandProxy

end KerMP.Game

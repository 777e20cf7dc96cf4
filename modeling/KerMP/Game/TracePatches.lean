/-
Tracing and hooking the same attributes (`interaction_trace.py`, the installers of `hooks.py` and
`install_timeline_suppression` of `lifecycle_guard.py`).

Both layers put wrappers on attributes of the game and save what they find there. A hook is recognised by a marker, a
trace wrapper by its own; `functools.wraps` copies the markers of what it wraps. Stopping the trace restores an attribute
only while a trace wrapper is on top of it, a teardown of the hooks stops the trace and then restores whatever was saved.

- `start`, `stop`, `install`, `teardown`: the calls; `step`: any of them.
- `Layers`: the state as three layers, the base b, the hooks on it, and the trace wrappers on top.
- `layers_install`: an installer keeps the layers, on the same base unless it hooks a trace wrapper.
- `attributes_restored`: after a teardown every attribute holds what it held at the beginning exactly when no hook was
  put on a trace wrapper; a stop never takes an installed hook away.
- `trace_wrapper_left`: a trace is started, a hook installed, both are undone, and the trace wrapper stays.
-/
import KerMP.Lib.Patches
import KerMP.Lib.Prefixes

namespace KerMP.Game

open Patches Prefixes

namespace TracePatches

/-! ## Attributes -/

/-- the attributes `_install_wrapper` is called for -/
inductive BuildHook where
  | move | funds | create | destroy | parent | clearParent | definition | scale
deriving DecidableEq

/-- the installers of hooks that record patches -/
inductive Hook where
  | zone | messageCapture | travel | interactionInterception | nativeLifecycle | activeSim | cancelInterception | clock
  | aop | headlessLifecycle | timelineSuppression
  | build (label : BuildHook)
deriving DecidableEq

/-- `'%s.%s%s' % (module_name, owner and owner + '.', attribute)` -/
def label (module : String) (owner : Option String) (name : String) : String :=
  module ++ "." ++ (match owner with | some owner => owner ++ "." | none => "") ++ name

def timelineAttribute : String := label "scheduling" (some "Timeline") "simulate"

def onAdd : String := label "server.client" (some "Client") "on_add"

def onRemove : String := label "server.client" (some "Client") "on_remove"

/-- the attributes an installer patches, in order -/
def Hook.attributes : Hook → List String
  | .zone => [label "zone" (some "Zone") "do_zone_spin_up"]
  | .messageCapture => [label "server.client" (some "Client") "send_message"]
  | .travel => [label "world.travel_commands" none "travel_sims_to_zone"]
  | .interactionInterception => [label "sims.sim" (some "Sim") "push_super_affordance"]
  | .nativeLifecycle => [label "interactions.base.interaction" (some "Interaction") "_trigger_interaction_start_event"]
  | .activeSim => ["set_active_sim_by_id", "set_active_sim"].map (label "server.client" (some "Client"))
  | .cancelInterception => [label "server_commands.interaction_commands" none "cancel_super_interaction"]
  | .clock => ["set_clock_speed", "push_speed", "pop_speed"].map (label "clock" (some "GameClock"))
  | .aop => [label "interactions.aop" (some "AffordanceObjectPair") "test_and_execute"]
  | .headlessLifecycle => [onAdd, onRemove]
  | .timelineSuppression => [timelineAttribute]
  | .build .move => [label "build_buy" none "c_api_set_object_location_ex"]
  | .build .funds => [label "build_buy" none "c_api_modify_household_funds"]
  | .build .create => [label "objects.system" none "c_api_create_object"]
  | .build .destroy => [label "objects.system" none "c_api_destroy_object"]
  | .build .parent => [label "objects.system" none "c_api_set_parent_object"]
  | .build .clearParent => [label "objects.system" none "c_api_clear_parent_object"]
  | .build .definition => [label "objects.client_object_mixin" (some "ClientObjectMixin") "set_definition"]
  | .build .scale => [label "objects.client_object_mixin" (some "ClientObjectMixin") "_resend_client_scale"]

/-- `_TRACE_SPECS` -/
def traceSpecs : List (String × Option String × List String) :=
  [("server_commands.interaction_commands", none,
      ["has_choices", "generate_choices", "select_choice", "push_interaction", "push_targeting_sim_info",
        "cancel_super_interaction", "cancel_mixer_interaction"]),
    ("server.client", some "Client", ["create_interaction_context", "set_choices", "select_interaction", "send_message"]),
    ("interactions.choices", some "ChoiceMenu",
      ["__init__", "add_potential_aops", "add_aop", "_add_menu_item", "select", "clear"]),
    ("interactions.aop", some "AffordanceObjectPair",
      ["test", "interaction_factory", "execute_interaction", "execute", "test_and_execute"]),
    ("sims.sim", some "Sim", ["push_super_affordance"]),
    ("interactions.interaction_queue", some "InteractionQueue",
      ["append", "remove_for_perform", "process_one_interaction_gen", "run_interaction_gen", "on_interaction_canceled"]),
    ("interactions.interaction_queue", some "BucketBase", ["append", "insert_next"]),
    ("sims4.commands", none, ["execute"]),
    ("omega", none, ["send"]),
    ("distributor.system", some "Distributor", ["add_event", "add_op", "add_op_with_no_owner", "process"]),
    ("server_commands.ui_commands", none, ["ui_dialog_respond", "ui_dialog_pick_result", "ui_dialog_text_input"]),
    ("scheduling", some "Timeline", ["simulate"])]

/-- the attributes a trace wraps, in order -/
def traced : List String := traceSpecs.flatMap fun spec => spec.2.2.map (label spec.1 spec.2.1)

/-! ## Callables -/

/-- the attribute of a function object by which an installer knows its own wrapper -/
inductive Marker where
  | wrapped | headlessLifecycle | nativeLifecycle
deriving DecidableEq

def Hook.marker : Hook → Marker
  | .headlessLifecycle => .headlessLifecycle
  | .nativeLifecycle => .nativeLifecycle
  | _ => .wrapped

/-- the hook's wrapper is made with `functools.wraps` -/
def Hook.copies : Hook → Bool
  | .build _ => true
  | _ => false

inductive Fn where
  | native (id : ℕ)
  | hook (h : Hook) (original : Fn)
  | trace (original : Fn)
deriving DecidableEq

/-- the callable has the marker, its own or a copied one -/
def Fn.marked (m : Marker) : Fn → Bool
  | .native _ => false
  | .hook h original => h.marker = m || (h.copies && original.marked m)
  | .trace original => original.marked m

/-- `getattr(f, '_kermp_trace_wrapper', False)` -/
def Fn.traceWrapper : Fn → Bool
  | .native _ => false
  | .hook h original => h.copies && original.traceWrapper
  | .trace _ => true

/-- `getattr(f, '_kermp_original', None)` -/
def Fn.kermpOriginal : Fn → Option Fn
  | .native _ => none
  | .hook _ original => some original
  | .trace original => original.kermpOriginal

/-! ## State and calls -/

structure TraceHooks where
  attributes : String → Fn
  patches : List (String × Fn)
  /-- the flags of the installers that have one -/
  installed : Hook → Bool
  enabled : Bool
  /-- the `_patches` of the trace -/
  tracePatches : List (String × Fn)

/-- the game's attributes before anything is patched -/
def natives (game : String → ℕ) (a : String) : Fn := .native (game a)

def init (game : String → ℕ) : TraceHooks := ⟨natives game, [], fun _ => false, false, []⟩

def stop (s : TraceHooks) : TraceHooks :=
  { s with
    attributes := restoreIf Fn.traceWrapper s.tracePatches.reverse s.attributes
    enabled := false
    tracePatches := [] }

def start (s : TraceHooks) : TraceHooks :=
  if s.enabled then s
  else
    let s := stop s
    let st := traced.foldl (patchUnless Fn.traceWrapper .trace) (s.attributes, s.tracePatches)
    { s with attributes := st.1, tracePatches := st.2, enabled := true }

/-- the installer's flag after it has run, where some attribute was patched, or none -/
def Hook.flagAfter : Hook → Bool → Bool
  | .messageCapture, _ | .interactionInterception, _ | .nativeLifecycle, _ | .clock, _ | .aop, _ => true
  | .activeSim, patched | .cancelInterception, patched => patched
  | _, _ => false

/-- an installer that leaves out the attributes with its marker -/
def patchAttributes (s : TraceHooks) (h : Hook) : TraceHooks :=
  let st := h.attributes.foldl (patchUnless (Fn.marked h.marker) (.hook h)) (s.attributes, s.patches)
  let patched := h.attributes.any fun a => !(s.attributes a).marked h.marker
  { s with attributes := st.1, patches := st.2, installed := Function.update s.installed h (h.flagAfter patched) }

/-- it looks at `on_add` only -/
def installHeadlessRemoteClientLifecycle (s : TraceHooks) : TraceHooks :=
  if (s.attributes onAdd).marked .headlessLifecycle then s
  else
    let st := [onAdd, onRemove].foldl (patchUnless (fun _ => false) (.hook .headlessLifecycle)) (s.attributes, s.patches)
    { s with attributes := st.1, patches := st.2 }

/-- the one of `lifecycle_guard`: it goes below a stale wrapper -/
def installTimelineSuppression (s : TraceHooks) : TraceHooks :=
  let current := s.attributes timelineAttribute
  let original := if current.marked .wrapped then current.kermpOriginal.getD current else current
  { s with
    attributes := Function.update s.attributes timelineAttribute (.hook .timelineSuppression original)
    patches := s.patches ++ [(timelineAttribute, original)]
    installed := Function.update s.installed .timelineSuppression true }

def install (s : TraceHooks) (h : Hook) : TraceHooks :=
  if s.installed h then s
  else
    match h with
    | .headlessLifecycle => installHeadlessRemoteClientLifecycle s
    | .timelineSuppression => installTimelineSuppression s
    | h => patchAttributes s h

def teardown (s : TraceHooks) : TraceHooks :=
  let s := stop s
  { s with attributes := restore s.patches s.attributes, patches := [], installed := fun _ => false }

inductive TraceEvent where
  | start | stop | install (h : Hook) | teardown
deriving DecidableEq

def step (s : TraceHooks) : TraceEvent → TraceHooks
  | .start => start s
  | .stop => stop s
  | .install h => install s h
  | .teardown => teardown s

/-- the state after the first n calls -/
def after (game : String → ℕ) (es : List TraceEvent) (n : ℕ) : TraceHooks := reached step (init game) es n

/-! ## Who patches what -/

def hooks : List Hook :=
  [.zone, .messageCapture, .travel, .interactionInterception, .nativeLifecycle, .activeSim, .cancelInterception, .clock,
    .aop, .headlessLifecycle, .timelineSuppression, .build .move, .build .funds, .build .create, .build .destroy,
    .build .parent, .build .clearParent, .build .definition, .build .scale]

theorem mem_hooks (h : Hook) : h ∈ hooks := by
  cases h with
  | build label => cases label <;> decide
  | _ => decide

/-- no two installers patch the same attribute -/
theorem hook_unique {h h' : Hook} {a : String} (ha : a ∈ h.attributes) (ha' : a ∈ h'.attributes) : h = h' := by
  have hall : ∀ h ∈ hooks, ∀ h' ∈ hooks, ∀ a ∈ h.attributes, a ∈ h'.attributes → h = h' := by decide +kernel
  exact hall h (mem_hooks h) h' (mem_hooks h') a ha ha'

/-- a wrapper that copies markers is never put on a traced attribute -/
theorem copies_untraced {h : Hook} (hcopies : h.copies = true) {a : String} (ha : a ∈ h.attributes) : a ∉ traced := by
  have hall : ∀ h ∈ hooks, h.copies = true → ∀ a ∈ h.attributes, a ∉ traced := by decide +kernel
  exact hall h (mem_hooks h) hcopies a ha

theorem headless_untraced : onAdd ∉ traced ∧ onRemove ∉ traced := by decide +kernel

/-! ## The layers -/

variable {game : String → ℕ} {b b' t t' : String → Fn} {s s' : TraceHooks} {h : Hook} {a : String}

/-- below the trace wrappers of s lies t, and below its hooks lies b, the game's attributes with a trace wrapper on some -/
structure Layers (game : String → ℕ) (b t : String → Fn) (s : TraceHooks) : Prop where
  base : ∀ a, b a = .native (game a) ∨ (a ∈ traced ∧ b a = .trace (.native (game a)))
  hooking : Under (fun _ => true) b t s.patches
  hooked : ∀ p ∈ s.patches, ∃ h : Hook, p.1 ∈ h.attributes ∧ t p.1 = .hook h (b p.1)
  tracing : Under Fn.traceWrapper t s.attributes s.tracePatches
  onTop : ∀ a, s.attributes a = t a ∨ (a ∈ traced ∧ (t a).traceWrapper = false ∧ s.attributes a = .trace (t a))

theorem Layers.eq_base (hl : Layers game b t s) (ha : a ∉ s.patches.map Prod.fst) : t a = b a :=
  hl.hooking.bare a (Or.inl ha)

/-- an attribute is hooked exactly when its installer finds its marker on it -/
theorem Layers.marked (hl : Layers game b t s) (ha : a ∈ h.attributes) :
    (s.attributes a).marked h.marker = true ↔ a ∈ s.patches.map Prod.fst := by
  have hsame : (s.attributes a).marked h.marker = (t a).marked h.marker := by
    rcases hl.onTop a with htop | ⟨-, -, htop⟩ <;> rw [htop]
    rfl
  rw [hsame]
  constructor
  · intro hmarked
    by_contra hbare
    rw [hl.eq_base hbare] at hmarked
    rcases hl.base a with hbase | ⟨-, hbase⟩ <;> rw [hbase] at hmarked <;> cases hmarked
  · intro hmem
    obtain ⟨p, hp, rfl⟩ := List.mem_map.1 hmem
    obtain ⟨h', ha', ht⟩ := hl.hooked p hp
    rw [ht, hook_unique ha ha']
    simp [Fn.marked]

/-- the wrapper of a hook is not taken for a trace wrapper -/
theorem hook_traceWrapper {f : Fn} (ha : a ∈ h.attributes) (hf : a ∉ traced → f.traceWrapper = false) :
    (Fn.hook h f).traceWrapper = false := by
  cases hcopies : h.copies with
  | false => simp [Fn.traceWrapper, hcopies]
  | true => simp [Fn.traceWrapper, hf (copies_untraced hcopies ha)]

theorem Layers.base_untraced (hl : Layers game b t s) (ha : a ∉ traced) : (b a).traceWrapper = false := by
  rcases hl.base a with hbase | ⟨hmem, -⟩
  · rw [hbase]
    rfl
  · exact absurd hmem ha

theorem Layers.untraced (hl : Layers game b t s) (ha : a ∉ traced) : (s.attributes a).traceWrapper = false := by
  have htop : s.attributes a = t a := (hl.onTop a).resolve_right fun h => ha h.1
  rw [htop]
  by_cases hmem : a ∈ s.patches.map Prod.fst
  · obtain ⟨p, hp, rfl⟩ := List.mem_map.1 hmem
    obtain ⟨h, ha', ht⟩ := hl.hooked p hp
    rw [ht]
    exact hook_traceWrapper ha' fun _ => hl.base_untraced ha
  · rw [hl.eq_base hmem]
    exact hl.base_untraced ha

theorem layers_init (game : String → ℕ) : Layers game (natives game) (natives game) (init game) :=
  ⟨fun _ => Or.inl rfl, Under.refl _, nofun, Under.refl _, fun _ => Or.inl rfl⟩

/-! ## Stopping and starting a trace -/

theorem Layers.attributes_stop (hl : Layers game b t s) : (stop s).attributes = t := restoreIf_eq hl.tracing.reverse

theorem layers_stop (hl : Layers game b t s) : Layers game b t (stop s) := by
  refine ⟨hl.base, hl.hooking, hl.hooked, ?_, fun a => Or.inl ?_⟩
  · show Under _ t (stop s).attributes []
    rw [hl.attributes_stop]
    exact Under.refl t
  · rw [hl.attributes_stop]

theorem trace_all (t : String → Fn) : ∃ st : (String → Fn) × List (String × Fn),
    traced.foldl (patchUnless Fn.traceWrapper .trace) (t, []) = st ∧ Under Fn.traceWrapper t st.1 st.2 ∧
      ∀ a, st.1 a = if a ∈ traced ∧ (t a).traceWrapper = false then .trace (t a) else t a := by
  obtain ⟨hunder, hat, -⟩ := patchUnless_all (fun f => (rfl : (Fn.trace f).traceWrapper = true)) traced t
  exact ⟨_, rfl, hunder, hat⟩

theorem layers_start (hl : Layers game b t s) : Layers game b t (start s) := by
  unfold start
  split_ifs
  · exact hl
  · obtain ⟨st, hst, hunder, hat⟩ := trace_all t
    have hfold : traced.foldl (patchUnless Fn.traceWrapper .trace) ((stop s).attributes, (stop s).tracePatches) = st := by
      rw [hl.attributes_stop]
      exact hst
    simp only [hfold]
    refine ⟨hl.base, hl.hooking, hl.hooked, hunder, fun a => ?_⟩
    have hata := hat a
    split_ifs at hata with h
    · exact Or.inr ⟨h.1, h.2, hata⟩
    · exact Or.inl hata

theorem patches_start (s : TraceHooks) : (start s).patches = s.patches := by
  unfold start
  split_ifs <;> rfl

/-- a teardown stops the trace and leaves the base -/
theorem layers_teardown (hl : Layers game b t s) : Layers game b b (teardown s) ∧ (teardown s).attributes = b := by
  have hattributes : (teardown s).attributes = b := by
    show restore s.patches (stop s).attributes = b
    rw [hl.attributes_stop]
    exact restore_eq hl.hooking
  refine ⟨⟨hl.base, Under.refl b, nofun, ?_, fun a => Or.inl ?_⟩, hattributes⟩
  · show Under _ b (teardown s).attributes []
    rw [hattributes]
    exact Under.refl b
  · rw [hattributes]

/-- **A stop leaves the hooks.** On every hooked attribute the hook's wrapper is on top after a stop. -/
def HooksStay (s : TraceHooks) : Prop :=
  ∀ p ∈ s.patches, ∃ h : Hook, p.1 ∈ h.attributes ∧ (stop s).attributes p.1 = .hook h p.2

theorem hooks_stay (hl : Layers game b t s) : HooksStay s := by
  intro p hp
  obtain ⟨h, ha, ht⟩ := hl.hooked p hp
  refine ⟨h, ha, ?_⟩
  rw [hl.attributes_stop, ht, hl.hooking.saved p hp rfl]

/-! ## Installing a hook -/

/-- an attribute without a hook and without a trace wrapper on it holds the base -/
theorem Layers.found_base (hl : Layers game b t s) (hbare : a ∉ s.patches.map Prod.fst)
    (huntraced : (s.attributes a).traceWrapper = false) : s.attributes a = b a := by
  rw [hl.tracing.bare a (Or.inr huntraced), hl.eq_base hbare]

/-- an attribute without a hook holds the game's own callable, or a trace wrapper on it -/
theorem Layers.found (hl : Layers game b t s) (hbare : a ∉ s.patches.map Prod.fst) :
    s.attributes a = .native (game a) ∨ (a ∈ traced ∧ s.attributes a = .trace (.native (game a))) := by
  rcases hl.onTop a with htop | ⟨hmem, huntraced, htop⟩
  · rw [htop, hl.eq_base hbare]
    exact hl.base a
  · rw [hl.eq_base hbare] at htop huntraced
    rcases hl.base a with hbase | ⟨-, hbase⟩
    · rw [hbase] at htop
      exact Or.inr ⟨hmem, htop⟩
    · rw [hbase] at huntraced
      cases huntraced

/-- a hook on an attribute without one: what it finds is the base from now on -/
theorem layers_hook (hl : Layers game b t s) (ha : a ∈ h.attributes) (hbare : a ∉ s.patches.map Prod.fst) :
    ∃ b' t', Layers game b' t' { s with
        attributes := Function.update s.attributes a (.hook h (s.attributes a))
        patches := s.patches ++ [(a, s.attributes a)] } ∧
      (b' = natives game ↔ b = natives game ∧ (s.attributes a).traceWrapper = false) := by
  have hwrapper : (Fn.hook h (s.attributes a)).traceWrapper = false := hook_traceWrapper ha hl.untraced
  refine ⟨Function.update b a (s.attributes a), Function.update t a (.hook h (s.attributes a)),
    ⟨fun k => ?_, hl.hooking.put hbare rfl, fun p hp => ?_, hl.tracing.replace hwrapper, fun k => ?_⟩, ?_⟩
  · by_cases hk : k = a
    · subst hk
      rw [Function.update_self]
      exact hl.found hbare
    · rw [Function.update_of_ne hk]
      exact hl.base k
  · rcases List.mem_append.1 hp with hp | hp
    · have hne : p.1 ≠ a := fun heq => hbare (heq ▸ List.mem_map_of_mem hp)
      rw [Function.update_of_ne hne, Function.update_of_ne hne]
      exact hl.hooked p hp
    · rw [List.mem_singleton.1 hp]
      exact ⟨h, ha, by simp⟩
  · by_cases hk : k = a
    · subst hk
      exact Or.inl (by simp)
    · simp only [Function.update_of_ne hk]
      exact hl.onTop k
  · constructor
    · intro hbase
      have hnative : s.attributes a = .native (game a) := by
        have hat := congrFun hbase a
        rwa [Function.update_self] at hat
      have huntraced : (s.attributes a).traceWrapper = false := by rw [hnative]; rfl
      refine ⟨?_, huntraced⟩
      rwa [hl.found_base hbare huntraced, Function.update_eq_self] at hbase
    · rintro ⟨hbase, huntraced⟩
      rw [hl.found_base hbare huntraced, Function.update_eq_self, hbase]

/-- the installer runs on the attribute, which has no hook and has a trace wrapper on it -/
def OnTrace (s : TraceHooks) (h : Hook) (a : String) : Prop :=
  (s.attributes a).marked h.marker = false ∧ (s.attributes a).traceWrapper = true

/-- an installer's run over its attributes -/
theorem layers_patchUnless {l : List String} (hl : Layers game b t s) (hattributes : ∀ a ∈ l, a ∈ h.attributes) :
    ∃ b' t', Layers game b' t' { s with
        attributes := (l.foldl (patchUnless (Fn.marked h.marker) (.hook h)) (s.attributes, s.patches)).1
        patches := (l.foldl (patchUnless (Fn.marked h.marker) (.hook h)) (s.attributes, s.patches)).2 } ∧
      (b' = natives game ↔ b = natives game ∧ ∀ a ∈ l, ¬ OnTrace s h a) := by
  induction l generalizing b t s with
  | nil => exact ⟨b, t, hl, by simp⟩
  | cons a l ih =>
    have ha : a ∈ h.attributes := hattributes a (List.mem_cons_self ..)
    have hrest : ∀ a ∈ l, a ∈ h.attributes := fun a ha => hattributes a (List.mem_cons_of_mem _ ha)
    rw [List.foldl_cons, patchUnless]
    cases hmarked : (s.attributes a).marked h.marker with
    | true =>
      rw [if_pos rfl]
      obtain ⟨b', t', hl', hiff⟩ := ih hl hrest
      refine ⟨b', t', hl', hiff.trans ?_⟩
      simp [OnTrace, hmarked]
    | false =>
      rw [if_neg (by simp)]
      have hbare : a ∉ s.patches.map Prod.fst := by
        rw [← hl.marked ha, hmarked]
        simp
      obtain ⟨b₁, t₁, hl₁, hiff₁⟩ := layers_hook hl ha hbare
      obtain ⟨b', t', hl', hiff⟩ := ih hl₁ hrest
      refine ⟨b', t', hl', ?_⟩
      have hfirst : ¬ OnTrace s h a ↔ (s.attributes a).traceWrapper = false := by simp [OnTrace, hmarked]
      have hlater : ∀ k, OnTrace { s with
          attributes := Function.update s.attributes a (.hook h (s.attributes a))
          patches := s.patches ++ [(a, s.attributes a)] } h k ↔ k ≠ a ∧ OnTrace s h k := by
        intro k
        by_cases hk : k = a
        · simp [OnTrace, hk, Fn.marked]
        · simp [OnTrace, hk]
      rw [hiff, hiff₁, List.forall_mem_cons, hfirst, and_assoc]
      refine and_congr_right fun _ => and_congr_right fun huntraced => forall₂_congr fun k _ => ?_
      rw [hlater]
      by_cases hk : k = a
      · subst hk
        simp [hfirst, huntraced]
      · simp [hk]

/-- both attributes have the hook of the headless clients, or none has -/
def Paired (s : TraceHooks) : Prop := onRemove ∈ s.patches.map Prod.fst → onAdd ∈ s.patches.map Prod.fst

/-- the installer would put its hook on a trace wrapper -/
def InstallsOnTrace (s : TraceHooks) (h : Hook) : Prop := s.installed h = false ∧ ∃ a ∈ h.attributes, OnTrace s h a

theorem layers_patchAttributes (hl : Layers game b t s) : ∃ b' t', Layers game b' t' (patchAttributes s h) ∧
    (b' = natives game ↔ b = natives game ∧ ∀ a ∈ h.attributes, ¬ OnTrace s h a) := by
  obtain ⟨b', t', hl', hiff⟩ := layers_patchUnless hl fun a (ha : a ∈ h.attributes) => ha
  exact ⟨b', t', ⟨hl'.base, hl'.hooking, hl'.hooked, hl'.tracing, hl'.onTop⟩, hiff⟩

theorem layers_headless (hl : Layers game b t s) (hpaired : Paired s) :
    ∃ b' t', Layers game b' t' (installHeadlessRemoteClientLifecycle s) ∧
      (b' = natives game ↔ b = natives game ∧ ∀ a ∈ Hook.headlessLifecycle.attributes, ¬ OnTrace s .headlessLifecycle a) := by
  unfold installHeadlessRemoteClientLifecycle
  cases hadd : (s.attributes onAdd).marked .headlessLifecycle with
  | true =>
    refine ⟨b, t, by simpa using hl, ?_⟩
    simp [Hook.attributes, OnTrace, hl.untraced headless_untraced.1, hl.untraced headless_untraced.2]
  | false =>
    have haddBare : onAdd ∉ s.patches.map Prod.fst := by
      have hmarked := hl.marked (show onAdd ∈ Hook.headlessLifecycle.attributes by decide)
      rw [← hmarked, Hook.marker, hadd]
      simp
    have hremove : (s.attributes onRemove).marked .headlessLifecycle = false := by
      have hmarked := hl.marked (show onRemove ∈ Hook.headlessLifecycle.attributes by decide)
      by_contra htrue
      exact haddBare (hpaired (hmarked.1 (by simpa [Hook.marker] using htrue)))
    have hsame : [onAdd, onRemove].foldl (patchUnless (fun _ => false) (.hook .headlessLifecycle)) (s.attributes, s.patches) =
        Hook.headlessLifecycle.attributes.foldl (patchUnless (Fn.marked Hook.headlessLifecycle.marker)
          (.hook .headlessLifecycle)) (s.attributes, s.patches) := by
      have hne : onRemove ≠ onAdd := by decide
      simp [Hook.attributes, Hook.marker, patchUnless, hadd, hremove, hne]
    obtain ⟨b', t', hl', hiff⟩ := layers_patchUnless hl fun a (ha : a ∈ Hook.headlessLifecycle.attributes) => ha
    refine ⟨b', t', ?_, hiff⟩
    simpa only [hsame, Bool.false_eq_true, if_false] using hl'

/-- an installer that finds its own wrapper goes below it -/
theorem layers_timeline (hl : Layers game b t s) :
    ∃ b' t', Layers game b' t' (installTimelineSuppression s) ∧
      (b' = natives game ↔
        b = natives game ∧ ∀ a ∈ Hook.timelineSuppression.attributes, ¬ OnTrace s .timelineSuppression a) := by
  have ha : timelineAttribute ∈ Hook.timelineSuppression.attributes := by decide
  have hmarked : (s.attributes timelineAttribute).marked .wrapped = true ↔ _ := hl.marked ha
  cases hcurrent : (s.attributes timelineAttribute).marked .wrapped with
  | false =>
    have hbare : timelineAttribute ∉ s.patches.map Prod.fst := by
      rw [← hmarked, hcurrent]
      simp
    have hcall : installTimelineSuppression s = { s with
        attributes := Function.update s.attributes timelineAttribute
          (.hook .timelineSuppression (s.attributes timelineAttribute))
        patches := s.patches ++ [(timelineAttribute, s.attributes timelineAttribute)]
        installed := Function.update s.installed .timelineSuppression true } := by
      simp [installTimelineSuppression, hcurrent]
    obtain ⟨b', t', hl', hiff⟩ := layers_hook hl ha hbare
    rw [hcall]
    refine ⟨b', t', ⟨hl'.base, hl'.hooking, hl'.hooked, hl'.tracing, hl'.onTop⟩, hiff.trans ?_⟩
    have hmarker : Hook.timelineSuppression.marker = .wrapped := rfl
    simp [Hook.attributes, OnTrace, hmarker, hcurrent]
  | true =>
    obtain ⟨p, hp, hpa⟩ := List.mem_map.1 (hmarked.1 hcurrent)
    obtain ⟨h', ha', ht⟩ := hl.hooked p hp
    rw [hpa] at ha' ht
    obtain rfl := hook_unique ha ha'
    have horiginal : (s.attributes timelineAttribute).kermpOriginal = some (b timelineAttribute) := by
      rcases hl.onTop timelineAttribute with htop | ⟨-, -, htop⟩ <;> rw [htop, ht] <;> rfl
    have hwrapper : (t timelineAttribute).traceWrapper = false := by rw [ht]; rfl
    have hcall : installTimelineSuppression s = { s with
        attributes := Function.update s.attributes timelineAttribute (t timelineAttribute)
        patches := s.patches ++ [(timelineAttribute, b timelineAttribute)]
        installed := Function.update s.installed .timelineSuppression true } := by
      simp [installTimelineSuppression, hcurrent, horiginal, ht]
    rw [hcall]
    refine ⟨b, t, ⟨hl.base, hl.hooking.again timelineAttribute, fun q hq => ?_, ?_, fun k => ?_⟩, ?_⟩
    · rcases List.mem_append.1 hq with hq | hq
      · exact hl.hooked q hq
      · rw [List.mem_singleton.1 hq]
        exact ⟨.timelineSuppression, ha, ht⟩
    · have hreplace := hl.tracing.replace (k := timelineAttribute) hwrapper
      rwa [Function.update_eq_self] at hreplace
    · by_cases hk : k = timelineAttribute
      · rw [hk]
        exact Or.inl (by simp)
      · simp only [Function.update_of_ne hk]
        exact hl.onTop k
    · have hmarker : Hook.timelineSuppression.marker = .wrapped := rfl
      simp [Hook.attributes, OnTrace, hmarker, hcurrent]

/-- **What an installer keeps.** The layers stay, with the same base unless the hook is put on a trace wrapper. -/
theorem layers_install (hl : Layers game b t s) (hpaired : Paired s) (h : Hook) :
    ∃ b' t', Layers game b' t' (install s h) ∧ (b' = natives game ↔ b = natives game ∧ ¬ InstallsOnTrace s h) := by
  unfold install
  cases hinstalled : s.installed h with
  | true => exact ⟨b, t, by simpa using hl, by simp [InstallsOnTrace, hinstalled]⟩
  | false =>
    have hon : ¬ InstallsOnTrace s h ↔ ∀ a ∈ h.attributes, ¬ OnTrace s h a := by simp [InstallsOnTrace, hinstalled]
    rw [hon, if_neg (by simp)]
    split
    · exact layers_headless hl hpaired
    · exact layers_timeline hl
    · exact layers_patchAttributes hl

theorem paired_install (hpaired : Paired s) (h : Hook) : Paired (install s h) := by
  have hother : h ≠ .headlessLifecycle → ∀ ps : List (String × Fn), (∀ p ∈ ps, p.1 ∈ h.attributes) →
      onRemove ∈ (s.patches ++ ps).map Prod.fst → onAdd ∈ (s.patches ++ ps).map Prod.fst := by
    intro hne ps hps hmem
    rw [List.map_append, List.mem_append] at hmem ⊢
    rcases hmem with hmem | hmem
    · exact Or.inl (hpaired hmem)
    · obtain ⟨p, hp, hpa⟩ := List.mem_map.1 hmem
      have hremove : onRemove ∈ Hook.headlessLifecycle.attributes := by decide
      exact absurd (hook_unique (hpa ▸ hps p hp) hremove) hne
  unfold install
  cases hinstalled : s.installed h with
  | true => simpa using hpaired
  | false =>
    rw [if_neg (by simp)]
    split
    · unfold installHeadlessRemoteClientLifecycle
      split_ifs with hadd
      · exact hpaired
      · intro _
        simp [patchUnless]
    · exact hother (by decide) _ fun p hp => by
        rw [List.mem_singleton.1 hp]
        exact List.mem_singleton_self _
    · rename_i hne _
      obtain ⟨ps, hps, hmem⟩ := patchUnless_patches (Fn.marked h.marker) (.hook h) h.attributes (s.attributes, s.patches)
      intro hremove
      simp only [patchAttributes, hps] at hremove ⊢
      exact hother hne ps hmem hremove

/-! ## Any order of the calls -/

/-- the n-th call is an installer that puts a hook on a trace wrapper -/
def HooksTrace (game : String → ℕ) (es : List TraceEvent) (n : ℕ) : Prop :=
  ∃ h, es[n]? = some (.install h) ∧ InstallsOnTrace (after game es n) h

theorem hooksTrace_iff {es : List TraceEvent} {n : ℕ} {ev : TraceEvent} (hev : es[n]? = some ev) :
    HooksTrace game es n ↔ ∃ h, ev = .install h ∧ InstallsOnTrace (after game es n) h := by
  simp [HooksTrace, hev]

/-- **What a call keeps.** The layers stay, with the same base unless an installer puts its hook on a trace wrapper. -/
theorem layers_step (hl : Layers game b t s) (hpaired : Paired s) (ev : TraceEvent) :
    Paired (step s ev) ∧ ∃ b' t', Layers game b' t' (step s ev) ∧
      (b' = natives game ↔ b = natives game ∧ ¬ ∃ h, ev = .install h ∧ InstallsOnTrace s h) := by
  cases ev with
  | start =>
    refine ⟨?_, b, t, layers_start hl, by simp⟩
    show onRemove ∈ (start s).patches.map Prod.fst → onAdd ∈ (start s).patches.map Prod.fst
    rw [patches_start]
    exact hpaired
  | stop => exact ⟨hpaired, b, t, layers_stop hl, by simp⟩
  | teardown => exact ⟨nofun, b, b, (layers_teardown hl).1, by simp⟩
  | install h =>
    obtain ⟨b', t', hl', hiff⟩ := layers_install hl hpaired h
    exact ⟨paired_install hpaired h, b', t', hl', by simpa using hiff⟩

/-- the layers of every state, on the game's own attributes as long as no hook was put on a trace wrapper -/
theorem layers_after (game : String → ℕ) (es : List TraceEvent) (n : ℕ) :
    Paired (after game es n) ∧ ∃ b t, Layers game b t (after game es n) ∧
      (b = natives game ↔ ∀ k < n, ¬ HooksTrace game es k) := by
  induction n with
  | zero => exact ⟨nofun, natives game, natives game, layers_init game, by simp⟩
  | succ n ih =>
    obtain ⟨hpaired, b, t, hl, hiff⟩ := ih
    rw [Nat.forall_lt_succ_right, ← hiff]
    cases hev : es[n]? with
    | none =>
      rw [after, reached_end hev]
      exact ⟨hpaired, b, t, hl, by simp [HooksTrace, hev]⟩
    | some ev =>
      rw [after, reached_succ hev, hooksTrace_iff hev]
      exact layers_step hl hpaired ev

/-- after the last start and the last installer there is a teardown, which stops the trace as well, and only stops and
teardowns -/
def Settled (es : List TraceEvent) : Prop :=
  ∃ before after, es = before ++ after ∧ .teardown ∈ after ∧ ∀ ev ∈ after, ev = .stop ∨ ev = .teardown

/-- nothing is patched any more -/
structure Unpatched (s : TraceHooks) : Prop where
  patches : s.patches = []
  tracePatches : s.tracePatches = []

theorem Unpatched.step (hs : Unpatched s) {ev : TraceEvent} (hev : ev = .stop ∨ ev = .teardown) : Unpatched (step s ev) := by
  rcases hev with rfl | rfl
  · exact ⟨hs.patches, rfl⟩
  · exact ⟨rfl, rfl⟩

theorem unpatched_settled {es : List TraceEvent} (h : Settled es) : Unpatched (after game es es.length) := by
  obtain ⟨before, late, rfl, hteardown, hlate⟩ := h
  obtain ⟨first, last, rfl⟩ := List.append_of_mem hteardown
  have hlast : ∀ ev ∈ last, ev = .stop ∨ ev = .teardown :=
    fun ev hev => hlate ev (List.mem_append_right _ (List.mem_cons_of_mem _ hev))
  rw [after, reached, List.take_length, List.foldl_append, List.foldl_append, List.foldl_cons]
  have hafter : Unpatched (step (first.foldl step (before.foldl step (init game))) .teardown) := ⟨rfl, rfl⟩
  revert hafter
  generalize step (first.foldl step (before.foldl step (init game))) .teardown = s
  clear hteardown hlate
  induction last generalizing s with
  | nil => exact id
  | cons ev last ih =>
    intro hs
    exact ih (fun ev hev => hlast ev (List.mem_cons_of_mem _ hev)) _ (hs.step (hlast ev (List.mem_cons_self ..)))

/-- **When tracing and hooking compose.** In every order of starts, stops, installers and teardowns that ends with a
teardown and further stops and teardowns, every attribute holds the callable it held at the beginning, and no stop takes
an installed hook away, if and only if no installer puts its hook on a trace wrapper. -/
theorem attributes_restored (game : String → ℕ) (es : List TraceEvent) (h : Settled es) :
    ((after game es es.length).attributes = natives game ∧ ∀ n, HooksStay (after game es n)) ↔
      ∀ n, ¬ HooksTrace game es n := by
  have hstay : ∀ n, HooksStay (after game es n) := by
    intro n
    obtain ⟨-, b, t, hl, -⟩ := layers_after game es n
    exact hooks_stay hl
  obtain ⟨-, b, t, hl, hiff⟩ := layers_after game es es.length
  have hsettled : Unpatched (after game es es.length) := unpatched_settled h
  have hbase : (after game es es.length).attributes = b := by
    funext a
    rw [hl.tracing.bare a (Or.inl (by simp [hsettled.tracePatches])), hl.eq_base (by simp [hsettled.patches])]
  rw [hbase, hiff]
  constructor
  · rintro ⟨hall, -⟩ n ⟨hook, hev, hon⟩
    exact hall n (List.getElem?_eq_some_iff.1 hev).1 ⟨hook, hev, hon⟩
  · exact fun hall => ⟨fun k _ => hall k, hstay⟩

/-- a trace is started while messages are captured, and the clock is hooked under it -/
def hookedFirst : List TraceEvent := [.install .messageCapture, .start, .install .clock, .stop, .teardown]

theorem attributes_restored_hookedFirst : ((after (fun _ => 0) hookedFirst 5).attributes = natives (fun _ => 0) ∧
    ∀ n, HooksStay (after (fun _ => 0) hookedFirst n)) ↔ ∀ n, ¬ HooksTrace (fun _ => 0) hookedFirst n :=
  attributes_restored (fun _ => 0) hookedFirst
    ⟨[.install .messageCapture, .start, .install .clock], [.stop, .teardown], rfl, by decide, by decide⟩

/-- a trace is started before messages are captured -/
def tracedFirst : List TraceEvent := [.start, .install .messageCapture, .stop, .teardown]

/-- both are undone, and the attribute holds the trace wrapper -/
theorem trace_wrapper_left : Settled tracedFirst ∧
    (after (fun _ => 0) tracedFirst 4).attributes "server.client.Client.send_message" = .trace (.native 0) ∧
    (after (fun _ => 0) tracedFirst 4).attributes ≠ natives (fun _ => 0) := by
  have hleft : (after (fun _ => 0) tracedFirst 4).attributes "server.client.Client.send_message" = .trace (.native 0) := by
    decide +kernel
  refine ⟨⟨[.start, .install .messageCapture], [.stop, .teardown], rfl, by decide, by decide⟩, hleft, fun h => ?_⟩
  rw [h] at hleft
  cases hleft

end TracePatches

end KerMP.Game

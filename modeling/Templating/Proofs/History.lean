import Mathlib.Data.List.Forall2
import Mathlib.Data.List.Induction
import Templating.Proofs.Inlining
import Templating.Proofs.Overrides
import Templating.Proofs.Separation

/-!
# The history of a registry

What a compiled template does when it is called depends on its registry as it is then, and the
registry is what its history makes of it: the entries made in it, after those that the registry it
was copied from had at that time (`history`). So a call does what rendering the source at once does
with a new registry into which the history is entered again (`Session.call_replays_history`),
whatever else has happened in between, to other registries, to copies, by calls, or through views of
the tables of registries.

Operations of a session are listed with the latest first.
-/

namespace Templating

/-- An entry that is made in a registry. -/
inductive Registration where
  | helper (name : String) (h : Helper)
  | partialSource (name source : String)

/-- Makes the entry. -/
def Registration.enter (r : Registry) : Registration → Run Registry
  | helper name h => r.registerHelper name h
  | partialSource name source => r.registerPartial name source

/-- Makes the entry in the registry under a number. -/
def Registration.enterAt (w : Workspace) (id : Nat) : Registration → Run Workspace
  | helper name h => w.registerHelper id name h
  | partialSource name source => w.registerPartial id name source

/-- What is done in a session. Registries, compiled templates and views have the numbers in which
they were made. -/
inductive Operation where
  /-- A new registry, with the builtin helpers or without. -/
  | make (builtins : Bool)
  /-- A new registry with the entries of another one. -/
  | copy (id : Nat)
  | register (id : Nat) (entry : Registration)
  | compile (source : String) (id : Nat)
  | call (function : Nat) (data : Value) (helpers : Table HelperEntry) (partials : Table Value)
  /-- Views of the tables of a registry behind given ones. -/
  | view (id : Nat) (helpers : Table HelperEntry) (partials : Table Value)
  | changeHelpers (view : Nat) (change : Change HelperEntry)
  | changePartials (view : Nat) (change : Change Value)

/-- A workspace with the templates compiled in it and the views that are kept. -/
structure Session where
  workspace : Workspace := .initial
  functions : List Compiled := []
  views : List Views := []

namespace Session

/-- What comes of calling a compiled template, if there is one under the number. -/
def call? (σ : Session) (function : Nat) (data : Value) (helpers : Table HelperEntry)
    (partials : Table Value) : Option (Run String) :=
  σ.functions[function]?.map fun c => σ.workspace.call c data helpers partials

/-- Carries out an operation. A call gives a text and leaves the session as it is. -/
def step (σ : Session) : Operation → Run Session
  | .make builtins => do
    let (_, workspace) ← σ.workspace.make builtins
    return { σ with workspace := workspace }
  | .copy id => do
    let (_, workspace) ← σ.workspace.copy id
    return { σ with workspace := workspace }
  | .register id entry => do
    return { σ with workspace := ← entry.enterAt σ.workspace id }
  | .compile source id => do
    return { σ with functions := σ.functions ++ [← Compiled.ofTemplate source id] }
  | .call function data helpers partials =>
    match σ.call? function data helpers partials with
    | none => return σ
    | some r => do
      let _ ← r
      return σ
  | .view id helpers partials =>
    let (view, workspace) := σ.workspace.view id helpers partials
    return { σ with workspace := workspace, views := σ.views ++ [view] }
  | .changeHelpers view change =>
    match σ.views[view]? with
    | none => return σ
    | some v => do
      let store ← Run.ofExcept (σ.workspace.helpers.change v.helpers change)
      return { σ with workspace := { σ.workspace with helpers := store } }
  | .changePartials view change =>
    match σ.views[view]? with
    | none => return σ
    | some v => do
      let store ← Run.ofExcept (σ.workspace.partials.change v.partials change)
      return { σ with workspace := { σ.workspace with partials := store } }

/-- The session after an operation. One that fails changes nothing. -/
def next (σ : Session) (op : Operation) : Session :=
  match (σ.step op).outcome with
  | .ok τ => τ
  | .error _ => σ

/-- The session after operations, the latest first. -/
def after : List Operation → Session
  | [] => {}
  | op :: past => (after past).next op

end Session

/-! ## What the operations say -/

/-- How many registries there are after operations, the default registry among them. -/
def registryCount : List Operation → Nat
  | [] => 1
  | .make _ :: past | .copy _ :: past => registryCount past + 1
  | .register _ _ :: past | .compile _ _ :: past | .call _ _ _ _ :: past | .view _ _ _ :: past
  | .changeHelpers _ _ :: past | .changePartials _ _ :: past => registryCount past

/-- How a registry came about: whether it began with the builtin helpers, and the entries made since
then, in order. -/
structure History where
  builtins : Bool
  entries : List Registration

/-- The history of a registry: a copy has that of the registry it was copied from, as it was then.
Number 0 is the default registry, and a number without a registry has an empty history. -/
def history : List Operation → Nat → History
  | [], id => ⟨id == Workspace.defaultId, []⟩
  | .make builtins :: past, id =>
    if id = registryCount past then ⟨builtins, []⟩ else history past id
  | .copy original :: past, id =>
    if id = registryCount past then history past original else history past id
  | .register target entry :: past, id =>
    if id = target ∧ target < registryCount past then
      { history past id with entries := (history past id).entries ++ [entry] }
    else history past id
  | .compile _ _ :: past, id | .call _ _ _ _ :: past, id | .view _ _ _ :: past, id
  | .changeHelpers _ _ :: past, id | .changePartials _ _ :: past, id => history past id

/-- The templates that were compiled, with the numbers of their registries, in order. Sources that
are no templates are not among them. -/
def compiled : List Operation → List (String × Nat)
  | [] => []
  | .compile source id :: past =>
    if (Node.ofTemplate source).isOk then compiled past ++ [(source, id)] else compiled past
  | .make _ :: past | .copy _ :: past | .register _ _ :: past | .call _ _ _ _ :: past
  | .view _ _ _ :: past | .changeHelpers _ _ :: past | .changePartials _ _ :: past =>
    compiled past

/-- Makes a new registry and enters a history into it. -/
def History.replay (h : History) : Run Registry := do
  let r ← Registry.make h.builtins
  h.entries.foldlM Registration.enter r

/-! ## Replaying -/

theorem outcome_enter (r : Registry) (entry : Registration) :
    ∃ r', (entry.enter r).outcome = .ok r' := by
  cases entry with
  | helper name h => exact ⟨_, r.outcome_registerHelper name h⟩
  | partialSource name source => exact ⟨_, r.outcome_registerPartial name source⟩

namespace History

variable {h : History} {r : Registry}

/-- One more entry is entered last. -/
theorem outcome_replay_snoc (entry : Registration) (hr : h.replay.outcome = .ok r) :
    (History.replay { h with entries := h.entries ++ [entry] }).outcome =
      (entry.enter r).outcome := by
  have hsplit : History.replay { h with entries := h.entries ++ [entry] } =
      h.replay >>= fun r => entry.enter r := by
    simp only [replay, List.foldlM_append, List.foldlM_cons, List.foldlM_nil, bind_assoc, bind_pure]
  rw [hsplit, Run.outcome_bind, hr]
  rfl

end History

/-! ## One operation -/

namespace Workspace

variable {w : Workspace} {views : List Views}

/-- An entry is made in the registry that has the number, and in no other one. -/
theorem outcome_enterAt (h : w.Sound views) (target : Nat) (entry : Registration) {r : Registry}
    (hr : (entry.enter (w.registry target)).outcome = .ok r) :
    ∃ w', (entry.enterAt w target).outcome = .ok w' ∧ w'.Sound views ∧
      w'.registries.length = w.registries.length ∧
      ∀ id, w'.registry id =
        if id = target ∧ target < w.registries.length then r else w.registry id := by
  have hknown {handle : Handle} (hhandle : w.registries[target]? = some handle) (id : Nat) :
      (id = target ∧ target < w.registries.length) ↔ id = target :=
    and_iff_left (List.getElem?_eq_some_iff.1 hhandle).1
  have hunknown (hnone : w.registries[target]? = none) (id : Nat) :
      ¬ (id = target ∧ target < w.registries.length) :=
    fun hid => absurd (List.getElem?_eq_none_iff.1 hnone) (by omega)
  cases entry with
  | helper name g =>
      rw [Registration.enter, Registry.outcome_registerHelper] at hr
      obtain rfl := Except.ok.inj hr
      rw [Registration.enterAt, registerHelper, Run.outcome_bind, Registry.outcome_registerHelper]
      cases hhandle : w.registries[target]? with
      | none => exact ⟨w, rfl, h, rfl, fun id => (if_neg (hunknown hhandle id)).symm⟩
      | some handle =>
          refine ⟨_, rfl, h.putHelpers hhandle _, rfl, fun id => ?_⟩
          simp only [hknown hhandle]
          exact registry_putHelpers h hhandle _ id
  | partialSource name source =>
      rw [Registration.enter, Registry.outcome_registerPartial] at hr
      obtain rfl := Except.ok.inj hr
      rw [Registration.enterAt, registerPartial, Run.outcome_bind, Registry.outcome_registerPartial]
      cases hhandle : w.registries[target]? with
      | none => exact ⟨w, rfl, h, rfl, fun id => (if_neg (hunknown hhandle id)).symm⟩
      | some handle =>
          refine ⟨_, rfl, h.putPartials _ _, rfl, fun id => ?_⟩
          simp only [hknown hhandle]
          exact registry_putPartials h hhandle _ id

theorem sound_initial : initial.Sound [] := by
  have hempty : Sound ⟨{}, {}, []⟩ [] := by
    constructor
    · exact ⟨List.nodup_nil, nofun, nofun, nofun⟩
    · exact ⟨List.nodup_nil, nofun, nofun, nofun⟩
    · exact nofun
  exact hempty.add _

end Workspace

namespace Session

/-- A session in which every registry is what its history makes of it, and every compiled template
is the tree of its source. -/
structure Follows (σ : Session) (past : List Operation) : Prop where
  sound : σ.workspace.Sound σ.views
  count : σ.workspace.registries.length = registryCount past
  registry (id : Nat) : (history past id).replay.outcome = .ok (σ.workspace.registry id)
  functions : List.Forall₂
    (fun (f : String × Nat) c => Node.ofTemplate f.1 = .ok c.program ∧ c.registry = f.2)
    (compiled past) σ.functions

variable {σ : Session} {past : List Operation}

theorem follows_start : Follows {} [] where
  sound := Workspace.sound_initial
  count := rfl
  registry id := by
    cases id with
    | zero => rfl
    | succ id => rfl
  functions := .nil

theorem next_make (builtins : Bool) : σ.next (.make builtins) = { σ with
    workspace := (σ.workspace.add { helpers := if builtins then Helper.builtins else [] }).2 } :=
  rfl

theorem next_copy (original : Nat) : σ.next (.copy original) = { σ with
    workspace := (σ.workspace.add (σ.workspace.registry original)).2 } :=
  rfl

theorem next_register {target : Nat} {entry : Registration} {w : Workspace}
    (hw : (entry.enterAt σ.workspace target).outcome = .ok w) :
    σ.next (.register target entry) = { σ with workspace := w } := by
  rw [next, step, Run.outcome_bind, hw]
  rfl

theorem next_compile (source : String) (id : Nat) : σ.next (.compile source id) =
    match Node.ofTemplate source with
    | .ok n => { σ with functions := σ.functions ++ [⟨n, id⟩] }
    | .error _ => σ := by
  have hstep : (σ.step (.compile source id)).outcome =
      ((Node.ofTemplate source).mapError .grammar).map fun n =>
        { σ with functions := σ.functions ++ [⟨n, id⟩] } := by
    simp only [step, Compiled.ofTemplate, Run.outcome_bind, outcome_parseTemplate]
    cases Node.ofTemplate source with
    | error e => rfl
    | ok n => rfl
  rw [next, hstep]
  cases Node.ofTemplate source with
  | error e => rfl
  | ok n => rfl

theorem next_call (function : Nat) (data : Value) (helpers : Table HelperEntry)
    (partials : Table Value) : σ.next (.call function data helpers partials) = σ := by
  have hstep : σ.step (.call function data helpers partials) =
      match σ.call? function data helpers partials with
      | none => pure σ
      | some r => r >>= fun _ => pure σ := rfl
  rw [next, hstep]
  cases σ.call? function data helpers partials with
  | none => rfl
  | some r =>
      simp only [Run.outcome_bind]
      cases r.outcome with
      | error e => rfl
      | ok text => rfl

theorem next_view (id : Nat) (helpers : Table HelperEntry) (partials : Table Value) :
    σ.next (.view id helpers partials) = { σ with
      workspace := (σ.workspace.view id helpers partials).2
      views := σ.views ++ [(σ.workspace.view id helpers partials).1] } :=
  rfl

/-- A change through a view is one of the table in front, if it succeeds. -/
theorem next_changeHelpers (view : Nat) (change : Change HelperEntry) :
    σ.next (.changeHelpers view change) = σ ∨
      ∃ v ∈ σ.views, ∃ t, σ.next (.changeHelpers view change) = { σ with
        workspace := { σ.workspace with
          helpers := σ.workspace.helpers.put v.helpers.front t } } := by
  rw [next, step]
  cases hview : σ.views[view]? with
  | none => exact .inl rfl
  | some v =>
      simp only [Run.outcome_bind]
      cases hchange : σ.workspace.helpers.change v.helpers change with
      | error e => exact .inl rfl
      | ok store =>
          obtain ⟨t, rfl⟩ := Store.change_eq_ok hchange
          exact .inr ⟨v, List.mem_of_getElem? hview, t, rfl⟩

theorem next_changePartials (view : Nat) (change : Change Value) :
    σ.next (.changePartials view change) = σ ∨
      ∃ v ∈ σ.views, ∃ t, σ.next (.changePartials view change) = { σ with
        workspace := { σ.workspace with
          partials := σ.workspace.partials.put v.partials.front t } } := by
  rw [next, step]
  cases hview : σ.views[view]? with
  | none => exact .inl rfl
  | some v =>
      simp only [Run.outcome_bind]
      cases hchange : σ.workspace.partials.change v.partials change with
      | error e => exact .inl rfl
      | ok store =>
          obtain ⟨t, rfl⟩ := Store.change_eq_ok hchange
          exact .inr ⟨v, List.mem_of_getElem? hview, t, rfl⟩

/-- What an operation keeps. -/
theorem Follows.next (h : σ.Follows past) (op : Operation) : (σ.next op).Follows (op :: past) := by
  cases op with
  | make builtins =>
      rw [next_make]
      refine ⟨h.sound.add _, ?_, fun id => ?_, h.functions⟩
      · simp [Workspace.add, registryCount, h.count]
      · rw [Workspace.registry_add h.sound, history, h.count]
        split
        · rfl
        · exact h.registry id
  | copy original =>
      rw [next_copy]
      refine ⟨h.sound.add _, ?_, fun id => ?_, h.functions⟩
      · simp [Workspace.add, registryCount, h.count]
      · rw [Workspace.registry_add h.sound, history, h.count]
        split
        · exact h.registry original
        · exact h.registry id
  | register target entry =>
      obtain ⟨r, hr⟩ := outcome_enter (σ.workspace.registry target) entry
      obtain ⟨w, hw, hsound, hcount, hregistry⟩ :=
        Workspace.outcome_enterAt h.sound target entry hr
      rw [next_register hw]
      refine ⟨hsound, hcount.trans h.count, fun id => ?_, h.functions⟩
      rw [hregistry, history, h.count]
      split
      · rename_i hid
        rw [History.outcome_replay_snoc entry (h.registry id), hid.1]
        exact hr
      · exact h.registry id
  | compile source id =>
      rw [next_compile]
      cases hparse : Node.ofTemplate source with
      | error e =>
          have hnone : compiled (.compile source id :: past) = compiled past := by
            simp [compiled, hparse, Except.isOk, Except.toBool]
          exact ⟨h.sound, h.count, h.registry, hnone ▸ h.functions⟩
      | ok n =>
          have hsome : compiled (.compile source id :: past) = compiled past ++ [(source, id)] := by
            simp [compiled, hparse, Except.isOk, Except.toBool]
          refine ⟨h.sound, h.count, h.registry, ?_⟩
          rw [hsome]
          exact List.rel_append h.functions (.cons ⟨hparse, rfl⟩ .nil)
  | call function data helpers partials =>
      rw [next_call]
      exact ⟨h.sound, h.count, h.registry, h.functions⟩
  | view id helpers partials =>
      rw [next_view]
      refine ⟨h.sound.view id helpers partials, h.count, fun other => ?_, h.functions⟩
      rw [Workspace.registry_view h.sound]
      exact h.registry other
  | changeHelpers view change =>
      obtain hnext | ⟨v, hv, t, hnext⟩ := σ.next_changeHelpers view change
      · rw [hnext]
        exact ⟨h.sound, h.count, h.registry, h.functions⟩
      · rw [hnext]
        refine ⟨h.sound.changeHelpers hv t, h.count, fun id => ?_, h.functions⟩
        rw [Workspace.registry_changeHelpers h.sound hv]
        exact h.registry id
  | changePartials view change =>
      obtain hnext | ⟨v, hv, t, hnext⟩ := σ.next_changePartials view change
      · rw [hnext]
        exact ⟨h.sound, h.count, h.registry, h.functions⟩
      · rw [hnext]
        refine ⟨h.sound.putPartials _ t, h.count, fun id => ?_, h.functions⟩
        rw [Workspace.registry_changePartials h.sound hv]
        exact h.registry id

theorem follows_after (past : List Operation) : (after past).Follows past := by
  induction past with
  | nil => exact follows_start
  | cons op past ih => exact ih.next op

end Session

/-! ## What a replayed registry finds -/

/-- The helper that an entry puts under a name. -/
def Registration.helper? (name : String) : Registration → Option Helper
  | helper n h => if name = n then some h else none
  | partialSource _ _ => none

/-- The partial that an entry puts under a name. -/
def Registration.source? (name : String) : Registration → Option Value
  | helper _ _ => none
  | partialSource n source => if name = n then some (.text source) else none

namespace History

/-- The helper under a name: the one that was registered last, or else a builtin one. -/
def helper? (h : History) (name : String) : Option Helper :=
  (h.entries.reverse.findSome? (Registration.helper? name)).or
    (if h.builtins then Table.get? Helper.builtins name else none)

/-- The partial under a name: the one that was registered last. -/
def source? (h : History) (name : String) : Option Value :=
  h.entries.reverse.findSome? (Registration.source? name)

theorem helper?_snoc (h : History) (entry : Registration) (name : String) :
    History.helper? { h with entries := h.entries ++ [entry] } name =
      (entry.helper? name).or (h.helper? name) := by
  simp only [helper?, List.reverse_append, List.reverse_singleton, List.singleton_append,
    List.findSome?_cons]
  cases entry.helper? name with
  | none => rfl
  | some g => rfl

theorem source?_snoc (h : History) (entry : Registration) (name : String) :
    History.source? { h with entries := h.entries ++ [entry] } name =
      (entry.source? name).or (h.source? name) := by
  simp only [source?, List.reverse_append, List.reverse_singleton, List.singleton_append,
    List.findSome?_cons]
  cases entry.source? name with
  | none => rfl
  | some v => rfl

theorem outcome_replay (h : History) : ∃ r, h.replay.outcome = .ok r ∧
    (∀ name, r.helpers.get? name = h.helper? name) ∧
      ∀ name, r.partials.get? name = h.source? name := by
  obtain ⟨builtins, entries⟩ := h
  -- From the last entry, which is the one that counts.
  induction entries using List.reverseRecOn with
  | nil =>
      refine ⟨_, rfl, fun name => ?_, fun name => rfl⟩
      cases builtins with
      | true => rfl
      | false => rfl
  | append_singleton entries entry ih =>
      obtain ⟨r, hr, hhelper, hsource⟩ := ih
      have hsnoc := outcome_replay_snoc entry hr
      have hhelpers (name : String) := helper?_snoc ⟨builtins, entries⟩ entry name
      have hsources (name : String) := source?_snoc ⟨builtins, entries⟩ entry name
      cases entry with
      | helper n g =>
          rw [Registration.enter, r.outcome_registerHelper] at hsnoc
          refine ⟨_, hsnoc, fun name => ?_, fun name => ?_⟩
          · rw [Table.get?_set, hhelper, hhelpers, Registration.helper?]
            split
            · rfl
            · rfl
          · rw [hsource, hsources]
            rfl
      | partialSource n source =>
          rw [Registration.enter, r.outcome_registerPartial] at hsnoc
          refine ⟨_, hsnoc, fun name => ?_, fun name => ?_⟩
          · rw [hhelper, hhelpers]
            rfl
          · rw [Table.get?_set, hsource, hsources, Registration.source?]
            split
            · rfl
            · rfl

end History

namespace Session

/-- **A compiled template sees the history of its registry.** Calling it, after any operations, does
what rendering its source does with a new registry into which the history is entered again. What
was registered last under a name is what that registry has there. -/
theorem call_replays_history (past : List Operation) {function id : Nat} {source : String}
    (hcompiled : (compiled past)[function]? = some (source, id)) :
    ∃ fresh, (history past id).replay.outcome = .ok fresh ∧
      (∀ name, fresh.helpers.get? name = (history past id).helper? name) ∧
      (∀ name, fresh.partials.get? name = (history past id).source? name) ∧
      ∀ (data : Value) (helpers : Table HelperEntry) (partials : Table Value),
        (after past).call? function data helpers partials =
          some (renderTemplate source fresh data helpers partials) := by
  have hfollows := follows_after past
  obtain ⟨fresh, hfresh, hhelper, hsource⟩ := (history past id).outcome_replay
  refine ⟨fresh, hfresh, hhelper, hsource, fun data helpers partials => ?_⟩
  obtain rfl : fresh = (after past).workspace.registry id := by
    have hregistry := hfollows.registry id
    rw [hfresh] at hregistry
    exact Except.ok.inj hregistry
  obtain ⟨hlt, hsome⟩ := List.getElem?_eq_some_iff.1 hcompiled
  have hlt' : function < (after past).functions.length := by
    rw [← hfollows.functions.length_eq]
    exact hlt
  obtain ⟨hparse, hid⟩ := hfollows.functions.get hlt hlt'
  simp only [List.get_eq_getElem, hsome] at hparse hid
  rw [call?, List.getElem?_eq_getElem hlt', Option.map_some, renderTemplate,
    parseTemplate_eq_pure hparse, pure_bind, Workspace.call]
  rw [hid]
  dsimp only
  rw [Workspace.scope_view hfollows.sound]

/-- A template that includes a partial, compiled for a copy of the default registry; the partial is
registered before the copy is made, and again in both registries afterwards. At last it is changed
through a view of the copy. -/
def noticePast : List Operation :=
  [.changePartials 0 (.set "notice" (.text "sold")), .view 1 [] [],
    .register 1 (.partialSource "notice" "open"), .register 0 (.partialSource "notice" "moved"),
    .compile "\x7b\x7b>notice\x7d\x7d" 1, .copy 0, .register 0 (.partialSource "notice" "closed")]

theorem call_replays_history_notice :
    (compiled noticePast)[0]? = some ("\x7b\x7b>notice\x7d\x7d", 1) ∧
      ((after noticePast).call? 0 .none [] []).map (·.outcome.toOption) = some (some "open") ∧
      ∃ fresh, (history noticePast 1).replay.outcome = .ok fresh ∧
        (∀ name, fresh.helpers.get? name = (history noticePast 1).helper? name) ∧
        (∀ name, fresh.partials.get? name = (history noticePast 1).source? name) ∧
        ∀ (data : Value) (helpers : Table HelperEntry) (partials : Table Value),
          (after noticePast).call? 0 data helpers partials =
            some (renderTemplate "\x7b\x7b>notice\x7d\x7d" fresh data helpers partials) := by
  have hcompiled : (compiled noticePast)[0]? = some ("\x7b\x7b>notice\x7d\x7d", 1) := by
    decide +kernel
  exact ⟨hcompiled, by decide +kernel, call_replays_history noticePast hcompiled⟩

end Session

end Templating

import Templating.Proofs.Failing
import Templating.Proofs.Overrides

/-!
# Where renderings are given up

Only a rendering that meets the limit of nesting is given up. Values never fail in this way, and a
helper does so only if it says so itself (`Helper.Settles`), which none of the builtin ones does.
So a rendering whose helpers do not, and whose partials are not given up, comes to an output or to
another failure (`Node.settles_visit`).
-/

namespace Templating

/-- Whether an outcome is a result or a failure, and not that a rendering was given up. -/
def Settled {α : Type} (outcome : Except Failure α) : Prop :=
  outcome ≠ .error .nestingLimit

/-- Whether a run comes to such an outcome. -/
def Run.Settles {α : Type} (r : Run α) : Prop :=
  Settled r.outcome

variable {α β : Type}

namespace Settled

variable {x : Except Failure α}

theorem ok (a : α) : Settled (.ok a : Except Failure α) := nofun

theorem error {e : Failure} (h : e ≠ .nestingLimit) : Settled (.error e : Except Failure α) :=
  fun h' => h (Except.error.inj h')

/-- What fails in known ways is not given up if that is none of them. -/
theorem of_failsAs {Q : Failure → Prop} (hx : FailsAs Q x) (hQ : ¬ Q .nestingLimit) : Settled x :=
  fun h => hQ (hx.of_error h)

theorem bind {f : α → Except Failure β} (hx : Settled x) (hf : ∀ a, Settled (f a)) :
    Settled (x >>= f) := by
  cases x with
  | error e => exact error fun he => hx (congrArg _ he)
  | ok a => exact hf a

theorem map (hx : Settled x) (f : α → β) : Settled (x.map f) := by
  cases x with
  | error e => exact error fun he => hx (congrArg _ he)
  | ok a => exact ok _

end Settled

/-! ## Values -/

namespace Value

theorem settled_length (v : Value) : Settled v.length :=
  .of_failsAs v.failsAs_length nofun

theorem settled_toText (v : Value) : Settled v.toText :=
  .of_failsAs v.failsAs_toText nofun

theorem settled_output (v : Value) : Settled v.output := by
  unfold output
  split
  · exact .ok _
  · exact settled_toText v

theorem settled_member (v : Value) (name : String) : Settled (v.member name) := by
  unfold member
  split
  · exact .ok _
  · exact .ok _
  · split
    · split
      · refine Settled.bind (.of_failsAs (Integer.failsAs_ofDigits _ _) nofun) fun _ => ?_
        exact v.settled_length.bind fun _ => .ok _
      · exact .ok _
    · split <;> exact .ok _

theorem settled_follow (names : List String) (v : Value) : Settled (v.follow names) := by
  induction names generalizing v with
  | nil => exact .ok v
  | cons name names ih => exact (settled_member v name).bind ih

theorem settled_callMethod (receiver : Value) (called : Method) :
    Settled (callMethod receiver called) := by
  unfold callMethod
  split
  case h_9 =>
    -- A fraction, or that there is none.
    split
    · exact .ok _
    · exact .error (by simp)
    · exact .error (by simp)
  case h_12 =>
    exact Settled.bind (.of_failsAs (Text.Utf8.failsAs_decodeFrom 0 _) nofun) fun _ => .ok _
  case h_6 | h_13 => exact .error (by simp)
  all_goals exact .ok _

theorem settled_call (v : Value) : Settled v.call := by
  unfold call
  split
  · exact .ok _
  · exact .ok _
  · exact .error (by simp)
  · exact settled_callMethod _ _
  · exact .error (by simp)

theorem settled_isEmpty (v : Value) : Settled v.isEmpty := by
  unfold isEmpty
  extract_lets byShape
  have hbyShape (w : Value) : Settled (byShape w) := by
    dsimp only [byShape]
    split
    · exact .ok _
    · exact w.settled_length.bind fun _ => .ok _
    all_goals exact .ok _
  split
  · exact (settled_call v).bind hbyShape
  · exact hbyShape v

theorem settled_template (v : Value) : Settled v.template := by
  unfold template
  split
  · exact .ok _
  · refine v.settled_length.bind fun count => ?_
    split
    · exact .ok _
    · split
      all_goals exact .error nofun

end Value

theorem Frame.settled_resolve (f : Frame) (p : Path) : Settled (f.resolve p) := by
  unfold resolve
  split
  · exact .ok _
  · exact Value.settled_follow _ _

/-! ## Scripts -/

namespace Script

/-- Scripts that do not give up by themselves, as long as none of the bodies is given up. -/
inductive Settles : Script α → Prop where
  | done (a : α) : Settles (.done a)
  | fail {e : Failure} (h : e ≠ .nestingLimit) : Settles (.fail e)
  | call {slot : Slot} {data : Value} {next : Except Failure String → Script α}
      (h : ∀ outcome, Settled outcome → Settles (next outcome)) : Settles (.call slot data next)

theorem settles_ofExcept {x : Except Failure α} (h : Settled x) : (ofExcept x).Settles := by
  cases x with
  | error e => exact .fail fun he => h (congrArg _ he)
  | ok a => exact .done a

namespace Settles

variable {script : Script α}

theorem bind {f : α → Script β} (h : script.Settles) (hf : ∀ a, (f a).Settles) :
    (script >>= f).Settles := by
  induction h with
  | done a => exact hf a
  | fail he => exact .fail he
  | call _ ih => exact .call ih

theorem map (h : script.Settles) (f : α → β) : (f <$> script).Settles :=
  h.bind fun _ => .done _

/-- A script that does not give up on bodies that are not given up. -/
theorem run {bodies : Slot → Value → Run String} (h : script.Settles)
    (hbodies : ∀ slot data, (bodies slot data).Settles) : (script.run bodies).Settles := by
  induction h with
  | done a => exact .ok a
  | fail he => exact .error he
  | @call slot data next _ ih =>
      -- The script goes on from the outcome of the body, which is not the one it cannot handle.
      unfold Run.Settles
      rw [Script.run, Run.outcome_bind, Run.outcome_attempt]
      dsimp only [Except.bind]
      split
      · rename_i hgiven
        exact absurd hgiven (hbodies slot data)
      · exact ih _ (hbodies slot data)

end Settles

theorem settles_body (slot : Slot) (data : Value) : (body slot data).Settles :=
  .call fun _ => settles_ofExcept

end Script

/-! ## Helpers -/

theorem Argument.settles_apply (a : Argument) (data : Value) : (a.apply data).Settles := by
  cases a with
  | value v => exact Script.settles_ofExcept v.settled_call
  | body slot => exact (Script.settles_body slot data).map _

namespace Helper

/-- Whether a helper does not give up by itself, whatever its arguments. -/
structure Settles (h : Helper) : Prop where
  run (args : List Argument) : (h.run args).Settles
  inverse : ∀ form ∈ h.inverse, ∀ args, (form args).Settles

theorem settles_ofValue {v : Value} {h : Helper} (hv : Helper.ofValue v = .ok h) : h.Settles := by
  unfold ofValue at hv
  split at hv
  · cases hv
    exact ⟨fun _ => Script.settles_ofExcept v.settled_call, by simp⟩
  · cases hv

theorem wrongCount_ne_nestingLimit (function : String) (most given : Nat) :
    wrongCount function most given ≠ .nestingLimit := by
  unfold wrongCount
  split
  · exact nofun
  · exact nofun

theorem BlockCall.settles_ofArguments (function : String) (args : List Argument) :
    (ofArguments function args).Settles := by
  unfold ofArguments
  split
  · exact .done _
  · exact .done _
  · exact .fail (wrongCount_ne_nestingLimit _ _ _)

theorem BlockCall.settles_callInverse (c : BlockCall) (data : Value) :
    (c.callInverse data).Settles := by
  unfold callInverse
  split
  · exact .done _
  · split
    · exact Argument.settles_apply _ _
    · exact .done _

theorem BlockCall.settles_callEach (c : BlockCall) (items : List Value) :
    (c.callEach items).Settles := by
  induction items with
  | nil => exact .done _
  | cons item items ih =>
      exact (c.body.settles_apply item).bind fun _ => ih.bind fun _ => .done _

theorem settled_joinFrom (index : Nat) (pieces : List Value) : Settled (joinFrom index pieces) := by
  fun_induction joinFrom index pieces with
  | case1 => exact .ok _
  | case2 _ _ _ ih => exact ih.bind fun _ => .ok _
  | case3 => exact .error (by simp)

theorem settles_overItems (c : BlockCall) (v : Value) : (overItems c v).Settles := by
  refine (Script.settles_ofExcept v.settled_length).bind fun count => ?_
  split
  · exact c.settles_callInverse _
  · exact (c.settles_callEach v.items).bind fun pieces =>
      (Script.settles_ofExcept (settled_joinFrom 0 pieces)).map _

theorem settles_byShape (c : BlockCall) (context : Value) :
    (match context.shape with
      | .truth => c.body.apply c.this
      | .falsy => c.callInverse c.this
      | .sequence => overItems c context
      | .callable | .record => c.body.apply context).Settles := by
  split
  · exact c.body.settles_apply _
  · exact c.settles_callInverse _
  · exact settles_overItems c _
  · exact c.body.settles_apply _
  · exact c.body.settles_apply _

/-- The helper for blocks without one of their own. -/
theorem settles_builtinMissing : builtinMissing.Settles := by
  constructor
  · intro args
    refine (BlockCall.settles_ofArguments _ args).bind fun c => ?_
    dsimp only
    split
    · exact (Script.settles_ofExcept c.context.settled_call).bind (settles_byShape c)
    · exact settles_byShape c c.context
  · intro form hform args
    cases hform
    unfold missingInverse
    split
    · exact Argument.settles_apply _ _
    · exact .fail (wrongCount_ne_nestingLimit _ _ _)

theorem settles_each (args : List Argument) : (each args).Settles := by
  refine (BlockCall.settles_ofArguments _ args).bind fun c => ?_
  split
  · exact settles_overItems c _
  · exact c.settles_callInverse _

theorem settles_ifTrue (args : List Argument) : (ifTrue args).Settles := by
  refine (BlockCall.settles_ofArguments _ args).bind fun c => ?_
  split
  · exact c.settles_callInverse _
  · exact c.body.settles_apply _

/-- No builtin helper gives up by itself. -/
theorem settles_builtins : ∀ entry ∈ builtins, entry.2.Settles := by
  have heach : Settles { run := each } := ⟨settles_each, by simp⟩
  have hif : Settles { run := ifTrue } := ⟨settles_ifTrue, by simp⟩
  intro entry hentry
  simp only [builtins, List.mem_cons, List.not_mem_nil, or_false] at hentry
  rcases hentry with rfl | rfl | rfl
  · exact settles_builtinMissing
  · exact heach
  · exact hif

end Helper

/-! ## Renderings -/

namespace Run.Settles

variable {r : Run α}

theorem bind {f : α → Run β} (h : r.Settles) (hf : ∀ a, r.outcome = .ok a → (f a).Settles) :
    (r >>= f).Settles := by
  unfold Settles at *
  rw [outcome_bind]
  cases hr : r.outcome with
  | error e =>
      rw [hr] at h
      exact Settled.error fun he => h (congrArg _ he)
  | ok a => exact hf a hr

theorem map (h : r.Settles) (f : α → β) : (f <$> r).Settles := by
  rw [← bind_pure_comp]
  exact h.bind fun a _ => Settled.ok (f a)

end Run.Settles

namespace Scope

/-- Whether no helper that was given for a scope gives up by itself. -/
def Settles (s : Scope) : Prop :=
  ∀ name h, s.helpers.get? name = some (.helper h) → h.Settles

variable {s : Scope}

/-- The helpers of a scope are those of the registry and those of the given table. -/
theorem settles_scope {r : Registry} {helpers : Table HelperEntry} (partials : Table Value)
    (hregistry : ∀ entry ∈ r.helpers, entry.2.Settles)
    (hgiven : ∀ name h, (name, .helper h) ∈ helpers → h.Settles) :
    (r.scope helpers partials).Settles := by
  intro name h hget
  have hmem : (name, .helper h) ∈
      helpers ++ r.helpers.map fun entry => (entry.1, HelperEntry.helper entry.2) := by
    apply Table.mem_of_get?
    rw [Table.get?_append]
    exact hget
  rcases List.mem_append.1 hmem with hmem | hmem
  · exact hgiven name h hmem
  · obtain ⟨entry, hentry, heq⟩ := List.mem_map.1 hmem
    cases heq
    exact hregistry entry hentry

theorem settled_helper? (s : Scope) (name : String) : Settled (s.helper? name) := by
  unfold helper?
  split
  · exact .ok _
  · exact .ok _
  · refine Settled.map ?_ some
    unfold HelperEntry.toHelper
    split
    · exact .ok _
    · unfold Helper.ofValue
      split
      · exact .ok _
      · exact .error (by simp)

/-- The helper under a name was given, or is a value that can be called. -/
theorem Settles.helper (hs : s.Settles) {name : String} {h : Helper}
    (hhelper : s.helper? name = .ok (some h)) : h.Settles := by
  unfold helper? at hhelper
  split at hhelper
  · cases hhelper
  · cases hhelper
  · rename_i entry _ hentry
    cases entry with
    | helper h' =>
        cases hhelper
        exact hs name h hentry
    | value v =>
        simp only [HelperEntry.toHelper] at hhelper
        cases hv : Helper.ofValue v with
        | error e => rw [hv] at hhelper; cases hhelper
        | ok h' =>
            rw [hv] at hhelper
            cases hhelper
            exact Helper.settles_ofValue hv

theorem settled_helperAt? (s : Scope) (p : Path) : Settled (s.helperAt? p) := by
  unfold helperAt?
  split
  · exact s.settled_helper? p.written
  · exact .ok _

theorem Settles.helperAt (hs : s.Settles) {p : Path} {h : Helper}
    (hhelper : s.helperAt? p = .ok (some h)) : h.Settles := by
  unfold helperAt? at hhelper
  split at hhelper
  · exact hs.helper hhelper
  · cases hhelper

theorem settled_missingHelper (s : Scope) : Settled s.missingHelper :=
  (s.settled_helper? _).map _

theorem Settles.missing (hs : s.Settles) {h : Helper} (hhelper : s.missingHelper = .ok h) :
    h.Settles := by
  unfold missingHelper at hhelper
  cases hmissing : s.helper? Helper.missingName with
  | error e => rw [hmissing] at hhelper; cases hhelper
  | ok found =>
      rw [hmissing] at hhelper
      cases hhelper
      cases found with
      | none => exact Helper.settles_builtinMissing
      | some h => exact hs.helper hmissing

theorem settles_parsePartial (s : Scope) (name : String) : (s.parsePartial name).Settles := by
  unfold parsePartial
  split
  · exact Settled.error (by simp)
  · rename_i entry _
    refine Run.Settles.bind entry.settled_template fun source _ => ?_
    show Settled ((Node.ofTemplate source).mapError .grammar)
    cases Node.ofTemplate source with
    | error e => exact .error (by simp)
    | ok n => exact .ok n

end Scope

namespace Block

variable {s : Scope} {helper : Option Helper} {primary inverse : Value → Run String}

theorem settles_ordinary (hs : s.Settles) (hhelper : ∀ h ∈ helper, h.Settles) (name : String)
    (i : Input) (hprimary : ∀ data, (primary data).Settles)
    (hinverse : ∀ data, (inverse data).Settles) :
    (ordinary s name helper i primary inverse).Settles := by
  have hbodies : ∀ slot data, (bodies primary inverse slot data).Settles := by
    rintro (_ | _) data
    · exact hprimary data
    · exact hinverse data
  rw [ordinary_eq]
  cases helper with
  | some h => exact ((hhelper h rfl).run _).run hbodies
  | none =>
      refine Run.Settles.bind s.settled_missingHelper fun h hserving => ?_
      exact ((hs.missing hserving).run _).run hbodies

theorem settles_asInversePart {h : Helper} (hh : h.Settles) (i : Input)
    (hprimary : ∀ data, (primary data).Settles) : (asInversePart h i primary).Settles := by
  refine (hh.run _).run ?_
  rintro (_ | _) data
  · exact Settled.ok ""
  · exact hprimary data

theorem settles_inverted (hs : s.Settles) (hhelper : ∀ h ∈ helper, h.Settles) (i : Input)
    (hprimary : ∀ data, (primary data).Settles) : (inverted s helper i primary).Settles := by
  unfold inverted
  cases helper with
  | some h =>
      have hh := hhelper h rfl
      dsimp only
      split
      · rename_i form hform
        exact (hh.inverse form hform _).run fun _ => hprimary
      · exact settles_asInversePart hh i hprimary
  | none =>
      refine Run.Settles.bind s.settled_missingHelper fun h hserving => ?_
      have hh := hs.missing hserving
      split
      · rename_i form hform
        refine Run.Settles.bind i.value.settled_isEmpty fun isEmpty _ => ?_
        split
        · exact (hh.inverse form hform _).run fun _ => hprimary
        · exact Settled.ok _
      · exact settles_asInversePart hh i hprimary

theorem settles_inputFor (p : Path) (f : Frame) (helper : Option Helper) (values : List Value) :
    (inputFor p f helper values).Settles := by
  unfold inputFor
  split
  · exact Settled.ok _
  · split
    · exact Settled.ok _
    · exact Run.Settles.bind (f.settled_resolve p) fun _ _ => Settled.ok _

end Block

namespace Node

variable {s : Scope} {included : Node → Frame → Run String}

mutual

/-- A rendering gives up only where it meets a partial that is given up. -/
theorem settles_visit (hs : s.Settles) (hincluded : ∀ n f, (included n f).Settles) :
    ∀ (n : Node) (f : Frame), (visit s included n f).Settles
  | .program statements, f => by
      rw [visit_program]
      exact (settles_visitAll hs hincluded statements f).bind fun _ _ => Settled.ok _
  | .content _, _ => Settled.ok _
  | .comment _, _ => Settled.ok _
  | .insertion p params, f => by
      rw [visit_insertion]
      refine Run.Settles.bind (s.settled_helperAt? p) fun helper hhelper => ?_
      cases helper with
      | some h =>
          refine (settles_visitAll hs hincluded params f).bind fun visits _ => ?_
          refine Run.Settles.bind ?_ fun result _ => ?_
          · exact ((hs.helperAt hhelper).run _).run fun _ _ => Settled.ok _
          · exact Run.Settles.bind result.settled_output fun _ _ => Settled.ok _
      | none =>
          refine Run.Settles.bind (f.settled_resolve p) fun value _ => ?_
          exact Run.Settles.bind value.settled_output fun _ _ => Settled.ok _
  | .block p params body inverse closing inverted, f => by
      have hbody : ∀ data, ((·.text) <$> visit s included body (f.child data)).Settles :=
        fun data => (settles_visit hs hincluded body _).map _
      have hinverse : ∀ data, (partOutput s included inverse (f.child data)).Settles :=
        fun data => settles_partOutput hs hincluded inverse _
      rw [visit_block]
      refine Run.Settles.bind (s.settled_helperAt? p) fun helper hhelper => ?_
      have hserves : ∀ h ∈ helper, h.Settles := by
        rintro h rfl
        exact hs.helperAt hhelper
      refine (settles_visitAll hs hincluded params f).bind fun visits _ => ?_
      refine (Block.settles_inputFor p f helper _).bind fun input _ => ?_
      refine Run.Settles.bind ?_ fun result _ => ?_
      · unfold Block.served
        split
        · exact Block.settles_inverted hs hserves input hbody
        · exact Block.settles_ordinary hs hserves p.written input hbody hinverse
      · exact Run.Settles.bind result.settled_output fun _ _ => Settled.ok _
  | .inclusion name none, f => by
      rw [visit_inclusion]
      refine (s.settles_parsePartial name).bind fun tree _ => ?_
      exact (hincluded tree f).bind fun _ _ => Settled.ok _
  | .inclusion name (some context), f => by
      rw [visit_inclusion_within]
      refine (s.settles_parsePartial name).bind fun tree _ => ?_
      refine (settles_visit hs hincluded context f).bind fun v _ => ?_
      exact (hincluded tree _).bind fun _ _ => Settled.ok _
  | .path p, f => by
      rw [visit_path]
      exact Run.Settles.bind (f.settled_resolve p) fun _ _ => Settled.ok _
  | .literal _, _ => Settled.ok _
  | .foreign _, _ => Settled.error (by simp)

theorem settles_visitAll (hs : s.Settles) (hincluded : ∀ n f, (included n f).Settles) :
    ∀ (ns : List Node) (f : Frame), (visitAll s included ns f).Settles
  | [], _ => Settled.ok _
  | n :: ns, f => by
      rw [visitAll_cons]
      refine (settles_visit hs hincluded n f).bind fun _ _ => ?_
      exact (settles_visitAll hs hincluded ns f).bind fun _ _ => Settled.ok _

theorem settles_partOutput (hs : s.Settles) (hincluded : ∀ n f, (included n f).Settles) :
    ∀ (part : Option Node) (f : Frame), (partOutput s included part f).Settles
  | none, _ => Settled.ok _
  | some n, f => (settles_visit hs hincluded n f).map _

end

end Node

end Templating

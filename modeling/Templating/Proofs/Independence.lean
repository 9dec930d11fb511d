import Templating.Proofs.Inlining
import Templating.Proofs.Origin
import Templating.Workspace

/-!
# Independence of the contents of data

A tree is rendered twice: in a frame of plain data, and in a frame of origins, with the outline in
place of the data. The latter gives the pieces of the output (`Node.pieces`), and the former shows
what they are (`Node.shows_visit`). So the contents of texts and integers come into the output and
decide nothing (`renderTemplate_assembles`).
-/

namespace Templating

/-! ## Pieces of the output of a tree -/

namespace Node

section Pieces

variable (serving : Path → Builtin) (outline : List Step → Option Kind)

mutual

/-- The pieces that a tree puts into the output, where `serving` tells which helper serves a
section. -/
def pieces : Node → Sketch → List Piece
  | .program statements, k => piecesIn statements k
  | .content text, _ => [.fixed text]
  | .insertion p _, k => (k.resolve outline p).pieces outline
  | .block p params body inverse _ inverted, k =>
    let choice := k.choose outline (k.subject outline (serving p) p params) (serving p)
    if inverted then choice.pieces (fun _ => []) (body.pieces (k.child k.data))
    else choice.pieces (fun o => body.pieces (k.child o)) (piecesInPart inverse (k.child k.data))
  | .comment _, _ | .inclusion _ _, _ | .path _, _ | .literal _, _ | .foreign _, _ => []

/-- The pieces that trees in a row put into the output. -/
def piecesIn : List Node → Sketch → List Piece
  | [], _ => []
  | n :: ns, k => n.pieces k ++ piecesIn ns k

/-- The pieces that a part of a tree puts into the output, if it is there. -/
def piecesInPart : Option Node → Sketch → List Piece
  | none, _ => []
  | some n, k => n.pieces k

end

end Pieces

mutual

/-- The texts of a tree that can come into the output: contents, and literals that sections are
given. -/
def texts : Node → List String
  | .program statements => textsIn statements
  | .content text | .literal text => [text]
  | .block _ params body inverse _ _ => textsIn params ++ body.texts ++ textsInPart inverse
  | .comment _ | .insertion _ _ | .inclusion _ _ | .path _ | .foreign _ => []

/-- The texts of trees in a row that can come into the output. -/
def textsIn : List Node → List String
  | [] => []
  | n :: ns => n.texts ++ textsIn ns

/-- The texts of a part of a tree that can come into the output, if it is there. -/
def textsInPart : Option Node → List String
  | none => []
  | some n => n.texts

end

section Basic

variable (s : Scope)

mutual

/-- Whether a tree includes no partials, its insertions name no helpers, its sections have one
parameter at most and are served by builtin helpers, and all its paths name members. -/
def IsBasic : Node → Prop
  | .program statements => AreBasic statements
  | .insertion p _ => s.helperAt? p = .ok none ∧ p.NamesMembers
  | .block p params body inverse _ _ =>
    (∃ b, s.ServedBy p b) ∧ p.NamesMembers ∧ params.length ≤ 1 ∧
      (∀ v ∈ params, v.NamesMembers) ∧ body.IsBasic ∧ IsBasicPart inverse
  | .path p => p.NamesMembers
  | .content _ | .comment _ | .literal _ => True
  | .inclusion _ _ | .foreign _ => False

/-- Whether all trees of a list are such trees. -/
def AreBasic : List Node → Prop
  | [] => True
  | n :: ns => n.IsBasic ∧ AreBasic ns

/-- Whether a part of a tree is such a tree, if it is there. -/
def IsBasicPart : Option Node → Prop
  | none => True
  | some n => n.IsBasic

end

end Basic

end Node

/-! ## What the pieces show -/

/-- Whether `serving` tells for every path which builtin helper serves its sections, if one does. -/
def Scope.IsServing (s : Scope) (serving : Path → Builtin) : Prop :=
  ∀ p, (∃ b, s.ServedBy p b) → s.ServedBy p (serving p)

theorem Scope.exists_isServing (s : Scope) : ∃ serving, s.IsServing serving := by
  classical
  refine ⟨fun p => if h : ∃ b, s.ServedBy p b then h.choose else .missing, fun p h => ?_⟩
  exact (congrArg (s.ServedBy p) (dif_pos h)).mpr h.choose_spec

namespace Node

section Shows

variable {s : Scope} {included : Node → Frame → Run String} {serving : Path → Builtin}
  {root : Value}

/-- A section shows the pieces of its body or of its inverse part. -/
theorem shows_block (hserving : s.IsServing serving) (hroot : root.isPlain = true) {p : Path}
    {params : List Node} {body : Node} {inverse closing : Option Node} {inverted : Bool}
    (k : Sketch) (h : IsBasic s (.block p params body inverse closing inverted))
    (hbody : ∀ k : Sketch, Run.Shows root ((·.text) <$> visit s included body (k.frame root))
      (body.pieces serving root.outline k))
    (hinverse : ∀ k : Sketch, Run.Shows root (partOutput s included inverse (k.frame root))
      (piecesInPart serving root.outline inverse k)) :
    Run.Shows root
      ((·.text) <$> visit s included (.block p params body inverse closing inverted)
        (k.frame root))
      (pieces serving root.outline (.block p params body inverse closing inverted) k) := by
  obtain ⟨hserved, hp, hone, hparams, -, -⟩ := h
  have hserved := hserving p hserved
  have hexpressions : ∀ v ∈ params, v.isExpression = true :=
    fun v hv => (hparams v hv).isExpression
  have hsubject := k.subject_frame hroot (serving p) hp hparams
  have hchoose := k.choose_frame hroot (k.subject root.outline (serving p) p params) (serving p)
  cases inverted with
  | true =>
      rw [text_visit_inverted hserved hexpressions hone, hsubject, Run.ofExcept_ok, pure_bind,
        hchoose, Run.ofExcept_ok, pure_bind, pieces, if_pos rfl]
      refine Choice.shows_output (Origin.value root) (fun _ => ?_) ?_ _
      · exact Run.Shows.empty
      · exact hbody (k.child k.data)
  | false =>
      rw [text_visit_section hserved hexpressions hone, hsubject, Run.ofExcept_ok, pure_bind,
        hchoose, Run.ofExcept_ok, pieces, if_neg Bool.false_ne_true]
      refine Run.Shows.after _ (Builtin.outcome_announce _ _) ?_
      rw [pure_bind]
      refine Choice.shows_output (Origin.value root) (fun o => ?_) ?_ _
      · exact hbody (k.child o)
      · exact hinverse (k.child k.data)

mutual

/-- **A tree puts into the output what its pieces show**, for every plain data with the outline. -/
theorem shows_visit (hserving : s.IsServing serving) (hroot : root.isPlain = true) :
    ∀ (n : Node) (k : Sketch), n.IsBasic s →
      Run.Shows root ((·.text) <$> visit s included n (k.frame root))
        (n.pieces serving root.outline k)
  | .program statements, k, h => by
      rw [text_visit_program]
      exact shows_output hserving hroot statements k h
  | .content text, _, _ => ⟨text, rfl, by simp [pieces, Piece.assemble, Piece.text?]⟩
  | .insertion p params, k, h => by
      have htext : (·.text) <$> visit s included (.insertion p params) (k.frame root) =
          Run.ofExcept ((k.resolve root.outline p).value root).output := by
        rw [visit_insertion, h.1, Run.ofExcept_ok, pure_bind]
        simp only [k.resolve_frame hroot h.2, Run.ofExcept_ok, pure_bind, map_bind, map_pure,
          bind_pure]
      rw [htext]
      exact (k.resolve root.outline p).shows_output hroot
  | .block p params body inverse closing inverted, k, h => by
      have ⟨_, _, _, _, hbody, hinverse⟩ := h
      exact shows_block hserving hroot k h (fun k => shows_visit hserving hroot body k hbody)
        (fun k => shows_part hserving hroot inverse k hinverse)
  | .path p, k, h => by
      rw [visit_path, k.resolve_frame hroot h]
      exact Run.Shows.empty
  | .comment _, _, _ | .literal _, _, _ => Run.Shows.empty
  | .inclusion _ _, _, h | .foreign _, _, h => h.elim

theorem shows_output (hserving : s.IsServing serving) (hroot : root.isPlain = true) :
    ∀ (ns : List Node) (k : Sketch), AreBasic s ns →
      Run.Shows root (output s included ns (k.frame root)) (piecesIn serving root.outline ns k)
  | [], _, _ => Run.Shows.empty
  | n :: ns, k, h => by
      rw [output_cons]
      exact (shows_visit hserving hroot n k h.1).append (shows_output hserving hroot ns k h.2)

theorem shows_part (hserving : s.IsServing serving) (hroot : root.isPlain = true) :
    ∀ (part : Option Node) (k : Sketch), IsBasicPart s part →
      Run.Shows root (partOutput s included part (k.frame root))
        (piecesInPart serving root.outline part k)
  | none, _, _ => Run.Shows.empty
  | some n, k, h => shows_visit hserving hroot n k h

end

end Shows

end Node

/-! ## The texts among the pieces -/

namespace Origin

variable {ts : List String} {o : Origin} (outline : List Step → Option Kind)

/-- Whether an origin is among literals, or in the data. -/
def Within (ts : List String) : Origin → Prop
  | literal text => text ∈ ts
  | _ => True

theorem within_next (o : Origin) (step : Step) : (o.next step).Within ts := by
  cases o with
  | nothing | literal _ | place _ => trivial

theorem Within.follow (ho : o.Within ts) (names : List String) :
    (o.follow outline names).Within ts := by
  induction names generalizing o with
  | nil => exact ho
  | cons name names ih =>
      refine ih ?_
      unfold member
      split
      · exact within_next _ _
      · trivial

theorem within_of_mem_elements {e : Origin} (he : e ∈ o.elements outline) : e.Within ts := by
  unfold elements at he
  split at he
  · obtain ⟨i, -, rfl⟩ := List.mem_map.1 he
    exact within_next _ _
  · cases he

theorem within_ofItems : ∀ e ∈ (Choice.ofItems (o.elements outline)).data, e.Within ts := by
  unfold Choice.ofItems
  split
  · exact List.forall_mem_nil _
  · exact fun e he => within_of_mem_elements outline he

theorem Within.mem_of_fixed_mem_pieces (ho : o.Within ts) {t : String}
    (h : .fixed t ∈ o.pieces outline) : t ∈ ts := by
  cases o with
  | nothing => cases h
  | literal text =>
      obtain rfl : t = text := by simpa [pieces] using h
      exact ho
  | place steps =>
      rw [pieces] at h
      split at h
      · simp at h
      · cases h

end Origin

namespace Sketch

/-- Whether all data of a frame are among literals, or in the data. -/
def Within (ts : List String) (k : Sketch) : Prop :=
  ∀ o ∈ k.data :: k.outer, o.Within ts

theorem within_ofRoot {ts : List String} : ofRoot.Within ts :=
  List.forall_mem_singleton.2 trivial

namespace Within

variable {ts : List String} {k : Sketch} (hk : k.Within ts) (outline : List Step → Option Kind)

include hk

theorem data : k.data.Within ts := hk k.data List.mem_cons_self

theorem child {o : Origin} (ho : o.Within ts) : (k.child o).Within ts :=
  List.forall_mem_cons.2 ⟨ho, hk⟩

theorem resolve (p : Path) : (k.resolve outline p).Within ts := by
  unfold Sketch.resolve
  split
  · trivial
  · rename_i o ho
    exact (hk o (List.mem_of_getElem? ho)).follow outline p.parts

theorem subject (b : Builtin) (p : Path) {params : List Node}
    (hparams : Node.textsIn params ⊆ ts) : (k.subject outline b p params).Within ts := by
  cases params with
  | cons v params =>
      cases v with
      | path p => exact hk.resolve outline p
      | literal text => exact hparams (List.mem_cons_self)
      | _ => trivial
  | nil =>
      rw [Sketch.subject]
      split
      · exact hk.resolve outline p
      · exact hk.data

theorem choose {o : Origin} (ho : o.Within ts) (b : Builtin) :
    ∀ e ∈ (k.choose outline o b).data, e.Within ts := by
  cases b with
  | missing =>
      rw [Sketch.choose]
      cases (o.kind outline).shape with
      | truth => exact List.forall_mem_singleton.2 hk.data
      | falsy => exact List.forall_mem_nil _
      | sequence => exact Origin.within_ofItems outline
      | callable | record => exact List.forall_mem_singleton.2 ho
  | each =>
      rw [Sketch.choose]
      split
      · exact Origin.within_ofItems outline
      · exact List.forall_mem_nil _
  | ifTrue =>
      rw [Sketch.choose]
      split
      · exact List.forall_mem_nil _
      · exact List.forall_mem_singleton.2 hk.data

end Within

end Sketch

namespace Node

section Texts

variable {serving : Path → Builtin} {outline : List Step → Option Kind} {ts : List String}
  {t : String}

mutual

/-- The texts among the pieces of a tree are texts of the tree, if those that the frames around it
come from are. -/
theorem mem_of_fixed_mem_pieces : ∀ (n : Node) (k : Sketch), n.texts ⊆ ts → k.Within ts →
    .fixed t ∈ n.pieces serving outline k → t ∈ ts
  | .program statements, k, hn, hk, h => mem_of_fixed_mem_piecesIn statements k hn hk h
  | .content text, _, hn, _, h => by
      obtain rfl : t = text := by simpa [pieces] using h
      exact hn List.mem_cons_self
  | .insertion p _, k, _, hk, h => (hk.resolve outline p).mem_of_fixed_mem_pieces outline h
  | .block p params body inverse _ inverted, k, hn, hk, h => by
      rw [texts, List.append_subset, List.append_subset] at hn
      obtain ⟨⟨hparams, hbody⟩, hinverse⟩ := hn
      have hsubject := hk.subject outline (serving p) p hparams
      rw [pieces] at h
      split at h
      · obtain ⟨_, -, h⟩ | h := Choice.mem_pieces h
        · cases h
        · exact mem_of_fixed_mem_pieces body _ hbody (hk.child hk.data) h
      · obtain ⟨o, ho, h⟩ | h := Choice.mem_pieces h
        · exact mem_of_fixed_mem_pieces body _ hbody
            (hk.child (hk.choose outline hsubject (serving p) o ho)) h
        · exact mem_of_fixed_mem_piecesInPart inverse _ hinverse (hk.child hk.data) h
  | .comment _, _, _, _, h | .inclusion _ _, _, _, _, h | .path _, _, _, _, h
  | .literal _, _, _, _, h | .foreign _, _, _, _, h => by cases h

theorem mem_of_fixed_mem_piecesIn : ∀ (ns : List Node) (k : Sketch), textsIn ns ⊆ ts →
    k.Within ts → .fixed t ∈ piecesIn serving outline ns k → t ∈ ts
  | [], _, _, _, h => by cases h
  | n :: ns, k, hns, hk, h => by
      rw [textsIn, List.append_subset] at hns
      obtain h | h := List.mem_append.1 h
      · exact mem_of_fixed_mem_pieces n k hns.1 hk h
      · exact mem_of_fixed_mem_piecesIn ns k hns.2 hk h

theorem mem_of_fixed_mem_piecesInPart : ∀ (part : Option Node) (k : Sketch),
    textsInPart part ⊆ ts → k.Within ts → .fixed t ∈ piecesInPart serving outline part k → t ∈ ts
  | none, _, _, _, h => by cases h
  | some n, k, hn, hk, h => mem_of_fixed_mem_pieces n k hn hk h

end

end Texts

end Node

/-! ## Templates -/

/-- **The contents of texts and integers decide nothing.** If a template includes no partials, names
no helpers but the builtin ones of sections, and no attributes of texts or integers, then two plain
data with one outline are both rendered, and their outputs are made of the same pieces: texts of the
template, and the values at the same places in the data. -/
theorem renderTemplate_assembles {template : String} {n : Node} {r : Registry}
    {helpers : Table HelperEntry} {partials : Table Value}
    (hparse : Node.ofTemplate template = .ok n) (hbasic : n.IsBasic (r.scope helpers partials)) :
    ∃ pieces : (List Step → Option Kind) → List Piece,
      (∀ outline text, .fixed text ∈ pieces outline → text ∈ n.texts) ∧
        ∀ data data' : Value, data.isPlain = true → data'.isPlain = true →
          data'.outline = data.outline →
            (renderTemplate template r data helpers partials).Shows data (pieces data.outline) ∧
              (renderTemplate template r data' helpers partials).Shows data'
                (pieces data.outline) := by
  obtain ⟨serving, hserving⟩ := (r.scope helpers partials).exists_isServing
  have hshows (data : Value) (hdata : data.isPlain = true) :
      (renderTemplate template r data helpers partials).Shows data
        (n.pieces serving data.outline .ofRoot) := by
    rw [renderTemplate, parseTemplate_eq_pure hparse, pure_bind, Node.render_eq_visit]
    exact Node.shows_visit hserving hdata n .ofRoot hbasic
  refine ⟨fun outline => n.pieces serving outline .ofRoot, ?_, ?_⟩
  · intro outline text
    exact Node.mem_of_fixed_mem_pieces n .ofRoot (List.Subset.refl _) Sketch.within_ofRoot
  · intro data data' hdata hdata' houtline
    refine ⟨hshows data hdata, ?_⟩
    have h := hshows data' hdata'
    rw [houtline] at h
    exact h

namespace Node

/-- A list of names, with a remark if there are no guests. -/
def guestList : String :=
  "\x7b\x7b#each guests\x7d\x7d\x7b\x7bname\x7d\x7d, \x7b\x7b/each\x7d\x7d" ++
    "\x7b\x7b^guests\x7d\x7dnobody\x7b\x7b/guests\x7d\x7d"

/-- The section of the names. -/
def guestNames : Node :=
  .block ⟨["each"], 0, "each"⟩ [.path guestsPath]
    (.program [.insertion ⟨["name"], 0, "name"⟩ [], .content ", "]) none
    (some (.path ⟨["each"], 0, "each"⟩)) false

/-- The section of the remark. -/
def noGuests : Node :=
  .block guestsPath [] (.program [.content "nobody"]) none (some (.path guestsPath)) true

theorem isBasic_guestNames : guestNames.IsBasic builtinScope := by
  have heach : builtinScope.ServedBy ⟨["each"], 0, "each"⟩ .each := ⟨rfl, nofun⟩
  have hguests : guestsPath.NamesMembers := by decide +kernel
  have hname : IsBasic builtinScope (.insertion ⟨["name"], 0, "name"⟩ []) :=
    ⟨rfl, by decide +kernel⟩
  exact ⟨⟨.each, heach⟩, by decide +kernel, by decide, List.forall_mem_singleton.2 hguests,
    ⟨hname, trivial, trivial⟩, trivial⟩

theorem isBasic_noGuests : noGuests.IsBasic builtinScope := by
  have hserved : builtinScope.ServedBy guestsPath .missing :=
    ⟨rfl, fun _ => ⟨_, rfl, Helper.servesMissing_builtinMissing⟩⟩
  exact ⟨⟨.missing, hserved⟩, by decide +kernel, by decide, List.forall_mem_nil _,
    ⟨trivial, trivial⟩, trivial⟩

/-- Guests with a name each. -/
def guests (names : List Value) : Value :=
  .mapping [(.text "guests", .list (names.map fun name => .mapping [(.text "name", name)]))]

theorem renderTemplate_assembles_guests :
    ofTemplate guestList = .ok (.program [guestNames, noGuests]) ∧
      IsBasic builtinScope (.program [guestNames, noGuests]) ∧
      (guests [.text "Ann", .int 7]).isPlain = true ∧
      (guests [.int 0, .text guestList]).isPlain = true ∧
      (guests [.int 0, .text guestList]).outline = (guests [.text "Ann", .int 7]).outline ∧
      ∃ ps, (∀ text, .fixed text ∈ ps → text ∈ texts (.program [guestNames, noGuests])) ∧
        (renderTemplate guestList { helpers := Helper.builtins } (guests [.text "Ann", .int 7])
          [] []).Shows (guests [.text "Ann", .int 7]) ps ∧
        (renderTemplate guestList { helpers := Helper.builtins } (guests [.int 0, .text guestList])
          [] []).Shows (guests [.int 0, .text guestList]) ps := by
  have hparse : ofTemplate guestList = .ok (.program [guestNames, noGuests]) := by decide +kernel
  have hbasic : IsBasic builtinScope (.program [guestNames, noGuests]) :=
    ⟨isBasic_guestNames, isBasic_noGuests, trivial⟩
  have hplain : (guests [.text "Ann", .int 7]).isPlain = true := by decide +kernel
  have hplain' : (guests [.int 0, .text guestList]).isPlain = true := by decide +kernel
  have houtline : (guests [.int 0, .text guestList]).outline =
      (guests [.text "Ann", .int 7]).outline := by
    refine Value.SameUpToLeaves.outline_eq ?_
    have hname {v w : Value} (hv : v.kind = .leaf) (hw : w.kind = .leaf) :
        Value.SameUpToLeaves (.mapping [(.text "name", v)]) (.mapping [(.text "name", w)]) :=
      .mapping rfl (.cons (.leaf hv hw) .nil)
    exact .mapping rfl (.cons (.list (.cons (hname rfl rfl) (.cons (hname rfl rfl) .nil))) .nil)
  obtain ⟨pieces, htexts, hshows⟩ :=
    renderTemplate_assembles (r := { helpers := Helper.builtins }) hparse hbasic
  exact ⟨hparse, hbasic, hplain, hplain', houtline, pieces _, htexts _,
    hshows _ _ hplain hplain' houtline⟩

end Node

end Templating

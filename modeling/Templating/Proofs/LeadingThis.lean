import Templating.Frame
import Templating.Proofs.Parsing

/-!
# The leading `this`

`this/x` should be the same as `x`: a `this` put in front of a path should change neither whether
the path is accepted nor what it says (`Path.ReadAlike`). It does so only for a path that drops a
`this` of its own behind its steps to parents: in `../this` the `this` stands for the frame, and in
`this/../this` the second one is a name. That is the only exception (`Path.readAlike_this_iff`).
-/

namespace Templating

namespace Path

/-- Whether two readings of a path are accepted together and then say the same: so many steps to
parents and these names, and hence one value in every frame. -/
structure ReadAlike (x y : Except GrammarError Path) : Prop where
  accepted : (∃ p, x = .ok p) ↔ ∃ q, y = .ok q
  depth {p q : Path} (hx : x = .ok p) (hy : y = .ok q) : p.depth = q.depth
  parts {p q : Path} (hx : x = .ok p) (hy : y = .ok q) : p.parts = q.parts
  value {p q : Path} (hx : x = .ok p) (hy : y = .ok q) (f : Frame) : f.resolve p = f.resolve q

/-- Whether a `this` is dropped from segments: it is the first of them that is no step to a
parent. -/
def DropsThis (texts : List String) : Prop :=
  texts.find? (· ≠ parentSegment) = some thisSegment

end Path

namespace Node.Parser

/-- The path that tokens are read as when others follow them. -/
def readPath (stop : Token) (ts rest : List Token) : Except GrammarError Path :=
  (path stop (ts ++ rest)).map (·.value)

end Node.Parser

open Grammar Node.Parser

namespace Grammar

/-! ## What dropping a `this` does to segments -/

theorem withoutThis_eq_self {texts : List String} (h : ¬ Path.DropsThis texts) :
    withoutThis texts = texts := by
  induction texts with
  | nil => rfl
  | cons text texts ih =>
      by_cases hparent : text = Path.parentSegment
      · subst hparent
        rw [withoutThis_parent, ih (by simpa [Path.DropsThis] using h)]
      · refine withoutThis_name hparent ?_ texts
        rintro rfl
        exact h (List.find?_cons_of_pos (by simpa using hparent))

theorem length_withoutThis {texts : List String} (h : Path.DropsThis texts) :
    (withoutThis texts).length + 1 = texts.length := by
  induction texts with
  | nil => cases h
  | cons text texts ih =>
      by_cases hparent : text = Path.parentSegment
      · subst hparent
        rw [withoutThis_parent, List.length_cons, ih (by simpa [Path.DropsThis] using h),
          List.length_cons]
      · have hthis : text = Path.thisSegment := by simpa [Path.DropsThis, hparent] using h
        rw [hthis, withoutThis_this, List.length_cons]

@[simp] theorem withoutThis_replicate_append (n : Nat) (texts : List String) :
    withoutThis (List.replicate n Path.parentSegment ++ texts) =
      List.replicate n Path.parentSegment ++ withoutThis texts := by
  induction n with
  | zero => rfl
  | succ n ih =>
      rw [List.replicate_succ, List.cons_append, withoutThis_parent, ih, List.cons_append]

/-- Names stay names without a `this`. -/
theorem parent_notMem_withoutThis {texts : List String} (h : Path.parentSegment ∉ texts) :
    Path.parentSegment ∉ withoutThis texts := by
  cases texts with
  | nil => exact h
  | cons text texts =>
      obtain ⟨htext, htexts⟩ := not_or.1 (List.mem_cons.not.1 h)
      by_cases hthis : text = Path.thisSegment
      · rwa [hthis, withoutThis_this]
      · rwa [withoutThis_name (Ne.symm htext) hthis]

/-- Segments are a path if what is left of them without a `this` is steps to parents and names. -/
theorem isPath_iff {ts : List Token} {texts : List String} (hts : Segments ts texts) {p : Path} :
    IsPath ts p ↔ withoutThis texts = List.replicate p.depth Path.parentSegment ++ p.parts ∧
      Path.parentSegment ∉ p.parts ∧ p.written = String.join (ts.map (·.text)) := by
  constructor
  · rintro ⟨segments, steps, names⟩
    rw [hts.texts_unique segments]
    exact ⟨steps, names, rfl⟩
  · obtain ⟨parts, depth, written⟩ := p
    rintro ⟨steps, names, rfl⟩
    exact .intro hts steps names

end Grammar

namespace Node.Parser

variable {stop : Token} {ts rest : List Token} {texts : List String}

/-- Segments are read as the path that the grammar derives, whatever follows them. -/
theorem readPath_eq_ok_iff (hts : Segments ts texts) (hrest : EndsPath rest) {p : Path} :
    readPath stop ts rest = .ok p ↔ IsPath ts p := by
  constructor
  · intro h
    obtain ⟨first, more, rfl, -, hfirst, hmore⟩ := exists_spread hts
    obtain ⟨⟨q, left, hleft⟩, htaken, rfl⟩ := map_eq_ok.1 h
    obtain ⟨word, after, hafter, hword, hpath⟩ := yields_bind_iff.1 ⟨hleft, htaken⟩
    obtain ⟨rest', -⟩ := yields_expect_iff.1 ⟨hafter, hword⟩
    obtain ⟨rfl, rfl⟩ := List.cons.inj rest'
    -- The segments found are those that were put in, as what follows does not go on with them.
    obtain ⟨_, hsegments⟩ : Yields (segments stop (spread more ++ rest)) more rest :=
      yields_segments hmore hrest
    obtain ⟨more', left', hleft', hmore', _, hok⟩ := yields_bind_iff.1 hpath
    cases hsegments.symm.trans hmore'
    obtain ⟨p, hp, hok⟩ := bind_eq_ok.1 hok
    cases hok
    exact (Path.ofSegments_eq_ok_iff hfirst hmore).1 hp
  · intro hp
    obtain ⟨_, h⟩ : Yields (path stop (ts ++ rest)) p rest := yields_path hp hrest
    rw [readPath, h]
    rfl

end Node.Parser

namespace Path

/-- The value of a path does not depend on how the path is written. -/
theorem resolve_congr {p q : Path} (hdepth : p.depth = q.depth) (hparts : p.parts = q.parts)
    (f : Frame) : f.resolve p = f.resolve q := by
  rw [Frame.resolve, Frame.resolve, hdepth, hparts]

/-- **A `this` in front of a path is neutral**, but for one case: the path drops a `this` of its
own. Then the path in front of which the other one stands is refused, or it has one name more. -/
theorem readAlike_this_iff {ts rest : List Token} {texts : List String} (hts : Segments ts texts)
    (hrest : EndsPath rest) {this separator : Token} (hword : this.kind = .word)
    (hthis : this.text = thisSegment) (hseparator : separator.kind = .separator) (stop : Token) :
    ReadAlike (readPath stop (this :: separator :: ts) rest) (readPath stop ts rest) ↔
      ¬ ((∃ p, readPath stop ts rest = .ok p) ∧ DropsThis texts) := by
  have hts' : Segments (this :: separator :: ts) (this.text :: texts) :=
    .more hword hseparator hts
  have hlong (q : Path) : readPath stop (this :: separator :: ts) rest = .ok q ↔
      texts = List.replicate q.depth parentSegment ++ q.parts ∧ parentSegment ∉ q.parts ∧
        q.written = String.join ((this :: separator :: ts).map (·.text)) := by
    rw [readPath_eq_ok_iff hts' hrest, isPath_iff hts', hthis, withoutThis_this]
  have hshort (p : Path) : readPath stop ts rest = .ok p ↔
      withoutThis texts = List.replicate p.depth parentSegment ++ p.parts ∧
        parentSegment ∉ p.parts ∧ p.written = String.join (ts.map (·.text)) := by
    rw [readPath_eq_ok_iff hts hrest, isPath_iff hts]
  constructor
  · rintro h ⟨⟨p, hp⟩, hdrops⟩
    -- Both would have one number of segments, but only the path alone has lost one.
    obtain ⟨q, hq⟩ := h.accepted.2 ⟨p, hp⟩
    have hlength := length_withoutThis hdrops
    rw [((hshort p).1 hp).1, ← h.depth hq hp, ← h.parts hq hp, ← ((hlong q).1 hq).1] at hlength
    omega
  · intro h
    have hdrops {p : Path} (hp : readPath stop ts rest = .ok p) : withoutThis texts = texts :=
      withoutThis_eq_self fun hdrops => h ⟨⟨p, hp⟩, hdrops⟩
    have hsame {p q : Path} (hq : readPath stop (this :: separator :: ts) rest = .ok q)
        (hp : readPath stop ts rest = .ok p) : q.depth = p.depth ∧ q.parts = p.parts := by
      obtain ⟨htexts, hnames, -⟩ := (hlong q).1 hq
      have hpath : readPath stop ts rest =
          .ok ⟨q.parts, q.depth, String.join (ts.map (·.text))⟩ :=
        (hshort _).2 ⟨(hdrops hp).trans htexts, hnames, rfl⟩
      cases hp.symm.trans hpath
      exact ⟨rfl, rfl⟩
    refine ⟨⟨?_, ?_⟩, fun hq hp => (hsame hq hp).1, fun hq hp => (hsame hq hp).2,
      fun hq hp => resolve_congr (hsame hq hp).1 (hsame hq hp).2⟩
    · rintro ⟨q, hq⟩
      obtain ⟨htexts, hnames, -⟩ := (hlong q).1 hq
      refine ⟨⟨withoutThis q.parts, q.depth, String.join (ts.map (·.text))⟩,
        (hshort _).2 ⟨?_, ?_, rfl⟩⟩
      · rw [htexts, withoutThis_replicate_append]
      · exact parent_notMem_withoutThis hnames
    · rintro ⟨p, hp⟩
      obtain ⟨htexts, hnames, -⟩ := (hshort p).1 hp
      exact ⟨⟨p.parts, p.depth, String.join ((this :: separator :: ts).map (·.text))⟩,
        (hlong _).2 ⟨(hdrops hp).symm.trans htexts, hnames, rfl⟩⟩

/-- A word. -/
def word (text : String) : Token := ⟨.word, text, {}⟩

/-- A slash. -/
def slash : Token := ⟨.separator, "/", {}⟩

/-- A delimiter after a path. -/
def finish : Token := ⟨.close, "\x7d\x7d", {}⟩

theorem readAlike_this_parentName :
    (Segments [word "..", slash, word "a"] ["..", "a"] ∧ EndsPath [finish]) ∧
      (ReadAlike (readPath finish [word "this", slash, word "..", slash, word "a"] [finish])
          (readPath finish [word "..", slash, word "a"] [finish]) ↔
        ¬ ((∃ p, readPath finish [word "..", slash, word "a"] [finish] = .ok p) ∧
          DropsThis ["..", "a"])) := by
  have hsegments : Segments [word "..", slash, word "a"] ["..", "a"] := .more rfl rfl (.one rfl)
  have hfinish : EndsPath [finish] := endsPath_cons (by decide)
  exact ⟨⟨hsegments, hfinish⟩, readAlike_this_iff hsegments hfinish rfl rfl rfl finish⟩

/-- The path `../this` says what `..` does. In `this/../this` there is a name `this` instead, which
finds nothing in a number; and a further step to the parent is refused after it. -/
theorem not_readAlike_this_parentThis :
    ¬ ReadAlike (readPath finish [word "this", slash, word "..", slash, word "this"] [finish])
        (readPath finish [word "..", slash, word "this"] [finish]) ∧
      (Node.ofTemplate "\x7b\x7b../this\x7d\x7d" =
          .ok (.program [.insertion ⟨[], 1, "../this"⟩ []]) ∧
        Node.ofTemplate "\x7b\x7bthis/../this\x7d\x7d" =
          .ok (.program [.insertion ⟨["this"], 1, "this/../this"⟩ []])) ∧
      ((Node.ofTemplate "\x7b\x7b../this/..\x7d\x7d").isOk = true ∧
        (Node.ofTemplate "\x7b\x7bthis/../this/..\x7d\x7d").isOk = false) ∧
      (Frame.child ⟨.int 7, []⟩ .none).resolve ⟨[], 1, "../this"⟩ = .ok (.int 7) ∧
        (Frame.child ⟨.int 7, []⟩ .none).resolve ⟨["this"], 1, "this/../this"⟩ = .ok .none := by
  refine ⟨fun h => ?_, by decide +kernel, by decide +kernel, rfl, rfl⟩
  have hlong : readPath finish [word "this", slash, word "..", slash, word "this"] [finish] =
      .ok ⟨["this"], 1, "this/../this"⟩ := by decide +kernel
  have hshort : readPath finish [word "..", slash, word "this"] [finish] =
      .ok ⟨[], 1, "../this"⟩ := by decide +kernel
  exact List.cons_ne_nil _ _ (h.parts hlong hshort)

end Path

end Templating

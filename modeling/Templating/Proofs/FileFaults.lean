import Templating.Command.Execution
import Templating.Proofs.DocumentFaults
import Templating.Proofs.PartialTable

/-!
# What data files are refused for

The user is blamed for a data file that is not there, that is not given out or that holds no
document, and for a table of partials that is no mapping to texts. This covers every file but those
of which cannot be found out whether they are there, those whose bytes are no UTF-8, those that the
reader of documents refuses for another reason than that they are none, and those whose keys cannot
be written as names: for them the failure is passed on as it is, and so it is by the program
(`Command.blames_bad_files_iff`).
-/

namespace Templating

/-! ## Readers of documents -/

namespace Document.Reader

/-- Whether the failures of a reader are none for which this program blames its user. -/
def IsForeign (reader : Reader) : Prop :=
  ∀ text f, reader text = .error (.failure f) → f.isUserError = false

/-- Whether a reader rejects some texts as malformed, and others for a part that has no value. -/
structure Rejects (reader : Reader) (Malformed Misvalued : List Char → Prop) : Prop where
  foreign : reader.IsForeign
  malformed : ∀ text, Malformed text → reader text = .error .malformed
  misvalued : ∀ text, Misvalued text → ∃ f, reader text = .error (.failure f)

end Document.Reader

open Document (Reader)

/-- The failures that a data file gives rise to and that do not name the file. -/
inductive Failure.PassedOn (reader : Reader) : Failure → Prop where
  | bytes {f : Failure} (h : f.OfBytes) : PassedOn reader f
  | document {text : List Char} {f : Failure} (h : reader text = .error (.failure f)) :
      PassedOn reader f
  | name {f : Failure} (h : f.OfWriting) : PassedOn reader f
  | system (e : SystemError) : PassedOn reader (.system e)

namespace Failure.PassedOn

variable {reader : Reader} {f : Failure}

/-- The user is not blamed for such a failure. -/
theorem isUserError (hreader : reader.IsForeign) (h : f.PassedOn reader) :
    f.isUserError = false := by
  cases h with
  | bytes h => cases h; rfl
  | document h => exact hreader _ _ h
  | name h => cases h; rfl
  | system e => rfl

theorem ne_file (hreader : reader.IsForeign) (h : f.PassedOn reader) (path : String) :
    ¬ ∃ problem, f = .file path problem := by
  rintro ⟨problem, rfl⟩
  exact absurd (h.isUserError hreader) (by simp [Failure.isUserError])

end Failure.PassedOn

/-! ## Data files -/

namespace DataFile

variable {α β : Type} {reader : Reader} {path : String} {bytes : List UInt8}

/-- Whether a file is read, or else blamed by its name. -/
abbrev Proper (path : String) (x : Except Failure α) : Prop :=
  FailsAs (fun f => ∃ problem, f = .file path problem) x

/-- Whether a file is read, or else blamed by its name, or refused for its content without that. -/
abbrev Accounted (reader : Reader) (path : String) (x : Except Failure α) : Prop :=
  FailsAs (fun f => (∃ problem, f = .file path problem) ∨ f.PassedOn reader) x

/-- Whether bytes are those of a document with the value. -/
def Holds (reader : Reader) (bytes : List UInt8) (v : Value) : Prop :=
  ∃ text, Text.ofBytes bytes = .ok text ∧ reader text.toList = .ok v

/-- Whether bytes are UTF-8, and the text is read or malformed: it is not refused otherwise. -/
def Legible (reader : Reader) (bytes : List UInt8) : Prop :=
  ∃ text, Text.ofBytes bytes = .ok text ∧ ∀ f, reader text.toList ≠ .error (.failure f)

/-- Whether every key in front of which there are only texts can be written as a name. -/
def Nameable (entries : List (Value × Value)) : Prop :=
  ∀ before key value after, entries = before ++ (key, value) :: after →
    (∀ e ∈ before, ∃ source, e.2 = .text source) → ∃ name, key.toText = .ok name

/-- Whether bytes are legible, and the keys can be written as names if they are those of a
mapping. -/
def Listable (reader : Reader) (bytes : List UInt8) : Prop :=
  Legible reader bytes ∧ ∀ entries, Holds reader bytes (.mapping entries) → Nameable entries

theorem proper_bind_iff {x : Except Failure α} {f : α → Except Failure β} :
    Proper path (x >>= f) ↔ Proper path x ∧ ∀ a, x = .ok a → Proper path (f a) := by
  cases x with
  | error e => exact ⟨fun h => ⟨h, fun _ ha => nomatch ha⟩, fun h => h.1⟩
  | ok a =>
      constructor
      · intro h
        exact ⟨trivial, fun a' ha' => Except.ok.inj ha' ▸ h⟩
      · exact fun h => h.2 a rfl

theorem document_eq_ok_iff {v : Value} :
    document reader path bytes = .ok v ↔ Holds reader bytes v := by
  rw [document, bind_eq_ok]
  refine exists_congr fun text => and_congr_right fun _ => ?_
  cases reader text.toList with
  | ok w => simp [Except.mapError]
  | error f => simp [Except.mapError]

/-- A document is read, or the file is blamed for it, or a part of it is refused. -/
theorem accounted_document (reader : Reader) (path : String) (bytes : List UInt8) :
    Accounted reader path (document reader path bytes) := by
  have hbytes : Accounted reader path (Text.ofBytes bytes) :=
    (Text.failsAs_ofBytes bytes).imp fun _ h => .inr (.bytes h)
  refine hbytes.bind fun text _ => ?_
  cases hvalue : reader text.toList with
  | ok v => trivial
  | error fault =>
      cases fault with
      | malformed => exact .inl ⟨_, rfl⟩
      | failure f => exact .inr (.document hvalue)

/-! ### Tables of partials -/

theorem nameable_nil : Nameable [] := by
  intro before key value after h
  simp at h

theorem nameable_cons_iff {key value : Value} {entries : List (Value × Value)} :
    Nameable ((key, value) :: entries) ↔
      (∃ name, key.toText = .ok name) ∧ ((∃ source, value = .text source) → Nameable entries) := by
  constructor
  · intro h
    refine ⟨h [] key value entries rfl (by simp), ?_⟩
    rintro hvalue before key' value' after rfl hbefore
    refine h ((key, value) :: before) key' value' after rfl ?_
    exact List.forall_mem_cons.2 ⟨hvalue, hbefore⟩
  · rintro ⟨hkey, hmore⟩ before key' value' after h hbefore
    cases before with
    | nil =>
        obtain ⟨rfl, -⟩ := Prod.mk.inj (List.cons.inj h).1
        exact hkey
    | cons e before =>
        obtain ⟨rfl, rfl⟩ := List.cons.inj h
        obtain ⟨hvalue, hbefore⟩ := List.forall_mem_cons.1 hbefore
        exact hmore hvalue before key' value' after rfl hbefore

theorem accounted_toText (reader : Reader) (path : String) (key : Value) :
    Accounted reader path key.toText :=
  key.failsAs_toText.imp fun _ h => .inr (.name h)

theorem accounted_addPartial (reader : Reader) (path : String) (table : Table String)
    (entry : Value × Value) : Accounted reader path (addPartial path table entry) := by
  refine (accounted_toText reader path entry.1).bind fun name _ => ?_
  split
  · trivial
  · exact .inl ⟨_, rfl⟩

theorem accounted_tableOf (reader : Reader) (path : String) (entries : List (Value × Value)) :
    Accounted reader path (tableOf path entries) := by
  have hfold (t : Table String) : Accounted reader path (entries.foldlM (addPartial path) t) := by
    induction entries generalizing t with
    | nil => trivial
    | cons entry entries ih =>
        rw [List.foldlM_cons]
        exact (accounted_addPartial reader path t entry).bind fun t _ => ih t
  exact hfold []

/-- A table is made, or the file is blamed, just if the keys can be written, as far as they are
looked at. -/
theorem proper_tableOf_iff {entries : List (Value × Value)} :
    Proper path (tableOf path entries) ↔ Nameable entries := by
  have hfold (t : Table String) :
      Proper path (entries.foldlM (addPartial path) t) ↔ Nameable entries := by
    -- Whatever the table holds so far: only keys and values are looked at.
    induction entries generalizing t with
    | nil => exact iff_of_true trivial nameable_nil
    | cons entry entries ih =>
        obtain ⟨key, value⟩ := entry
        rw [List.foldlM_cons, nameable_cons_iff, addPartial]
        cases hname : key.toText with
        | error f =>
            refine iff_of_false ?_ (fun h => ?_)
            · rintro ⟨problem, rfl⟩
              cases key.failsAs_toText.of_error hname
            · obtain ⟨name, h⟩ := h.1
              cases h
        | ok name =>
            cases value with
            | text source =>
                refine Iff.trans (ih (t.set name source)) ?_
                simp
            | _ => exact iff_of_true ⟨_, rfl⟩ ⟨⟨name, rfl⟩, by simp⟩
  exact hfold []

/-! ### Loading -/

theorem accounted_data (reader : Reader) (path : String) (bytes : List UInt8) :
    Accounted reader path (data reader path bytes) := by
  refine (accounted_document reader path bytes).bind fun v _ => ?_
  split
  · trivial
  · trivial

theorem accounted_partials (reader : Reader) (path : String) (bytes : List UInt8) :
    Accounted reader path (partials reader path bytes) := by
  refine (accounted_document reader path bytes).bind fun v _ => ?_
  split
  · trivial
  · exact accounted_tableOf reader path _
  · exact .inl ⟨_, rfl⟩

section Foreign

variable (hreader : reader.IsForeign)

include hreader

theorem not_proper_of_passedOn {f : Failure} (h : f.PassedOn reader) :
    ¬ Proper path (.error f : Except Failure α) :=
  h.ne_file hreader path

theorem proper_document_of_text {text : String} (htext : Text.ofBytes bytes = .ok text) :
    Proper path (document reader path bytes) ↔
      ∀ f, reader text.toList ≠ .error (.failure f) := by
  rw [document_of_text htext]
  cases hvalue : reader text.toList with
  | ok v => exact iff_of_true trivial (by simp)
  | error fault =>
      cases fault with
      | malformed => exact iff_of_true ⟨_, rfl⟩ (by simp)
      | failure f =>
          exact iff_of_false (not_proper_of_passedOn hreader (.document hvalue)) (by simp)

theorem proper_document_iff :
    Proper path (document reader path bytes) ↔ Legible reader bytes := by
  unfold Legible
  cases htext : Text.ofBytes bytes with
  | error f =>
      have hdocument : document reader path bytes = .error f := by
        rw [document, htext]
        rfl
      have hbytes : f.OfBytes := (Text.failsAs_ofBytes bytes).of_error htext
      rw [hdocument]
      refine iff_of_false (not_proper_of_passedOn hreader (.bytes hbytes)) ?_
      rintro ⟨text, h, -⟩
      cases h
  | ok text => simp [proper_document_of_text hreader htext]

theorem proper_data_iff (path : String) (bytes : List UInt8) :
    Proper path (data reader path bytes) ↔ Legible reader bytes := by
  rw [data, proper_bind_iff, proper_document_iff hreader]
  refine and_iff_left fun v _ => ?_
  split
  · trivial
  · trivial

theorem proper_partials_iff (path : String) (bytes : List UInt8) :
    Proper path (partials reader path bytes) ↔ Listable reader bytes := by
  rw [partials, proper_bind_iff, proper_document_iff hreader]
  refine and_congr_right fun _ => ⟨fun h entries hentries => ?_, fun h v hv => ?_⟩
  · exact proper_tableOf_iff.1 (h _ (document_eq_ok_iff.2 hentries))
  · split
    · trivial
    · exact proper_tableOf_iff.2 (h _ (document_eq_ok_iff.1 hv))
    · exact ⟨_, rfl⟩

end Foreign

end DataFile

/-! ## The program -/

open DataFile

namespace Host

variable {α : Type} {reader : Reader} {decode : (path : String) → List UInt8 → Except Failure α}
  {P : List UInt8 → Prop} {host : Host Id}

/-- Whether it can be found out if there is a file with a name, and its bytes are as said if they
are given out. -/
def Gives (host : Host Id) (P : List UInt8 → Prop) (name : String) : Prop :=
  ∃ found, (host.fileExists (FileName.canonical name)).run = .ok found ∧
    (found = true →
      ∀ bytes, (host.readFile (FileName.canonical name)).run = .ok bytes → P bytes)

theorem load_eq (host : Host Id) (name : String) : (host.load decode name).run.run =
    match (host.fileExists (FileName.canonical name)).run with
    | .error e => .error (.system e)
    | .ok false => .error (.file (FileName.canonical name) .notFound)
    | .ok true => match (host.readFile (FileName.canonical name)).run with
      | .error e => .error (.file (FileName.canonical name) (.unreadable e))
      | .ok bytes => decode (FileName.canonical name) bytes := by
  cases h : (host.fileExists (FileName.canonical name)).run with
  | error e =>
      have h' : host.fileExists (FileName.canonical name) = pure (.error e) := h
      simp [load, h']
  | ok found =>
      have h' : host.fileExists (FileName.canonical name) = pure (.ok found) := h
      cases found with
      | false => simp [load, h']
      | true =>
          cases hread : (host.readFile (FileName.canonical name)).run with
          | error e =>
              have hread' : host.readFile (FileName.canonical name) = pure (.error e) := hread
              simp [load, h', hread']
          | ok bytes =>
              have hread' : host.readFile (FileName.canonical name) = pure (.ok bytes) := hread
              simp [load, h', hread']

/-- A file that is not there or not given out is blamed. So only bytes can be refused otherwise,
once it is known that the file is there. -/
theorem proper_load_iff (hdecode : ∀ path bytes, Proper path (decode path bytes) ↔ P bytes)
    (name : String) :
    Proper (FileName.canonical name) (host.load decode name).run.run ↔ host.Gives P name := by
  rw [load_eq, Gives]
  cases (host.fileExists (FileName.canonical name)).run with
  | error e =>
      refine iff_of_false ?_ ?_
      · rintro ⟨problem, h⟩
        cases h
      · rintro ⟨found, h, -⟩
        cases h
  | ok found =>
      cases found with
      | false => exact iff_of_true ⟨_, rfl⟩ ⟨false, rfl, nofun⟩
      | true =>
          cases (host.readFile (FileName.canonical name)).run with
          | error e => exact iff_of_true ⟨_, rfl⟩ ⟨true, rfl, nofun⟩
          | ok bytes => simp [hdecode]

/-- What a file is refused for is accounted for if what its bytes are refused for is. -/
theorem accounted_load (hdecode : ∀ path bytes, Accounted reader path (decode path bytes))
    (name : String) :
    Accounted reader (FileName.canonical name) (host.load decode name).run.run := by
  rw [load_eq]
  split
  · exact .inr (.system _)
  · exact .inl ⟨_, rfl⟩
  · split
    · exact .inl ⟨_, rfl⟩
    · exact hdecode _ _

theorem loadNamed_of_bytes (absent : α) {name : String} {bytes : List UInt8} (hname : name ≠ "")
    (hfound : (host.fileExists (FileName.canonical name)).run = .ok true)
    (hread : (host.readFile (FileName.canonical name)).run = .ok bytes) :
    (host.loadNamed absent decode name).run.run = decode (FileName.canonical name) bytes := by
  rw [loadNamed, if_neg hname, load_eq, hfound, hread]

theorem load_of_loadNamed {absent : α} {name : String} {f : Failure}
    (h : (host.loadNamed absent decode name).run.run = .error f) :
    (host.load decode name).run.run = .error f := by
  unfold loadNamed at h
  split at h
  · cases h
  · exact h

end Host

namespace Command

/-- How the program ends with a failure: with a message and the exit code 2 if the file is blamed;
otherwise the failure does not name the file, and the program ends with it. -/
def EndsWith (reader : Reader) (blamed : Prop) (f : Failure) (e : Ending) : Prop :=
  (blamed → e = { output := "", messages := failureLine f, code := .ok 2 }) ∧
    (¬ blamed → f.PassedOn reader ∧ e = { output := "", messages := "", code := .error f })

theorem ending_fail (debug : Bool) (f : Failure) :
    ending debug (Run.fail f) =
      if f.isUserError then { output := "", messages := failureLine f, code := .ok 2 }
      else { output := "", messages := "", code := .error f } := by
  cases debug with
  | true => simp [ending, Run.fail]
  | false => simp [ending, Run.fail]

variable {reader : Reader} {host : Host Id} {template source data partials : String} {f : Failure}

/-- The program tells the user of a failure just if it is that of a file that is blamed. -/
theorem endsWith_of_error (hreader : reader.IsForeign) {α : Type} {path : String}
    {x : Except Failure α} {blamed : Prop} (haccounted : Accounted reader path x)
    (hproper : Proper path x ↔ blamed) (hx : x = .error f) (debug : Bool) :
    EndsWith reader blamed f (ending debug (Run.fail f)) := by
  subst hx
  rw [EndsWith, ending_fail, ← hproper]
  constructor
  · rintro ⟨problem, rfl⟩
    rfl
  · intro himproper
    rcases haccounted with hblamed | hpassed
    · exact absurd hblamed himproper
    · exact ⟨hpassed, by simp [hpassed.isUserError hreader]⟩

/-- A command that fails at its work comes to that failure. -/
theorem run_of_work {c : Command} (h : (c.work reader host).run.run = .error f) :
    (c.run reader host).run = Run.fail f := by
  have h' : (c.work reader host).run = pure (.error f) := h
  simp [Command.run, h']

theorem run_render_of_data (htemplate : (host.template template).run.run = .ok source)
    (hdata : (host.loadNamed (.mapping []) (DataFile.data reader) data).run.run = .error f) :
    ((render template data partials).run reader host).run = Run.fail f := by
  refine run_of_work ?_
  have htemplate' : host.template template = pure source := htemplate
  have hdata' : host.loadNamed (.mapping []) (DataFile.data reader) data = throw f := hdata
  rw [work, htemplate', pure_bind, hdata']
  rfl

theorem run_render_of_partials {value : Value}
    (htemplate : (host.template template).run.run = .ok source)
    (hdata : (host.loadNamed (.mapping []) (DataFile.data reader) data).run.run = .ok value)
    (hpartials : (host.loadNamed [] (DataFile.partials reader) partials).run.run = .error f) :
    ((render template data partials).run reader host).run = Run.fail f := by
  refine run_of_work ?_
  have htemplate' : host.template template = pure source := htemplate
  have hdata' : host.loadNamed (.mapping []) (DataFile.data reader) data = pure value := hdata
  have hpartials' : host.loadNamed [] (DataFile.partials reader) partials = throw f := hpartials
  rw [work, htemplate', pure_bind, hdata', pure_bind, hpartials']
  rfl

/-- **Who is blamed for a data file**, whatever reads the documents. Data are read or the file is
blamed just if it can be found out whether the file is there and its bytes, if it gives any, are
legible, and for a table of partials the keys have to be ones that can be written, too. In these
cases a rendering that is stopped by the file ends with a message and the exit code 2; in all others
it ends with the failure. Texts that are rejected as malformed are legible, and those that are
rejected for a part without a value are not. -/
theorem blames_bad_files_iff {Malformed Misvalued : List Char → Prop}
    (hreader : reader.Rejects Malformed Misvalued) (host : Host Id) (debug : Bool)
    {template source : String} (htemplate : (host.template template).run.run = .ok source)
    (data partials : String) :
    (Proper (FileName.canonical data) (host.load (DataFile.data reader) data).run.run ↔
      host.Gives (Legible reader) data) ∧
    (Proper (FileName.canonical partials) (host.load (DataFile.partials reader) partials).run.run ↔
      host.Gives (Listable reader) partials) ∧
    (∀ f, (host.loadNamed (.mapping []) (DataFile.data reader) data).run.run = .error f →
      EndsWith reader (host.Gives (Legible reader) data) f
        (ending debug ((render template data partials).run reader host).run)) ∧
    (∀ value f, (host.loadNamed (.mapping []) (DataFile.data reader) data).run.run = .ok value →
      (host.loadNamed [] (DataFile.partials reader) partials).run.run = .error f →
        EndsWith reader (host.Gives (Listable reader) partials) f
          (ending debug ((render template data partials).run reader host).run)) ∧
    ∀ bytes text, Text.ofBytes bytes = .ok text →
      (Malformed text.toList → Legible reader bytes) ∧
        (Misvalued text.toList → ¬ Legible reader bytes) := by
  have hforeign := hreader.foreign
  have hdata := host.proper_load_iff (proper_data_iff hforeign) data
  have hpartials := host.proper_load_iff (proper_partials_iff hforeign) partials
  refine ⟨hdata, hpartials, fun f hf => ?_, fun value f hvalue hf => ?_,
    fun bytes text htext => ⟨fun hmalformed => ?_, fun hmisvalued => ?_⟩⟩
  · rw [run_render_of_data htemplate hf]
    exact endsWith_of_error hforeign (Host.accounted_load (accounted_data reader) data) hdata
      (Host.load_of_loadNamed hf) debug
  · rw [run_render_of_partials htemplate hvalue hf]
    exact endsWith_of_error hforeign (Host.accounted_load (accounted_partials reader) partials)
      hpartials (Host.load_of_loadNamed hf) debug
  · refine ⟨text, htext, fun f h => ?_⟩
    rw [hreader.malformed _ hmalformed] at h
    cases h
  · rintro ⟨text', htext', hread⟩
    obtain rfl : text = text' := Except.ok.inj (htext.symm.trans htext')
    obtain ⟨f, hf⟩ := hreader.misvalued _ hmisvalued
    exact hread f hf

/-! ### The reader of this library -/

theorem isForeign_value : Reader.IsForeign Document.value := by
  intro text f h
  cases (Document.failsAs_value text).of_error h with
  | failure hscalar => exact hscalar.isUserError

/-- A template, a quote that is not closed, a date that is none, and a byte that begins no
character. -/
def kitchen : FileTree :=
  [(["t"], .file (ascii "x")), (["a"], .file (ascii "\"")),
    (["d"], .file (ascii "d: 2001-02-30\n")), (["b"], .file [0xFF])]

theorem value_openQuote : Document.value "\"".toList = .error .malformed := by
  have hmarks : (Document.Mark.ofText "\"".toList).toList = [.unreadable .malformed] := by
    decide +kernel
  rw [Document.value, Document.Tree.ofText, hmarks]
  rfl

theorem value_noDate : Document.value "d: 2001-02-30\n".toList =
    .error (.failure (.invalidDate .day)) := by
  have hmarks : (Document.Mark.ofText "d: 2001-02-30\n".toList).toList =
      [.blockMapping, .key, .scalar true "d", .value, .scalar true "2001-02-30", .blockEnd] := by
    decide +kernel
  rw [Document.value_of_marks hmarks rfl]
  with_unfolding_all rfl

theorem rejects_value : Reader.Rejects Document.value (· = "\"".toList)
    (· = "d: 2001-02-30\n".toList) where
  foreign := isForeign_value
  malformed := by
    rintro _ rfl
    exact value_openQuote
  misvalued := by
    rintro _ rfl
    exact ⟨_, value_noDate⟩

theorem blames_bad_files_openQuote :
    Reader.Rejects Document.value (· = "\"".toList) (· = "d: 2001-02-30\n".toList) ∧
      ((kitchen.host []).template "t").run.run = .ok "x" ∧
      (kitchen.host []).Gives (Legible Document.value) "a" ∧
      ending true ((render "t" "a" "").run Document.value (kitchen.host [])).run =
        { output := "", messages := "Invalid YAML/JSON in a\n", code := .ok 2 } := by
  have htemplate : ((kitchen.host []).template "t").run.run = .ok "x" := by decide +kernel
  have hfound : ((kitchen.host []).fileExists (FileName.canonical "a")).run = .ok true := by
    decide +kernel
  have hread : ((kitchen.host []).readFile (FileName.canonical "a")).run = .ok (ascii "\"") := by
    decide +kernel
  have htext : Text.ofBytes (ascii "\"") = .ok "\"" := by decide +kernel
  obtain ⟨-, -, hends, -, hrejected⟩ :=
    blames_bad_files_iff rejects_value (kitchen.host []) true htemplate "a" ""
  have hgives : (kitchen.host []).Gives (Legible Document.value) "a" := by
    refine ⟨true, hfound, fun _ bytes hbytes => ?_⟩
    obtain rfl := Except.ok.inj (hread.symm.trans hbytes)
    exact (hrejected _ _ htext).1 rfl
  have hdata : ((kitchen.host []).loadNamed (.mapping []) (DataFile.data Document.value)
      "a").run.run = .error (.file "a" .invalidDocument) := by
    have hname : FileName.canonical "a" = "a" := by decide +kernel
    rw [Host.loadNamed_of_bytes _ (by decide) hfound hread, hname, DataFile.data,
      document_of_text htext, value_openQuote]
    rfl
  have hline : failureLine (.file "a" .invalidDocument) = "Invalid YAML/JSON in a\n" := by
    decide +kernel
  have hending := (hends _ hdata).1 hgives
  rw [hline] at hending
  exact ⟨rejects_value, htemplate, hgives, hending⟩

/-- A date that no calendar has and bytes that are no text are not put down to the file, and the
program ends with what they are refused for. -/
theorem not_blames_date_or_byte :
    ¬ Proper "d" (DataFile.data Document.value "d" (ascii "d: 2001-02-30\n")) ∧
      ¬ Proper "b" (DataFile.partials Document.value "b" [0xFF]) ∧
        ending false ((render "t" "d" "").run Document.value (kitchen.host [])).run =
          { output := "", messages := "", code := .error (.invalidDate .day) } := by
  have hdate : DataFile.data Document.value "d" (ascii "d: 2001-02-30\n") =
      .error (.invalidDate .day) := by
    have htext : Text.ofBytes (ascii "d: 2001-02-30\n") = .ok "d: 2001-02-30\n" := by decide +kernel
    rw [DataFile.data, document_of_text htext, value_noDate]
    rfl
  have hbyte : DataFile.partials Document.value "b" [0xFF] =
      .error (.undecodable [0xFF] 0 .invalidStart) := by decide +kernel
  have hname : FileName.canonical "d" = "d" := by decide +kernel
  have htemplate : ((kitchen.host []).template "t").run.run = .ok "x" := by decide +kernel
  have hfound : ((kitchen.host []).fileExists (FileName.canonical "d")).run = .ok true := by
    decide +kernel
  have hread : ((kitchen.host []).readFile (FileName.canonical "d")).run =
      .ok (ascii "d: 2001-02-30\n") := by decide +kernel
  have hdata : ((kitchen.host []).loadNamed (.mapping []) (DataFile.data Document.value)
      "d").run.run = .error (.invalidDate .day) := by
    rw [Host.loadNamed_of_bytes _ (by decide) hfound hread, hname, hdate]
  refine ⟨?_, ?_, ?_⟩
  · rw [hdate]
    exact not_proper_of_passedOn isForeign_value (.document value_noDate)
  · rw [hbyte]
    exact not_proper_of_passedOn isForeign_value (.bytes (.undecodable _ _ _))
  · rw [run_render_of_data htemplate hdata, ending_fail]
    simp [Failure.isUserError]

end Command

end Templating

import Mathlib.Data.List.Nodup
import Templating.DataFile
import Templating.Document.Content
import Templating.Proofs.Overrides
import Templating.Proofs.Parsing

/-!
# Tables of partials from files

A table of partials is made from the entries of a mapping: each text goes in under what its key is
written as. A table is made just if every value is a text and every key can be written, and of keys
that are written alike the last one counts (`DataFile.get?_of_tableOf`). So the table keeps all
entries just if no two keys are written alike (`DataFile.keeps_iff_apart`), as in every file whose
keys are all texts. This is so for every reader of documents that has no key twice in a mapping, as
the one of this library (`Document.tellsKeysApart_value`).
-/

namespace Templating

/-! ## Rows set one after the other -/

namespace Table

variable {α : Type} {t : Table α} {rows : List (String × α)}

/-- A table with rows set one after the other. -/
def setAll (t : Table α) (rows : List (String × α)) : Table α :=
  rows.foldl (fun t row => t.set row.1 row.2) t

theorem mem_names_set (t : Table α) (name other : String) (value : α) :
    other ∈ (t.set name value).map (·.1) ↔ other = name ∨ other ∈ t.map (·.1) := by
  rw [← not_iff_not, not_or, ← get?_eq_none_iff, ← get?_eq_none_iff, get?_set]
  by_cases h : other = name
  · simp [h]
  · simp [h]

theorem length_set (t : Table α) (name : String) (value : α) :
    (t.set name value).length = if name ∈ t.map (·.1) then t.length else t.length + 1 := by
  induction t with
  | nil => rfl
  | cons entry t ih =>
      obtain ⟨n, v⟩ := entry
      by_cases h : n = name
      · simp [set, h]
      · rw [set, if_neg h, List.length_cons, ih]
        have hiff : name ∈ ((n, v) :: t).map (·.1) ↔ name ∈ t.map (·.1) := by simp [Ne.symm h]
        rw [if_congr hiff rfl rfl]
        split
        · rfl
        · rfl

/-- Of rows with one name the last one counts. -/
theorem get?_setAll (t : Table α) (rows : List (String × α)) (name : String) :
    (t.setAll rows).get? name = (get? rows.reverse name).or (t.get? name) := by
  induction rows generalizing t with
  | nil => rfl
  | cons row rows ih =>
      have hstep : t.setAll (row :: rows) = (t.set row.1 row.2).setAll rows := rfl
      have hone : get? [row] name = if name = row.1 then some row.2 else none := get?_cons _ _ _ _
      rw [hstep, ih, List.reverse_cons, get?_append, Option.or_assoc, get?_set, hone]
      split
      · rfl
      · rfl

theorem get?_setAll_nil_iff {name : String} {value : α} :
    (setAll [] rows).get? name = some value ↔
      ∃ before after, rows = before ++ (name, value) :: after ∧ name ∉ after.map (·.1) := by
  rw [get?_setAll, get?_nil, Option.or_none, get?, List.lookup_eq_some_iff]
  constructor
  · rintro ⟨after, before, hrows, hafter⟩
    refine ⟨before.reverse, after.reverse, ?_, fun hmem => ?_⟩
    · rw [← List.reverse_reverse rows, hrows]
      simp
    · obtain ⟨row, hrow, rfl⟩ := List.mem_map.1 hmem
      simpa using hafter row (List.mem_reverse.1 hrow)
  · rintro ⟨before, after, rfl, hafter⟩
    refine ⟨after.reverse, before.reverse, by simp, fun row hrow => bne_iff_ne.2 ?_⟩
    rintro rfl
    exact hafter (List.mem_map_of_mem (List.mem_reverse.1 hrow))

theorem length_setAll_le (t : Table α) (rows : List (String × α)) :
    (t.setAll rows).length ≤ t.length + rows.length := by
  induction rows generalizing t with
  | nil => exact Nat.le_refl _
  | cons row rows ih =>
      have hrest := ih (t.set row.1 row.2)
      have hset := length_set t row.1 row.2
      show ((t.set row.1 row.2).setAll rows).length ≤ _
      rw [List.length_cons]
      split at hset <;> omega

/-- A table grows by every row just if the names of the rows are new and distinct. -/
theorem length_setAll_iff (t : Table α) (rows : List (String × α)) :
    (t.setAll rows).length = t.length + rows.length ↔
      Distinct rows ∧ ∀ row ∈ rows, row.1 ∉ t.map (·.1) := by
  induction rows generalizing t with
  | nil => simp [setAll, Distinct]
  | cons row rows ih =>
      have hstep : t.setAll (row :: rows) = (t.set row.1 row.2).setAll rows := rfl
      have hle := length_setAll_le (t.set row.1 row.2) rows
      have hset := length_set t row.1 row.2
      rw [hstep, List.length_cons, Distinct, List.map_cons, List.nodup_cons]
      by_cases hold : row.1 ∈ t.map (·.1)
      · rw [if_pos hold] at hset
        constructor
        · intro h
          omega
        · rintro ⟨-, hnew⟩
          exact absurd hold (hnew row (by simp))
      · rw [if_neg hold] at hset
        have hiff := ih (t.set row.1 row.2)
        simp only [mem_names_set] at hiff
        rw [← Nat.add_assoc, Nat.add_right_comm, ← hset, hiff, Distinct]
        grind

/-- An entry is found under its name if no other one has it. -/
theorem get?_of_mem {name : String} {value : α} (h : Distinct t) (hmem : (name, value) ∈ t) :
    t.get? name = some value := by
  obtain ⟨before, after, rfl⟩ := List.append_of_mem hmem
  refine List.lookup_eq_some_iff.2 ⟨before, after, rfl, fun entry hentry => bne_iff_ne.2 ?_⟩
  rw [Distinct, List.map_append, List.nodup_append] at h
  exact (h.2.2 entry.1 (List.mem_map_of_mem hentry) name (by simp)).symm

end Table

/-! ## Entries as rows -/

namespace DataFile

variable {path : String} {entries : List (Value × Value)} {table : Table String}

/-- Rows of a name and a text for entries, one by one: the name is what the key is written as. -/
def AreRows (entries : List (Value × Value)) (rows : List (String × String)) : Prop :=
  entries.map (fun e => (e.1.toText, e.2)) = rows.map fun row => (.ok row.1, .text row.2)

/-- Whether no two keys of entries are written alike. -/
def Apart (entries : List (Value × Value)) : Prop :=
  (entries.map fun e => e.1.toText).Nodup

/-- Whether a table has an entry for each one of a mapping: its text under what its key is written
as, and nothing more or less. -/
structure Keeps (entries : List (Value × Value)) (table : Table String) : Prop where
  found {key value : Value} (h : (key, value) ∈ entries) :
    ∃ name source, key.toText = .ok name ∧ value = .text source ∧ table.get? name = some source
  size : table.length = entries.length

theorem addPartial_eq_ok_iff {entry : Value × Value} {t t' : Table String} :
    addPartial path t entry = .ok t' ↔
      ∃ name source, entry.1.toText = .ok name ∧ entry.2 = .text source ∧
        t' = t.set name source := by
  unfold addPartial
  rw [bind_eq_ok]
  constructor
  · rintro ⟨name, hname, h⟩
    split at h
    · rename_i source hsource
      cases h
      exact ⟨name, source, hname, hsource, rfl⟩
    · cases h
  · rintro ⟨name, source, hname, hsource, rfl⟩
    refine ⟨name, hname, ?_⟩
    rw [hsource]
    rfl

theorem foldlM_addPartial_eq_ok_iff {t t' : Table String} :
    entries.foldlM (addPartial path) t = .ok t' ↔
      ∃ rows, AreRows entries rows ∧ t' = t.setAll rows := by
  induction entries generalizing t with
  | nil =>
      constructor
      · rintro ⟨⟩
        exact ⟨[], rfl, rfl⟩
      · rintro ⟨rows, hrows, rfl⟩
        obtain rfl : rows = [] := by simpa [AreRows] using hrows
        rfl
  | cons entry entries ih =>
      rw [List.foldlM_cons, bind_eq_ok]
      simp only [addPartial_eq_ok_iff, ih]
      constructor
      · rintro ⟨_, ⟨name, source, hname, hsource, rfl⟩, rows, hrows, rfl⟩
        refine ⟨(name, source) :: rows, ?_, rfl⟩
        rw [AreRows, List.map_cons, List.map_cons, hname, hsource, hrows]
      · rintro ⟨rows, hrows, rfl⟩
        obtain ⟨row, rows, rfl, hrow, hmore⟩ := List.map_eq_cons_iff.1 hrows.symm
        obtain ⟨hname, hsource⟩ := Prod.mk.inj hrow
        exact ⟨_, ⟨row.1, row.2, hname.symm, hsource.symm, rfl⟩, rows, hmore.symm, rfl⟩

theorem tableOf_eq_ok_iff :
    tableOf path entries = .ok table ↔
      ∃ rows, AreRows entries rows ∧ table = Table.setAll [] rows :=
  foldlM_addPartial_eq_ok_iff

/-- Entries have rows just if every value is a text and every key can be written. -/
theorem exists_areRows_iff :
    (∃ rows, AreRows entries rows) ↔
      ∀ e ∈ entries, (∃ source, e.2 = .text source) ∧ ∃ name, e.1.toText = .ok name := by
  induction entries with
  | nil => exact ⟨fun _ => nofun, fun _ => ⟨[], rfl⟩⟩
  | cons entry entries ih =>
      rw [List.forall_mem_cons, ← ih]
      constructor
      · rintro ⟨rows, hrows⟩
        obtain ⟨row, rows, rfl, hrow, hmore⟩ := List.map_eq_cons_iff.1 hrows.symm
        obtain ⟨hname, hsource⟩ := Prod.mk.inj hrow
        exact ⟨⟨⟨_, hsource.symm⟩, _, hname.symm⟩, rows, hmore.symm⟩
      · rintro ⟨⟨⟨source, hsource⟩, name, hname⟩, rows, hrows⟩
        refine ⟨(name, source) :: rows, ?_⟩
        rw [AreRows, List.map_cons, List.map_cons, hname, hsource, hrows]

namespace AreRows

variable {rows : List (String × String)}

theorem length_eq (h : AreRows entries rows) : rows.length = entries.length := by
  simpa using (congrArg List.length h).symm

theorem map_toText (h : AreRows entries rows) :
    entries.map (fun e => e.1.toText) = (rows.map (·.1)).map .ok := by
  simpa [Function.comp_def] using congrArg (List.map Prod.fst) h

theorem apart_iff (h : AreRows entries rows) : Apart entries ↔ Table.Distinct rows := by
  rw [Apart, h.map_toText, List.nodup_map_iff fun a b hab => Except.ok.inj hab, Table.Distinct]

/-- What a key is written as is the name of a row. -/
theorem exists_toText_iff (h : AreRows entries rows) (name : String) :
    (∃ e ∈ entries, e.1.toText = .ok name) ↔ name ∈ rows.map (·.1) := by
  rw [← List.mem_map (f := fun e : Value × Value => e.1.toText), h.map_toText,
    List.mem_map_of_injective fun a b hab => Except.ok.inj hab]

/-- An entry is a row. -/
theorem exists_mem {key value : Value} (h : AreRows entries rows) (he : (key, value) ∈ entries) :
    ∃ row ∈ rows, key.toText = .ok row.1 ∧ value = .text row.2 := by
  have hmem := List.mem_map_of_mem (f := fun e => (e.1.toText, e.2)) he
  rw [h] at hmem
  obtain ⟨row, hrow, heq⟩ := List.mem_map.1 hmem
  obtain ⟨hname, hsource⟩ := Prod.mk.inj heq
  exact ⟨row, hrow, hname.symm, hsource.symm⟩

/-- The rows fall apart where the entries do. -/
theorem exists_append {before after : List (Value × Value)} (h : AreRows (before ++ after) rows) :
    ∃ rows' rows'', rows = rows' ++ rows'' ∧ AreRows before rows' ∧ AreRows after rows'' := by
  rw [AreRows, List.map_append] at h
  obtain ⟨rows', rows'', rfl, h', h''⟩ := List.map_eq_append_iff.1 h.symm
  exact ⟨rows', rows'', rfl, h'.symm, h''.symm⟩

/-- The entries fall apart where the rows do. -/
theorem exists_append' {rows' : List (String × String)} (h : AreRows entries (rows ++ rows')) :
    ∃ before after, entries = before ++ after ∧ AreRows before rows ∧ AreRows after rows' := by
  rw [AreRows, List.map_append] at h
  obtain ⟨before, after, rfl, h', h''⟩ := List.map_eq_append_iff.1 h
  exact ⟨before, after, rfl, h', h''⟩

end AreRows

/-! ## What a table keeps -/

/-- The table has the last text whose key is written as the name. -/
theorem get?_of_tableOf (h : tableOf path entries = .ok table) (name source : String) :
    table.get? name = some source ↔
      ∃ before key after, entries = before ++ (key, .text source) :: after ∧
        key.toText = .ok name ∧ ∀ e ∈ after, e.1.toText ≠ .ok name := by
  obtain ⟨rows, hrows, rfl⟩ := tableOf_eq_ok_iff.1 h
  rw [Table.get?_setAll_nil_iff]
  constructor
  · rintro ⟨rows', rows'', rfl, hlast⟩
    obtain ⟨before, rest, rfl, -, hrest⟩ := hrows.exists_append'
    obtain ⟨⟨key, value⟩, after, rfl, hentry, hafter⟩ := List.map_eq_cons_iff.1 hrest
    obtain ⟨hname, rfl⟩ := Prod.mk.inj hentry
    refine ⟨before, key, after, rfl, hname, fun e he hsame => hlast ?_⟩
    exact (AreRows.exists_toText_iff hafter name).1 ⟨e, he, hsame⟩
  · rintro ⟨before, key, after, rfl, hname, hlast⟩
    obtain ⟨rows', rest, rfl, -, hrest⟩ := hrows.exists_append
    obtain ⟨⟨name', source'⟩, rows'', rfl, hrow, hafter⟩ := List.map_eq_cons_iff.1 hrest.symm
    obtain ⟨hname', hsource⟩ := Prod.mk.inj hrow
    obtain rfl : name' = name := Except.ok.inj (hname'.trans hname)
    obtain rfl : source' = source := Value.text.inj hsource
    refine ⟨rows', rows'', rfl, fun hmem => ?_⟩
    obtain ⟨e, he, hsame⟩ := (AreRows.exists_toText_iff hafter.symm name').2 hmem
    exact hlast e he hsame

/-- **A table keeps all entries** just if no two of their keys are written alike. -/
theorem keeps_iff_apart (h : tableOf path entries = .ok table) :
    Keeps entries table ↔ Apart entries := by
  obtain ⟨rows, hrows, rfl⟩ := tableOf_eq_ok_iff.1 h
  have hsize : (Table.setAll [] rows).length = entries.length ↔ Apart entries := by
    have hlength := Table.length_setAll_iff ([] : Table String) rows
    simpa [hrows.apart_iff, hrows.length_eq] using hlength
  refine ⟨fun hkeeps => hsize.1 hkeeps.size, fun hapart => ⟨?_, hsize.2 hapart⟩⟩
  intro key value he
  obtain ⟨row, hrow, hname, hsource⟩ := hrows.exists_mem he
  have hdistinct : Table.Distinct rows.reverse := by
    rw [Table.Distinct, List.map_reverse, List.nodup_reverse]
    exact hrows.apart_iff.1 hapart
  refine ⟨row.1, row.2, hname, hsource, ?_⟩
  rw [Table.get?_setAll, Table.get?_of_mem hdistinct (List.mem_reverse.2 hrow)]
  rfl

end DataFile

/-! ## Keys -/

namespace Value

/-- Whether a value is one of those that scalars in a document have. -/
def IsScalar : Value → Prop
  | .none | .bool _ | .int _ | .float _ | .text _ | .bytes _ | .date _ _ _ | .dateTime _ => True
  | _ => False

/-- Only an integer can be a scalar that cannot be written, and only if it has too many digits. -/
theorem exists_toText_iff {v : Value} (h : v.IsScalar) :
    (∃ s, v.toText = .ok s) ↔
      ∀ n, v = .int n → (Nat.toDigits 10 n.natAbs).length ≤ digitLimit := by
  cases v with
  | int n =>
      have hwritten : (Value.int n).toText = Integer.toText n := rfl
      rw [hwritten, Integer.toText]
      split
      · rename_i hlong
        exact ⟨nofun, fun hshort => absurd (hshort n rfl) (by omega)⟩
      · rename_i hshort
        exact ⟨fun _ m hm => by cases hm; omega, fun _ => ⟨_, rfl⟩⟩
  | none | bool _ | float _ | text _ | bytes _ | date _ _ _ | dateTime _ =>
      exact ⟨fun _ => nofun, fun _ => ⟨_, rfl⟩⟩
  | _ => exact h.elim

/-- Whether no key in a row is the same as a later one. -/
def Unalike (keys : List Value) : Prop :=
  keys.Pairwise fun k k' => k.sameKey k' = false

/-- Setting a value adds its key at the end if there is none that is the same. -/
theorem map_fst_setKey (entries : List (Value × Value)) (key value : Value) :
    (setKey entries key value).map (·.1) =
      if hasKey entries key then entries.map (·.1) else entries.map (·.1) ++ [key] := by
  induction entries with
  | nil => rfl
  | cons entry entries ih =>
      obtain ⟨k, v⟩ := entry
      by_cases h : k.sameKey key = true
      · simp [setKey, hasKey, h]
      · have hrest : hasKey ((k, v) :: entries) key = hasKey entries key := by simp [hasKey, h]
        rw [setKey, if_neg h, List.map_cons, ih, hrest]
        split
        · rfl
        · rfl

theorem unalike_setKey {entries : List (Value × Value)} (h : Unalike (entries.map (·.1)))
    (key value : Value) : Unalike ((setKey entries key value).map (·.1)) := by
  rw [map_fst_setKey]
  split
  · exact h
  · rename_i hnone
    refine List.pairwise_append.2 ⟨h, List.pairwise_singleton _ _, fun k hk k' hk' => ?_⟩
    obtain rfl := List.mem_singleton.1 hk'
    obtain ⟨e, he, rfl⟩ := List.mem_map.1 hk
    simp only [hasKey, List.any_eq_true, not_exists, not_and] at hnone
    simpa using hnone e he

end Value

namespace Document

open Value

/-- The keys of a mapping that is built are not the same. -/
theorem Built.unalike_ofPairs (refuseTwice : Bool) (pairs : List (Built × Built))
    {entries : List (Value × Value)} (h : (ofPairs refuseTwice pairs).value = .mapping entries) :
    Unalike (entries.map (·.1)) := by
  cases h
  refine List.foldlRecOn (motive := fun state : List (Value × Value) × List (Nat × Fault) =>
    Unalike (state.1.map (·.1))) pairs _ ?_ ?_
  · exact List.Pairwise.nil
  · intro state hstate pair _
    exact unalike_setKey hstate _ _

theorem Built.value_of_toExcept {b : Built} {v : Value} (h : b.toExcept = .ok v) : b.value = v := by
  unfold toExcept at h
  dsimp only at h
  split at h
  · cases h
  · cases h
    rfl

theorem isScalar_dateOf {year month day : Nat} {v : Value} (h : dateOf year month day = .ok v) :
    v.IsScalar := by
  unfold dateOf at h
  split at h
  · cases h
  · split at h
    · cases h
    · split at h
      · cases h
      · cases h
        trivial

theorem isScalar_momentOf {m : Moment} {v : Value} (h : momentOf m = .ok v) : v.IsScalar := by
  unfold momentOf at h
  obtain ⟨_, -, h⟩ := bind_eq_ok.1 h
  split at h
  · cases h
  · split at h
    · cases h
    · split at h
      · cases h
      · cases h
        trivial

theorem isScalar_readDate {s : String} {v : Value} (h : readDate s = .ok v) : v.IsScalar := by
  have hmap {x : Except DateProblem Value} (hx : ∀ w, x = .ok w → w.IsScalar)
      (hv : (x.mapError fun p => Fault.failure (.invalidDate p)) = .ok v) : v.IsScalar := by
    cases x with
    | error p => cases hv
    | ok w =>
        cases hv
        exact hx v rfl
  unfold readDate at h
  split at h
  · split at h
    · exact hmap (fun _ => isScalar_dateOf) h
    · cases h
  · split at h
    · split at h
      · exact hmap (fun _ => isScalar_momentOf) h
      · cases h
    · cases h
  · cases h

/-- A scalar is read as a scalar. -/
theorem ScalarType.isScalar_read {type : ScalarType} {s : String} {v : Value}
    (h : type.read s = .ok v) : v.IsScalar := by
  have hmap {α : Type} {x : Except Failure α} {f : α → Value} (hf : ∀ a, (f a).IsScalar)
      (hx : (x.map f).mapError Fault.failure = .ok v) : v.IsScalar := by
    cases x with
    | error e => cases hx
    | ok a =>
        cases hx
        exact hf a
  cases type with
  | boolean => exact hmap (f := .bool) (fun _ => trivial) h
  | float => exact hmap (f := .float) (fun _ => trivial) h
  | integer => exact hmap (f := .int) (fun _ => trivial) h
  | null | text =>
      cases h
      trivial
  | date => exact isScalar_readDate h
  | merge | standIn => cases h

theorem Tree.unalike_build {t : Tree} {entries : List (Value × Value)}
    (h : t.build.value = .mapping entries) : Unalike (entries.map (·.1)) := by
  cases t with
  | scalar tag plain s =>
      unfold build at h
      split at h
      · cases h
      · split at h
        · rename_i hread
          cases h
          exact (ScalarType.isScalar_read hread).elim
        · cases h
  | sequence tag items =>
      unfold build at h
      split at h
      · cases h
      · cases h
  | mapping tag merged own =>
      unfold build at h
      split at h
      · exact Built.unalike_ofPairs _ _ h
      · cases h
  | wrongMerge =>
      unfold build at h
      cases h

theorem value_of_marks {text : List Char} {marks : List Mark} {tree : Tree}
    (hmarks : (Mark.ofText text).toList = marks) (htree : Tree.ofMarks marks = .ok tree) :
    value text = tree.merge.build.toExcept := by
  rw [value, Tree.ofText, hmarks, htree]
  rfl

/-- Whether no two keys of a mapping that a reader gives are the same. -/
def Reader.TellsKeysApart (reader : Reader) : Prop :=
  ∀ text entries, reader text = .ok (.mapping entries) → Unalike (entries.map (·.1))

/-- A mapping of a document is built key by key, and a key that is there is not added again. -/
theorem tellsKeysApart_value : Reader.TellsKeysApart value := by
  intro text entries h
  obtain ⟨tree, -, htree⟩ := bind_eq_ok.1 h
  exact Tree.unalike_build (Built.value_of_toExcept htree)

end Document

/-! ## Files -/

namespace DataFile

variable {reader : Document.Reader} {path : String} {bytes : List UInt8}
  {entries : List (Value × Value)}

theorem document_of_text {text : String} (htext : Text.ofBytes bytes = .ok text) :
    document reader path bytes = (reader text.toList).mapError fun
      | .malformed => .file path .invalidDocument
      | .failure f => f := by
  rw [document, htext]
  rfl

theorem exists_text_of_document {v : Value} (h : document reader path bytes = .ok v) :
    ∃ text, reader text = .ok v := by
  obtain ⟨text, -, hvalue⟩ := bind_eq_ok.1 h
  refine ⟨text.toList, ?_⟩
  cases hv : reader text.toList with
  | ok w =>
      rw [hv] at hvalue
      cases hvalue
      rfl
  | error f =>
      rw [hv] at hvalue
      cases hvalue

/-- Keys that are texts are written as they are, so that different ones stay apart. -/
theorem apart_of_texts (h : Value.Unalike (entries.map (·.1)))
    (htexts : ∀ e ∈ entries, ∃ s, e.1 = .text s) : Apart entries := by
  rw [Value.Unalike, List.pairwise_map] at h
  refine List.pairwise_map.2 (h.imp_of_mem fun he he' hkeys hsame => ?_)
  obtain ⟨s, hs⟩ := htexts _ he
  obtain ⟨s', hs'⟩ := htexts _ he'
  rw [hs, hs'] at hkeys hsame
  obtain rfl : s = s' := Except.ok.inj hsame
  simp [Value.sameKey] at hkeys

theorem partials_of_document (h : document reader path bytes = .ok (.mapping entries)) :
    partials reader path bytes = tableOf path entries := by
  rw [partials, h]
  rfl

/-- **A table of partials from a mapping**, whatever reads the document. It is made just if every
value is a text and no key is an integer with too many digits to be written. It has the last text of
each name, and it keeps all entries just if no two keys are written alike; keys that are texts never
are, if the reader has no key twice. -/
theorem partials_keeps_iff (reader : Document.Reader)
    (hdocument : document reader path bytes = .ok (.mapping entries))
    (hscalar : ∀ e ∈ entries, e.1.IsScalar) :
    ((∃ table, partials reader path bytes = .ok table) ↔
      ∀ e ∈ entries, (∃ source, e.2 = .text source) ∧
        ∀ n, e.1 = .int n → (Nat.toDigits 10 n.natAbs).length ≤ digitLimit) ∧
    (∀ table, partials reader path bytes = .ok table →
      (Keeps entries table ↔ Apart entries) ∧
        ∀ name source, table.get? name = some source ↔
          ∃ before key after, entries = before ++ (key, .text source) :: after ∧
            key.toText = .ok name ∧ ∀ e ∈ after, e.1.toText ≠ .ok name) ∧
    (reader.TellsKeysApart → (∀ e ∈ entries, ∃ s, e.1 = .text s) → Apart entries) := by
  rw [partials_of_document hdocument]
  refine ⟨?_, fun table htable => ⟨keeps_iff_apart htable, get?_of_tableOf htable⟩, fun hkeys => ?_⟩
  · have hrows : (∃ table, tableOf path entries = .ok table) ↔ ∃ rows, AreRows entries rows := by
      simp only [tableOf_eq_ok_iff]
      exact ⟨fun ⟨_, rows, hrows, _⟩ => ⟨rows, hrows⟩, fun ⟨rows, hrows⟩ => ⟨_, rows, hrows, rfl⟩⟩
    rw [hrows, exists_areRows_iff]
    exact forall₂_congr fun e he => and_congr_right' (Value.exists_toText_iff (hscalar e he))
  · obtain ⟨text, htext⟩ := exists_text_of_document hdocument
    exact apart_of_texts (hkeys text entries htext)

/-- The bytes of a text in ASCII. -/
def ascii (s : String) : List UInt8 :=
  s.toList.map fun c => c.toNat.toUInt8

/-- Entries with keys of three types. -/
def mixed : List (Value × Value) :=
  [(.text "a", .text "x"), (.int 1, .text "y"), (.none, .text "z")]

theorem document_mixed :
    document Document.value "f" (ascii "a: x\n1: y\n~: z\n") = .ok (.mapping mixed) := by
  have htext : Text.ofBytes (ascii "a: x\n1: y\n~: z\n") = .ok "a: x\n1: y\n~: z\n" := by
    decide +kernel
  have hmarks : (Document.Mark.ofText "a: x\n1: y\n~: z\n".toList).toList =
      [.blockMapping, .key, .scalar true "a", .value, .scalar true "x", .key, .scalar true "1",
        .value, .scalar true "y", .key, .scalar true "~", .value, .scalar true "z",
        .blockEnd] := by
    decide +kernel
  rw [document_of_text htext, Document.value_of_marks hmarks rfl]
  with_unfolding_all rfl

/-- Entries whose keys are texts. -/
def titled : List (Value × Value) :=
  [(.text "a", .text "x"), (.text "b", .text "y")]

theorem document_titled :
    document Document.value "f" (ascii "a: x\nb: y\n") = .ok (.mapping titled) := by
  have htext : Text.ofBytes (ascii "a: x\nb: y\n") = .ok "a: x\nb: y\n" := by
    decide +kernel
  have hmarks : (Document.Mark.ofText "a: x\nb: y\n".toList).toList =
      [.blockMapping, .key, .scalar true "a", .value, .scalar true "x", .key, .scalar true "b",
        .value, .scalar true "y", .blockEnd] := by
    decide +kernel
  rw [document_of_text htext, Document.value_of_marks hmarks rfl]
  with_unfolding_all rfl

theorem partials_keeps_mixed :
    document Document.value "f" (ascii "a: x\n1: y\n~: z\n") = .ok (.mapping mixed) ∧
      (∀ e ∈ mixed, e.1.IsScalar) ∧ Apart mixed ∧
      (∃ table, partials Document.value "f" (ascii "a: x\n1: y\n~: z\n") = .ok table ∧
        Keeps mixed table) ∧
      document Document.value "f" (ascii "a: x\nb: y\n") = .ok (.mapping titled) ∧
      (∀ e ∈ titled, e.1.IsScalar) ∧ Document.Reader.TellsKeysApart Document.value ∧
      (∀ e ∈ titled, ∃ s, e.1 = .text s) ∧ Apart titled := by
  have hscalar : ∀ e ∈ mixed, e.1.IsScalar := by simp [mixed, Value.IsScalar]
  have hapart : Apart mixed := by
    have hnames : mixed.map (fun e => e.1.toText) = [.ok "a", .ok "1", .ok "None"] := by
      decide +kernel
    rw [Apart, hnames]
    decide
  obtain ⟨hmade, hkeeps, -⟩ := partials_keeps_iff Document.value document_mixed hscalar
  obtain ⟨table, htable⟩ := hmade.2 (by
    intro e he
    simp only [mixed, List.mem_cons, List.not_mem_nil, or_false] at he
    rcases he with rfl | rfl | rfl
    · exact ⟨⟨_, rfl⟩, by simp⟩
    · exact ⟨⟨_, rfl⟩, by rintro n ⟨⟩; decide⟩
    · exact ⟨⟨_, rfl⟩, by simp⟩)
  have htitled : ∀ e ∈ titled, e.1.IsScalar := by simp [titled, Value.IsScalar]
  have htexts : ∀ e ∈ titled, ∃ s, e.1 = .text s := by simp [titled]
  obtain ⟨-, -, htold⟩ := partials_keeps_iff Document.value document_titled htitled
  exact ⟨document_mixed, hscalar, hapart, ⟨table, htable, (hkeeps table htable).1.2 hapart⟩,
    document_titled, htitled, Document.tellsKeysApart_value, htexts,
    htold Document.tellsKeysApart_value htexts⟩

/-- Under the number `1` and under the text `1` there are two texts, of which the table has one. -/
theorem not_keeps_written_alike :
    document Document.value "f" (ascii "1: a\n'1': b\n") =
        .ok (.mapping [(.int 1, .text "a"), (.text "1", .text "b")]) ∧
      partials Document.value "f" (ascii "1: a\n'1': b\n") = .ok [("1", "b")] ∧
        ¬ Keeps [(.int 1, .text "a"), (.text "1", .text "b")] [("1", "b")] := by
  have hdocument : document Document.value "f" (ascii "1: a\n'1': b\n") =
      .ok (.mapping [(.int 1, .text "a"), (.text "1", .text "b")]) := by
    have htext : Text.ofBytes (ascii "1: a\n'1': b\n") = .ok "1: a\n'1': b\n" := by
      decide +kernel
    have hmarks : (Document.Mark.ofText "1: a\n'1': b\n".toList).toList =
        [.blockMapping, .key, .scalar true "1", .value, .scalar true "a", .key, .scalar false "1",
          .value, .scalar true "b", .blockEnd] := by
      decide +kernel
    rw [document_of_text htext, Document.value_of_marks hmarks rfl]
    with_unfolding_all rfl
  refine ⟨hdocument, ?_, fun h => ?_⟩
  · rw [partials_of_document hdocument]
    decide +kernel
  · have hsize := h.size
    cases hsize

end DataFile

end Templating

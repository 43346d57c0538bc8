import Starfield.Proofs.Document.Lines
import Starfield.Proofs.Settings.Codec

namespace Starfield

/-!
# Edited documents

A saved document may be edited: entries of its records may be taken out, and
entries that the listing does not have may be put in.  The listing is read once
more here, as codecs with the texts that such edits lead to and what these texts
are meant to say.  An entry that was taken out has its default value, which is
that of the record it was taken out of; the others are what they were, or what
edits inside of them made of them.  Any entries can be taken out, so for every set
of places there is a text without the entries at these places.

Ranges and colors are not edited, since none of their entries may be missing.
-/

/-- The way from a value to a part of it. -/
inductive Editable.Step
  | entry (name : String)
  | item (index : ℕ)
deriving DecidableEq

/-- A codec, and what becomes of the values it writes when their text is edited. -/
structure Editable (α : Type) where
  codec : Codec α
  /-- With so many levels left to the reader, the text of a value at a level of
  indentation can be edited to a text that is meant to say another value. -/
  edited : (levels level : ℕ) -> α -> List Char -> α -> Prop
  /-- What is left of a value when the entries at some places are taken out. -/
  without : (removed : List Editable.Step -> Bool) -> α -> α

namespace Editable

variable {α σ : Type}

/-! ## Edits -/

/-- Values whose text is not edited. -/
def fixed (codec : Codec α) : Editable α where
  codec := codec
  edited _ level written text result := text = (codec.write written).chars level ∧ result = written
  without _ written := written

/-- Every item of a list is edited. -/
inductive Items (edited : α -> List Char -> α -> Prop) :
    List α -> List (List Char) -> List α -> Prop
  | nil : Items edited [] [] []
  | cons {written result : α} {text : List Char} {others results : List α} {texts : List (List Char)}
      (first : edited written text result) (behind : Items edited others texts results) :
      Items edited (written :: others) (text :: texts) (result :: results)

def list (format : Editable α) : Editable (List α) where
  codec := format.codec.list
  edited levels level written text results := Exists fun texts =>
    text = Value.enclose level '[' ']' texts ∧
      Items (format.edited (levels - 2) (level + 1)) written texts results
  without removed written :=
    written.mapIdx fun index => format.without fun place => removed (.item index :: place)

/-- A value that is there is edited. -/
inductive Choice (edited : α -> List Char -> α -> Prop) : Option α -> List Char -> Option α -> Prop
  | absent : Choice edited none "None".toList none
  | present {written result : α} {text : List Char} (inside : edited written text result) :
      Choice edited (some written) ("Some(".toList ++ text ++ [')']) (some result)

def optional (format : Editable α) : Editable (Option α) where
  codec := format.codec.optional
  edited levels level := Choice (format.edited (levels - 1) level)
  without removed := Option.map (format.without removed)

/-- The text of an entry with a name that is not among some names.  Its value
nests no deeper than the reader goes. -/
def Foreign (levels : ℕ) (names : List String) (text : List Char) : Prop :=
  Exists fun tokens => Exists fun field => Value.IsLine text tokens field ∧ field.1 ∉ names ∧
    2 + field.2.nesting ≤ levels

/-- What becomes of the lines of a record with some names of entries.  The texts
of the values stand a level further in than the record. -/
inductive Rows (levels level : ℕ) (names : List String) (default written result : σ) :
    List (Entry Editable σ) -> List Char -> Prop
  | nil : Rows levels level names default written result [] []
  | kept {entry : Entry Editable σ} {text lines : List Char} {entries : List (Entry Editable σ)}
      (inside : entry.format.edited (levels - 2) (level + 1) (entry.get written) text
        (entry.get result))
      (others : Rows levels level names default written result entries lines) :
      Rows levels level names default written result (entry :: entries)
        (Value.line (level + 1) entry.name text ++ lines)
  | removed {entry : Entry Editable σ} {lines : List Char} {entries : List (Entry Editable σ)}
      (missing : entry.get result = entry.get default)
      (others : Rows levels level names default written result entries lines) :
      Rows levels level names default written result (entry :: entries) lines
  | added {text lines : List Char} {entries : List (Entry Editable σ)}
      (foreign : Foreign levels names text)
      (others : Rows levels level names default written result entries lines) :
      Rows levels level names default written result entries (text ++ lines)

/-- What is left of an entry of a record. -/
def remaining (default : σ) (removed : List Step -> Bool) (written : σ) (entry : Entry Editable σ) :
    entry.Part :=
  if removed [.entry entry.name] then entry.get default
  else entry.format.without (fun place => removed (.entry entry.name :: place)) (entry.get written)

/-- An entry without its edits. -/
def entry (entry : Entry Editable σ) : Entry Codec σ :=
  ⟨entry.name, entry.format.codec, entry.get, entry.set⟩

def record (name : String) (default : σ) (entries : List (Entry Editable σ)) : Editable σ where
  codec := Codec.record true name default (entries.map entry)
  edited levels level written text result := Exists fun lines =>
    text = Value.lined level lines ∧
      Rows levels level (entries.map (·.name)) default written result entries lines
  without removed written :=
    entries.foldl (fun record entry => entry.set record (remaining default removed written entry)) default

instance : SettingsFormat Editable where
  single := fixed SettingsFormat.single
  double := fixed SettingsFormat.double
  word := fixed SettingsFormat.word
  seed := fixed SettingsFormat.seed
  flag := fixed SettingsFormat.flag
  text := fixed SettingsFormat.text
  range := fixed SettingsFormat.range
  counts := fixed SettingsFormat.counts
  color := fixed SettingsFormat.color
  pigment := fixed SettingsFormat.pigment
  backdrop := fixed SettingsFormat.backdrop
  list := list
  optional := optional
  record := record

/-- An entry that is printed with a foreign name and any plain value can be added. -/
theorem foreign_line {levels level : ℕ} {names : List String} {name : String}
    (isName : Tokens.IsName name.toList) (outside : name ∉ names) {value : Value}
    (plain : value.Plain) (shallow : 2 + value.nesting ≤ levels) :
    Foreign levels names (Value.line level name (value.chars level)) := by
  rcases plain.means level with ⟨tokens, spells, parses⟩
  exact ⟨_, _, Value.isLine_line level isName spells parses, outside, shallow⟩

/-! ## Edited texts are read -/

/-- Edited texts are read as what they are meant to say, and a text that was not
edited is the one that is written.  Up to some depth there are lines to edit.  There
is a text without the entries at any places. -/
structure IsSound (depth : ℕ) (format : Editable α) : Prop where
  reads : forall {levels level : ℕ} {written : α} {text : List Char} {result : α},
    format.edited levels level written text result -> Exists fun value =>
      Value.Means text value ∧ format.codec.read ⟨{}, levels⟩ value = some result
  unedited : forall {level : ℕ}, level + depth ≤ Value.widestLevel -> forall (levels : ℕ) (written : α),
    format.edited levels level written ((format.codec.write written).chars level) written
  pruned : forall (removed : List Step -> Bool) (levels level : ℕ) (written : α),
    Exists fun text => format.edited levels level written text (format.without removed written)

theorem isSound_fixed {codec : Codec α} (faithful : codec.Faithful) (depth : ℕ) :
    (fixed codec).IsSound depth := by
  refine ⟨fun {levels level written text result} edited => ?_, fun _ _ _ => ⟨rfl, rfl⟩,
    fun _ _ _ _ => ⟨_, rfl, rfl⟩⟩
  rcases edited with ⟨rfl, rfl⟩
  have keeps := faithful result
  exact ⟨_, keeps.plain.means level, keeps.reads levels⟩

/-- If every item has an edited text whatever its place is, then so has the list. -/
theorem Items.exists_mapIdx {edited : α -> List Char -> α -> Prop} {prune : ℕ -> α -> α}
    (each : forall index item, Exists fun text => edited item text (prune index item))
    (written : List α) : Exists fun texts => Items edited written texts (written.mapIdx prune) := by
  induction written generalizing prune with
  | nil => exact ⟨[], .nil⟩
  | cons item others ih =>
      rcases each 0 item with ⟨text, first⟩
      rcases ih fun index => each (index + 1) with ⟨texts, behind⟩
      rw [List.mapIdx_cons]
      exact ⟨text :: texts, .cons first behind⟩

namespace IsSound

variable {format : Editable α} {depth : ℕ}

theorem items (sound : format.IsSound depth) {levels level : ℕ} {written results : List α}
    {texts : List (List Char)} (edited : Items (format.edited levels level) written texts results) :
    Exists fun values => List.Forall₂ Value.Means texts values ∧
      values.mapM (format.codec.read ⟨{}, levels⟩) = some results := by
  induction edited with
  | nil => exact ⟨[], .nil, rfl⟩
  | cons first _ ih =>
      rcases sound.reads first with ⟨value, means, read⟩
      rcases ih with ⟨values, meanings, reads⟩
      refine ⟨value :: values, .cons means meanings, ?_⟩
      rw [List.mapM_cons, read, reads]
      rfl

protected theorem list (sound : format.IsSound depth) : format.list.IsSound (depth + 1) := by
  refine ⟨fun {levels level written text results} edited => ?_, fun {level} wide levels written => ?_,
    fun removed levels level written => ?_⟩
  · rcases edited with ⟨texts, rfl, items⟩
    rcases sound.items items with ⟨values, meanings, reads⟩
    exact ⟨.list values, Value.means_list level meanings, reads⟩
  · refine ⟨_, Value.chars_list level _, ?_⟩
    induction written with
    | nil => exact .nil
    | cons item others ih => exact .cons (sound.unedited (by omega) (levels - 2) item) ih
  · rcases Items.exists_mapIdx (fun index => sound.pruned (fun place => removed (.item index :: place))
      (levels - 2) (level + 1)) written with ⟨texts, items⟩
    exact ⟨_, texts, rfl, items⟩

protected theorem optional (sound : format.IsSound depth) : format.optional.IsSound depth := by
  refine ⟨fun {levels level written text result} edited => ?_, fun {level} wide levels written => ?_,
    fun removed levels level written => ?_⟩
  · cases edited with
    | absent => exact ⟨.absent, Value.means_absent, rfl⟩
    | present inside =>
        rcases sound.reads inside with ⟨value, means, read⟩
        refine ⟨.present value, means.present, ?_⟩
        change (format.codec.read ⟨{}, levels - 1⟩ value).map some = _
        rw [read]
        rfl
  · cases written with
    | none => exact .absent
    | some written => exact .present (sound.unedited wide (levels - 1) written)
  · cases written with
    | none => exact ⟨_, .absent⟩
    | some written =>
        rcases sound.pruned removed (levels - 1) level written with ⟨text, inside⟩
        exact ⟨_, .present inside⟩

end IsSound

/-! ## Records -/

/-- What the fields of a record tell about its entries. -/
structure Covers (levels : ℕ) (names : List String) (default result : σ)
    (entries : List (Entry Editable σ)) (fields : List (String × Value)) : Prop where
  listed : ((fields.map (·.1)).filter (· ∈ names)).Sublist (entries.map (·.name))
  shallow : ∀ field ∈ fields, field.1 ∉ names -> 2 + field.2.nesting ≤ levels
  found : ∀ entry ∈ entries,
    (Exists fun value => fields.lookup entry.name = some value ∧
      entry.format.codec.read ⟨{}, levels - 2⟩ value = some (entry.get result)) ∨
    (fields.lookup entry.name = none ∧ entry.get result = entry.get default)

namespace Covers

variable {levels : ℕ} {names : List String} {default result : σ} {entry : Entry Editable σ}
  {entries : List (Entry Editable σ)} {fields : List (String × Value)}

theorem nil : Covers levels names default result ([] : List (Entry Editable σ)) [] :=
  ⟨.slnil, by simp, by simp⟩

theorem kept (inside : entry.name ∈ names) (once : entry.name ∉ entries.map (·.name)) {value : Value}
    (read : entry.format.codec.read ⟨{}, levels - 2⟩ value = some (entry.get result))
    (covers : Covers levels names default result entries fields) :
    Covers levels names default result (entry :: entries) ((entry.name, value) :: fields) := by
  refine ⟨?_, ?_, List.forall_mem_cons.mpr ⟨?_, fun other member => ?_⟩⟩
  · rw [List.map_cons, List.filter_cons_of_pos (by simpa using inside), List.map_cons]
    exact covers.listed.cons_cons _
  · exact List.forall_mem_cons.mpr ⟨fun outside => absurd inside outside, covers.shallow⟩
  · exact Or.inl ⟨value, List.lookup_cons_self, read⟩
  · have apart : other.name ≠ entry.name := fun same => once (same ▸ List.mem_map_of_mem member)
    rw [List.lookup_cons, beq_eq_false_iff_ne.mpr apart]
    exact covers.found other member

theorem removed (inside : entry.name ∈ names) (once : entry.name ∉ entries.map (·.name))
    (missing : entry.get result = entry.get default)
    (covers : Covers levels names default result entries fields) :
    Covers levels names default result (entry :: entries) fields := by
  refine ⟨covers.listed.cons _, covers.shallow, List.forall_mem_cons.mpr ⟨?_, covers.found⟩⟩
  refine Or.inr ⟨List.lookup_eq_none_iff.mpr fun field member => ?_, missing⟩
  apply bne_iff_ne.mpr
  intro same
  have among : entry.name ∈ (fields.map (·.1)).filter (· ∈ names) := by
    rw [List.mem_filter, same]
    exact ⟨List.mem_map_of_mem member, decide_eq_true (same ▸ inside)⟩
  exact once (covers.listed.subset among)

theorem added (inside : ∀ entry ∈ entries, entry.name ∈ names) {field : String × Value}
    (outside : field.1 ∉ names) (shallow : 2 + field.2.nesting ≤ levels)
    (covers : Covers levels names default result entries fields) :
    Covers levels names default result entries (field :: fields) := by
  refine ⟨?_, List.forall_mem_cons.mpr ⟨fun _ => shallow, covers.shallow⟩, fun entry member => ?_⟩
  · rw [List.map_cons, List.filter_cons_of_neg (by simpa using outside)]
    exact covers.listed
  · have apart : entry.name ≠ field.1 := fun same => outside (same ▸ inside entry member)
    rw [List.lookup_cons, beq_eq_false_iff_ne.mpr apart]
    exact covers.found entry member

/-- No entry is there twice. -/
theorem areDistinct (covers : Covers levels names default result entries fields)
    (distinct : (entries.map (·.name)).Nodup) : Codec.areDistinct names fields = true := by
  apply List.all_eq_true.mpr
  intro name member
  have once := List.nodup_iff_count_le_one.mp (distinct.sublist covers.listed) name
  rw [List.count_filter (by simpa using member), List.count, List.countP_map,
    List.countP_eq_length_filter] at once
  exact decide_eq_true once

end Covers

/-- An entry that can be read by its name, and whose edits are sound. -/
structure IsMember (depth : ℕ) (entry : Entry Editable σ) : Prop where
  isName : Tokens.IsName entry.name.toList
  sound : entry.format.IsSound depth

/-- Setting an entry leaves another one alone. -/
def Apart (entry other : Entry Editable σ) : Prop :=
  forall record part, other.get (entry.set record part) = other.get record

/-- Entries that are told apart by their names and make up a record. -/
structure MakesUp (default : σ) (entries : List (Entry Editable σ)) : Prop where
  distinct : (entries.map (·.name)).Nodup
  apart : entries.Pairwise Apart
  /-- Setting an entry to what it is changes nothing. -/
  settles : ∀ entry ∈ entries, forall record, entry.set record (entry.get record) = record
  /-- An entry is what it is set to. -/
  takes : ∀ entry ∈ entries, forall record part, entry.get (entry.set record part) = part
  rebuilds : forall record, entries.foldl (fun rebuilt entry =>
    entry.set rebuilt (entry.get record)) default = record

namespace MakesUp

variable {default : σ} {entries : List (Entry Editable σ)}

/-- Every entry can be given a part of its own.  The parts are set from the last
entry to the first, so none is changed by those that come before it. -/
theorem exists_record (makesUp : MakesUp default entries)
    (parts : (entry : Entry Editable σ) -> entry.Part) :
    Exists fun record => ∀ entry ∈ entries, entry.get record = parts entry := by
  have apart := makesUp.apart
  have takes := makesUp.takes
  clear makesUp
  induction entries with
  | nil => exact ⟨default, by simp⟩
  | cons first entries ih =>
      rw [List.pairwise_cons] at apart
      rw [List.forall_mem_cons] at takes
      rcases ih apart.2 takes.2 with ⟨record, given⟩
      refine ⟨first.set record (parts first),
        List.forall_mem_cons.mpr ⟨takes.1 _ _, fun other member => ?_⟩⟩
      rw [apart.1 other member, given other member]

/-- Whichever entries are taken out, and whatever edits there are inside of the
others, there is a text that is meant to say the record of all that is left. -/
theorem exists_edited (makesUp : MakesUp default entries) (name : String) {levels level : ℕ}
    {written : σ} {parts : (entry : Entry Editable σ) -> entry.Part}
    (edited : ∀ entry ∈ entries, parts entry = entry.get default ∨ Exists fun text =>
      entry.format.edited (levels - 2) (level + 1) (entry.get written) text (parts entry)) :
    Exists fun text => (record name default entries).edited levels level written text
      (entries.foldl (fun record entry => entry.set record (parts entry)) default) := by
  rcases makesUp.exists_record parts with ⟨result, given⟩
  have rebuilt : entries.foldl (fun record entry => entry.set record (parts entry)) default =
      result := by
    rw [← makesUp.rebuilds result]
    exact List.foldl_ext _ _ _ fun record entry member => by rw [given entry member]
  rw [rebuilt]
  suffices rows : Exists fun lines =>
      Rows levels level (entries.map (·.name)) default written result entries lines by
    rcases rows with ⟨lines, rows⟩
    exact ⟨_, lines, rfl, rows⟩
  generalize entries.map (·.name) = names
  clear makesUp rebuilt
  induction entries with
  | nil => exact ⟨[], .nil⟩
  | cons first entries ih =>
      rw [List.forall_mem_cons] at edited given
      rcases ih edited.2 given.2 with ⟨lines, rows⟩
      rcases edited.1 with missing | ⟨text, inside⟩
      · exact ⟨lines, .removed (given.1.trans missing) rows⟩
      · rw [← given.1] at inside
        exact ⟨_, .kept inside rows⟩

end MakesUp

/-- The lines of a record are read as fields that tell about all its entries. -/
theorem Rows.areLines {levels level depth : ℕ} {names : List String} {default written result : σ}
    {entries : List (Entry Editable σ)} {lines : List Char}
    (rows : Rows levels level names default written result entries lines)
    (members : ∀ entry ∈ entries, IsMember depth entry) (inside : ∀ entry ∈ entries, entry.name ∈ names)
    (distinct : (entries.map (·.name)).Nodup) :
    Exists fun tokens => Exists fun fields => Value.AreLines lines tokens fields ∧
      Covers levels names default result entries fields := by
  induction rows with
  | nil => exact ⟨[], [], .nil, .nil⟩
  | @kept entry text lines entries edited _ ih =>
      rw [List.forall_mem_cons] at members inside
      rw [List.map_cons, List.nodup_cons] at distinct
      rcases members.1.sound.reads edited with ⟨value, ⟨tokens, spells, parses⟩, read⟩
      rcases ih members.2 inside.2 distinct.2 with ⟨behind, fields, areLines, covers⟩
      have isLine := Value.isLine_line (level + 1) members.1.isName spells parses
      exact ⟨_, _, areLines.cons isLine, covers.kept inside.1 distinct.1 read⟩
  | removed missing _ ih =>
      rw [List.forall_mem_cons] at members inside
      rw [List.map_cons, List.nodup_cons] at distinct
      rcases ih members.2 inside.2 distinct.2 with ⟨tokens, fields, areLines, covers⟩
      exact ⟨tokens, fields, areLines, covers.removed inside.1 distinct.1 missing⟩
  | added foreign _ ih =>
      rcases foreign with ⟨tokens, field, isLine, outside, shallow⟩
      rcases ih members inside distinct with ⟨behind, fields, areLines, covers⟩
      exact ⟨_, _, areLines.cons isLine, covers.added inside outside shallow⟩

/-- Reading goes through the entries from the default values on.  An entry that
is missing is still as it is in these, since only other entries were set. -/
theorem Covers.foldlM_read {levels : ℕ} {names : List String} {default result : σ}
    {all entries : List (Entry Editable σ)} {fields : List (String × Value)}
    (covers : Covers levels names default result all fields) (listed : entries ⊆ all)
    (apart : entries.Pairwise Apart)
    (settles : ∀ entry ∈ entries, forall record, entry.set record (entry.get record) = record)
    {start : σ} (fresh : ∀ entry ∈ entries, entry.get start = entry.get default) :
    (entries.map entry).foldlM (Entry.read ⟨{}, levels - 2⟩ fields) start =
      some (entries.foldl (fun record entry => entry.set record (entry.get result)) start) := by
  induction entries generalizing start with
  | nil => rfl
  | cons first entries ih =>
      rw [List.cons_subset] at listed
      rw [List.forall_mem_cons] at settles fresh
      rw [List.pairwise_cons] at apart
      have read : Entry.read ⟨{}, levels - 2⟩ fields start (entry first) =
          some (first.set start (first.get result)) := by
        rcases covers.found first listed.1 with ⟨value, found, read⟩ | ⟨looked, missing⟩
        · have sets : (first.format.codec.read ⟨{}, levels - 2⟩ value).map (first.set start) =
              some (first.set start (first.get result)) := by
            rw [read, Option.map_some]
          have found : fields.lookup (entry first).name = some value := found
          rw [Codec.read_of_lookup found]
          exact sets
        · have looked : fields.lookup (entry first).name = none := looked
          rw [Codec.read_of_missing looked, missing, ← fresh.1, settles.1]
      rw [List.map_cons, List.foldlM_cons, read, List.foldl_cons]
      refine ih listed.2 apart.2 settles.2 fun other member => ?_
      rw [apart.1 other member, fresh.2 other member]

/-- A record is edited soundly if its entries are.  A missing entry keeps its default
value, so it does not matter that it is not set. -/
theorem isSound_record {depth : ℕ} {name : String} {default : σ} {entries : List (Entry Editable σ)}
    (nonempty : entries ≠ []) (members : ∀ entry ∈ entries, IsMember depth entry)
    (makesUp : MakesUp default entries) : (record name default entries).IsSound (depth + 1) := by
  have names : (entries.map entry).map (·.name) = entries.map (·.name) := by
    rw [List.map_map]
    rfl
  refine ⟨fun {levels level written text result} edited => ?_, fun {level} wide levels written => ?_,
    fun removed levels level written => makesUp.exists_edited name fun entry member => ?_⟩
  · rcases edited with ⟨lines, rfl, rows⟩
    rcases rows.areLines members (fun entry => List.mem_map_of_mem) makesUp.distinct with
      ⟨tokens, fields, areLines, covers⟩
    refine ⟨_, Value.means_lined level areLines, Codec.read_record ?_ (Or.inl rfl) ?_ ?_⟩
    · rw [names]
      exact covers.areDistinct makesUp.distinct
    · rw [names]
      exact covers.shallow
    · rw [covers.foldlM_read (List.Subset.refl _) makesUp.apart makesUp.settles fun _ _ => rfl,
        makesUp.rebuilds]
  · have fields : (entries.map entry).map (·.write written) ≠ [] := by simpa using nonempty
    refine ⟨_, Value.chars_lined (by omega) fields, ?_⟩
    generalize entries.map (·.name) = all
    clear nonempty makesUp names fields
    induction entries with
    | nil => exact .nil
    | cons first entries ih =>
        rw [List.forall_mem_cons] at members
        exact .kept (members.1.sound.unedited (by omega) _ _) (ih members.2)
  · unfold remaining
    split_ifs
    · exact Or.inl rfl
    · exact Or.inr ((members entry member).sound.pruned _ _ _ _)

theorem members_nil {depth : ℕ} : ∀ entry ∈ ([] : List (Entry Editable σ)), IsMember depth entry :=
  fun _ member => absurd member List.not_mem_nil

theorem members_cons {depth : ℕ} {entry : Entry Editable σ} {entries : List (Entry Editable σ)}
    (isName : Tokens.IsName entry.name.toList) (sound : entry.format.IsSound depth)
    (others : ∀ entry ∈ entries, IsMember depth entry) :
    ∀ other ∈ entry :: entries, IsMember depth other :=
  List.forall_mem_cons.mpr ⟨⟨isName, sound⟩, others⟩

/-! ## The records of the settings -/

theorem isSound_starLayer (depth : ℕ) :
    (SettingsFormat.starLayer : Editable StarLayer).IsSound (depth + 1) :=
  isSound_record (by simp)
    (members_cons ⟨rfl, rfl⟩ (isSound_fixed Codec.faithful_word _) <|
      members_cons ⟨rfl, rfl⟩ (isSound_fixed Codec.faithful_range _) <|
      members_nil)
    ⟨by decide, by simp [Apart], by simp, by simp, fun _ => rfl⟩

theorem isSound_starSpeed (depth : ℕ) :
    (SettingsFormat.starSpeed : Editable StarSpeed).IsSound (depth + 1) :=
  isSound_record (by simp)
    (members_cons ⟨rfl, rfl⟩ (isSound_fixed Codec.faithful_range _) <|
      members_cons ⟨rfl, rfl⟩ (isSound_fixed Codec.faithful_range _) <|
      members_nil)
    ⟨by decide, by simp [Apart], by simp, by simp, fun _ => rfl⟩

theorem isSound_palette (depth : ℕ) :
    (SettingsFormat.palette : Editable Palette).IsSound (depth + 2) :=
  isSound_record (by simp)
    (members_cons ⟨rfl, rfl⟩ (isSound_fixed Codec.faithful_color depth).list <|
      members_cons ⟨rfl, rfl⟩ (isSound_fixed Codec.faithful_range _) <|
      members_cons ⟨rfl, rfl⟩ (isSound_fixed Codec.faithful_fraction _) <|
      members_cons ⟨rfl, rfl⟩ (isSound_fixed Codec.faithful_fraction _) <|
      members_nil)
    ⟨by decide, by simp [Apart], by simp, by simp, fun _ => rfl⟩

theorem isSound_nebula (depth : ℕ) :
    (SettingsFormat.nebula : Editable NebulaSettings).IsSound (depth + 1) :=
  isSound_record (by simp)
    (members_cons ⟨rfl, rfl⟩ (isSound_fixed Codec.faithful_word _) <|
      members_cons ⟨rfl, rfl⟩ (isSound_fixed Codec.faithful_counts _) <|
      members_cons ⟨rfl, rfl⟩ (isSound_fixed Codec.faithful_range _) <|
      members_cons ⟨rfl, rfl⟩ (isSound_fixed Codec.faithful_range _) <|
      members_cons ⟨rfl, rfl⟩ (isSound_fixed Codec.faithful_range _) <|
      members_cons ⟨rfl, rfl⟩ (isSound_fixed Codec.faithful_range _) <|
      members_cons ⟨rfl, rfl⟩ (isSound_fixed Codec.faithful_range _) <|
      members_cons ⟨rfl, rfl⟩ (isSound_fixed Codec.faithful_range _) <|
      members_cons ⟨rfl, rfl⟩ (isSound_fixed Codec.faithful_range _) <|
      members_cons ⟨rfl, rfl⟩ (isSound_fixed Codec.faithful_fraction _) <|
      members_nil)
    ⟨by decide, by simp [Apart], by simp, by simp, fun _ => rfl⟩

theorem isSound_motion (depth : ℕ) :
    (SettingsFormat.motion : Editable MotionSettings).IsSound (depth + 1) :=
  isSound_record (by simp)
    (members_cons ⟨rfl, rfl⟩ (isSound_fixed Codec.faithful_fraction _) <|
      members_cons ⟨rfl, rfl⟩ (isSound_fixed Codec.faithful_fraction _) <|
      members_nil)
    ⟨by decide, by simp [Apart], by simp, by simp, fun _ => rfl⟩

theorem isSound_twinkle (depth : ℕ) :
    (SettingsFormat.twinkle : Editable Twinkle).IsSound (depth + 1) :=
  isSound_record (by simp)
    (members_cons ⟨rfl, rfl⟩ (isSound_fixed Codec.faithful_fraction _) <|
      members_cons ⟨rfl, rfl⟩ (isSound_fixed Codec.faithful_fraction _) <|
      members_nil)
    ⟨by decide, by simp [Apart], by simp, by simp, fun _ => rfl⟩

theorem isSound_vignette (depth : ℕ) :
    (SettingsFormat.vignette : Editable Vignette).IsSound (depth + 1) :=
  isSound_record (by simp)
    (members_cons ⟨rfl, rfl⟩ (isSound_fixed Codec.faithful_fraction _) <|
      members_cons ⟨rfl, rfl⟩ (isSound_fixed Codec.faithful_fraction _) <|
      members_cons ⟨rfl, rfl⟩ (isSound_fixed Codec.faithful_fraction _) <|
      members_cons ⟨rfl, rfl⟩ (isSound_fixed Codec.faithful_pigment _) <|
      members_nil)
    ⟨by decide, by simp [Apart], by simp, by simp, fun _ => rfl⟩

theorem isSound_lightBeam (depth : ℕ) :
    (SettingsFormat.lightBeam : Editable LightBeam).IsSound (depth + 1) :=
  isSound_record (by simp)
    (members_cons ⟨rfl, rfl⟩ (isSound_fixed Codec.faithful_fraction _) <|
      members_cons ⟨rfl, rfl⟩ (isSound_fixed Codec.faithful_fraction _) <|
      members_cons ⟨rfl, rfl⟩ (isSound_fixed Codec.faithful_fraction _) <|
      members_cons ⟨rfl, rfl⟩ (isSound_fixed Codec.faithful_pigment _) <|
      members_cons ⟨rfl, rfl⟩ (isSound_fixed Codec.faithful_fraction _) <|
      members_nil)
    ⟨by decide, by simp [Apart], by simp, by simp, fun _ => rfl⟩

theorem isSound_overlay (depth : ℕ) :
    (SettingsFormat.overlay : Editable Overlay).IsSound (depth + 2) :=
  isSound_record (by simp)
    (members_cons ⟨rfl, rfl⟩ (isSound_vignette depth).optional <|
      members_cons ⟨rfl, rfl⟩ (isSound_lightBeam depth).optional <|
      members_nil)
    ⟨by decide, by simp [Apart], by simp, by simp, fun _ => rfl⟩

theorem isSound_field (depth : ℕ) :
    (SettingsFormat.field : Editable FieldSettings).IsSound (depth + 3) :=
  isSound_record (by simp)
    (members_cons ⟨rfl, rfl⟩ (isSound_fixed Codec.faithful_seed _) <|
      members_cons ⟨rfl, rfl⟩ (isSound_starLayer depth).list <|
      members_cons ⟨rfl, rfl⟩ (isSound_fixed Codec.faithful_range _) <|
      members_cons ⟨rfl, rfl⟩ (isSound_starSpeed _) <|
      members_cons ⟨rfl, rfl⟩ (isSound_fixed Codec.faithful_flag _) <|
      members_cons ⟨rfl, rfl⟩ (isSound_fixed Codec.faithful_range _) <|
      members_cons ⟨rfl, rfl⟩ (isSound_palette _) <|
      members_cons ⟨rfl, rfl⟩ (isSound_nebula _) <|
      members_cons ⟨rfl, rfl⟩ (isSound_motion _) <|
      members_cons ⟨rfl, rfl⟩ (isSound_twinkle _) <|
      members_cons ⟨rfl, rfl⟩ (isSound_fixed Codec.faithful_range _) <|
      members_cons ⟨rfl, rfl⟩ (isSound_overlay _) <|
      members_cons ⟨rfl, rfl⟩ (isSound_fixed Codec.faithful_backdrop _) <|
      members_nil)
    ⟨by decide, by simp [Apart], by simp, by simp, fun _ => rfl⟩

theorem isSound_window (depth : ℕ) :
    (SettingsFormat.window : Editable WindowSettings).IsSound (depth + 1) :=
  isSound_record (by simp)
    (members_cons ⟨rfl, rfl⟩ (isSound_fixed Codec.faithful_word _) <|
      members_cons ⟨rfl, rfl⟩ (isSound_fixed Codec.faithful_word _) <|
      members_cons ⟨rfl, rfl⟩ (isSound_fixed Codec.faithful_fraction _) <|
      members_nil)
    ⟨by decide, by simp [Apart], by simp, by simp, fun _ => rfl⟩

theorem isSound_host (depth : ℕ) :
    (SettingsFormat.host : Editable HostSettings).IsSound (depth + 1) :=
  isSound_record (by simp)
    (members_cons ⟨rfl, rfl⟩ (isSound_fixed Codec.faithful_fraction _) <|
      members_cons ⟨rfl, rfl⟩ (isSound_fixed Codec.faithful_word _) <|
      members_nil)
    ⟨by decide, by simp [Apart], by simp, by simp, fun _ => rfl⟩

theorem isSound_debug (depth : ℕ) :
    (SettingsFormat.debug : Editable DebugSettings).IsSound (depth + 1) :=
  isSound_record (by simp)
    (members_cons ⟨rfl, rfl⟩ (isSound_fixed Codec.faithful_flag _) <|
      members_cons ⟨rfl, rfl⟩ (isSound_fixed Codec.faithful_text _) <|
      members_nil)
    ⟨by decide, by simp [Apart], by simp, by simp, fun _ => rfl⟩

theorem isSound_settings : (SettingsFormat.settings : Editable Settings).IsSound 4 :=
  isSound_record (by simp)
    (members_cons ⟨rfl, rfl⟩ (isSound_window 2) <|
      members_cons ⟨rfl, rfl⟩ (isSound_field 0) <|
      members_cons ⟨rfl, rfl⟩ (isSound_host 2) <|
      members_cons ⟨rfl, rfl⟩ (isSound_debug 2) <|
      members_nil)
    ⟨by decide, by simp [Apart], by simp, by simp, fun _ => rfl⟩

end Editable

end Starfield

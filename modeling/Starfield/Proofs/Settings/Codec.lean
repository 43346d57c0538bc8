import Starfield.Proofs.Document.Printed
import Starfield.Settings.Codec

namespace Starfield

open Float.Model.UnpackedFloat (Sign)

/-!
# Codecs that keep what they write

A codec keeps a value if it writes a plain one and reads that back.  A record is
kept if its entries are, no two of them have one name, and setting all of them
makes up the record, whatever the rest was.  So for every record of the settings
there is only its list of entries to go through.
-/

/-! ## Literals -/

namespace Value

open Tokens (IsRun)

theorem isWide_of_isCharacter {c : Char} (inside : Spelling.isCharacter c = true) :
    Tokens.isWide c = true := by
  simp only [Spelling.isCharacter, Bool.or_eq_true, decide_eq_true_eq] at inside
  rcases inside with ((digit | rfl) | rfl) | rfl
  · have bounds := toNat_of_isDigit digit
    have small : c.toNat < 128 := by omega
    simp [Tokens.isWide, isIdentifierRest, small, digit]
  · rfl
  · rfl
  · rfl

theorem isRun_signed {spelling : Spelling} (sound : spelling.Sound) (sign : Sign) :
    IsRun (Layout.signed sign spelling.text) := by
  rcases sound.begins with ⟨c, rest, written, digit⟩
  refine ⟨?_, fun d member => ?_, ?_, ?_⟩
  · cases sign with
    | negative => simp [Layout.signed, Tokens.isNumberStart]
    | positive =>
        intro d first
        change d ∈ spelling.text.head? at first
        rw [written] at first
        rw [← Option.some.inj first]
        refine ⟨by simp [Tokens.isNumberStart, digit], ?_⟩
        rintro rfl
        exact absurd digit (by decide)
  · exact isWide_of_isCharacter (Literal.isCharacter_signed sound sign member)
  · cases sign with
    | negative =>
        rw [Layout.signed, List.count_cons_of_ne (by decide)]
        exact sound.count_point_le
    | positive => exact sound.count_point_le
  · cases sign with
    | negative => exact List.cons_ne_nil _ _
    | positive =>
        rw [Layout.signed, written]
        exact List.cons_ne_nil _ _

theorem isLiteral_signed {spelling : Spelling} (sound : spelling.Sound) (sign : Sign) :
    IsLiteral (Layout.signed sign spelling.text) := by
  have read : (Literal.numeral? (Layout.signed sign spelling.text)).isSome = true := by
    rw [Literal.numeral?_of_not_mem (Literal.not_mem_signed sound sign (by decide)), sound.ofChars?]
    rfl
  refine .run (isRun_signed sound sign) ?_
  rw [Literal.isNumber, Literal.isFraction,
    Literal.splitWidth_of_not_mem (Literal.not_mem_signed sound sign (by decide))]
  dsimp only
  rw [read, Bool.or_true, Bool.or_true]

/-- With a minus sign the words look like numbers. -/
theorem isRun_minus {word : List Char} (wide : word.all Tokens.isWide = true)
    (points : word.count '.' = 0) : IsRun ('-' :: word) := by
  refine ⟨fun c first => ?_, fun c member => ?_, ?_, List.cons_ne_nil _ _⟩
  · rw [← Option.some.inj first]
    decide
  · rcases List.mem_cons.mp member with rfl | member
    · rfl
    · exact List.all_eq_true.mp wide c member
  · rw [List.count_cons_of_ne (by decide), points]
    exact Nat.zero_le _

theorem isLiteral_undefined : IsLiteral "NaN".toList :=
  .word ⟨rfl, rfl⟩ rfl (by decide)

theorem isLiteral_minusUndefined : IsLiteral "-NaN".toList :=
  .run (@isRun_minus "NaN".toList rfl rfl) rfl

theorem isLiteral_infinite (sign : Sign) : IsLiteral (Layout.signed sign "inf".toList) := by
  cases sign with
  | negative => exact .run (isRun_minus rfl rfl) rfl
  | positive => exact .word ⟨rfl, rfl⟩ rfl (by decide)

theorem isLiteral_chars {α : Type} [Binary α] [Written α] (x : α) :
    IsLiteral (Layout.literal.chars x) := by
  have written := Literal.writes_chars x
  generalize Layout.literal.chars x = literal at written
  cases written with
  | undefined => exact isLiteral_undefined
  | infinite sign => exact isLiteral_infinite sign
  | spelled sign spelling sound => exact isLiteral_signed sound sign

/-- An undefined number is written without a sign. -/
theorem isMinusUndefined_chars {α : Type} [Binary α] [Written α] (x : α) :
    Literal.isMinusUndefined (Layout.literal.chars x) = false := by
  have written := Literal.writes_chars x
  generalize Layout.literal.chars x = literal at written
  cases written with
  | undefined => rfl
  | infinite sign => cases sign <;> rfl
  | spelled sign spelling sound =>
      rw [Literal.isMinusUndefined,
        Literal.splitWidth_of_not_mem (Literal.not_mem_signed sound sign (by decide))]
      apply decide_eq_false
      intro same
      apply Literal.not_mem_signed sound sign (c := 'N') (by decide)
      change Layout.signed sign spelling.text = _ at same
      rw [same]
      decide

theorem isLiteral_digits (n : ℕ) : IsLiteral (Layout.digits n) := by
  rcases Literal.spelling_digits n with ⟨sound, written⟩
  have literal := isLiteral_signed sound .positive
  rwa [Layout.signed, ← written] at literal

end Value

/-! ## Single values -/

namespace Codec

/-- A value that is written plainly and reads back.  No attributes stand in
front of it, and the levels do not matter. -/
structure Keeps {α : Type} (codec : Codec α) (x : α) : Prop where
  plain : (codec.write x).Plain
  reads : forall levels, codec.read ⟨{}, levels⟩ (codec.write x) = some x

/-- Every value is kept. -/
def Faithful {α : Type} (codec : Codec α) : Prop :=
  forall x, codec.Keeps x

theorem faithful_fraction {α : Type} [Binary α] [Written α] : (fraction : Codec α).Faithful :=
  fun x => ⟨.number _ (Value.isLiteral_chars x), fun _ => Literal.fraction?_chars x⟩

theorem keeps_natural {bits n : ℕ} (small : n < 2 ^ bits) : (natural bits).Keeps n :=
  ⟨.number _ (Value.isLiteral_digits n), fun _ => Literal.natural?_digits small⟩

theorem Keeps.map {α β : Type} {codec : Codec α} {forward : α -> β} {backward : β -> α} {y : β}
    (keeps : codec.Keeps (backward y)) (back : forward (backward y) = y) :
    (codec.map forward backward).Keeps y := by
  refine ⟨keeps.plain, fun levels => ?_⟩
  change (codec.read ⟨{}, levels⟩ (codec.write (backward y))).map forward = some y
  rw [keeps.reads, Option.map_some, back]

theorem faithful_word : word.Faithful :=
  fun n => (keeps_natural n.toNat_lt).map UInt32.ofNat_toNat

theorem faithful_seed : (SettingsFormat.seed : Codec UInt64).Faithful :=
  fun n => (keeps_natural n.toNat_lt).map UInt64.ofNat_toNat

theorem faithful_flag : flag.Faithful :=
  fun x => ⟨.flag x, fun _ => rfl⟩

theorem faithful_text : text.Faithful :=
  fun x => ⟨.text x, fun _ => rfl⟩

theorem faithful_channel : channel.Faithful := by
  intro c
  cases c with
  | minusUndefined => exact ⟨.number _ Value.isLiteral_minusUndefined, fun _ => rfl⟩
  | number x =>
      have read := Literal.fraction?_chars x
      have signless := Value.isMinusUndefined_chars x
      refine ⟨.number _ (Value.isLiteral_chars x), fun _ => ?_⟩
      change (Literal.fraction? (Layout.literal.chars x)).map (fun number =>
        if Literal.isMinusUndefined (Layout.literal.chars x) then .minusUndefined
        else Channel.number number) = _
      rw [read, signless]
      rfl

theorem Faithful.list {α : Type} {codec : Codec α} (faithful : codec.Faithful) :
    (list codec).Faithful := by
  intro items
  refine ⟨.list _ fun value member => ?_, fun levels => ?_⟩
  · rcases List.mem_map.mp member with ⟨item, -, rfl⟩
    exact (faithful item).plain
  · change (items.map codec.write).mapM (codec.read ⟨{}, levels - 2⟩) = some items
    induction items with
    | nil => rfl
    | cons item items ih =>
        rw [List.map_cons, List.mapM_cons, (faithful item).reads, ih]
        rfl

theorem Faithful.optional {α : Type} {codec : Codec α} (faithful : codec.Faithful) :
    (optional codec).Faithful := by
  intro choice
  cases choice with
  | none => exact ⟨.absent, fun _ => rfl⟩
  | some x =>
      refine ⟨.present _ (faithful x).plain, fun levels => ?_⟩
      change (codec.read ⟨{}, levels - 1⟩ (codec.write x)).map some = some (some x)
      rw [(faithful x).reads]
      rfl

/-! ## Records -/

variable {σ : Type}

/-- An entry that can be read by its name and keeps its values. -/
structure IsKept (entry : Entry Codec σ) : Prop where
  isName : Tokens.IsName entry.name.toList
  faithful : entry.format.Faithful

theorem map_fst_write (entries : List (Entry Codec σ)) (record : σ) :
    (entries.map (·.write record)).map (·.1) = entries.map (·.name) := by
  rw [List.map_map]
  rfl

theorem lookup_write {entries : List (Entry Codec σ)} (distinct : (entries.map (·.name)).Nodup)
    (record : σ) {entry : Entry Codec σ} (member : entry ∈ entries) :
    (entries.map (·.write record)).lookup entry.name =
      some (entry.format.write (entry.get record)) := by
  induction entries with
  | nil => cases member
  | cons first entries ih =>
      rw [List.map_cons, List.nodup_cons] at distinct
      rw [List.map_cons]
      change List.lookup entry.name ((first.name, first.format.write (first.get record)) :: _) = _
      rcases List.mem_cons.mp member with rfl | behind
      · rw [List.lookup_cons_self]
      · have apart : (entry.name == first.name) = false := by
          apply beq_eq_false_iff_ne.mpr
          intro same
          exact distinct.1 (same ▸ List.mem_map_of_mem behind)
        rw [List.lookup_cons, apart]
        exact ih distinct.2 behind

theorem areDistinct_write {entries : List (Entry Codec σ)} (distinct : (entries.map (·.name)).Nodup)
    (record : σ) : areDistinct (entries.map (·.name)) (entries.map (·.write record)) = true := by
  apply List.all_eq_true.mpr
  intro name _
  have once := List.nodup_iff_count_le_one.mp distinct name
  apply decide_eq_true
  rw [← map_fst_write entries record, List.count, List.countP_map, List.countP_eq_length_filter] at once
  exact once

theorem read_of_lookup {reading : Reading} {fields : List (String × Value)} {record : σ}
    {entry : Entry Codec σ} {value : Value} (found : fields.lookup entry.name = some value) :
    entry.read reading fields record = (entry.format.read reading value).map (entry.set record) := by
  rw [Entry.read, found]

theorem read_of_missing {reading : Reading} {fields : List (String × Value)} {record : σ}
    {entry : Entry Codec σ} (missing : fields.lookup entry.name = none) :
    entry.read reading fields record = some record := by
  rw [Entry.read, missing]

/-- Reading the entries one by one sets them one by one. -/
theorem foldlM_read {fields : List (String × Value)} (levels : ℕ) (written : σ)
    {entries : List (Entry Codec σ)} (kept : ∀ entry ∈ entries, IsKept entry)
    (found : ∀ entry ∈ entries,
      fields.lookup entry.name = some (entry.format.write (entry.get written))) (start : σ) :
    entries.foldlM (Entry.read ⟨{}, levels⟩ fields) start =
      some (entries.foldl (fun record entry => entry.set record (entry.get written)) start) := by
  induction entries generalizing start with
  | nil => rfl
  | cons entry entries ih =>
      have read : Entry.read ⟨{}, levels⟩ fields start entry =
          some (entry.set start (entry.get written)) := by
        rw [read_of_lookup (found entry List.mem_cons_self),
          ((kept entry List.mem_cons_self).faithful _).reads, Option.map_some]
      rw [List.foldlM_cons, read, List.foldl_cons]
      exact ih (fun other member => kept other (List.mem_cons_of_mem _ member))
        (fun other member => found other (List.mem_cons_of_mem _ member)) _

/-- A record is read by its entries if no name is there twice, none is missing
or some may be, and what is skipped does not nest too deep. -/
theorem read_record {partly : Bool} {name : String} {default record : σ}
    {entries : List (Entry Codec σ)} {levels : ℕ} {fields : List (String × Value)}
    (distinct : areDistinct (entries.map (·.name)) fields = true)
    (complete : partly = true ∨ ∀ entry ∈ entries, (fields.lookup entry.name).isSome = true)
    (shallow : ∀ field ∈ fields, field.1 ∉ entries.map (·.name) -> 2 + field.2.nesting ≤ levels)
    (sets : entries.foldlM (Entry.read ⟨{}, levels - 2⟩ fields) default = some record) :
    (Codec.record partly name default entries).read ⟨{}, levels⟩ (.record .unnamed fields) =
      some record := by
  have whole : (partly || (entries.map (·.name)).all fun name => (fields.lookup name).isSome) = true := by
    rcases complete with rfl | complete
    · rfl
    · have each : (entries.map (·.name)).all (fun name => (fields.lookup name).isSome) = true := by
        rw [List.all_map]
        exact List.all_eq_true.mpr complete
      rw [each, Bool.or_true]
  have skipped : (fields.filter (·.1 ∉ entries.map (·.name))).all
      (fun field => 2 + field.2.nesting ≤ levels) = true := by
    apply List.all_eq_true.mpr
    intro field member
    rw [List.mem_filter, decide_eq_true_eq] at member
    exact decide_eq_true (shallow field member.1 member.2)
  rw [Codec.record]
  dsimp only [fields?, Option.bind_eq_bind, Option.bind_some]
  rw [if_neg Bool.false_ne_true, Option.bind_some, if_pos]
  · exact sets
  · rw [distinct, whole, Bool.true_and, Bool.true_and]
    exact skipped

/-- A record is not read if something that would be skipped nests too deep. -/
theorem read_record_of_deep (partly : Bool) (name : String) (default : σ)
    {entries : List (Entry Codec σ)} {levels : ℕ} {fields : List (String × Value)}
    {field : String × Value} (member : field ∈ fields) (outside : field.1 ∉ entries.map (·.name))
    (deep : levels < 2 + field.2.nesting) :
    (Codec.record partly name default entries).read ⟨{}, levels⟩ (.record .unnamed fields) = none := by
  have skipped : field ∈ fields.filter (·.1 ∉ entries.map (·.name)) :=
    List.mem_filter.mpr ⟨member, decide_eq_true outside⟩
  rw [Codec.record]
  dsimp only [fields?, Option.bind_eq_bind, Option.bind_some]
  rw [if_neg Bool.false_ne_true, Option.bind_some, if_neg]
  intro accepted
  rw [Bool.and_eq_true, List.all_eq_true] at accepted
  have shallow : 2 + field.2.nesting ≤ levels := of_decide_eq_true (accepted.2 field skipped)
  omega

/-- A record is kept if its entries are, they are told apart by their names,
and they make up the record. -/
theorem faithful_record {partly : Bool} {name : String} {default : σ} {entries : List (Entry Codec σ)}
    (nonempty : entries ≠ []) (distinct : (entries.map (·.name)).Nodup)
    (kept : ∀ entry ∈ entries, IsKept entry)
    (rebuilds : forall record, entries.foldl (fun rebuilt entry =>
      entry.set rebuilt (entry.get record)) default = record) :
    (record partly name default entries).Faithful := by
  intro written
  refine ⟨.record _ (by simpa using nonempty) ?_ ?_, fun levels => ?_⟩
  · intro field member
    rcases List.mem_map.mp member with ⟨entry, inside, rfl⟩
    exact (kept entry inside).isName
  · intro field member
    rcases List.mem_map.mp member with ⟨entry, inside, rfl⟩
    exact ((kept entry inside).faithful _).plain
  · have found : ∀ entry ∈ entries, (entries.map (·.write written)).lookup entry.name =
        some (entry.format.write (entry.get written)) :=
      fun entry => lookup_write distinct written
    have complete : ∀ entry ∈ entries,
        ((entries.map (·.write written)).lookup entry.name).isSome = true := by
      intro entry member
      rw [found entry member]
      rfl
    have sets := foldlM_read (levels - 2) written kept found default
    rw [rebuilds] at sets
    refine read_record (areDistinct_write distinct written) (Or.inr complete) ?_ sets
    intro field member outside
    exact absurd (map_fst_write entries written ▸ List.mem_map_of_mem member) outside

theorem kept_nil : ∀ entry ∈ ([] : List (Entry Codec σ)), IsKept entry :=
  fun _ member => absurd member List.not_mem_nil

theorem kept_cons {entry : Entry Codec σ} {entries : List (Entry Codec σ)}
    (isName : Tokens.IsName entry.name.toList) (faithful : entry.format.Faithful)
    (others : ∀ entry ∈ entries, IsKept entry) : ∀ other ∈ entry :: entries, IsKept other :=
  List.forall_mem_cons.mpr ⟨⟨isName, faithful⟩, others⟩

/-! ## The records of the settings -/

theorem faithful_range : range.Faithful :=
  faithful_record (by simp) (by decide)
    (kept_cons ⟨rfl, rfl⟩ faithful_fraction <|
      kept_cons ⟨rfl, rfl⟩ faithful_fraction <|
      kept_nil)
    fun _ => rfl

theorem faithful_counts : counts.Faithful :=
  faithful_record (by simp) (by decide)
    (kept_cons ⟨rfl, rfl⟩ faithful_word <|
      kept_cons ⟨rfl, rfl⟩ faithful_word <|
      kept_nil)
    fun _ => rfl

theorem faithful_color : color.Faithful :=
  faithful_record (by simp) (by decide)
    (kept_cons ⟨rfl, rfl⟩ faithful_fraction <|
      kept_cons ⟨rfl, rfl⟩ faithful_fraction <|
      kept_cons ⟨rfl, rfl⟩ faithful_fraction <|
      kept_nil)
    fun _ => rfl

theorem faithful_pigment : pigment.Faithful :=
  faithful_record (by simp) (by decide)
    (kept_cons ⟨rfl, rfl⟩ faithful_channel <|
      kept_cons ⟨rfl, rfl⟩ faithful_channel <|
      kept_cons ⟨rfl, rfl⟩ faithful_channel <|
      kept_nil)
    fun _ => rfl

theorem faithful_backdrop : backdrop.Faithful :=
  faithful_record (by simp) (by decide)
    (kept_cons ⟨rfl, rfl⟩ faithful_channel <|
      kept_cons ⟨rfl, rfl⟩ faithful_channel <|
      kept_cons ⟨rfl, rfl⟩ faithful_channel <|
      kept_cons ⟨rfl, rfl⟩ faithful_channel <|
      kept_nil)
    fun _ => rfl

theorem faithful_starLayer : (SettingsFormat.starLayer : Codec StarLayer).Faithful :=
  faithful_record (by simp) (by decide)
    (kept_cons ⟨rfl, rfl⟩ faithful_word <|
      kept_cons ⟨rfl, rfl⟩ faithful_range <|
      kept_nil)
    fun _ => rfl

theorem faithful_starSpeed : (SettingsFormat.starSpeed : Codec StarSpeed).Faithful :=
  faithful_record (by simp) (by decide)
    (kept_cons ⟨rfl, rfl⟩ faithful_range <|
      kept_cons ⟨rfl, rfl⟩ faithful_range <|
      kept_nil)
    fun _ => rfl

theorem faithful_palette : (SettingsFormat.palette : Codec Palette).Faithful :=
  faithful_record (by simp) (by decide)
    (kept_cons ⟨rfl, rfl⟩ faithful_color.list <|
      kept_cons ⟨rfl, rfl⟩ faithful_range <|
      kept_cons ⟨rfl, rfl⟩ faithful_fraction <|
      kept_cons ⟨rfl, rfl⟩ faithful_fraction <|
      kept_nil)
    fun _ => rfl

theorem faithful_nebula : (SettingsFormat.nebula : Codec NebulaSettings).Faithful :=
  faithful_record (by simp) (by decide)
    (kept_cons ⟨rfl, rfl⟩ faithful_word <|
      kept_cons ⟨rfl, rfl⟩ faithful_counts <|
      kept_cons ⟨rfl, rfl⟩ faithful_range <|
      kept_cons ⟨rfl, rfl⟩ faithful_range <|
      kept_cons ⟨rfl, rfl⟩ faithful_range <|
      kept_cons ⟨rfl, rfl⟩ faithful_range <|
      kept_cons ⟨rfl, rfl⟩ faithful_range <|
      kept_cons ⟨rfl, rfl⟩ faithful_range <|
      kept_cons ⟨rfl, rfl⟩ faithful_range <|
      kept_cons ⟨rfl, rfl⟩ faithful_fraction <|
      kept_nil)
    fun _ => rfl

theorem faithful_motion : (SettingsFormat.motion : Codec MotionSettings).Faithful :=
  faithful_record (by simp) (by decide)
    (kept_cons ⟨rfl, rfl⟩ faithful_fraction <|
      kept_cons ⟨rfl, rfl⟩ faithful_fraction <|
      kept_nil)
    fun _ => rfl

theorem faithful_twinkle : (SettingsFormat.twinkle : Codec Twinkle).Faithful :=
  faithful_record (by simp) (by decide)
    (kept_cons ⟨rfl, rfl⟩ faithful_fraction <|
      kept_cons ⟨rfl, rfl⟩ faithful_fraction <|
      kept_nil)
    fun _ => rfl

theorem faithful_vignette : (SettingsFormat.vignette : Codec Vignette).Faithful :=
  faithful_record (by simp) (by decide)
    (kept_cons ⟨rfl, rfl⟩ faithful_fraction <|
      kept_cons ⟨rfl, rfl⟩ faithful_fraction <|
      kept_cons ⟨rfl, rfl⟩ faithful_fraction <|
      kept_cons ⟨rfl, rfl⟩ faithful_pigment <|
      kept_nil)
    fun _ => rfl

theorem faithful_lightBeam : (SettingsFormat.lightBeam : Codec LightBeam).Faithful :=
  faithful_record (by simp) (by decide)
    (kept_cons ⟨rfl, rfl⟩ faithful_fraction <|
      kept_cons ⟨rfl, rfl⟩ faithful_fraction <|
      kept_cons ⟨rfl, rfl⟩ faithful_fraction <|
      kept_cons ⟨rfl, rfl⟩ faithful_pigment <|
      kept_cons ⟨rfl, rfl⟩ faithful_fraction <|
      kept_nil)
    fun _ => rfl

theorem faithful_overlay : (SettingsFormat.overlay : Codec Overlay).Faithful :=
  faithful_record (by simp) (by decide)
    (kept_cons ⟨rfl, rfl⟩ faithful_vignette.optional <|
      kept_cons ⟨rfl, rfl⟩ faithful_lightBeam.optional <|
      kept_nil)
    fun _ => rfl

theorem faithful_field : (SettingsFormat.field : Codec FieldSettings).Faithful :=
  faithful_record (by simp) (by decide)
    (kept_cons ⟨rfl, rfl⟩ faithful_seed <|
      kept_cons ⟨rfl, rfl⟩ faithful_starLayer.list <|
      kept_cons ⟨rfl, rfl⟩ faithful_range <|
      kept_cons ⟨rfl, rfl⟩ faithful_starSpeed <|
      kept_cons ⟨rfl, rfl⟩ faithful_flag <|
      kept_cons ⟨rfl, rfl⟩ faithful_range <|
      kept_cons ⟨rfl, rfl⟩ faithful_palette <|
      kept_cons ⟨rfl, rfl⟩ faithful_nebula <|
      kept_cons ⟨rfl, rfl⟩ faithful_motion <|
      kept_cons ⟨rfl, rfl⟩ faithful_twinkle <|
      kept_cons ⟨rfl, rfl⟩ faithful_range <|
      kept_cons ⟨rfl, rfl⟩ faithful_overlay <|
      kept_cons ⟨rfl, rfl⟩ faithful_backdrop <|
      kept_nil)
    fun _ => rfl

theorem faithful_window : (SettingsFormat.window : Codec WindowSettings).Faithful :=
  faithful_record (by simp) (by decide)
    (kept_cons ⟨rfl, rfl⟩ faithful_word <|
      kept_cons ⟨rfl, rfl⟩ faithful_word <|
      kept_cons ⟨rfl, rfl⟩ faithful_fraction <|
      kept_nil)
    fun _ => rfl

theorem faithful_host : (SettingsFormat.host : Codec HostSettings).Faithful :=
  faithful_record (by simp) (by decide)
    (kept_cons ⟨rfl, rfl⟩ faithful_fraction <|
      kept_cons ⟨rfl, rfl⟩ faithful_word <|
      kept_nil)
    fun _ => rfl

theorem faithful_debug : (SettingsFormat.debug : Codec DebugSettings).Faithful :=
  faithful_record (by simp) (by decide)
    (kept_cons ⟨rfl, rfl⟩ faithful_flag <|
      kept_cons ⟨rfl, rfl⟩ faithful_text <|
      kept_nil)
    fun _ => rfl

theorem faithful_settings : Settings.codec.Faithful :=
  faithful_record (by simp) (by decide)
    (kept_cons ⟨rfl, rfl⟩ faithful_window <|
      kept_cons ⟨rfl, rfl⟩ faithful_field <|
      kept_cons ⟨rfl, rfl⟩ faithful_host <|
      kept_cons ⟨rfl, rfl⟩ faithful_debug <|
      kept_nil)
    fun _ => rfl

end Codec

namespace Settings

/-- The document of any settings says them. -/
theorem ofDocument?_document (settings : Settings) : ofDocument? settings.document = some settings := by
  have keeps := Codec.faithful_settings settings
  rw [ofDocument?, document, Value.print, String.toList_ofList,
    Document.ofChars?_of_means (keeps.plain.means 0)]
  exact keeps.reads 128

end Settings

end Starfield

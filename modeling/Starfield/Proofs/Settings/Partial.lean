import Starfield.Proofs.Settings.Edited
import Starfield.Proofs.Settings.Loading

namespace Starfield

/-!
# Partial documents

A saved document may lose any of its entries, and it may gain entries that the
settings do not have.  It still says settings: each entry that was taken out has
the default value of its own record, wherever the record stands, and nothing
else has changed.  Loading gives these settings if they are accepted.

The reader goes 128 levels deep.  So an added entry is only passed over if its
value nests no deeper than what is left where it stands.
-/

namespace Settings

/-- The listing with its edits. -/
def editable : Editable Settings :=
  SettingsFormat.settings

/-- How deep a document may nest. -/
def depthLimit : ℕ := ({ extensions := {} } : Reading).levels

/-- An edited document says what it is meant to say. -/
theorem ofDocument?_of_edited {settings result : Settings} {text : List Char}
    (edited : editable.edited depthLimit 0 settings text result) :
    ofDocument? (String.ofList text) = some result := by
  rcases Editable.isSound_settings.reads edited with ⟨value, means, read⟩
  rw [ofDocument?, String.toList_ofList, Document.ofChars?_of_means means]
  exact read

/-- A document is edited where nothing was taken out and nothing was added. -/
theorem edited_document (levels : ℕ) (settings : Settings) :
    editable.edited levels 0 settings settings.document.toList settings := by
  rw [document, Value.print, String.toList_ofList]
  exact Editable.isSound_settings.unedited (Nat.le_refl 4) levels settings

theorem accepted_eq_ok {settings loaded : Settings} :
    settings.accepted = .ok loaded ↔ loaded = settings ∧ settings.validate = .ok () := by
  constructor
  · exact of_accepted
  · rintro ⟨rfl, valid⟩
    exact accepted_of_valid valid

variable {disk : Type} [FileSystem (StateM disk)]

/-- The document of some settings says what it is meant to say after any of its
entries were taken out and other entries were added, and there is such a text without
the entries at any places.  From a directory it is loaded as these settings if they
are accepted, and not otherwise. -/
theorem loadOrCreate_of_edited (keeps : FileSystem.ReadsBack disk) {settings result : Settings}
    {text : List Char} (edited : editable.edited depthLimit 0 settings text result)
    {directory : Path} {before saved : disk}
    (wrote : (FileSystem.writeText (m := StateM disk) (directory.join fileName)
      (String.ofList text)).run before = (.ok (), saved)) :
    editable.edited depthLimit 0 settings settings.document.toList settings ∧
      (forall removed : List Editable.Step -> Bool, Exists fun rest =>
        editable.edited depthLimit 0 settings rest (editable.without removed settings)) ∧
      ofDocument? (String.ofList text) = some result ∧
      Exists fun outcome => Exists fun after =>
        (loadOrCreate (m := StateM disk) directory).run saved = (outcome, after) ∧
        forall loaded, outcome = .ok loaded ↔ loaded = result ∧ result.validate = .ok () := by
  have said := ofDocument?_of_edited edited
  rcases keeps.present wrote with ⟨looked, present, after, holds⟩
  have prunable (removed : List Editable.Step -> Bool) :=
    Editable.isSound_settings.pruned removed depthLimit 0 settings
  refine ⟨edited_document depthLimit settings, prunable, said, result.accepted, after, ?_,
    fun loaded => accepted_eq_ok⟩
  rw [loadOrCreate, StateT.run_bind, present]
  change ((read (m := StateM disk) directory).run looked).map (·.bind accepted) id = _
  rw [read_of_text said holds]
  rfl

/-- A sky with other settings than the default ones in most of its records. -/
def veiledNight : Settings where
  window := { width := 640 }
  field :=
    { layers := [⟨7, ⟨0.5, 0.75⟩⟩]
      glowEnabled := false
      overlay := { vignette := some { inner := 0.25, strength := 0.5 } } }
  debug := ⟨true, "warn"⟩

/-- Part of the document of `veiledNight`, with remarks. -/
def partialNight : List Char :=
  ['\n'].intercalate (List.map String.toList [
    "(",
    "    theme: \"night\",",
    "    field: (",
    "        layers: [",
    "            (",
    "                size: (min: 0.5, max: 0.75),",
    "            ),",
    "        ],",
    "        overlay: (",
    "            vignette: Some((",
    "                remarks: [\"dim\"],",
    "                strength: 0.5,",
    "            )),",
    "        ),",
    "    ),",
    "    debug: (",
    "        show_fps: true,",
    "    ),",
    ")"])

/-- What is left of `veiledNight`. -/
def restoredNight : Settings where
  field :=
    { layers := [{ size := ⟨0.5, 0.75⟩ }]
      overlay := { vignette := some { strength := 0.5 } } }
  debug := { showFps := true }

/-- The entries that `veiledNight` keeps in it. -/
def keptPlaces : List (List Editable.Step) :=
  [[.entry "field"],
    [.entry "field", .entry "layers"],
    [.entry "field", .entry "layers", .item 0, .entry "size"],
    [.entry "field", .entry "overlay"],
    [.entry "field", .entry "overlay", .entry "vignette"],
    [.entry "field", .entry "overlay", .entry "vignette", .entry "strength"],
    [.entry "debug"],
    [.entry "debug", .entry "show_fps"]]

theorem edited_partialNight :
    editable.edited depthLimit 0 veiledNight partialNight restoredNight := by
  have theme : Editable.Foreign depthLimit ["window", "field", "host", "debug"]
      (Value.line 1 "theme" ((Value.text "night").chars 1)) :=
    Editable.foreign_line ⟨rfl, rfl⟩ (by decide) (.text "night") (by decide)
  have remarks : Editable.Foreign (depthLimit - 7) ["inner", "outer", "strength", "color"]
      (Value.line 4 "remarks" ((Value.list [.text "dim"]).chars 4)) :=
    Editable.foreign_line ⟨rfl, rfl⟩ (by decide)
      (.list _ (List.forall_mem_singleton.mpr (.text "dim"))) (by decide)
  have layers : (SettingsFormat.list SettingsFormat.starLayer : Editable _).edited (depthLimit - 4) 2
      veiledNight.field.layers _ restoredNight.field.layers :=
    ⟨_, rfl, .cons ⟨_, rfl, .removed rfl (.kept ⟨rfl, rfl⟩ .nil)⟩ .nil⟩
  have vignette : (SettingsFormat.optional SettingsFormat.vignette : Editable _).edited (depthLimit - 6) 3
      veiledNight.field.overlay.vignette _ restoredNight.field.overlay.vignette :=
    .present ⟨_, rfl, .removed rfl (.removed rfl (.added remarks (.kept ⟨rfl, rfl⟩ (.removed rfl .nil))))⟩
  have field : (SettingsFormat.field : Editable _).edited (depthLimit - 2) 1
      veiledNight.field _ restoredNight.field :=
    ⟨_, rfl, .removed rfl <| .kept layers <| .removed rfl <| .removed rfl <| .removed rfl <|
      .removed rfl <| .removed rfl <| .removed rfl <| .removed rfl <| .removed rfl <| .removed rfl <|
      .kept ⟨_, rfl, .kept vignette (.removed rfl .nil)⟩ <| .removed rfl .nil⟩
  have debug : (SettingsFormat.debug : Editable _).edited (depthLimit - 2) 1
      veiledNight.debug _ restoredNight.debug :=
    ⟨_, rfl, .kept ⟨rfl, rfl⟩ (.removed rfl .nil)⟩
  refine ⟨_, ?_, .added theme (.removed rfl (.kept field (.removed rfl (.kept debug .nil))))⟩
  decide +kernel

/-- A tree with a directory to save settings in. -/
def starsTree : FileTree :=
  ((FileSystem.makeDirectories (m := StateM FileTree) ⟨"stars"⟩).run {}).2

/-- The tree with the edited document. -/
def nightTree : FileTree :=
  ((FileSystem.writeText (m := StateM FileTree) ((⟨"stars"⟩ : Path).join fileName)
    (String.ofList partialNight)).run starsTree).2

theorem loadOrCreate_partialNight :
    FileSystem.ReadsBack FileTree ∧
      editable.edited depthLimit 0 veiledNight partialNight restoredNight ∧
      (FileSystem.writeText (m := StateM FileTree) ((⟨"stars"⟩ : Path).join fileName)
        (String.ofList partialNight)).run starsTree = (.ok (), nightTree) ∧
      editable.without (· ∉ keptPlaces) veiledNight = restoredNight ∧
      (Exists fun rest => editable.edited depthLimit 0 veiledNight rest restoredNight) ∧
      ofDocument? (String.ofList partialNight) = some restoredNight ∧
      Exists fun after =>
        (loadOrCreate (m := StateM FileTree) ⟨"stars"⟩).run nightTree = (.ok restoredNight, after) := by
  have wrote : (FileSystem.writeText (m := StateM FileTree) ((⟨"stars"⟩ : Path).join fileName)
      (String.ofList partialNight)).run starsTree = (.ok (), nightTree) := rfl
  have valid : restoredNight.validate = .ok () := rfl
  rcases loadOrCreate_of_edited FileTree.readsBack edited_partialNight wrote with
    ⟨-, prunable, said, outcome, after, loads, accepts⟩
  have accepted := (accepts restoredNight).mpr ⟨rfl, valid⟩
  have pruned : editable.without (· ∉ keptPlaces) veiledNight = restoredNight := by rfl
  exact ⟨FileTree.readsBack, edited_partialNight, wrote, pruned, pruned ▸ prunable _, said, after,
    by rw [loads, accepted]⟩

/-! ## Additions that nest too deep -/

/-- The names of the entries of a document. -/
def topNames : List String :=
  ["window", "field", "host", "debug"]

/-- A document whose only entry is foreign and nests too deep is not read. -/
theorem ofDocument?_of_deep {name : String} (isName : Tokens.IsName name.toList)
    (outside : name ∉ topNames) {value : Value} (plain : value.Plain)
    (deep : depthLimit < 2 + value.nesting) :
    ofDocument? (String.ofList (Value.lined 0 (Value.line 1 name (value.chars 1)))) = none := by
  rcases plain.means 1 with ⟨tokens, spells, parses⟩
  have lines := Value.AreLines.nil.cons (Value.isLine_line 1 isName spells parses)
  rw [List.append_nil] at lines
  rw [ofDocument?, String.toList_ofList, Document.ofChars?_of_means (Value.means_lined 0 lines)]
  have inside : (name, value) ∈ [(name, value)] := List.mem_cons_self
  exact Codec.read_record_of_deep true "Config" ({} : Settings) inside outside deep

/-- Lists that stand in each other. -/
def nestedLists : ℕ -> Value
  | 0 => .list []
  | depth + 1 => .list [nestedLists depth]

theorem plain_nestedLists (depth : ℕ) : (nestedLists depth).Plain := by
  induction depth with
  | zero => exact .list [] (by simp)
  | succ depth ih => exact .list _ (List.forall_mem_singleton.mpr ih)

/-- All entries of the default settings are taken out, and a hundred lists are
put in. -/
def deepDocument : List Char :=
  Value.lined 0 (Value.line 1 "deep" ((nestedLists 99).chars 1))

/-- With more levels this would be an edit like any other, but the document is
not read. -/
theorem deepDocument_not_read :
    ({} : Settings).validate = .ok () ∧ editable.edited 1000 0 {} deepDocument {} ∧
      ofDocument? (String.ofList deepDocument) = none := by
  have isName : Tokens.IsName "deep".toList := ⟨rfl, rfl⟩
  have plain := plain_nestedLists 99
  have foreign : Editable.Foreign 1000 topNames (Value.line 1 "deep" ((nestedLists 99).chars 1)) :=
    Editable.foreign_line isName (by decide) plain (by decide +kernel)
  have edited : editable.edited 1000 0 {} (Value.lined 0 _) {} :=
    ⟨_, rfl, .added foreign (.removed rfl (.removed rfl (.removed rfl (.removed rfl .nil))))⟩
  rw [List.append_nil] at edited
  have deep : depthLimit < 2 + (nestedLists 99).nesting := by decide +kernel
  exact ⟨rfl, edited, ofDocument?_of_deep isName (by decide) plain deep⟩

end Settings

end Starfield

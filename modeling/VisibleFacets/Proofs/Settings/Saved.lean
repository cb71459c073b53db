import VisibleFacets.Command.Run
import VisibleFacets.Proofs.Settings.Sections

/-!
# Saved settings

Settings that are valid and whose numbers have a place in the file are the same again when they are
loaded from where they were saved; with a larger number nothing is saved: `saveSettings_restored`.
-/

namespace VisibleFacets

open Toml

namespace Settings

/-- The settings with the seed that is drawn if none is set. -/
def settled (settings : Settings) (drawn : Nat) : Settings :=
  { settings with facets.seed := some (settings.facets.seed.getD drawn) }

variable {settings : Settings} {drawn seed : Nat}

def facetsSection (settings : Settings) (seed : Nat) : Section where
  name := "facets"
  assignments :=
    [.ofText "mode" settings.facets.mode.name, .ofNat "sample_size" settings.facets.sampleSize,
      .ofNat "random_seed" seed, .ofNat "batch_size" settings.facets.batchSize]

def logSection (settings : Settings) : Section where
  name := "observability"
  assignments :=
    [.ofText "log_format" settings.log.format, .ofText "log_level" settings.log.level]

theorem write_eq (settings : Settings) (seed : Nat) :
    settings.write (Text.showNatural seed) =
      documentText [settings.facetsSection seed, settings.logSection] := by
  simp [write, documentText, Section.text, facetsSection, logSection, Assignment.line,
    Assignment.ofText, Assignment.ofNat]

/-- The numbers have a place in the file. -/
structure Fits (settings : Settings) (seed : Nat) : Prop where
  sampleSize : settings.facets.sampleSize ≤ maxInteger
  seed : seed ≤ maxInteger
  batchSize : settings.facets.batchSize ≤ maxInteger

theorem facetsSection_valid (fits : settings.Fits seed) : (settings.facetsSection seed).Valid where
  bare := (by decide : Bare "facets")
  assignments := by
    simp only [facetsSection, List.forall_mem_cons]
    exact ⟨Assignment.valid_ofText (by decide) _,
      Assignment.valid_ofNat (by decide) fits.sampleSize,
      Assignment.valid_ofNat (by decide) fits.seed,
      Assignment.valid_ofNat (by decide) fits.batchSize, List.forall_mem_nil _⟩
  distinct := by simp [facetsSection, Assignment.ofText, Assignment.ofNat]

theorem logSection_valid (settings : Settings) : settings.logSection.Valid where
  bare := (by decide : Bare "observability")
  assignments := by
    simp only [logSection, List.forall_mem_cons]
    exact ⟨Assignment.valid_ofText (by decide) _, Assignment.valid_ofText (by decide) _,
      List.forall_mem_nil _⟩
  distinct := by simp [logSection, Assignment.ofText]

theorem document?_write (fits : settings.Fits seed) :
    document? (settings.write (Text.showNatural seed)) =
      some [(settings.facetsSection seed).table, settings.logSection.table] := by
  have valid : ∀ part ∈ [settings.facetsSection seed, settings.logSection], part.Valid := by
    simp only [List.forall_mem_cons]
    exact ⟨facetsSection_valid fits, logSection_valid settings, List.forall_mem_nil _⟩
  rw [write_eq, document?_documentText valid (by simp [facetsSection, logSection])]
  rfl

theorem ofMembers?_tables (settings : Settings) (seed : Nat) :
    ofMembers? [(settings.facetsSection seed).table, settings.logSection.table] =
      some { settings with facets.seed := some seed } := by
  simp [ofMembers?, Section.table, facetsSection, logSection, Assignment.member, Assignment.ofText,
    Assignment.ofNat, Node.fieldOr, FacetSettings.ofNode?, LogSettings.ofNode?, Node.fields?,
    Node.name?, Node.text?, Node.natural?, Mode.ofName?_name, Dict.lookup_entry]

theorem load_write (valid : settings.facets.validate = .ok ()) (fits : settings.Fits seed) :
    load (settings.write (Text.showNatural seed)) =
      .ok { settings with facets.seed := some seed } := by
  have same : ({ settings with facets.seed := some seed } : Settings).facets.validate = .ok () :=
    valid
  rw [load, document?_write fits, Option.bind_some, ofMembers?_tables]
  simp only [same]
  rfl

theorem isWritable_iff : settings.isWritable drawn = true ↔
    settings.Fits (settings.facets.seed.getD drawn) := by
  simp only [isWritable, Bool.and_eq_true, decide_eq_true_eq]
  exact ⟨fun fits => ⟨fits.1.1, fits.1.2, fits.2⟩, fun fits => ⟨⟨fits.1, fits.2⟩, fits.3⟩⟩

theorem save?_restored (valid : settings.facets.validate = .ok ())
    (fits : settings.Fits (settings.facets.seed.getD drawn)) :
    ∃ text, settings.save? drawn = some text ∧ load text = .ok (settings.settled drawn) :=
  ⟨_, if_pos (isWritable_iff.mpr fits), load_write valid fits⟩

theorem save?_eq_none (large : ¬settings.Fits (settings.facets.seed.getD drawn)) :
    settings.save? drawn = none :=
  if_neg (mt isWritable_iff.mp large)

end Settings

namespace Command

theorem loadSettings_file (text : String) :
    loadSettings (.file text.toUTF8) = Settings.load text.toList := by
  have decoded : String.fromUTF8? text.toUTF8 = some text := PathState.text?_file text
  simp only [loadSettings, decoded]

/-- Whatever the texts among the settings hold, and wherever a file can be written. -/
theorem saveSettings_restored (files : String → PathState) (path : String) (settings : Settings)
    (drawn : Nat) :
    (settings.facets.validate = .ok () → isStorable files path = true →
      settings.Fits (settings.facets.seed.getD drawn) →
      ∃ after, saveSettings files path settings drawn = (.ok (), after) ∧
        loadSettings (after path) = .ok (settings.settled drawn)) ∧
    (¬settings.Fits (settings.facets.seed.getD drawn) →
      saveSettings files path settings drawn = (.error .unwritable, files)) := by
  constructor
  · intro valid storable fits
    obtain ⟨text, written, loaded⟩ := Settings.save?_restored valid fits
    refine ⟨store files path (String.ofList text).toUTF8, ?_, ?_⟩
    · simp only [saveSettings, written, storable, if_true]
    · rw [store, if_pos rfl, loadSettings_file, String.toList_ofList, loaded]
  · intro large
    rw [saveSettings, Settings.save?_eq_none large]

/-- The log format holds every mark and line end, and in the second case the sample is one too
large. -/
theorem saveSettings_restored_quoted :
    let files (_ : String) : PathState := .missing
    let facets : FacetSettings := ⟨.secure, maxInteger, some 0, 1⟩
    let log : LogSettings := ⟨"\r\n\x27\x27\x27\x22\x22\x22\\\x01\x7f\t", "\x27\x27\x22\\"⟩
    let large : Settings := ⟨{ facets with sampleSize := maxInteger + 1 }, log⟩
    (∃ after, saveSettings files "etc/statfacet.toml" ⟨facets, log⟩ 7 = (.ok (), after) ∧
      loadSettings (after "etc/statfacet.toml") = .ok ⟨facets, log⟩) ∧
    saveSettings files "etc/statfacet.toml" large 7 = (.error .unwritable, files) := by
  intro files facets log large
  have storable : isStorable files "etc/statfacet.toml" = true := by decide
  have fits : Settings.Fits ⟨facets, log⟩ 0 := ⟨by decide, by decide, by decide⟩
  have beyond : ¬large.Fits 0 := fun fits => absurd fits.sampleSize (by decide)
  exact ⟨(saveSettings_restored files _ ⟨facets, log⟩ 7).1 rfl storable fits,
    (saveSettings_restored files _ large 7).2 beyond⟩

end Command

end VisibleFacets

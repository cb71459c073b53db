import VisibleFacets.Proofs.Settings.Overrides
import VisibleFacets.Settings.Toml

/-!
# Layers of settings

A layer decides some of the settings and leaves the others open. `resolve` gives every setting the
value of the last layer that decides it. A section of a document comes to this
(`FacetSettings.ofNode?_eq_some_iff`), and `Settings.load_eq_ok_iff` says which documents load.
-/

namespace VisibleFacets

open Toml

/-- What a file or a command line decides about facets. -/
@[ext]
structure Layer where
  mode : Option Mode := none
  sampleSize : Option Nat := none
  seed : Option Nat := none
  batchSize : Option Nat := none

/-- What the environment decides. It has no say in the mode and the size of the pages. -/
@[ext]
structure Variables where
  sampleSize : Option Nat := none
  seed : Option Nat := none

/-- The settings with the options before the variables, these before the file, and the defaults
last. Where no layer decides the seed it is drawn. -/
def resolve (file : Layer) (environment : Variables) (options : Layer) : FacetSettings where
  mode := (options.mode.or file.mode).getD .statistical
  sampleSize := (options.sampleSize.or (environment.sampleSize.or file.sampleSize)).getD 1000
  seed := options.seed.or (environment.seed.or file.seed)
  batchSize := (options.batchSize.or file.batchSize).getD 1000

def FacetSettings.Positive (settings : FacetSettings) : Prop :=
  0 < settings.sampleSize ∧ 0 < settings.batchSize

theorem FacetSettings.validated_eq_ok_iff {α : Type} {settings : FacetSettings} {made value : α} :
    (settings.validate.map fun _ => made) = .ok value ↔ settings.Positive ∧ made = value := by
  unfold Positive
  rw [← validate_eq_ok_iff]
  cases settings.validate with
  | error error =>
    constructor
    · intro same
      cases same
    · rintro ⟨valid, -⟩
      cases valid
  | ok => exact ⟨fun same => ⟨rfl, Except.ok.inj same⟩, fun same => congrArg Except.ok same.2⟩

/-! ## Documents -/

/-- A field of a section that is missing, or that has a value of its kind. -/
def Toml.Node.Field {α : Type} (read : Node → Option α) : Option Node → Option α → Prop :=
  Option.Rel fun node value => read node = some value

theorem Toml.Node.fieldOr_eq_some_iff {α : Type} {read : Node → Option α} {default value : α}
    {field : Option Node} :
    fieldOr read default field = some value ↔
      ∃ decided, Field read field decided ∧ decided.getD default = value := by
  cases field with
  | none =>
    constructor
    · intro same
      exact ⟨none, .none, Option.some.inj same⟩
    · rintro ⟨decided, read, rfl⟩
      cases read
      rfl
  | some node =>
    constructor
    · intro read
      exact ⟨some value, .some read, rfl⟩
    · rintro ⟨decided, read, rfl⟩
      cases read with
      | some read => exact read

theorem rel_unique {α β : Type} {r : α → β → Prop} {source : Option α} {first second : Option β}
    (left : Option.Rel r source first) (right : Option.Rel r source second)
    (functional : ∀ a b c, r a b → r a c → b = c) : first = second := by
  cases left with
  | none =>
    cases right
    rfl
  | some one =>
    cases right with
    | some other => rw [functional _ _ _ one other]

theorem Toml.Node.Field.unique {α : Type} {read : Node → Option α} {field : Option Node}
    {first second : Option α} (left : Field read field first) (right : Field read field second) :
    first = second :=
  rel_unique left right fun _ _ _ one other => Option.some.inj (one.symm.trans other)

theorem Toml.Node.Field.fieldOr_eq {α : Type} {read : Node → Option α} {field : Option Node}
    {decided : Option α} (decides : Field read field decided) (default : α) :
    fieldOr read default field = some (decided.getD default) :=
  fieldOr_eq_some_iff.mpr ⟨decided, decides, rfl⟩

/-- Without a default the field is what it decides. -/
theorem Toml.Node.fieldOr_map_some_iff {α : Type} {read : Node → Option α} {field : Option Node}
    {decided : Option α} :
    fieldOr (fun node => (read node).map some) none field = some decided ↔
      Field read field decided := by
  cases field with
  | none =>
    constructor
    · intro same
      cases same
      exact .none
    · intro decides
      cases decides
      rfl
  | some node =>
    constructor
    · intro same
      obtain ⟨value, read, rfl⟩ := Option.map_eq_some_iff.mp same
      exact .some read
    · intro decides
      cases decides with
      | some read => exact Option.map_eq_some_iff.mpr ⟨_, read, rfl⟩

/-- The fields of a section decide these settings. -/
def Layer.InSection (node : Node) (layer : Layer) : Prop :=
  ∃ mode sampleSize seed batchSize,
    node.fields? ["mode", "sample_size", "random_seed", "batch_size"] =
      some [mode, sampleSize, seed, batchSize] ∧
    Node.Field (fun node => node.name?.bind Mode.ofName?) mode layer.mode ∧
    Node.Field Node.natural? sampleSize layer.sampleSize ∧
    Node.Field Node.natural? seed layer.seed ∧
    Node.Field Node.natural? batchSize layer.batchSize

theorem Layer.InSection.unique {node : Node} {first second : Layer} (left : first.InSection node)
    (right : second.InSection node) : first = second := by
  obtain ⟨_, _, _, _, found, mode_field, size_field, seed_field, batch_field⟩ := left
  obtain ⟨_, _, _, _, again, mode_again, size_again, seed_again, batch_again⟩ := right
  rw [found] at again
  cases again
  exact Layer.ext (mode_field.unique mode_again) (size_field.unique size_again)
    (seed_field.unique seed_again) (batch_field.unique batch_again)

theorem FacetSettings.ofNode?_eq_some_iff {node : Node} {settings : FacetSettings} :
    ofNode? node = some settings ↔
      ∃ layer, Layer.InSection node layer ∧ settings = resolve layer {} {} := by
  constructor
  · intro read
    simp only [ofNode?, bind, pure, Option.bind_eq_some_iff] at read
    obtain ⟨fields, found, read⟩ := read
    split at read
    · rename_i mode sampleSize seed batchSize
      simp only [Option.bind_eq_some_iff, Option.some.injEq] at read
      obtain ⟨_, mode_read, _, size_read, seed, seed_read, _, batch_read, rfl⟩ := read
      obtain ⟨mode, mode_field, rfl⟩ := Node.fieldOr_eq_some_iff.mp mode_read
      obtain ⟨size, size_field, rfl⟩ := Node.fieldOr_eq_some_iff.mp size_read
      obtain ⟨batch, batch_field, rfl⟩ := Node.fieldOr_eq_some_iff.mp batch_read
      have seed_field := Node.fieldOr_map_some_iff.mp seed_read
      exact ⟨⟨mode, size, seed, batch⟩,
        ⟨_, _, _, _, found, mode_field, size_field, seed_field, batch_field⟩, rfl⟩
    · cases read
  · rintro ⟨layer, ⟨_, _, _, _, found, mode_field, size_field, seed_field, batch_field⟩, rfl⟩
    simp only [ofNode?, bind, pure, found, Option.bind_some, mode_field.fieldOr_eq,
      size_field.fieldOr_eq, Node.fieldOr_map_some_iff.mpr seed_field, batch_field.fieldOr_eq]
    rfl

/-- The document decides these settings, and what it holds on the log makes sense too. -/
structure Layer.InDocument (members : Members) (layer : Layer) : Prop where
  facets : ∃ given, Option.Rel InSection (members.lookup "facets") given ∧ given.getD {} = layer
  log : ∃ log, Node.Field LogSettings.ofNode? (members.lookup "observability") log

theorem Layer.InDocument.unique {members : Members} {first second : Layer}
    (left : first.InDocument members) (right : second.InDocument members) : first = second := by
  obtain ⟨_, decides, rfl⟩ := left.facets
  obtain ⟨_, also, rfl⟩ := right.facets
  rw [rel_unique decides also fun _ _ _ one other => InSection.unique one other]

namespace Settings

theorem ofMembers?_decides {members : Members} {settings : Settings}
    (read : ofMembers? members = some settings) :
    ∃ layer, Layer.InDocument members layer ∧ settings.facets = resolve layer {} {} := by
  simp only [ofMembers?, bind, pure, Option.bind_eq_some_iff, Option.some.injEq] at read
  obtain ⟨facets, facets_read, log, log_read, rfl⟩ := read
  obtain ⟨log, log_read, -⟩ := Node.fieldOr_eq_some_iff.mp log_read
  cases named : members.lookup "facets" with
  | none =>
    rw [named] at facets_read
    cases facets_read
    exact ⟨{}, ⟨⟨none, named ▸ .none, rfl⟩, log, log_read⟩, rfl⟩
  | some node =>
    rw [named] at facets_read
    obtain ⟨layer, decides, rfl⟩ := FacetSettings.ofNode?_eq_some_iff.mp facets_read
    exact ⟨layer, ⟨⟨some layer, named ▸ .some decides, rfl⟩, log, log_read⟩, rfl⟩

theorem ofMembers?_of_decides {members : Members} {layer : Layer}
    (decides : layer.InDocument members) :
    ∃ settings, ofMembers? members = some settings ∧ settings.facets = resolve layer {} {} := by
  obtain ⟨⟨given, facets, rfl⟩, log, log_read⟩ := decides
  have facets_read : ∃ settings, settings = resolve (given.getD {}) {} {} ∧
      Node.fieldOr FacetSettings.ofNode? {} (members.lookup "facets") = some settings := by
    generalize members.lookup "facets" = named at facets
    cases facets with
    | none => exact ⟨_, rfl, rfl⟩
    | some decides => exact ⟨_, rfl, FacetSettings.ofNode?_eq_some_iff.mpr ⟨_, decides, rfl⟩⟩
  obtain ⟨_, rfl, facets_read⟩ := facets_read
  refine ⟨⟨resolve (given.getD {}) {} {}, log.getD {}⟩, ?_, rfl⟩
  simp only [ofMembers?, bind, pure, facets_read, log_read.fieldOr_eq, Option.bind_some]

theorem load_eq_ok_iff {text : List Char} {settings : Settings} :
    load text = .ok settings ↔ ∃ members, document? text = some members ∧
      ofMembers? members = some settings ∧ settings.facets.Positive := by
  unfold load
  cases parsed : document? text with
  | none => simp
  | some members =>
    rw [Option.bind_some]
    cases made : ofMembers? members with
    | none => simp [made]
    | some read =>
      simp only [mapError_eq_ok_iff, FacetSettings.validated_eq_ok_iff, Option.some.injEq,
        exists_eq_left', made]
      constructor
      · rintro ⟨positive, rfl⟩
        exact ⟨rfl, positive⟩
      · rintro ⟨rfl, positive⟩
        exact ⟨positive, rfl⟩

end Settings

end VisibleFacets

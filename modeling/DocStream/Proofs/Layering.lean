import DocStream.Config.Layer
import DocStream.Proofs.SettingKeys

/-! Layers key by key. Every layer is a list of assignments, and each of them leaves to a key the
value it names for it, or the one that was there; so what layers come to holds the last value named
by an override, or else the last one named by a file, or else the default. -/

namespace DocStream.Config

def last? {α β : Type} (value? : α → Option β) (l : List α) : Option β :=
  l.reverse.findSome? value?

theorem last?_singleton {α β : Type} (value? : α → Option β) (a : α) :
    last? value? [a] = value? a := List.findSome?_singleton

theorem last?_append {α β : Type} (value? : α → Option β) (l m : List α) :
    last? value? (l ++ m) = (last? value? m).or (last? value? l) := by
  rw [last?, List.reverse_append, List.findSome?_append]
  rfl

theorem last?_cons {α β : Type} (value? : α → Option β) (a : α) (l : List α) :
    last? value? (a :: l) = (last? value? l).or (value? a) := by
  rw [last?, List.reverse_cons, List.findSome?_append, List.findSome?_singleton]
  rfl

theorem foldl_replaces {σ α β : Type} {f : σ → α → σ} {Holds : σ → β → Prop}
    {value? : α → Option β} {P : α → Prop}
    (hstep : ∀ s a x, P a → Holds s x → Holds (f s a) ((value? a).getD x)) {l : List α}
    (hl : ∀ a ∈ l, P a) {s : σ} {x : β} (hs : Holds s x) :
    Holds (l.foldl f s) ((last? value? l).getD x) := by
  induction l generalizing s x with
  | nil => exact hs
  | cons a l ih =>
    -- What the first step left is what the others find.
    obtain ⟨ha, hl⟩ := List.forall_mem_cons.1 hl
    have hrest := ih hl (hstep s a x ha hs)
    rw [last?_cons, Option.getD_or]
    exact hrest

/-! ### Assignments -/

structure Assignment where
  path : KeyPath
  value : Setting

def Key.entryValue? (k : Key) (e : String × Setting) : Option k.Value :=
  if Text.lower e.1 = k.name then k.value? e.2 else none

namespace Assignment

def ofEntry (e : String × Setting) : Assignment :=
  match KeyPath.parse e.1 with
  | .ok path => ⟨path, e.2⟩
  | .error _ => ⟨⟨e.1, []⟩, e.2⟩

def entries? (a : Assignment) : Option (List (String × Setting)) :=
  match a.path.steps, a.value with
  | [.name name], v => some [(name, v)]
  | [], .table _ es => some es
  | _, _ => none

def value? (a : Assignment) (k : Key) : Option k.Value :=
  if Text.lower a.path.root = k.group.key then
    last? k.entryValue? (a.entries?.getD [])
  else none

/-- Every key that is named gets a value that it takes. Other names may stand for anything. -/
def WellTyped (a : Assignment) : Prop :=
  ∀ k : Key, Text.lower a.path.root = k.group.key → a.entries?.isSome ∧
    ∀ e ∈ a.entries?.getD [], Text.lower e.1 = k.name → (k.value? e.2).isSome

instance (a : Assignment) : Decidable a.WellTyped :=
  inferInstanceAs (Decidable (∀ k : Key, Text.lower a.path.root = k.group.key →
    a.entries?.isSome ∧
      ∀ e ∈ a.entries?.getD [], Text.lower e.1 = k.name → (k.value? e.2).isSome))

end Assignment

namespace Key
variable {k : Key}

theorem HoldsIn.assign {part : Setting} {x : k.Value} {e : String × Setting}
    (htyped : Text.lower e.1 = k.name → (k.value? e.2).isSome) (h : k.HoldsIn part x) :
    k.HoldsIn (part.assign e.1 e.2) ((k.entryValue? e).getD x) := by
  obtain ⟨name, v⟩ := e
  refine ⟨Setting.isTable_assign part name v, ?_⟩
  unfold entryValue?
  by_cases hname : Text.lower name = k.name
  · obtain ⟨y, hy⟩ := Option.isSome_iff_exists.1 (htyped hname)
    rw [if_pos hname]
    -- Only a single setting has a value, and it replaces what stood there.
    cases v with
    | scalar o v =>
      refine ⟨_, hname ▸ Setting.lookup_assign_scalar part name o v, ?_⟩
      rw [hy]
      rfl
    | list => cases hy
    | table => cases hy
  · obtain ⟨-, s, hs, hx⟩ := h
    rw [if_neg hname]
    exact ⟨s, (Setting.lookup_assign_of_ne v (Ne.symm hname)).trans hs, hx⟩

theorem HoldsIn.mergeEntries {part : Setting} {x : k.Value} {es : List (String × Setting)}
    (htyped : ∀ e ∈ es, Text.lower e.1 = k.name → (k.value? e.2).isSome)
    (h : k.HoldsIn part x) :
    k.HoldsIn (part.mergeEntries es) ((last? k.entryValue? es).getD x) := by
  rw [Setting.mergeEntries_eq_foldl]
  exact foldl_replaces (fun _ _ _ he hs => HoldsIn.assign he hs) htyped h

theorem set_of_entries? {t part : Setting} {a : Assignment} {es : List (String × Setting)}
    (hes : a.entries? = some es) (hpart : t.get? a.path.root = some part) :
    t.set a.path a.value = t.put a.path.root (part.mergeEntries es) := by
  unfold Assignment.entries? at hes
  split at hes
  next name hsteps =>
    obtain rfl := Option.some.inj hes
    simp only [Setting.set, hsteps, Setting.setAt, hpart, Option.getD_some, Setting.mergeEntries]
  next o es' hsteps hvalue =>
    obtain rfl := Option.some.inj hes
    rw [Setting.set, hsteps, hvalue, Setting.setAt, Setting.assign, hpart]
    rfl
  next => cases hes

theorem Holds.set {t : Setting} {x : k.Value} {a : Assignment} (ha : a.WellTyped)
    (h : k.Holds t x) : k.Holds (t.set a.path a.value) ((a.value? k).getD x) := by
  obtain ⟨part, hpart, hin⟩ := h
  unfold Assignment.value?
  by_cases hroot : Text.lower a.path.root = k.group.key
  · obtain ⟨hsome, htyped⟩ := ha k hroot
    obtain ⟨es, hes⟩ := Option.isSome_iff_exists.1 hsome
    rw [hes, Option.getD_some] at htyped
    have hset := set_of_entries? (t := t) hes (by rw [Setting.get?, hroot, hpart])
    rw [if_pos hroot, hset, hes, Option.getD_some]
    refine ⟨_, ?_, hin.mergeEntries htyped⟩
    rw [Setting.lookup_put, if_pos hroot.symm]
  · rw [if_neg hroot]
    exact ⟨part, (Setting.lookup_set_of_ne a.value (Ne.symm hroot)).trans hpart, hin⟩

end Key

/-! ### Layers -/

def fileSettings (readFile : String → FileState) (name : String) : Option (Option Setting) :=
  (findFile readFile name).toOption.map fun found => readSettings (some found.1) found.2

namespace Layer

def contents (readFile : String → FileState) : Layer → List Assignment
  | .override .. => []
  | .file name _ =>
    match fileSettings readFile name with
    | some (some t) => t.entries.map Assignment.ofEntry
    | _ => []

def fileValue? (readFile : String → FileState) (k : Key) (l : Layer) : Option k.Value :=
  last? (·.value? k) (l.contents readFile)

def overrideValue? (k : Key) : Layer → Option k.Value
  | .override path v => Assignment.value? ⟨path, .scalar none v⟩ k
  | .file .. => none

/-- Where a file is required, it can be had. A file that can be had is TOML, and gives the keys it
names values that they take. -/
def FileWellTyped (required : Bool) : Option (Option Setting) → Prop
  | none => required = false
  | some none => False
  | some (some t) => ∀ e ∈ t.entries, (Assignment.ofEntry e).WellTyped

instance (required : Bool) :
    (file : Option (Option Setting)) → Decidable (FileWellTyped required file)
  | none => inferInstanceAs (Decidable (required = false))
  | some none => inferInstanceAs (Decidable False)
  | some (some t) =>
    inferInstanceAs (Decidable (∀ e ∈ t.entries, (Assignment.ofEntry e).WellTyped))

def WellTyped (readFile : String → FileState) : Layer → Prop
  | .override path v => Assignment.WellTyped ⟨path, .scalar none v⟩
  | .file name required => FileWellTyped required (fileSettings readFile name)

instance (readFile : String → FileState) : (l : Layer) → Decidable (l.WellTyped readFile)
  | .override path v => inferInstanceAs (Decidable (Assignment.WellTyped ⟨path, .scalar none v⟩))
  | .file name required =>
    inferInstanceAs (Decidable (FileWellTyped required (fileSettings readFile name)))

end Layer

variable {readFile : String → FileState} {report : String → String}

def assignAll (t : Setting) (as : List Assignment) : Setting :=
  as.foldl (fun t a => t.set a.path a.value) t

theorem applyFile_eq_assignAll (t file : Setting) :
    applyFile t file = assignAll t (file.entries.map Assignment.ofEntry) := by
  unfold applyFile assignAll
  rw [List.foldl_map]
  congr
  funext t ⟨name, v⟩
  simp only [Assignment.ofEntry]
  cases KeyPath.parse name <;> rfl

theorem settingsOf_of_read {origin : Option String} {text : String} {file : Setting}
    (h : readSettings origin text = some file) : settingsOf report origin text = .ok file := by
  rw [settingsOf, h]
  rfl

theorem applyFileLayer_of_settings {name : String} {required : Bool} {file : Setting}
    (h : fileSettings readFile name = some (some file)) (t : Setting) :
    applyFileLayer report readFile t (.file name required) = .ok (applyFile t file) := by
  unfold fileSettings at h
  unfold applyFileLayer
  dsimp only
  cases hfound : findFile readFile name with
  | error fault =>
    rw [hfound] at h
    cases h
  | ok found =>
    rw [hfound] at h
    have hread : readSettings (some found.1) found.2 = some file := Option.some.inj h
    simp only [settingsOf_of_read hread]
    rfl

theorem applyFileLayer_of_absent {name : String} {fault : Fault}
    (h : findFile readFile name = .error fault) (t : Setting) :
    applyFileLayer report readFile t (.file name false) = .ok t := by
  rw [applyFileLayer, h]
  rfl

theorem applyFileLayer_of_wellTyped (report : String → String) {l : Layer}
    (hl : l.WellTyped readFile) (t : Setting) :
    applyFileLayer report readFile t l = .ok (assignAll t (l.contents readFile)) ∧
      ∀ a ∈ l.contents readFile, a.WellTyped := by
  cases l with
  | override path v => exact ⟨rfl, nofun⟩
  | file name required =>
    rw [Layer.WellTyped] at hl
    rw [Layer.contents]
    cases hsettings : fileSettings readFile name with
    | none =>
      rw [hsettings] at hl
      obtain rfl : required = false := hl
      have hfound : (findFile readFile name).toOption = none := Option.map_eq_none_iff.1 hsettings
      cases hfile : findFile readFile name with
      | ok found =>
        rw [hfile] at hfound
        cases hfound
      | error fault => exact ⟨applyFileLayer_of_absent hfile t, nofun⟩
    | some settings =>
      rw [hsettings] at hl
      cases settings with
      | none => cases hl
      | some file =>
        rw [applyFileLayer_of_settings hsettings, applyFile_eq_assignAll]
        exact ⟨rfl, List.forall_mem_map.2 hl⟩

theorem foldlM_applyFileLayer (report : String → String) {layers : List Layer}
    (h : ∀ l ∈ layers, l.WellTyped readFile) (t : Setting) :
    layers.foldlM (applyFileLayer report readFile) t =
      .ok (layers.foldl (fun t l => assignAll t (l.contents readFile)) t) := by
  induction layers generalizing t with
  | nil => rfl
  | cons l layers ih =>
    obtain ⟨hl, hrest⟩ := List.forall_mem_cons.1 h
    rw [List.foldlM_cons, (applyFileLayer_of_wellTyped report hl t).1]
    exact ih hrest _

namespace Key
variable {k : Key} {t : Setting} {x : k.Value}

theorem Holds.assignAll {as : List Assignment} (has : ∀ a ∈ as, a.WellTyped)
    (h : k.Holds t x) : k.Holds (assignAll t as) ((last? (·.value? k) as).getD x) :=
  foldl_replaces (fun _ _ _ ha hs => Holds.set ha hs) has h

theorem Holds.applyOverride {l : Layer} (hl : l.WellTyped readFile) (h : k.Holds t x) :
    k.Holds (applyOverride t l) ((l.overrideValue? k).getD x) := by
  cases l with
  | override path v => exact Holds.set (a := ⟨path, .scalar none v⟩) hl h
  | file name required => exact h

end Key

/-- What layers give a key: the last override that names it decides, or else the last file. -/
def layered? (readFile : String → FileState) (layers : List Layer) (k : Key) :
    Option k.Value :=
  (last? (·.overrideValue? k) layers).or (last? (·.fileValue? readFile k) layers)

theorem held?_defaultText (k : Key) : ((readSettings none defaultText).bind fun file =>
    k.held? (applyFile .empty file)) = some k.fallback := by
  -- taken apart by lines, the text is read in little time
  unfold readSettings withoutMark Toml.read defaultText
  simp only [String.toList_append, String.toList_ofList]
  revert k
  decide +kernel

theorem defaults_eq (report : String → String) :
    ∃ t, defaults report = .ok t ∧ ∀ k : Key, k.Holds t k.fallback := by
  have hheld := held?_defaultText
  cases hread : readSettings none defaultText with
  | none =>
    rw [hread] at hheld
    cases hheld .strict
  | some file =>
    rw [hread] at hheld
    have hdefaults : defaults report = .ok (applyFile .empty file) := by
      rw [defaults, settingsOf_of_read hread]
      rfl
    exact ⟨_, hdefaults, fun k => Key.holds_of_held? (hheld k)⟩

theorem settle_of_wellTyped (report : String → String) {layers : List Layer}
    (h : ∀ l ∈ layers, l.WellTyped readFile) :
    ∃ t, settle readFile layers report = .ok t ∧
      ∀ k : Key, k.Holds t ((layered? readFile layers k).getD k.fallback) := by
  obtain ⟨base, hbase, hdefault⟩ := defaults_eq report
  have hfiles := foldlM_applyFileLayer report h base
  have hsettle : settle readFile layers report = .ok (layers.foldl applyOverride
      (layers.foldl (fun t l => assignAll t (l.contents readFile)) base)) := by
    rw [settle, hbase]
    show (layers.foldlM (applyFileLayer report readFile) base >>= _) = _
    rw [hfiles]
    rfl
  refine ⟨_, hsettle, fun k => ?_⟩
  rw [layered?, Option.getD_or]
  -- The overrides start from what the files left, and the files from the defaults.
  refine foldl_replaces (fun _ _ _ hl hs => Key.Holds.applyOverride hl hs) h ?_
  refine foldl_replaces (fun t l _ hl hs => ?_) h (hdefault k)
  exact hs.assignAll (applyFileLayer_of_wellTyped report hl t).2

theorem load_of_wellTyped (report : String → String) {layers : List Layer}
    (h : ∀ l ∈ layers, l.WellTyped readFile) :
    ∃ c, load readFile layers report = .ok c ∧
      ∀ k, c.value k = (layered? readFile layers k).getD k.fallback := by
  obtain ⟨t, ht, hholds⟩ := settle_of_wellTyped report h
  obtain ⟨c, hc, hvalue⟩ := ofSetting_of_holds hholds
  refine ⟨c, ?_, hvalue⟩
  rw [load, ht]
  exact hc

end DocStream.Config

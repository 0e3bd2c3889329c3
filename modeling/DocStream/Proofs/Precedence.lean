import DocStream.CommandLine
import DocStream.Proofs.Layering

/-! Which layer decides. Files and overrides are settled apart from each other, so only the order
within each of the two kinds counts, and of the layers of one kind the last that names a key. On a
command line the flags are the overrides, and there is one file at most. -/

namespace DocStream.Config
variable {readFile : String → FileState} {report : String → String}

/-! ### The order of layers -/

theorem load_missing {name : String} {fault : Fault}
    (hmissing : findFile readFile name = .error fault) (layers : List Layer) :
    load readFile (.file name true :: layers) report = .error fault := by
  obtain ⟨base, hbase, -⟩ := defaults_eq report
  rw [load, settle, hbase]
  show ((List.foldlM (applyFileLayer report readFile) base _ >>= _) >>= _) = _
  rw [List.foldlM_cons, applyFileLayer, hmissing]
  rfl

def flagValue? (a : CommandLine.Arguments) : (k : Key) → Option k.Value
  | .wikiMode => if a.wiki then some true else none
  | .dialect => a.dialect
  | .maxDepth => none
  | .strict => if a.strict then some true else none
  | .format => a.format

def Key.override (k : Key) (x : k.Value) : Layer := .override k.path (k.write x)

theorem Key.wellTyped_override (k : Key) (x : k.Value) : (k.override x).WellTyped readFile := by
  intro l hgroup
  refine ⟨rfl, fun e he hname => ?_⟩
  obtain rfl := List.mem_singleton.1 he
  have hkl : k = l := eq_of_path (k.lower_group.symm.trans hgroup) (k.lower_name.symm.trans hname)
  subst hkl
  rw [k.value?_write]
  rfl

theorem Key.overrideValue?_override (k l : Key) (x : k.Value) :
    (k.override x).overrideValue? l =
      if k.group.key = l.group.key then l.entryValue? (k.name, .scalar none (k.write x))
      else none := by
  have hentries : (Assignment.mk k.path (.scalar none (k.write x))).entries? =
      some [(k.name, .scalar none (k.write x))] := rfl
  rw [override, Layer.overrideValue?, Assignment.value?, hentries, Option.getD_some,
    last?_singleton]
  show (if Text.lower k.group.key = _ then _ else _) = _
  rw [k.lower_group]

theorem Key.overrideValue?_self (k : Key) (x : k.Value) :
    (k.override x).overrideValue? k = some x := by
  rw [overrideValue?_override, if_pos rfl, entryValue?, if_pos k.lower_name, k.value?_write]

theorem Key.overrideValue?_of_ne {k l : Key} (h : k ≠ l) (x : k.Value) :
    (k.override x).overrideValue? l = none := by
  rw [overrideValue?_override]
  split
  next hgroup => exact if_neg fun hname => h (eq_of_path hgroup (k.lower_name.symm.trans hname))
  next => rfl

def Key.overrides (k : Key) (x : Option k.Value) : List Layer := (x.map k.override).toList

theorem Key.last?_overrides (k : Key) (x : Option k.Value) :
    last? (·.overrideValue? k) (k.overrides x) = x := by
  cases x with
  | none => rfl
  | some x => exact (last?_singleton _ _).trans (k.overrideValue?_self x)

theorem Key.last?_overrides_of_ne {k l : Key} (h : k ≠ l) (x : Option k.Value) :
    last? (·.overrideValue? l) (k.overrides x) = none := by
  cases x with
  | none => rfl
  | some x => exact (last?_singleton _ _).trans (overrideValue?_of_ne h x)

theorem Key.last?_flatMap_overrides (x : ∀ k : Key, Option k.Value) (k : Key) (ks : List Key) :
    last? (·.overrideValue? k) (ks.flatMap fun l => l.overrides (x l)) =
      if k ∈ ks then x k else none := by
  induction ks with
  | nil => rfl
  | cons l ks ih =>
    rw [List.flatMap_cons, last?_append, ih]
    by_cases hl : l = k
    · subst hl
      rw [last?_overrides, if_pos List.mem_cons_self]
      split
      next => exact Option.or_self
      next => rfl
    · rw [last?_overrides_of_ne hl, Option.or_none]
      simp [Ne.symm hl]

def flagLayers (a : CommandLine.Arguments) : List Layer :=
  [Key.dialect, .format, .wikiMode, .strict].flatMap fun k => k.overrides (flagValue? a k)

theorem layers_eq (a : CommandLine.Arguments) : CommandLine.layers a =
    (a.config.map fun name => .file name true).toList ++ flagLayers a := by
  simp only [CommandLine.layers, List.append_assoc]
  congr 1
  obtain ⟨path, wiki, strict, list, dialect, format, config⟩ := a
  cases dialect <;> cases format <;> cases wiki <;> cases strict <;> rfl

theorem exists_of_mem_flagLayers {a : CommandLine.Arguments} {l : Layer}
    (h : l ∈ flagLayers a) : ∃ (k : Key) (x : k.Value), l = k.override x := by
  obtain ⟨k, -, hk⟩ := List.mem_flatMap.1 h
  rw [Key.overrides, Option.mem_toList] at hk
  obtain ⟨x, -, rfl⟩ := Option.map_eq_some_iff.1 hk
  exact ⟨k, x, rfl⟩

def configValue? (s : CommandLine.Sources) (a : CommandLine.Arguments) (k : Key) :
    Option k.Value :=
  a.config.bind fun name => (Layer.file name true).fileValue? s.settings k

theorem layered?_layers (s : CommandLine.Sources) (a : CommandLine.Arguments) (k : Key) :
    layered? s.settings (CommandLine.layers a) k =
      (flagValue? a k).or (configValue? s a k) := by
  have hoverrides : last? (·.overrideValue? k) (CommandLine.layers a) = flagValue? a k := by
    have hconfig : last? (·.overrideValue? k)
        (a.config.map fun name => Layer.file name true).toList = none := by
      cases a.config <;> rfl
    rw [layers_eq, last?_append, hconfig, Option.or_none, flagLayers,
      Key.last?_flatMap_overrides]
    cases k <;> rfl
  have hfile : last? (·.fileValue? s.settings k) (CommandLine.layers a) = configValue? s a k := by
    have hflags : last? (·.fileValue? s.settings k) (flagLayers a) = none := by
      refine List.findSome?_eq_none_iff.2 fun l hl => ?_
      obtain ⟨k, x, rfl⟩ := exists_of_mem_flagLayers (List.mem_reverse.1 hl)
      rfl
    rw [layers_eq, last?_append, hflags, Option.none_or, configValue?]
    cases a.config with
    | none => rfl
    | some name => exact last?_singleton _ _
  rw [layered?, hoverrides, hfile]

theorem loadConfig_of_wellTyped {s : CommandLine.Sources} {a : CommandLine.Arguments}
    (h : ∀ name ∈ a.config, (Layer.file name true).WellTyped s.settings) :
    ∃ c, CommandLine.loadConfig s a = .ok c ∧
      ∀ k, c.value k = ((flagValue? a k).or (configValue? s a k)).getD k.fallback := by
  have hlayers : ∀ l ∈ CommandLine.layers a, l.WellTyped s.settings := by
    intro l hl
    rw [layers_eq, List.mem_append, Option.mem_toList] at hl
    obtain hfile | hflag := hl
    · obtain ⟨name, hname, rfl⟩ := Option.map_eq_some_iff.1 hfile
      exact h name hname
    · obtain ⟨k, x, rfl⟩ := exists_of_mem_flagLayers hflag
      exact k.wellTyped_override x
  obtain ⟨c, hload, hvalue⟩ := load_of_wellTyped s.tomlReport hlayers
  refine ⟨c, hload, fun k => ?_⟩
  rw [hvalue k, layered?_layers]

/-- Flags over the configuration file over the defaults; a flag that can only be set adds to what
the file says. -/
theorem loadConfig_fields {s : CommandLine.Sources} {a : CommandLine.Arguments}
    (h : ∀ name ∈ a.config, (Layer.file name true).WellTyped s.settings) :
    ∃ c, CommandLine.loadConfig s a = .ok c ∧
      c.dialect = a.dialect.getD ((configValue? s a .dialect).getD Dialect.asciiDoc) ∧
      c.format = a.format.getD ((configValue? s a .format).getD OutputFormat.text) ∧
      c.wikiMode = (a.wiki || (configValue? s a .wikiMode).getD false) ∧
      c.strict = (a.strict || (configValue? s a .strict).getD false) ∧
      c.maxDepth = (configValue? s a .maxDepth).getD (256 : Nat) := by
  obtain ⟨c, hload, hvalue⟩ := loadConfig_of_wellTyped h
  simp only [Option.getD_or] at hvalue
  have hwiki : c.wikiMode =
      (if a.wiki then some true else none).getD ((configValue? s a .wikiMode).getD false) :=
    hvalue .wikiMode
  have hstrict : c.strict =
      (if a.strict then some true else none).getD ((configValue? s a .strict).getD false) :=
    hvalue .strict
  refine ⟨c, hload, hvalue .dialect, hvalue .format, ?_, ?_, hvalue .maxDepth⟩
  · rw [hwiki]
    cases a.wiki <;> rfl
  · rw [hstrict]
    cases a.strict <;> rfl

end DocStream.Config

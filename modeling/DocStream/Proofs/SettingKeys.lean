import DocStream.Config
import DocStream.Proofs.SettingTree
import Mathlib.Tactic.SplitIfs

/-! The keys of the configuration, each with the values that it takes. A tree of settings that holds
a value for every key is read as the configuration of these values. -/

namespace DocStream.Config

inductive Key where
  | wikiMode
  | dialect
  | maxDepth
  | strict
  | format
deriving DecidableEq

namespace Key

def group : Key → Section
  | wikiMode | dialect | maxDepth => translateSection
  | strict => fragmentSection
  | format => outputSection

def name : Key → String
  | wikiMode => "wiki_mode"
  | dialect => "syntax"
  | maxDepth => "max_depth"
  | strict => "strict"
  | format => "format"

def path (k : Key) : KeyPath := ⟨k.group.key, [.name k.name]⟩

abbrev Value : Key → Type
  | wikiMode | strict => Bool
  | dialect => Dialect
  | maxDepth => Nat
  | format => OutputFormat

instance : (k : Key) → DecidableEq k.Value
  | wikiMode | strict => inferInstanceAs (DecidableEq Bool)
  | dialect => inferInstanceAs (DecidableEq Dialect)
  | maxDepth => inferInstanceAs (DecidableEq Nat)
  | format => inferInstanceAs (DecidableEq OutputFormat)

def read : (k : Key) → String → Setting → Except Fault k.Value
  | wikiMode | strict => readBool
  | dialect => fun _ => readChoice "Syntax" (Dialect.all.map fun d => (d.id, d))
  | maxDepth => readWord
  | format => fun _ => readChoice "OutputFormat" [("text", .text), ("json", .json)]

def value? (k : Key) : Setting → Option k.Value
  | .scalar _ v => (k.read k.name (.scalar none v)).toOption
  | _ => none

def write : (k : Key) → k.Value → Scalar
  | wikiMode, b | strict, b => .bool b
  | dialect, (d : Dialect) => .text d.id
  | maxDepth, (n : Nat) => .integer n
  | format, (f : OutputFormat) => .text f.name

def fallback : (k : Key) → k.Value
  | wikiMode | strict => false
  | dialect => Dialect.asciiDoc
  | maxDepth => (256 : Nat)
  | format => OutputFormat.text

def all : List Key := [wikiMode, dialect, maxDepth, strict, format]

theorem mem_all (k : Key) : k ∈ all := by
  cases k <;> decide

instance {P : Key → Prop} [DecidablePred P] : Decidable (∀ k, P k) :=
  decidable_of_iff (∀ k ∈ all, P k) ⟨fun h k => h k k.mem_all, fun h k _ => h k⟩

theorem eq_of_path {k l : Key} (hgroup : k.group.key = l.group.key) (hname : k.name = l.name) :
    k = l := by
  revert hgroup hname
  cases k <;> cases l <;> decide

theorem lower_group (k : Key) : Text.lower k.group.key = k.group.key := by
  cases k <;> decide

theorem lower_name (k : Key) : Text.lower k.name = k.name := by
  cases k <;> decide

theorem value?_write (k : Key) (o : Option String) (x : k.Value) :
    k.value? (.scalar o (k.write x)) = some x := by
  cases k with
  | wikiMode => rfl
  | strict => rfl
  | maxDepth => rfl
  | dialect => cases x <;> rfl
  | format => cases x <;> rfl

theorem toOption_readBool (label label' : String) (o o' : Option String) (v : Scalar) :
    (readBool label (.scalar o v)).toOption = (readBool label' (.scalar o' v)).toOption := by
  cases v with
  | text w =>
    simp only [readBool]
    split_ifs <;> rfl
  | _ => rfl

theorem toOption_readWord (label label' : String) (o o' : Option String) (v : Scalar) :
    (readWord label (.scalar o v)).toOption = (readWord label' (.scalar o' v)).toOption := by
  cases v with
  | text w =>
    simp only [readWord]
    split_ifs
    · rfl
    · rfl
    · cases wordOf w <;> rfl
  | integer i => cases i <;> rfl
  | _ => rfl

theorem toOption_readChoice {α : Type} (name : String) (choices : List (String × α))
    (o o' : Option String) (v : Scalar) :
    (readChoice name choices (.scalar o v)).toOption =
      (readChoice name choices (.scalar o' v)).toOption := by
  cases v <;> rfl

theorem toOption_read (k : Key) (label : String) (o : Option String) (v : Scalar) :
    (k.read label (.scalar o v)).toOption = k.value? (.scalar o v) := by
  cases k with
  | wikiMode | strict => exact toOption_readBool label _ o none v
  | maxDepth => exact toOption_readWord label _ o none v
  | dialect | format => exact toOption_readChoice _ _ o none v

theorem read_of_value? {k : Key} {s : Setting} {x : k.Value} (h : k.value? s = some x)
    (label : String) : k.read label s = .ok x := by
  cases s with
  | scalar o v =>
    rw [← k.toOption_read label o v] at h
    cases hread : k.read label (.scalar o v) with
    | error f =>
      rw [hread] at h
      cases h
    | ok y =>
      rw [hread] at h
      exact congrArg Except.ok (Option.some.inj h)
  | list => cases h
  | table => cases h

/-- The part of a configuration in which a key has a value. -/
def HoldsIn (k : Key) (part : Setting) (x : k.Value) : Prop :=
  part.IsTable ∧ ∃ s, part.entries.lookup k.name = some s ∧ k.value? s = some x

def Holds (k : Key) (t : Setting) (x : k.Value) : Prop :=
  ∃ part, t.entries.lookup k.group.key = some part ∧ k.HoldsIn part x

def held? (k : Key) (t : Setting) : Option k.Value :=
  match t.entries.lookup k.group.key with
  | some (.table _ es) => (es.lookup k.name).bind k.value?
  | _ => none

theorem holds_of_held? {k : Key} {t : Setting} {x : k.Value} (h : k.held? t = some x) :
    k.Holds t x := by
  unfold held? at h
  split at h
  next o es hpart =>
    obtain ⟨s, hs, hx⟩ := Option.bind_eq_some_iff.1 h
    exact ⟨_, hpart, ⟨o, es, rfl⟩, s, hs, hx⟩
  next => cases h

theorem HoldsIn.section_read {k : Key} {part : Setting} {x : k.Value} (h : k.HoldsIn part x) :
    k.group.read part k.name k.read = .ok x := by
  obtain ⟨⟨o, es, rfl⟩, s, hs, hx⟩ := h
  have hlookup : es.lookup k.name = some s := hs
  unfold Section.read
  simp only [hlookup]
  exact read_of_value? hx _

end Key

def value (c : Config) : (k : Key) → k.Value
  | .wikiMode => c.wikiMode
  | .dialect => c.dialect
  | .maxDepth => c.maxDepth
  | .strict => c.strict
  | .format => c.format

theorem exists_part {k : Key} {t : Setting} {x : k.Value} (h : k.Holds t x) :
    ∃ s, part t k.group = .ok s := by
  obtain ⟨s, hs, -⟩ := h
  refine ⟨s, ?_⟩
  rw [part, hs]
  rfl

theorem section_read_of_holds {k : Key} {t s : Setting} {x : k.Value} (h : k.Holds t x)
    (hpart : part t k.group = .ok s) : k.group.read s k.name k.read = .ok x := by
  obtain ⟨s', hs', hin⟩ := h
  rw [part, hs'] at hpart
  obtain rfl : s' = s := Except.ok.inj hpart
  exact hin.section_read

theorem ofSetting_of_holds {t : Setting} {x : ∀ k : Key, k.Value} (h : ∀ k : Key, k.Holds t (x k)) :
    ∃ c, ofSetting t = .ok c ∧ ∀ k, c.value k = x k := by
  obtain ⟨translate, htranslate⟩ : ∃ s, part t translateSection = .ok s := exists_part (h .wikiMode)
  obtain ⟨fragment, hfragment⟩ : ∃ s, part t fragmentSection = .ok s := exists_part (h .strict)
  obtain ⟨output, houtput⟩ : ∃ s, part t outputSection = .ok s := exists_part (h .format)
  have hwiki : translateSection.read translate "wiki_mode" readBool = .ok (x .wikiMode) :=
    section_read_of_holds (h .wikiMode) htranslate
  have hdialect : (translateSection.read translate "syntax" fun _ =>
      readChoice "Syntax" (Dialect.all.map fun d => (d.id, d))) = .ok (x .dialect) :=
    section_read_of_holds (h .dialect) htranslate
  have hdepth : translateSection.read translate "max_depth" readWord = .ok (x .maxDepth) :=
    section_read_of_holds (h .maxDepth) htranslate
  have hstrict : fragmentSection.read fragment "strict" readBool = .ok (x .strict) :=
    section_read_of_holds (h .strict) hfragment
  have hformat : (outputSection.read output "format" fun _ =>
      readChoice "OutputFormat" [("text", OutputFormat.text), ("json", .json)]) = .ok (x .format) :=
    section_read_of_holds (h .format) houtput
  refine ⟨⟨x .wikiMode, x .dialect, x .maxDepth, x .strict, x .format⟩, ?_, fun k => ?_⟩
  · simp only [ofSetting, htranslate, hfragment, houtput, bind, Except.bind, hwiki, hdialect,
      hdepth, hstrict, hformat]
    rfl
  · cases k <;> rfl

end DocStream.Config

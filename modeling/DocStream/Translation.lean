import DocStream.Source.Reader
import DocStream.Translator

/-! From the text of a document to its events: the text is read into a block tree, and the tree is
translated. A text that is no document is never walked. -/

namespace DocStream

abbrev SourceReader := String → Except Source.Error Document

inductive TranslationError where
  | source (error : Source.Error)
  | walk (failure : Failure)

def TranslationError.message : TranslationError → String
  | source e => e.message
  | walk f => f.message

def Translator.parse (t : Translator) (read : SourceReader) (wiki : Bool) (text : String) :
    Except TranslationError (List Event) :=
  match read text with
  | .error e => .error (.source e)
  | .ok d => (t.translate wiki d.blocks).mapError .walk

namespace Translator
variable (result : Except Failure (List Event))

theorem mapError_walk_eq_ok_iff {es : List Event} :
    result.mapError TranslationError.walk = .ok es ↔ result = .ok es := by
  cases result with
  | error f => exact ⟨nofun, nofun⟩
  | ok es' => exact ⟨fun h => congrArg _ (Except.ok.inj h), fun h => congrArg _ (Except.ok.inj h)⟩

theorem mapError_walk_eq_error_iff {f : Failure} :
    result.mapError TranslationError.walk = .error (.walk f) ↔ result = .error f := by
  cases result with
  | error f' =>
    constructor
    · intro h
      cases h
      rfl
    · intro h
      cases h
      rfl
  | ok es => exact ⟨nofun, nofun⟩

theorem mapError_walk_ne_source (e : Source.Error) :
    result.mapError TranslationError.walk ≠ .error (.source e) := by
  cases result <;> exact nofun

end Translator

end DocStream

import DocStream.Proofs.LexedAttributes

/-! The end of a document as it is read. Behind a text it changes no step in the text: whatever
looks ahead looks for a word that no tag begins. What the text leaves open decides about the end
itself. Its first tag is markup, or is lost inside markup, except where content is read that only a
tag of its own or a blank ends; and what follows that tag adds no more than a few letters to the
text. -/

namespace DocStream.Html

variable {l : Lexer} {c : Char} {rest : List Char}

/-! ### A text with more behind it -/

def Step.followedBy (s : Step) (later : List Char) : Step := { s with rest := s.rest ++ later }

theorem prefix_append_tag {word cs later : List Char} (hw : '<' ∉ word) :
    word <+: cs ++ '<' :: later ↔ word <+: cs := by
  induction word generalizing cs with
  | nil => simp
  | cons w word ih =>
    have hne : '<' ≠ w := List.ne_of_not_mem_cons hw
    cases cs with
    | nil => simp [List.cons_prefix_cons, hne.symm]
    | cons c cs =>
      simp [List.cons_prefix_cons, ih (List.not_mem_of_not_mem_cons hw)]

theorem beginsWith_iff {word cs : List Char} :
    Lexer.beginsWith word cs = true ↔ word <+: cs.map fun c => (smallLetter c).getD c := by
  rw [Lexer.beginsWith, List.isPrefixOf_iff_prefix, List.map_take, List.prefix_take_iff]
  exact and_iff_left le_rfl

theorem beginsWith_append {word cs later : List Char} (hw : '<' ∉ word) :
    Lexer.beginsWith word (cs ++ '<' :: later) = Lexer.beginsWith word cs := by
  rw [Bool.eq_iff_iff, beginsWith_iff, beginsWith_iff, List.map_append, List.map_cons]
  exact prefix_append_tag hw

theorem isPrefixOf_append {word cs later : List Char} (hw : '<' ∉ word) :
    word.isPrefixOf (cs ++ '<' :: later) = word.isPrefixOf cs := by
  rw [Bool.eq_iff_iff, List.isPrefixOf_iff_prefix, List.isPrefixOf_iff_prefix]
  exact prefix_append_tag hw

theorem stepText_append (hc : c ≠ '&') (later : List Char) :
    l.stepText c (rest ++ later) = (l.stepText c rest).followedBy later := by
  unfold Lexer.stepText
  split <;> first | contradiction | rfl

theorem stepRaw_append (later : List Char) :
    l.stepRaw c (rest ++ later) = (l.stepRaw c rest).followedBy later := by
  unfold Lexer.stepRaw
  repeat' split
  all_goals rfl

theorem stepComment_append (later : List Char) :
    l.stepComment c (rest ++ later) = (l.stepComment c rest).followedBy later := by
  unfold Lexer.stepComment
  dsimp only
  split
  all_goals
    repeat' split
    all_goals rfl

theorem stepCdata_append (later : List Char) :
    l.stepCdata c (rest ++ later) = (l.stepCdata c rest).followedBy later := by
  unfold Lexer.stepCdata
  repeat' split
  all_goals rfl

theorem stepTag_append (hc : c ≠ '&') (later : List Char) :
    l.stepTag c (rest ++ later) = (l.stepTag c rest).followedBy later := by
  unfold Lexer.stepTag
  dsimp only
  repeat' split
  all_goals first | contradiction | rfl

theorem drop_of_beginsWith {word cs : List Char} (h : Lexer.beginsWith word cs = true)
    (later : List Char) :
    (cs ++ later).drop word.length = cs.drop word.length ++ later := by
  have hlen : word.length ≤ cs.length := by simpa using (beginsWith_iff.mp h).length_le
  exact List.drop_append_of_le_length hlen

theorem stepDoctype_append (later : List Char) :
    l.stepDoctype c (rest ++ '<' :: later) =
      (l.stepDoctype c rest).followedBy ('<' :: later) := by
  -- a keyword is dropped as a whole, and ends before what is behind the text
  have hpublic (h : Lexer.beginsWith "public".toList (c :: rest) = true) :
      (rest ++ '<' :: later).drop 5 = rest.drop 5 ++ '<' :: later := drop_of_beginsWith h _
  have hsystem (h : Lexer.beginsWith "system".toList (c :: rest) = true) :
      (rest ++ '<' :: later).drop 5 = rest.drop 5 ++ '<' :: later := drop_of_beginsWith h _
  unfold Lexer.stepDoctype
  dsimp only
  rw [← List.cons_append, beginsWith_append (by decide), beginsWith_append (by decide)]
  repeat' split
  all_goals first
    | rfl
    | exact congrArg (Step.mk _ · _) (hpublic ‹_›)
    | exact congrArg (Step.mk _ · _) (hsystem ‹_›)

theorem stepDeclaration_append (inForeign : Bool) (cs later : List Char) :
    l.stepDeclaration inForeign (cs ++ '<' :: later) =
      (l.stepDeclaration inForeign cs).followedBy ('<' :: later) := by
  have hdrop {word : List Char} (h : word.isPrefixOf cs = true) :
      (cs ++ '<' :: later).drop word.length = cs.drop word.length ++ '<' :: later :=
    List.drop_append_of_le_length (List.isPrefixOf_iff_prefix.mp h).length_le
  unfold Lexer.stepDeclaration
  rw [beginsWith_append (by decide), isPrefixOf_append (by decide), isPrefixOf_append (by decide)]
  split
  next h => exact congrArg (Step.mk _ · _) (hdrop h)
  split
  next h => exact congrArg (Step.mk _ · _) (drop_of_beginsWith h _)
  split
  next h => exact congrArg (Step.mk _ · _) (hdrop (Bool.and_eq_true_iff.mp h).2)
  rfl

theorem step_append (inForeign : Bool) (hc : c ≠ '&') (later : List Char) :
    l.step inForeign c (rest ++ '<' :: later) =
      (l.step inForeign c rest).followedBy ('<' :: later) := by
  unfold Lexer.step
  split
  all_goals first
    | exact stepText_append hc _
    | exact stepRaw_append _
    | exact stepTag_append hc _
    | exact stepDeclaration_append inForeign (c :: rest) later
    | exact stepComment_append _
    | exact stepCdata_append _
    | exact stepDoctype_append later

/-! ### The end mark as markup -/

/-- The states in which the end of the body is content of the element or attribute that is open. -/
def State.swallows : State → Bool
  | .plaintext | .rawData _ | .rawLessThanSign _ | .rawEndTagOpen _ | .rawEndTagName _
  | .scriptDataEscapeStart _ | .scriptDataEscapeStartDash | .scriptDataEscapedDash _
  | .scriptDataEscapedDashDash _ | .scriptDataDoubleEscapeEnd | .beforeAttributeValue
  | .attributeValue .unquoted | .cdataSection | .cdataSectionBracket | .cdataSectionEnd => true
  | _ => false

def State.inMarkup : State → Bool
  | .data | .tagOpen | .markupDeclarationOpen => false
  | s => !s.swallows

structure Step.Inside (c : Char) (rest : List Char) (s : Step) : Prop where
  state : s.lexer.state.inMarkup = true
  tokens : ∀ t ∈ s.tokens, ∃ f, t = .fault f
  rest : s.rest = rest ∨ s.rest = c :: rest

theorem mem_endMark :
    c ∈ endMark ↔ c = '<' ∨ c = '/' ∨ c = 'b' ∨ c = 'o' ∨ c = 'd' ∨ c = 'y' := by
  simp [endMark]

theorem endMark_plain (hc : c ∈ endMark) :
    isTagSpace c = false ∧ c ≠ '>' ∧ c ≠ '!' ∧ c ≠ '-' ∧ c ≠ '=' ∧ c ≠ '"' ∧ c ≠ '\x27' ∧
      c ≠ '\x00' ∧ c ≠ '&' := by
  obtain rfl | rfl | rfl | rfl | rfl | rfl := mem_endMark.mp hc <;> decide

theorem beginsWith_endMark (hc : c ∈ endMark) {x : Char} {word : List Char}
    (hx : x ∉ endMark) : Lexer.beginsWith (x :: word) (c :: rest) = false := by
  have hsmall : (smallLetter c).getD c ∈ endMark := by
    obtain rfl | rfl | rfl | rfl | rfl | rfl := mem_endMark.mp hc <;> decide
  rw [Bool.eq_false_iff]
  intro h
  rw [beginsWith_iff, List.map_cons, List.cons_prefix_cons] at h
  exact hx (h.1 ▸ hsmall)

theorem inside_attributeStart (odd : Bool) : (l.attributeStart c odd rest).Inside c rest := by
  refine ⟨rfl, ?_, .inl rfl⟩
  simp only [Lexer.attributeStart, Lexer.startAttribute, Lexer.finishAttribute]
  grind [Lexer.saw]

theorem inside_stepTag (hc : c ∈ endMark) (hs : l.state.inMarkup = true) :
    (l.stepTag c rest).Inside c rest := by
  obtain ⟨hspace, hgt, -, -, heq, hq, hq', hnul, hamp⟩ := endMark_plain hc
  unfold Lexer.stepTag
  dsimp only
  repeat' split
  -- first the branches that take another character or begin outside of markup
  all_goals first
    | (exfalso; simp_all [State.inMarkup, State.swallows]; done)
    | exact inside_attributeStart _
    | exact ⟨hs, by simp [Lexer.saw], by simp⟩
    | exact ⟨rfl, by simp [Lexer.saw], by simp⟩

theorem inside_stepComment (hc : c ∈ endMark) (hs : l.state.inMarkup = true) :
    (l.stepComment c rest).Inside c rest := by
  obtain ⟨-, hgt, hbang, hdash, -, -, -, hnul, -⟩ := endMark_plain hc
  simp only [Lexer.stepComment, hgt, hbang, hdash, hnul, if_false]
  repeat' split
  all_goals first
    | exact ⟨hs, by simp, by simp⟩
    | exact ⟨rfl, by simp [Lexer.saw], by simp⟩

theorem inside_stepDoctype (hc : c ∈ endMark) (hs : l.state.inMarkup = true) :
    (l.stepDoctype c rest).Inside c rest := by
  obtain ⟨hspace, hgt, -, -, -, hq, hq', hnul, -⟩ := endMark_plain hc
  have hpublic : Lexer.beginsWith "public".toList (c :: rest) = false :=
    beginsWith_endMark hc (by decide)
  have hsystem : Lexer.beginsWith "system".toList (c :: rest) = false :=
    beginsWith_endMark hc (by decide)
  simp only [Lexer.stepDoctype, hspace, hgt, hq, hq', hnul, hpublic, hsystem, Bool.false_eq_true,
    decide_false, Bool.or_self, if_false]
  repeat' split
  all_goals first
    | exact ⟨hs, by simp, by simp⟩
    | exact ⟨rfl, by simp [Lexer.saw], by simp⟩

/-- Inside a tag, a comment or a document type the end mark changes nothing but the faults. -/
theorem inside_step (inForeign : Bool) (hc : c ∈ endMark) (hs : l.state.inMarkup = true) :
    (l.step inForeign c rest).Inside c rest := by
  unfold Lexer.step
  split
  all_goals first
    | exact inside_stepTag hc hs
    | exact inside_stepComment hc hs
    | exact inside_stepDoctype hc hs
    | simp_all [State.inMarkup, State.swallows]

def State.passes (s : State) (c : Char) : Bool :=
  match s with
  | .data | .markupDeclarationOpen => c = '<'
  | .tagOpen => c = '<' || c = '/'
  | s => s.inMarkup

theorem passes_of_inMarkup {s : State} (h : s.inMarkup = true) : s.passes c = true := by
  cases s <;> first | exact h | cases h

theorem passes_of_swallows {s : State} (h : s.swallows = false) : s.passes '<' = true := by
  unfold State.passes State.inMarkup
  grind

theorem swallows_of_inMarkup {s : State} (h : s.inMarkup = true) : s.swallows = false := by
  unfold State.inMarkup at h
  grind

structure Step.Passes (later : List Char) (s : Step) : Prop where
  state : s.lexer.state.swallows = false
  tokens : ∀ t ∈ s.tokens, t.Steady ∧ 'y' ∉ t.plain
  rest : ∃ e, e <:+ endMark ∧ s.rest = e ++ later ∧ ∀ c ∈ e.head?, s.lexer.state.passes c = true

theorem head?_of_suffix {e : List Char} (he : '<' :: e <:+ endMark) : e.head? = some '/' := by
  simp [endMark, List.suffix_cons_iff] at he
  rw [he]
  rfl

theorem Step.Inside.passes {s : Step} {e later : List Char} (he : c :: e <:+ endMark)
    (h : s.Inside c (e ++ later)) : s.Passes later := by
  refine ⟨swallows_of_inMarkup h.state, fun t ht => ?_, ?_⟩
  · obtain ⟨f, rfl⟩ := h.tokens t ht
    exact ⟨trivial, List.not_mem_nil⟩
  · obtain hr | hr := h.rest
    · exact ⟨e, (List.suffix_cons c e).trans he, hr, fun _ _ => passes_of_inMarkup h.state⟩
    · exact ⟨c :: e, he, hr, fun _ _ => passes_of_inMarkup h.state⟩

theorem passes_step (inForeign : Bool) {e : List Char} (he : c :: e <:+ endMark)
    (hs : l.state.passes c = true) (later : List Char) :
    (l.step inForeign c (e ++ later)).Passes later := by
  have hsuf : e <:+ endMark := (List.suffix_cons c e).trans he
  cases h : l.state with
  | data =>
    obtain rfl : c = '<' := by simpa [State.passes, h] using hs
    simp only [Lexer.step, Lexer.stepText, h]
    exact ⟨rfl, by simp, e, hsuf, rfl, by simp [head?_of_suffix he, State.passes, Lexer.enter]⟩
  | markupDeclarationOpen =>
    obtain rfl : c = '<' := by simpa [State.passes, h] using hs
    have hstep : l.step inForeign '<' (e ++ later) =
        ⟨l.enter .bogusComment, '<' :: (e ++ later), [l.saw '!']⟩ := by
      rw [Lexer.step, h]
      cases inForeign <;> rfl
    rw [hstep]
    refine ⟨rfl, by simp [Lexer.saw, Token.Steady, Token.plain], '<' :: e, he, rfl, ?_⟩
    exact fun _ _ => rfl
  | tagOpen =>
    obtain rfl | rfl : c = '<' ∨ c = '/' := by simpa [State.passes, h] using hs
    · have hstep : l.step inForeign '<' (e ++ later) =
          ⟨l.enter .data, '<' :: (e ++ later), [l.saw '<', .char '<']⟩ := by
        rw [Lexer.step, h]
        simp only [Lexer.stepTag, h]
        rfl
      rw [hstep]
      refine ⟨rfl, ?_, '<' :: e, he, rfl, by simp [State.passes, Lexer.enter]⟩
      simp [Lexer.saw, Token.Steady, Token.plain]
    · simp only [Lexer.step, Lexer.stepTag, h]
      exact ⟨rfl, by simp, e, hsuf, rfl, fun _ _ => rfl⟩
  | _ =>
    rw [h] at hs
    refine Step.Inside.passes he (inside_step inForeign (he.subset List.mem_cons_self) ?_)
    rw [h]
    exact hs

/-! ### What comes after the end mark -/

/-- Letters that may turn out to be an end tag, and become text again if not, have no `y`. -/
def Lexer.Quiet (l : Lexer) : Prop :=
  match l.state with
  | .rawEndTagOpen _ | .rawEndTagName _ => 'y' ∉ l.buffer
  | _ => True

theorem quiet_of_swallows (h : l.state.swallows = false) : l.Quiet := by
  unfold Lexer.Quiet
  split
  all_goals first
    | trivial
    | simp_all [State.swallows]

structure Step.Quiet (s : Step) : Prop where
  lexer : s.lexer.Quiet
  tokens : ∀ t ∈ s.tokens, 'y' ∉ t.plain

theorem quiet_endOfTag (l : Lexer) (rest : List Char) : (l.endOfTag rest).Quiet := by
  have hattribute : ∀ t ∈ l.finishAttribute.2, t.plain = [] := by
    unfold Lexer.finishAttribute
    grind [Token.plain]
  simp only [Lexer.endOfTag, Lexer.finishTag]
  split
  all_goals exact ⟨trivial, by grind [Token.plain]⟩

theorem quiet_stepText (hc : c ≠ 'y') (hamp : c ≠ '&') (hl : l.Quiet) :
    (l.stepText c rest).Quiet := by
  simp only [Lexer.stepText]
  split
  all_goals first
    | contradiction
    | exact ⟨hl, by grind [Lexer.saw, Token.plain]⟩
    | exact ⟨trivial, by grind [Lexer.saw, Token.plain]⟩

theorem quiet_stepCdata (hc : c ≠ 'y') (hl : l.Quiet) : (l.stepCdata c rest).Quiet := by
  simp only [Lexer.stepCdata]
  repeat' split
  all_goals first
    | exact ⟨hl, by grind [chars, Token.plain]⟩
    | exact ⟨trivial, by grind [chars, Token.plain]⟩

theorem quiet_stepComment (hl : l.Quiet) : (l.stepComment c rest).Quiet := by
  simp only [Lexer.stepComment]
  repeat' split
  all_goals first
    | exact ⟨hl, by grind [Lexer.saw, Token.plain]⟩
    | exact ⟨trivial, by grind [Lexer.saw, Token.plain]⟩

theorem quiet_stepDoctype (hl : l.Quiet) : (l.stepDoctype c rest).Quiet := by
  simp only [Lexer.stepDoctype]
  repeat' split
  all_goals first
    | exact ⟨hl, by grind [Lexer.saw, Token.plain]⟩
    | exact ⟨trivial, by grind [Lexer.saw, Token.plain]⟩

theorem quiet_stepDeclaration (inForeign : Bool) (cs : List Char) :
    (l.stepDeclaration inForeign cs).Quiet := by
  simp only [Lexer.stepDeclaration]
  repeat' split
  all_goals exact ⟨trivial, by grind [Lexer.saw, Token.plain]⟩

theorem quiet_attributeStart (odd : Bool) : (l.attributeStart c odd rest).Quiet := by
  simp only [Lexer.attributeStart, Lexer.startAttribute, Lexer.finishAttribute]
  exact ⟨trivial, by grind [Lexer.saw, Token.plain]⟩

theorem quiet_stepTag (hamp : c ≠ '&') (hl : l.Quiet) :
    (l.stepTag c rest).Quiet := by
  have hend := quiet_endOfTag l rest
  simp only [Lexer.stepTag]
  repeat' split
  all_goals first
    | contradiction
    | exact quiet_endOfTag _ rest
    | exact quiet_attributeStart _
    | exact ⟨hend.lexer, List.forall_mem_cons.mpr ⟨List.not_mem_nil, hend.tokens⟩⟩
    | exact ⟨hl, by grind [Lexer.saw, Token.plain]⟩
    | exact ⟨trivial, by grind [Lexer.saw, Token.plain]⟩

theorem quiet_stepRaw (hc : c ≠ 'y') (hl : l.Quiet) : (l.stepRaw c rest).Quiet := by
  have hend := quiet_endOfTag { l with buffer := [] } rest
  simp only [Lexer.stepRaw]
  repeat' split
  all_goals
    try simp only [Lexer.Quiet, *] at hl
  all_goals first
    | exact ⟨trivial, by grind [Lexer.saw, chars, Token.plain]⟩
    | exact ⟨List.not_mem_nil, by grind [Token.plain]⟩
    | exact hend
    | exact ⟨by simp [Lexer.Quiet, Lexer.enter, hc.symm, *], by grind [Token.plain]⟩

theorem quiet_step (inForeign : Bool) (hc : c ≠ 'y') (hamp : c ≠ '&') (hl : l.Quiet) :
    (l.step inForeign c rest).Quiet := by
  unfold Lexer.step
  split
  all_goals first
    | exact quiet_stepText hc hamp hl
    | exact quiet_stepRaw hc hl
    | exact quiet_stepTag hamp hl
    | exact quiet_stepDeclaration inForeign _
    | exact quiet_stepComment hl
    | exact quiet_stepCdata hc hl
    | exact quiet_stepDoctype hl

theorem sound_finish : ∀ t ∈ l.finish, t.Sound := by
  unfold Lexer.finish Lexer.finish.endInside
  simp only
  repeat' split
  all_goals grind [Lexer.saw, chars, Token.Sound]

theorem quiet_finish (hl : l.Quiet) : ∀ t ∈ l.finish, 'y' ∉ t.plain := by
  unfold Lexer.finish Lexer.finish.endInside
  simp only
  repeat' split
  all_goals
    try simp only [Lexer.Quiet, *] at hl
    grind [Lexer.saw, chars, Token.plain]

end DocStream.Html

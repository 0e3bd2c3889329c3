import DocStream.Proofs.TokenIntake

/-! Attributes as they are read. A value is a piece of the text, with NUL replaced, and a name has
no slash in it; so where the text has no end mark and no reference, neither has an attribute. A
quoted value may run into the end of the document, which shows only if the quote is closed there.
-/

namespace DocStream.Html

/-- NUL is no character of a value, a name or a plain text. -/
def replaceNul (c : Char) : Char := if c = '\x00' then '\ufffd' else c

def State.inAttribute : State → Bool
  | .attributeName | .afterAttributeName | .beforeAttributeValue | .attributeValue _ => true
  | _ => false

/-- What is left of the text adds no end mark to a value, or will never close its quotes. -/
def OpenValue (k : QuoteKind) (value rest : List Char) : Prop :=
  (k ≠ .unquoted ∧ '"' ∉ rest ∧ '\x27' ∉ rest) ∨
    ¬ endMark <:+: value.reverse ++ rest.map replaceNul

def Lexer.ValueClear (l : Lexer) (rest : List Char) : Prop :=
  match l.state with
  | .attributeName | .afterAttributeName | .beforeAttributeValue =>
    l.attributeName ≠ [] ∧ l.attributeValue = []
  | .attributeValue k => l.attributeName ≠ [] ∧ OpenValue k l.attributeValue rest
  | _ => ¬ endMark <:+: l.attributeValue.reverse

structure Lexer.Clear (l : Lexer) (rest : List Char) : Prop where
  stored : ∀ a ∈ l.attributes, a.Clear
  name : '/' ∉ l.attributeName
  unnamed : l.attributeName = [] → l.attributeValue = []
  value : l.ValueClear rest

structure Step.Clear (before : List Char) (s : Step) : Prop where
  lexer : s.lexer.Clear s.rest
  tokens : ∀ t ∈ s.tokens, t.Sound
  rest : s.rest <:+ before
  steady : s.lexer.state.inAttribute = true → ∀ t ∈ s.tokens, t.Steady

variable {l : Lexer} {c : Char} {rest : List Char}

theorem not_endMark_nil : ¬ endMark <:+: [] := by simp [endMark]

/-! ### Values -/

theorem OpenValue.push {k : QuoteKind} {value : List Char} (h : OpenValue k value (c :: rest)) :
    OpenValue k (replaceNul c :: value) rest := by
  obtain ⟨hk, h₁, h₂⟩ | h := h
  · exact .inl ⟨hk, List.not_mem_of_not_mem_cons h₁, List.not_mem_of_not_mem_cons h₂⟩
  · exact .inr (by simpa using h)

theorem OpenValue.closes {k : QuoteKind} {value : List Char} (h : OpenValue k value (c :: rest))
    (hc : k = .unquoted ∨ c = '"' ∨ c = '\x27') : ¬ endMark <:+: value.reverse := by
  obtain ⟨hk, h₁, h₂⟩ | h := h
  · obtain hc | rfl | rfl := hc
    · exact absurd hc hk
    · exact absurd List.mem_cons_self h₁
    · exact absurd List.mem_cons_self h₂
  · exact fun hmark => h (hmark.trans (List.prefix_append _ _).isInfix)

theorem valueClear_of_outside (h : l.state.inAttribute = false) :
    l.ValueClear rest ↔ ¬ endMark <:+: l.attributeValue.reverse := by
  unfold Lexer.ValueClear
  unfold State.inAttribute at h
  split <;> simp_all

theorem Lexer.Clear.outside {l' : Lexer} {rest' : List Char} (hl : l.Clear rest)
    (hs : l.state.inAttribute = false) (hs' : l'.state.inAttribute = false)
    (h₁ : ∀ a ∈ l'.attributes, a ∈ l.attributes) (h₂ : l'.attributeName = l.attributeName)
    (h₃ : l'.attributeValue = l.attributeValue) : l'.Clear rest' :=
  ⟨fun a ha => hl.stored a (h₁ a ha), h₂ ▸ hl.name, h₂ ▸ h₃ ▸ hl.unnamed,
    (valueClear_of_outside hs').mpr (h₃ ▸ (valueClear_of_outside hs).mp hl.value)⟩

theorem Step.Clear.outside {before : List Char} {s : Step} (hl : l.Clear before)
    (hs : l.state.inAttribute = false) (hs' : s.lexer.state.inAttribute = false)
    (h₁ : ∀ a ∈ s.lexer.attributes, a ∈ l.attributes)
    (h₂ : s.lexer.attributeName = l.attributeName)
    (h₃ : s.lexer.attributeValue = l.attributeValue) (ht : ∀ t ∈ s.tokens, t.Sound)
    (hr : s.rest <:+ before) : s.Clear before :=
  ⟨hl.outside hs hs' h₁ h₂ h₃, ht, hr, fun h => absurd (hs'.symm.trans h) Bool.false_ne_true⟩

theorem Lexer.Clear.move {s : State} {rest' : List Char} (hl : l.Clear rest)
    (h : (l.enter s).ValueClear rest') : (l.enter s).Clear rest' :=
  ⟨hl.stored, hl.name, hl.unnamed, h⟩

/-! ### Finished attributes and tags -/

theorem finishAttribute_clear (hstored : ∀ a ∈ l.attributes, a.Clear)
    (hname : '/' ∉ l.attributeName) (hunnamed : l.attributeName = [] → l.attributeValue = [])
    (hvalue : ¬ endMark <:+: l.attributeValue.reverse) :
    (∀ a ∈ l.finishAttribute.1.attributes, a.Clear) ∧ l.finishAttribute.1.attributeName = [] ∧
      l.finishAttribute.1.attributeValue = [] ∧ ∀ t ∈ l.finishAttribute.2, t.Sound := by
  have hnew : Attribute.Clear ⟨backwards l.attributeName, backwards l.attributeValue⟩ := by
    simpa [Attribute.Clear, backwards] using ⟨hname, hvalue⟩
  unfold Lexer.finishAttribute
  split
  · grind
  · dsimp only
    split <;> grind [Token.Sound]

theorem finishTag_clear (hstored : ∀ a ∈ l.attributes, a.Clear)
    (hname : '/' ∉ l.attributeName) (hunnamed : l.attributeName = [] → l.attributeValue = [])
    (hvalue : ¬ endMark <:+: l.attributeValue.reverse) :
    l.finishTag.1.Clear rest ∧ ∀ t ∈ l.finishTag.2, t.Sound := by
  obtain ⟨h₁, h₂, h₃, h₄⟩ := finishAttribute_clear hstored hname hunnamed hvalue
  have htag : ∀ a ∈ l.finishAttribute.1.attributes.reverse, a.Clear := by simpa using h₁
  unfold Lexer.finishTag
  dsimp only
  split
  all_goals
    refine ⟨⟨by simp, by simp [h₂], by simp [h₃], ?_⟩, ?_⟩
    · exact (valueClear_of_outside rfl).mpr (by simpa [h₃] using not_endMark_nil)
    · grind [Token.Sound, Tag.Clear]

theorem finishTag_state : l.finishTag.1.state.inAttribute = false := by
  unfold Lexer.finishTag
  dsimp only
  split <;> rfl

theorem clear_endOfTag (hl : l.Clear (c :: rest))
    (hvalue : ¬ endMark <:+: l.attributeValue.reverse) :
    (l.endOfTag rest).Clear (c :: rest) :=
  have hfin : l.finishTag.1.Clear rest ∧ _ :=
    finishTag_clear hl.stored hl.name hl.unnamed hvalue
  ⟨hfin.1, hfin.2, List.suffix_cons c rest,
    fun h => absurd (finishTag_state.symm.trans h) Bool.false_ne_true⟩

theorem clear_endOfTag_selfClosing (hl : l.Clear (c :: rest))
    (hvalue : ¬ endMark <:+: l.attributeValue.reverse) :
    (Lexer.endOfTag { l with selfClosing := true } rest).Clear (c :: rest) :=
  have hfin : (Lexer.finishTag { l with selfClosing := true }).1.Clear rest ∧ _ :=
    finishTag_clear hl.stored hl.name hl.unnamed hvalue
  ⟨hfin.1, hfin.2, List.suffix_cons c rest,
    fun h => absurd (finishTag_state.symm.trans h) Bool.false_ne_true⟩

/-! ### Names -/

theorem smallLetter_ne_slash {s : Char} (h : smallLetter c = some s) : s ≠ '/' := by
  rintro rfl
  unfold smallLetter at h
  split at h
  · obtain rfl := Option.some.inj h
    contradiction
  · split at h
    · rename_i hc
      simp only [Bool.and_eq_true, decide_eq_true_eq] at hc
      have hlow : (65 : UInt32) ≤ c.val := hc.1
      have hval := congrArg Char.val (Option.some.inj h)
      simp only [Char.toLower] at hval
      grind
    · cases h

theorem inName_ne_slash (hc : c ≠ '/') :
    (if c = '\x00' then '\ufffd' else (smallLetter c).getD c) ≠ '/' := by
  split
  · decide
  · cases h : smallLetter c with
    | none => exact hc
    | some s => exact smallLetter_ne_slash h

theorem clear_attributeStart (hl : l.Clear (c :: rest))
    (hvalue : ¬ endMark <:+: l.attributeValue.reverse) (hc : c ≠ '/') (odd : Bool) :
    (l.attributeStart c odd rest).Clear (c :: rest) := by
  obtain ⟨h₁, -, h₃, h₄⟩ := finishAttribute_clear hl.stored hl.name hl.unnamed hvalue
  refine ⟨⟨h₁, ?_, ?_, ?_⟩, ?_, List.suffix_cons c rest, ?_⟩
  · simpa [Lexer.attributeStart, Lexer.startAttribute, Lexer.enter] using (inName_ne_slash hc).symm
  · simp [Lexer.attributeStart, Lexer.startAttribute, Lexer.enter]
  · simpa [Lexer.ValueClear, Lexer.attributeStart, Lexer.startAttribute, Lexer.enter] using h₃
  · simp only [Lexer.attributeStart, Lexer.startAttribute]
    grind [Token.Sound, Lexer.saw]
  · simp only [Lexer.attributeStart, Lexer.startAttribute, Lexer.finishAttribute]
    grind [Token.Steady, Lexer.saw]

/-! ### Steps -/

theorem clear_stepText (hl : l.Clear (c :: rest)) (hs : l.state.inAttribute = false)
    (hc : c ≠ '&') : (l.stepText c rest).Clear (c :: rest) := by
  have hsuf : rest <:+ c :: rest := List.suffix_cons c rest
  simp only [Lexer.stepText]
  split
  all_goals first
    | contradiction
    | refine .outside hl hs ?_ (fun _ => id) rfl rfl ?_ hsuf
      · grind [State.inAttribute, Lexer.enter]
      · grind [Lexer.saw, Token.Sound]

theorem clear_stepCdata (hl : l.Clear (c :: rest)) (hs : l.state.inAttribute = false) :
    (l.stepCdata c rest).Clear (c :: rest) := by
  have hsuf : rest <:+ c :: rest := List.suffix_cons c rest
  simp only [Lexer.stepCdata]
  repeat' split
  all_goals
    refine .outside hl hs ?_ (fun _ => id) rfl rfl ?_ ?_
    · grind [State.inAttribute, Lexer.enter]
    · grind [Lexer.saw, Token.Sound, chars]
    · grind

theorem clear_stepDeclaration {cs : List Char} (inForeign : Bool) (hl : l.Clear cs)
    (hs : l.state.inAttribute = false) : (l.stepDeclaration inForeign cs).Clear cs := by
  have hsuf (n : Nat) : cs.drop n <:+ cs := List.drop_suffix n cs
  simp only [Lexer.stepDeclaration]
  repeat' split
  all_goals
    refine .outside hl hs rfl (fun _ => id) rfl rfl ?_ ?_
    · grind [Lexer.saw, Token.Sound]
    · grind

theorem clear_stepComment (hl : l.Clear (c :: rest)) (hs : l.state.inAttribute = false) :
    (l.stepComment c rest).Clear (c :: rest) := by
  have hsuf : rest <:+ c :: rest := List.suffix_cons c rest
  simp only [Lexer.stepComment]
  repeat' split
  all_goals
    refine .outside hl hs ?_ (fun _ => id) rfl rfl ?_ ?_
    · grind [State.inAttribute, Lexer.enter]
    · grind [Lexer.saw, Token.Sound]
    · grind

theorem clear_stepDoctype (hl : l.Clear (c :: rest)) (hs : l.state.inAttribute = false) :
    (l.stepDoctype c rest).Clear (c :: rest) := by
  have hsuf : rest <:+ c :: rest := List.suffix_cons c rest
  have hsuf' : rest.drop 5 <:+ c :: rest := (List.drop_suffix 5 rest).trans hsuf
  simp only [Lexer.stepDoctype]
  repeat' split
  all_goals
    refine .outside hl hs ?_ (fun _ => id) rfl rfl ?_ ?_
    · grind [State.inAttribute, Lexer.enter]
    · grind [Lexer.saw, Token.Sound]
    · grind

theorem clear_stepRaw (hl : l.Clear (c :: rest)) (hs : l.state.inAttribute = false) :
    (l.stepRaw c rest).Clear (c :: rest) := by
  have hsuf : rest <:+ c :: rest := List.suffix_cons c rest
  have hvalue := (valueClear_of_outside hs).mp hl.value
  have hfin : (Lexer.finishTag { l with buffer := [] }).1.Clear rest ∧ _ :=
    finishTag_clear hl.stored hl.name hl.unnamed hvalue
  simp only [Lexer.stepRaw]
  repeat' split
  all_goals first
    | exact ⟨hfin.1, hfin.2, hsuf, fun h => absurd h (by simp [finishTag_state])⟩
    | refine .outside hl hs ?_ ?_ rfl rfl ?_ ?_
      · grind [State.inAttribute, Lexer.enter, Lexer.raw]
      · grind [Lexer.enter, Lexer.startTag, Lexer.dropTag, Lexer.raw]
      · grind [Lexer.saw, Token.Sound, chars]
      · grind

theorem clear_stepTag_outside (hl : l.Clear (c :: rest)) (hs : l.state.inAttribute = false) :
    (l.stepTag c rest).Clear (c :: rest) := by
  have hvalue := (valueClear_of_outside hs).mp hl.value
  have hsuf : rest <:+ c :: rest := List.suffix_cons c rest
  unfold Lexer.stepTag
  repeat' split
  all_goals first
    | exact clear_endOfTag hl hvalue
    | exact clear_endOfTag_selfClosing hl hvalue
    | exact clear_attributeStart hl hvalue ‹_› _
    | (exfalso; simp_all [State.inAttribute]; done)
    | refine .outside hl hs ?_ ?_ rfl rfl ?_ ?_
      · grind [State.inAttribute, Lexer.enter]
      · grind [Lexer.enter, Lexer.startTag, Lexer.dropTag]
      · grind [Lexer.saw, Token.Sound]
      · grind

theorem clear_stepTag_attributeName (hl : l.Clear (c :: rest)) (hs : l.state = .attributeName) :
    (l.stepTag c rest).Clear (c :: rest) := by
  have hv := hl.value
  simp only [Lexer.ValueClear, hs] at hv
  have hvalue : ¬ endMark <:+: l.attributeValue.reverse := by simpa [hv.2] using not_endMark_nil
  have hsuf : rest <:+ c :: rest := List.suffix_cons c rest
  simp only [Lexer.stepTag, hs]
  split
  · exact ⟨hl.move hv, by simp, hsuf, by simp⟩
  · split
    · exact ⟨hl.move hvalue, by simp, hsuf, by simp⟩
    · split
      · exact ⟨hl.move hv, by simp, hsuf, by simp⟩
      · split
        · exact clear_endOfTag hl hvalue
        · refine ⟨⟨hl.stored, ?_, by simp, ?_⟩, ?_, hsuf, ?_⟩
          · have hslash := inName_ne_slash ‹¬ c = '/'›
            have hname := hl.name
            grind
          · simpa [Lexer.ValueClear, hs] using hv.2
          · grind [Lexer.saw, Token.Sound]
          · grind [Lexer.saw, Token.Steady]

theorem clear_stepTag_afterAttributeName (hl : l.Clear (c :: rest))
    (hs : l.state = .afterAttributeName) : (l.stepTag c rest).Clear (c :: rest) := by
  have hv := hl.value
  simp only [Lexer.ValueClear, hs] at hv
  have hvalue : ¬ endMark <:+: l.attributeValue.reverse := by simpa [hv.2] using not_endMark_nil
  have hsuf : rest <:+ c :: rest := List.suffix_cons c rest
  simp only [Lexer.stepTag, hs]
  repeat' split
  · refine ⟨⟨hl.stored, hl.name, hl.unnamed, ?_⟩, by simp, hsuf, by simp⟩
    simpa [Lexer.ValueClear, hs] using hv
  · exact ⟨hl.move hvalue, by simp, hsuf, by simp⟩
  · exact ⟨hl.move hv, by simp, hsuf, by simp⟩
  · exact clear_endOfTag hl hvalue
  · exact clear_attributeStart hl hvalue ‹_› _

theorem clear_stepTag_beforeAttributeValue (hl : l.Clear (c :: rest))
    (hs : l.state = .beforeAttributeValue) (htext : ¬ endMark <:+: (c :: rest).map replaceNul) :
    (l.stepTag c rest).Clear (c :: rest) := by
  have hv := hl.value
  simp only [Lexer.ValueClear, hs] at hv
  obtain ⟨hname, hnil⟩ := hv
  have hvalue : ¬ endMark <:+: l.attributeValue.reverse := by simpa [hnil] using not_endMark_nil
  have hsuf : rest <:+ c :: rest := List.suffix_cons c rest
  have hrest : ¬ endMark <:+: rest.map replaceNul :=
    fun h => htext (h.trans (List.suffix_cons _ _).isInfix)
  have hquoted (k : QuoteKind) : OpenValue k l.attributeValue rest :=
    .inr (by simpa [hnil] using hrest)
  simp only [Lexer.stepTag, hs]
  repeat' split
  · refine ⟨⟨hl.stored, hl.name, hl.unnamed, ?_⟩, by simp, hsuf, by simp⟩
    simpa [Lexer.ValueClear, hs] using ⟨hname, hnil⟩
  · exact ⟨hl.move ⟨hname, hquoted _⟩, by simp, hsuf, by simp⟩
  · exact ⟨hl.move ⟨hname, hquoted _⟩, by simp, hsuf, by simp⟩
  · have hfin : l.finishTag.1.Clear rest ∧ _ :=
      finishTag_clear hl.stored hl.name hl.unnamed hvalue
    exact ⟨hfin.1, List.forall_mem_cons.mpr ⟨trivial, hfin.2⟩, hsuf,
      fun h => absurd h (by simp [finishTag_state])⟩
  · refine ⟨hl.move ⟨hname, .inr ?_⟩, by simp, List.suffix_refl _, by simp⟩
    simpa [Lexer.enter, hnil] using htext

theorem clear_stepTag_attributeValue {k : QuoteKind} (hl : l.Clear (c :: rest))
    (hs : l.state = .attributeValue k) (hc : c ≠ '&') :
    (l.stepTag c rest).Clear (c :: rest) := by
  have hv := hl.value
  simp only [Lexer.ValueClear, hs] at hv
  obtain ⟨hname, hopen⟩ := hv
  have hsuf : rest <:+ c :: rest := List.suffix_cons c rest
  have hgrow {x : Char} (hx : replaceNul c = x) {ts : List Token}
      (hts : ∀ t ∈ ts, t.Sound ∧ t.Steady) : Step.Clear (c :: rest)
        ⟨{ l with state := .attributeValue k, attributeValue := x :: l.attributeValue },
          rest, ts⟩ :=
    ⟨⟨hl.stored, hl.name, fun h => absurd h hname, hname, hx ▸ hopen.push⟩,
      fun t ht => (hts t ht).1, hsuf, fun _ t ht => (hts t ht).2⟩
  cases k with
  | unquoted =>
    have hvalue := hopen.closes (.inl rfl)
    simp only [Lexer.stepTag, hs]
    repeat' split
    · exact ⟨hl.move hvalue, by simp, hsuf, by simp⟩
    · exact clear_endOfTag hl hvalue
    · exact hgrow (by simp [replaceNul, *]) (by simp [Lexer.saw, Token.Sound, Token.Steady])
    · exact hgrow (by simp [replaceNul, *]) (by simp)
  | _ =>
    simp only [Lexer.stepTag, hs, reduceCtorEq, if_true, if_false]
    repeat' split
    · exact ⟨hl.move (hopen.closes (by simp_all)), by simp, hsuf, by simp⟩
    · exact hgrow (by simp [replaceNul, *]) (by simp [Lexer.saw, Token.Sound, Token.Steady])
    · exact hgrow (by simp [replaceNul, *]) (by simp)

/-- Where the text has no reference and no end mark, a step keeps attributes clear. A mark further
on does no harm once no value begins any more. -/
theorem clear_step (inForeign : Bool) (hl : l.Clear (c :: rest)) (hc : c ≠ '&')
    (htext : l.state = .beforeAttributeValue → ¬ endMark <:+: (c :: rest).map replaceNul) :
    (l.step inForeign c rest).Clear (c :: rest) := by
  cases hs : l.state with
  | attributeName => simpa only [Lexer.step, hs] using clear_stepTag_attributeName hl hs
  | afterAttributeName => simpa only [Lexer.step, hs] using clear_stepTag_afterAttributeName hl hs
  | beforeAttributeValue =>
    simpa only [Lexer.step, hs] using clear_stepTag_beforeAttributeValue hl hs (htext hs)
  | attributeValue k => simpa only [Lexer.step, hs] using clear_stepTag_attributeValue hl hs hc
  | _ =>
    have hout : l.state.inAttribute = false := by rw [hs]; rfl
    simp only [Lexer.step, hs]
    first
      | exact clear_stepText hl hout hc
      | exact clear_stepRaw hl hout
      | exact clear_stepTag_outside hl hout
      | exact clear_stepDeclaration inForeign hl hout
      | exact clear_stepComment hl hout
      | exact clear_stepCdata hl hout
      | exact clear_stepDoctype hl hout

end DocStream.Html

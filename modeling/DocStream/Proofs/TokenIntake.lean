import Mathlib
import Std.Tactic.Do
import DocStream.Html.Document
import DocStream.Proofs.TokenHandling

/-! Characters, and with them every token, taken into the tree. -/

namespace DocStream.Html
open Std.Do

set_option mvcgen.warning false

def Builder.AtHtml (b : Builder) : Prop := (b.elementName b.current).space = .html

/-- After a character: it is in the tree or left out, or still to come and handed on. Text is held
back in tables only, and how the text goes on does not change. -/
@[simp]
def Outcome.Took (spelt : Prop) (c : Char) (pending : List Char) (b : Builder) : Outcome → Prop
  | .again mode t =>
    t = .char c ∧ b.Clear spelt (c :: pending) Mode.Prompt ∧ (mode = .inTableText → b.AtHtml)
  | .done | .acknowledged => b.Clear spelt pending Mode.Prompt
  | .raw _ | .plaintext => False

structure Builder.Holds (spelt : Prop) (pending : List Char) (b : Builder) : Prop where
  clear :
    Builder.Clear spelt (b.tableText.reverse ++ pending) (· = .inTableText)
      { b with tableText := [] }
  html : b.AtHtml

def Builder.Settled (spelt : Prop) (pending : List Char) (b : Builder) : Prop :=
  b.Clear spelt pending Mode.Prompt ∨ b.Holds spelt pending

theorem SpellsNoMore.append_left {fewer pending : List Char} (h : SpellsNoMore fewer pending)
    (cs : List Char) : SpellsNoMore (cs ++ fewer) (cs ++ pending) := by
  rintro before ⟨more, hmore, hmark⟩
  obtain ⟨front, back, rfl, hfront, hback⟩ := List.sublist_append_iff.mp hmore
  rw [← List.append_assoc] at hmark
  obtain ⟨back', hback', hmark'⟩ := h (before ++ front) ⟨back, hback, hmark⟩
  exact ⟨front ++ back', hfront.append hback', by rwa [← List.append_assoc]⟩

theorem Builder.Settled.mono {spelt : Prop} {fewer pending : List Char} {b : Builder}
    (hb : b.Settled spelt pending) (hless : SpellsNoMore fewer pending) :
    b.Settled spelt fewer :=
  hb.imp (fun h => h.mono hless) fun h => ⟨h.clear.mono (hless.append_left _), h.html⟩

namespace Build
variable {spelt : Prop} {c : Char} {pending : List Char} {modes : Mode → Prop}

abbrev TakesIn (spelt : Prop) (c : Char) (pending : List Char) (m : Build Outcome) : Prop :=
  ⦃fun b => ⌜b.Clear spelt (c :: pending) Mode.Prompt⌝⦄ m ⦃⇓ o b => ⌜o.Took spelt c pending b⌝⦄

/-! ### Characters, mode by mode -/

theorem atHtml_of_isOneOf {b : Builder} {names : List String}
    (h : b.isOneOf names b.current = true) : b.AtHtml := by
  simp only [Builder.isOneOf, Bool.and_eq_true, decide_eq_true_eq] at h
  exact h.1

@[spec]
theorem takes_bodyChar (c : Char) :
    ⦃fun b => ⌜b.Clear spelt (c :: pending) modes⌝⦄ bodyChar c
    ⦃⇓ o b => ⌜b.Clear spelt pending modes ∧ o = .done⌝⦄ := by
  have hformat := @keeps_reconstructFormatting spelt (c :: pending) modes
  mvcgen [bodyChar, unexpected, hformat, -keeps_reconstructFormatting, -handles_unexpected] with
    exact Builder.Clear.tail ‹_›

@[spec]
theorem takes_misplaced (c : Char) :
    ⦃fun b => ⌜b.Clear spelt (c :: pending) modes⌝⦄ misplaced (.char c)
    ⦃⇓ o b => ⌜b.Clear spelt pending modes ∧ o = .done⌝⦄ := by
  mvcgen [misplaced, inBody, -handles_misplaced, -handles_inBody] with first
    | exact Builder.Clear.frame ‹_› rfl
    | exact ⟨Builder.Clear.frame (And.left ‹_›) rfl, And.right ‹_›⟩

@[spec]
theorem takes_inText (c : Char) : TakesIn spelt c pending (inText (.char c)) := by
  unfold inText
  mvcgen

theorem takes_inBody (c : Char) : TakesIn spelt c pending (inBody (.char c)) := by
  mvcgen [inBody, -handles_inBody] with simp_all

theorem takes_tableChar (c : Char) : TakesIn spelt c pending (tableChar c) := by
  have hfoster := @takes_misplaced spelt pending Mode.Prompt
  mvcgen [tableChar, isCurrentIn, fault, hfoster, -takes_misplaced, -keeps_isCurrentIn,
    -keeps_fault, -handles_misplaced]
  case vc1.isTrue b hb h _ =>
    exact ⟨rfl, { hb with returnMode := hb.mode }, fun _ => atHtml_of_isOneOf h⟩
  all_goals first
    | exact Builder.Clear.frame ‹_› rfl
    | simp_all

theorem takes_inSelect (c : Char) : TakesIn spelt c pending (inSelect (.char c)) := by
  unfold inSelect
  mvcgen [unexpected, -handles_unexpected] with exact Builder.Clear.tail ‹_›

theorem takes_inTemplate (c : Char) : TakesIn spelt c pending (inTemplate (.char c)) := by
  unfold inTemplate
  mvcgen with simp_all

theorem takes_inColumnGroup (c : Char) : TakesIn spelt c pending (inColumnGroup (.char c)) := by
  unfold inColumnGroup
  mvcgen [unexpected, isCurrent, pop, -handles_unexpected, -keeps_isCurrent, -keeps_pop] with first
    | exact Builder.Clear.tail ‹_›
    | exact ⟨rfl, Builder.Clear.frame ‹_› rfl, Mode.noConfusion⟩

theorem takes_afterBody (whole : Bool) (c : Char) :
    TakesIn spelt c pending (afterBody whole (.char c)) := by
  unfold afterBody
  mvcgen [fault, takes_inBody, -keeps_fault, -handles_inBody] with
    exact ⟨rfl, Builder.Clear.frame ‹_› rfl, Mode.noConfusion⟩

theorem takes_inMode {mode : Mode} (h : mode.Prompt) (c : Char) :
    TakesIn spelt c pending (inMode mode (.char c)) := by
  cases mode with
  | inTableText => exact absurd rfl h
  | text => exact takes_inText c
  | inBody | inCaption | inCell => exact takes_inBody c
  | inTable | inTableBody | inRow => exact takes_tableChar c
  | inSelect | inSelectInTable => exact takes_inSelect c
  | inColumnGroup => exact takes_inColumnGroup c
  | inTemplate => exact takes_inTemplate c
  | afterBody => exact takes_afterBody false c
  | afterAfterBody => exact takes_afterBody true c

/-! ### Foreign content -/

@[spec]
theorem handles_inMode {mode : Mode} {token : Token} (hm : mode.Prompt) (h : token.Clear) :
    Handles spelt pending token (inMode mode token) := by
  cases mode with
  | inTableText => exact absurd rfl hm
  | inBody => exact handles_inBody h
  | text => exact handles_inText h
  | inTable => exact handles_inTable h
  | inCaption => exact handles_inCaption h
  | inColumnGroup => exact handles_inColumnGroup h
  | inTableBody => exact handles_inTableBody h
  | inRow => exact handles_inRow h
  | inCell => exact handles_inCell h
  | inSelect => exact handles_inSelect h
  | inSelectInTable => exact handles_inSelectInTable h
  | inTemplate => exact handles_inTemplate h
  | afterBody => exact handles_afterBody false h
  | afterAfterBody => exact handles_afterBody true h

@[spec]
theorem handles_breakOut {token : Token} (h : token.Clear) :
    Handles spelt pending token (breakOut token) := by
  mvcgen [breakOut]
  case vc5.hm hb _ => exact hb.mode
  case vc7.post.success => exact Builder.Clear.frame ‹_› rfl

@[spec]
theorem handles_foreignEnd {tag : Tag} (h : tag.Clear) :
    Handles spelt pending (.endTag tag) (foreignEnd tag) := by
  mvcgen [foreignEnd] with first
    | exact fun _ _ => h
    | exact fun _ _ => Builder.Clear.mode ‹_›
    | exact Builder.Clear.mode ‹_›
    | exact ⟨Builder.Clear.frame ‹_› rfl, trivial⟩

@[spec]
theorem handles_inForeign {token : Token} (h : token.Clear) :
    Handles spelt pending token (inForeign token) := by
  cases token with
  | char c => cases h
  | _ =>
    unfold inForeign
    mvcgen with first
      | exact fun _ _ => h
      | exact asSvg_clear h
      | exact asMathml_clear h

theorem infix_of_not_mem {α : Type} {c : α} {word front back : List α} (hc : c ∉ word)
    (h : word <:+: front ++ c :: back) : word <:+: front ∨ word <:+: back := by
  obtain ⟨before, after, h⟩ := h
  rw [List.append_assoc] at h
  obtain ⟨mid, rfl, hmid⟩ | ⟨mid, rfl, hmid⟩ := List.append_eq_append_iff.mp h
  · obtain ⟨rest, rfl, -⟩ | ⟨rest, rfl, hrest⟩ := List.append_eq_append_iff.mp hmid
    · exact .inl ⟨before, rest, by rw [List.append_assoc]⟩
    · -- the word ends before `c`
      cases rest with
      | nil => exact .inl ⟨before, [], by simp⟩
      | cons d rest =>
        obtain ⟨rfl, -⟩ := List.cons.inj hrest
        exact absurd (List.mem_append_right mid List.mem_cons_self) hc
  · cases mid with
    | nil =>
      cases word with
      | nil => exact .inl (List.nil_infix)
      | cons d word =>
        obtain ⟨rfl, -⟩ := List.cons.inj hmid
        exact absurd List.mem_cons_self hc
    | cons d mid =>
      obtain ⟨-, rfl⟩ := List.cons.inj hmid
      exact .inr ⟨mid, after, List.append_assoc mid word after⟩

theorem spellsNoMore_cons {c : Char} (hc : c ∉ endMark) (pending : List Char) :
    SpellsNoMore (c :: pending) pending := by
  rintro cs ⟨more, hmore, hmark⟩
  obtain hless | ⟨later, rfl, hlater⟩ := List.sublist_cons_iff.mp hmore
  · exact ⟨more, hless, hmark⟩
  · obtain hmark | hmark := infix_of_not_mem hc hmark
    · exact ⟨[], List.nil_sublist pending, by simpa using hmark⟩
    · exact ⟨later, hlater, hmark.trans (List.suffix_append cs later).isInfix⟩

theorem takes_inForeign (c : Char) : TakesIn spelt c pending (inForeign (.char c)) := by
  unfold inForeign
  mvcgen [fault, -keeps_fault]
  rename_i b hb _
  have hless := spellsNoMore_cons (c := '\ufffd') (by decide) pending
  exact Builder.Clear.frame (hb.tail.mono hless) rfl

/-! ### Text held back in a table -/

theorem flushes_inTableText {token : Token} (h : token.Clear) :
    ⦃fun b => ⌜b.Holds spelt pending⌝⦄ inTableText token
    ⦃⇓ o b => ⌜b.Clear spelt pending (· = .inTableText) ∧
      ∃ mode, o = .again mode token ∧ mode.Prompt⌝⦄ := by
  -- the pieces of text in front of `pending`, as the loops find them
  have hinsert (c : Char) (cs : List Char) :
      ⦃fun b => ⌜b.Clear spelt (c :: cs ++ pending) (· = .inTableText)⌝⦄ insertChar c
      ⦃⇓ _ b => ⌜b.Clear spelt (cs ++ pending) (· = .inTableText)⌝⦄ := takes_insertChar c
  have hfoster (c : Char) (cs : List Char) :
      ⦃fun b => ⌜b.Clear spelt (c :: cs ++ pending) (· = .inTableText)⌝⦄ misplaced (.char c)
      ⦃⇓ o b => ⌜b.Clear spelt (cs ++ pending) (· = .inTableText) ∧ o = .done⌝⦄ :=
    takes_misplaced c
  unfold inTableText
  split
  · cases h
  · mvcgen [fault, hinsert, hfoster, -keeps_fault, -takes_insertChar, -takes_misplaced,
      -handles_misplaced] invariants
    · ⇓ r b => ⌜b.Clear spelt (r.1.suffix ++ pending) (· = .inTableText)⌝
    · ⇓ r b => ⌜b.Clear spelt (r.1.suffix ++ pending) (· = .inTableText)⌝
    with first
      | exact And.left ‹_›
      | exact Builder.Clear.frame (Builder.Holds.clear ‹_›) rfl
      | exact ⟨‹_›, _, rfl, (Builder.Holds.clear ‹_›).returnMode⟩

theorem holds_inTableText (c : Char) :
    ⦃fun b => ⌜b.Holds spelt (c :: pending)⌝⦄ inTableText (.char c)
    ⦃⇓ o b => ⌜b.Holds spelt pending ∧ o = .done⌝⦄ := by
  unfold inTableText
  mvcgen [unexpected, fault, -handles_unexpected, -keeps_fault]
  case vc1.isTrue b hb _ =>
    have hless := spellsNoMore_of_sublist (List.sublist_cons_self c pending)
    exact ⟨Builder.Clear.frame (hb.clear.mono (hless.append_left _)) rfl, hb.html⟩
  case vc2.isFalse b hb _ =>
    have hclear := hb.clear
    rw [List.append_cons, ← List.reverse_cons] at hclear
    exact ⟨hclear, hb.html⟩

/-! ### Whole tokens -/

theorem run_of_spec {α : Type} {m : Build α} {P : Builder → Prop} {Q : α → Builder → Prop}
    (h : ⦃fun b => ⌜P b⌝⦄ m ⦃⇓ a b => ⌜Q a b⌝⦄) {b : Builder} (hb : P b) :
    Q (m.run b).1 (m.run b).2 := h b hb

theorem isForeign_eq_false {b : Builder} (h : b.AtHtml) (token : Token) :
    isForeign b token = false := by
  simp only [Builder.AtHtml] at h
  simp [isForeign, h]

def dispatch (b : Builder) (token : Token) : Build Outcome :=
  if isForeign b token then inForeign token else inMode b.mode token

theorem run_settle_succ (token : Token) (fuel : Nat) (b : Builder) :
    (settle token (fuel + 1)).run b =
      match (dispatch b token).run b with
      | (.done, b') =>
        (none, if isSelfClosing token then ((fault .unacknowledgedSelfClosing).run b').2 else b')
      | (.acknowledged, b') => (none, b')
      | (.again mode token, b') => (settle token fuel).run { b' with mode := mode }
      | (.raw kind, b') => (some (.raw kind), b')
      | (.plaintext, b') => (some .plaintext, b') := by
  rw [settle, StateT.run_bind, StateT.run_get, pure_bind]
  unfold dispatch
  by_cases hf : isForeign b token = true
  all_goals
    simp only [hf, Bool.false_eq_true, if_true, if_false, StateT.run_bind]
    generalize StateT.run _ b = r
    obtain ⟨o, b'⟩ := r
    cases o with
    | done =>
      change StateT.run (if isSelfClosing token then _ else _) b' = _
      split <;> rfl
    | _ => rfl

theorem handles_dispatch {token : Token} (h : token.Clear) {b : Builder}
    (hb : b.Clear spelt pending Mode.Prompt) :
    Handles spelt pending token (dispatch b token) := by
  unfold dispatch
  split
  · exact handles_inForeign h
  · exact handles_inMode hb.mode h

theorem takes_dispatch (c : Char) {b : Builder} (hb : b.Clear spelt (c :: pending) Mode.Prompt) :
    TakesIn spelt c pending (dispatch b (.char c)) := by
  unfold dispatch
  split
  · exact takes_inForeign c
  · exact takes_inMode hb.mode c

theorem dispatch_holding {b : Builder} (hb : b.Holds spelt pending) (token : Token) :
    dispatch b token = inTableText token := by
  have hmode : b.mode = .inTableText := hb.clear.mode
  rw [dispatch, isForeign_eq_false hb.html, hmode]
  rfl

theorem clear_settle {token : Token} (h : token.Clear) (fuel : Nat) {b : Builder}
    (hb : b.Clear spelt pending Mode.Prompt) :
    ((settle token fuel).run b).2.Clear spelt pending Mode.Prompt := by
  induction fuel generalizing b with
  | zero => exact hb
  | succ fuel ih =>
    have hd := run_of_spec (handles_dispatch h hb) hb
    rw [run_settle_succ]
    generalize (dispatch b token).run b = r at hd ⊢
    obtain ⟨o, b'⟩ := r
    obtain ⟨hb', ho⟩ := hd
    cases o with
    | done =>
      simp only
      split
      · exact hb'.frame rfl
      · exact hb'
    | again mode t =>
      obtain ⟨rfl, hmode⟩ := ho
      exact ih { hb' with mode := hmode }
    | _ => exact hb'

theorem settled_settle {token : Token} (h : token.Clear) (fuel : Nat) {b : Builder}
    (hb : b.Settled spelt pending) : ((settle token fuel).run b).2.Settled spelt pending := by
  obtain hb | hb := hb
  · exact .inl (clear_settle h fuel hb)
  · cases fuel with
    | zero => exact .inr hb
    | succ fuel =>
      have hd := run_of_spec (flushes_inTableText h) hb
      rw [run_settle_succ, dispatch_holding hb]
      generalize (inTableText token).run b = r at hd ⊢
      obtain ⟨o, b'⟩ := r
      obtain ⟨hb', mode, rfl, hmode⟩ := hd
      exact .inl (clear_settle h fuel { hb' with mode := hmode })

theorem settled_settle_char (c : Char) (fuel : Nat) {b : Builder}
    (hb : b.Settled spelt (c :: pending)) :
    ((settle (.char c) fuel).run b).2.Settled spelt pending ∧
      ((settle (.char c) fuel).run b).1 = none := by
  induction fuel generalizing b with
  | zero => exact ⟨hb.mono (spellsNoMore_of_sublist (List.sublist_cons_self c pending)), rfl⟩
  | succ fuel ih =>
    rw [run_settle_succ]
    obtain hb | hb := hb
    · have hd := run_of_spec (takes_dispatch c hb) hb
      generalize (dispatch b (.char c)).run b = r at hd ⊢
      obtain ⟨o, b'⟩ := r
      cases o with
      | done => exact ⟨.inl hd, rfl⟩
      | acknowledged => exact ⟨.inl hd, rfl⟩
      | raw kind => exact hd.elim
      | plaintext => exact hd.elim
      | again mode t =>
        obtain ⟨rfl, hb', hmode⟩ := hd
        refine ih ?_
        by_cases hm : mode = .inTableText
        · have hheld : b'.tableText = [] := hb'.tableText
          refine .inr ⟨?_, hmode hm⟩
          simp only [hheld, List.reverse_nil, List.nil_append]
          exact { hb' with mode := hm, tableText := rfl }
        · exact .inl { hb' with mode := hm }
    · have hd := run_of_spec (holds_inTableText c) hb
      rw [dispatch_holding hb]
      generalize (inTableText (.char c)).run b = r at hd ⊢
      obtain ⟨o, b'⟩ := r
      obtain ⟨hb', rfl⟩ := hd
      exact ⟨.inr hb', rfl⟩

theorem settled_frame {b b' : Builder} (hb : b.Settled spelt pending)
    (h : b' = { b with skipNewline := b'.skipNewline, faults := b'.faults }) :
    b'.Settled spelt pending := by
  rw [h]
  exact hb.imp (fun h => h.frame rfl) fun h => ⟨h.clear.frame rfl, h.html⟩

end Build

def Token.plain : Token → List Char
  | .char c => [c]
  | .startTag _ | .endTag _ | .comment | .doctype | .fault _ | .finish => []

def Token.Sound : Token → Prop
  | .startTag tag | .endTag tag => tag.Clear
  | .char _ | .comment | .doctype | .fault _ | .finish => True

def Token.Steady : Token → Prop
  | .char _ | .fault _ => True
  | .startTag _ | .endTag _ | .comment | .doctype | .finish => False

section
variable {spelt : Prop} {pending : List Char} {b : Builder}
open Build

theorem settled_accept_token {t : Token} (h : t.Sound)
    (hb : b.Settled spelt (t.plain ++ pending)) :
    ((Build.accept t).run b).2.Settled spelt pending ∧
      (t.Steady → ((Build.accept t).run b).1 = none) := by
  have hb' : Builder.Settled spelt (t.plain ++ pending) { b with skipNewline := false } :=
    settled_frame hb rfl
  have hclear (h : t.Clear) (fuel : Nat) := settled_settle h fuel hb'
  cases t <;>
    simp only [Build.accept, StateT.run_bind, StateT.run_get, StateT.run_set, pure_bind]
  case char c =>
    split
    · exact ⟨hb'.mono (spellsNoMore_of_sublist (List.sublist_cons_self c pending)), fun _ => rfl⟩
    · have hchar := settled_settle_char c (8 * (b.opened.length + 2)) hb'
      exact ⟨hchar.1, fun _ => hchar.2⟩
  case fault f => exact ⟨settled_frame hb' rfl, fun _ => rfl⟩
  case doctype => exact ⟨settled_frame hb' rfl, False.elim⟩
  case comment | finish => exact ⟨hclear trivial _, False.elim⟩
  case startTag | endTag => exact ⟨hclear h _, False.elim⟩

theorem settled_accept {ts : List Token} (h : ∀ t ∈ ts, t.Sound)
    (hb : b.Settled spelt (ts.flatMap Token.plain ++ pending)) :
    (b.accept ts).2.Settled spelt pending ∧
      ((∀ t ∈ ts, t.Steady) → (b.accept ts).1 = none) := by
  fun_induction Builder.accept b ts with
  | case1 => exact ⟨hb, fun _ => rfl⟩
  | case2 b t =>
    rw [List.flatMap_cons, List.flatMap_nil, List.append_nil] at hb
    have haccept := settled_accept_token (h t List.mem_cons_self) hb
    exact ⟨haccept.1, fun hsteady => haccept.2 (hsteady t List.mem_cons_self)⟩
  | case3 b t ts _ ih =>
    obtain ⟨ht, hts⟩ := List.forall_mem_cons.mp h
    rw [List.flatMap_cons, List.append_assoc] at hb
    have haccept := ih hts (settled_accept_token ht hb).1
    exact ⟨haccept.1, fun hsteady => haccept.2 (List.forall_mem_cons.mp hsteady).2⟩

end

end DocStream.Html

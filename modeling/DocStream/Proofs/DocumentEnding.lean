import DocStream.Proofs.LexedEnding

/-! A document read to its end. Its text is read as if nothing stood behind it, and leads to a lexer
and a tree with whatever it left open. From there the tags that end the document are read; where no
content is left open that swallows them, they bring nothing to the tree that shows the end mark. -/

namespace DocStream.Html

/-- How far a text leads: to a lexer and a tree, with the steps that are left and the characters
that were found to be plain. -/
structure Reading where
  steps : Nat
  lexer : Lexer
  builder : Builder
  plain : List Char

def readOn : (steps : Nat) → Lexer → Builder → List Char → Reading
  | 0, l, b, _ => ⟨0, l, b, []⟩
  | steps + 1, l, b, [] => ⟨steps + 1, l, b, []⟩
  | steps + 1, l, b, c :: rest =>
    let s := l.step b.inForeign c rest
    let (next, b) := b.accept s.tokens
    let r := readOn steps (s.lexer.switch next) b s.rest
    { r with plain := s.tokens.flatMap Token.plain ++ r.plain }

variable {spelt : Prop} {pending : List Char} {l : Lexer} {b : Builder}

theorem eq_of_replaceNul {c x : Char} (hx : x ≠ '\ufffd') (h : replaceNul c = x) : c = x := by
  unfold replaceNul at h
  split at h
  · exact absurd h.symm hx
  · exact h

/-! ### Within the text -/

theorem clear_switch {before : List Char} {s : Step} (hs : s.Clear before)
    {next : Option Build.Switch} (hnext : (∀ t ∈ s.tokens, t.Steady) → next = none) :
    (s.lexer.switch next).Clear s.rest := by
  -- only a tag changes how the text goes on, and behind it no attribute is open
  by_cases hopen : s.lexer.state.inAttribute = true
  · rw [hnext (hs.steady hopen)]
    exact hs.lexer
  · have hout : s.lexer.state.inAttribute = false := Bool.eq_false_iff.mpr hopen
    cases next with
    | none => exact hs.lexer
    | some next =>
      cases next
      all_goals exact hs.lexer.outside hout rfl (fun _ => id) rfl rfl

structure Unmarked (cs : List Char) : Prop where
  noReference : '&' ∉ cs
  noMark : ¬ endMark <:+: cs.map replaceNul

theorem Unmarked.suffix {cs ds : List Char} (h : Unmarked cs) (hsuf : ds <:+ cs) : Unmarked ds :=
  ⟨fun hamp => h.noReference (hsuf.subset hamp),
    fun hmark => h.noMark (hmark.trans (hsuf.map replaceNul).isInfix)⟩

theorem readOn_spec (steps : Nat) {cs : List Char} (hcs : Unmarked cs) (hl : l.Clear cs)
    (hb : b.Settled spelt ((readOn steps l b cs).plain ++ pending)) (later : List Char) :
    (readOn steps l b cs).builder.Settled spelt pending ∧
      ((readOn steps l b cs).steps = 0 ∨ (readOn steps l b cs).lexer.Clear []) ∧
      run steps l b (cs ++ '<' :: later) =
        run (readOn steps l b cs).steps (readOn steps l b cs).lexer
          (readOn steps l b cs).builder ('<' :: later) := by
  induction steps generalizing l b cs with
  | zero => exact ⟨hb, .inl rfl, rfl⟩
  | succ steps ih =>
    cases cs with
    | nil => exact ⟨hb, .inr hl, rfl⟩
    | cons c rest =>
      have hc : c ≠ '&' := fun h => hcs.noReference (h ▸ List.mem_cons_self)
      have hstep := clear_step b.inForeign hl hc fun _ => hcs.noMark
      -- the characters of this step come first among those to come, so the tree may take them in
      simp only [readOn] at hb ⊢
      rw [List.append_assoc] at hb
      obtain ⟨hb', hnext⟩ := settled_accept hstep.tokens hb
      have hmore := ih (hcs.suffix hstep.rest) (clear_switch hstep hnext) hb'
      rw [List.cons_append, run, step_append b.inForeign hc]
      exact hmore

/-! ### The end of the document -/

theorem spellsNoMore_of_quiet {cs : List Char} (hy : 'y' ∉ cs) : SpellsNoMore cs [] := by
  rintro text ⟨more, hmore, before, after, hmark⟩
  have hy' : 'y' ∉ more := fun h => hy (hmore.subset h)
  have hlast : before ++ "</bod".toList ++ 'y' :: after = text ++ more := by
    rw [← hmark]
    simp [endMark]
  refine ⟨[], List.Sublist.refl [], ?_⟩
  rw [List.append_nil]
  obtain ⟨rest, rfl, hrest⟩ | ⟨rest, -, rfl⟩ := List.append_eq_append_iff.mp hlast
  · cases rest with
    | nil => exact absurd (List.mem_of_mem_head? (by rw [← List.nil_append more, ← hrest]; rfl)) hy'
    | cons c rest =>
      obtain ⟨rfl, -⟩ := List.cons.inj hrest
      exact ⟨before, rest, by simp [endMark]⟩
  · exact absurd (List.mem_append_right rest List.mem_cons_self) hy'

theorem settled_accept_quiet {ts : List Token} (hsound : ∀ t ∈ ts, t.Sound)
    (hy : ∀ t ∈ ts, 'y' ∉ t.plain) (hb : b.Settled spelt []) :
    (b.accept ts).2.Settled spelt [] ∧
      ((∀ t ∈ ts, t.Steady) → (b.accept ts).1 = none) := by
  have hplain : 'y' ∉ ts.flatMap Token.plain := by
    rw [List.mem_flatMap]
    rintro ⟨t, ht, hmem⟩
    exact hy t ht hmem
  refine settled_accept hsound (hb.mono ?_)
  rw [List.append_nil]
  exact spellsNoMore_of_quiet hplain

theorem quiet_switch (hl : l.Quiet) (next : Option Build.Switch) : (l.switch next).Quiet := by
  cases next with
  | none => exact hl
  | some next =>
    cases next
    all_goals trivial

theorem not_endMark_of_quiet {cs : List Char} (hy : 'y' ∉ cs) :
    ¬ endMark <:+: cs.map replaceNul := by
  intro hmark
  obtain ⟨c, hc, hrep⟩ := List.mem_map.mp (hmark.subset (by decide : 'y' ∈ endMark))
  exact hy (eq_of_replaceNul (by decide) hrep ▸ hc)

theorem settled_run_quiet (steps : Nat) {cs : List Char} (hy : 'y' ∉ cs) (hamp : '&' ∉ cs)
    (hquiet : l.Quiet) (hl : l.Clear cs) (hb : b.Settled spelt []) :
    (run steps l b cs).Settled spelt [] := by
  induction steps generalizing l b cs with
  | zero => exact hb
  | succ steps ih =>
    cases cs with
    | nil => exact (settled_accept_quiet sound_finish (quiet_finish hquiet) hb).1
    | cons c rest =>
      have hc : c ≠ 'y' := fun h => hy (h ▸ List.mem_cons_self)
      have hc' : c ≠ '&' := fun h => hamp (h ▸ List.mem_cons_self)
      have hstep := clear_step b.inForeign hl hc' fun _ => not_endMark_of_quiet hy
      have hquiet' : (l.step b.inForeign c rest).Quiet :=
        quiet_step b.inForeign hc hc' hquiet
      obtain ⟨hb', hnext⟩ := settled_accept_quiet hstep.tokens hquiet'.tokens hb
      exact ih (fun h => hy (hstep.rest.subset h)) (fun h => hamp (hstep.rest.subset h))
        (quiet_switch hquiet'.lexer _) (clear_switch hstep hnext) hb'

theorem settled_run_passes (steps : Nat) {e later : List Char} (he : e <:+ endMark)
    (hpass : ∀ c ∈ e.head?, l.state.passes c = true) (hs : l.state.swallows = false)
    (hy : 'y' ∉ later) (hamp : '&' ∉ later) (hl : l.Clear (e ++ later))
    (hb : b.Settled spelt []) : (run steps l b (e ++ later)).Settled spelt [] := by
  induction steps generalizing l b e with
  | zero => exact hb
  | succ steps ih =>
    cases e with
    | nil => exact settled_run_quiet _ hy hamp (quiet_of_swallows hs) hl hb
    | cons c e =>
      -- the mark may be looked at again, so what is left of it is the step's to say
      have hc : c ≠ '&' := by
        rintro rfl
        exact absurd (he.subset List.mem_cons_self) (by decide)
      have hpasses := passes_step b.inForeign he (hpass c rfl) later
      have hvalue : l.state ≠ .beforeAttributeValue := by
        intro h
        rw [h] at hs
        cases hs
      have hstep : (l.step b.inForeign c (e ++ later)).Clear (c :: e ++ later) :=
        clear_step b.inForeign hl hc fun h => absurd h hvalue
      obtain ⟨hb', hnext⟩ :=
        settled_accept_quiet hstep.tokens (fun t ht => (hpasses.tokens t ht).2) hb
      obtain ⟨e', he', hrest, hpass'⟩ := hpasses.rest
      have hlexer := hstep.lexer
      rw [hrest] at hlexer
      rw [List.cons_append, run]
      simp only [hnext fun t ht => (hpasses.tokens t ht).1, Lexer.switch, hrest]
      exact ih he' hpass' hpasses.state hlexer hb'

theorem Lexer.Clear.extend {later : List Char} (hl : l.Clear []) (hs : l.state.swallows = false)
    (hquote : '"' ∉ later ∧ '\x27' ∉ later) : l.Clear later := by
  refine ⟨hl.stored, hl.name, hl.unnamed, ?_⟩
  have hvalue := hl.value
  cases h : l.state with
  | attributeValue k =>
    have hk : k ≠ .unquoted := by
      rintro rfl
      rw [h] at hs
      cases hs
    simp only [Lexer.ValueClear, h] at hvalue ⊢
    exact ⟨hvalue.1, .inl ⟨hk, hquote⟩⟩
  | _ => simpa only [Lexer.ValueClear, h] using hvalue

/-! ### Line ends -/

theorem unifyLineEnds_append (cs later : List Char) :
    unifyLineEnds (cs ++ '<' :: later) = unifyLineEnds cs ++ unifyLineEnds ('<' :: later) := by
  fun_induction unifyLineEnds cs with
  | case1 => rfl
  | case2 cs ih => rw [List.cons_append, List.cons_append, unifyLineEnds, ih, List.cons_append]
  | case3 cs hcs ih =>
    have hnext : ∀ ds, cs ++ '<' :: later = '\n' :: ds → False := by
      cases cs with
      | nil => simp
      | cons c cs =>
        rintro ds h
        exact hcs cs (by rw [(List.cons.inj h).1])
    rw [List.cons_append, unifyLineEnds.eq_3 _ hnext, ih, List.cons_append]
  | case4 c cs h₁ h₂ ih =>
    have hc : c = '\r' → False := by grind
    rw [List.cons_append, unifyLineEnds.eq_4 _ _ (fun _ h => (hc h).elim) hc, ih,
      List.cons_append]

theorem mem_of_mem_unifyLineEnds {c : Char} (hc : c ≠ '\n') {cs : List Char}
    (h : c ∈ unifyLineEnds cs) : c ∈ cs := by
  fun_induction unifyLineEnds cs <;> grind

theorem eq_nil_of_line_end {word cs : List Char} (hline : '\n' ∉ word)
    (h : word <+: ('\n' :: cs).map replaceNul) : word = [] := by
  cases word with
  | nil => rfl
  | cons w word =>
    rw [List.map_cons, List.cons_prefix_cons] at h
    exact absurd (h.1 ▸ List.mem_cons_self) hline

theorem prefix_of_unified {word cs : List Char} (hline : '\n' ∉ word) (hnul : '\ufffd' ∉ word)
    (h : word <+: (unifyLineEnds cs).map replaceNul) : word <+: cs := by
  fun_induction unifyLineEnds cs generalizing word with
  | case1 => simpa using h
  | case2 cs ih | case3 cs hcs ih =>
    rw [eq_nil_of_line_end hline h]
    exact List.nil_prefix
  | case4 c cs h₁ h₂ ih =>
    cases word with
    | nil => exact List.nil_prefix
    | cons w word =>
      rw [List.map_cons, List.cons_prefix_cons] at h
      obtain rfl : c = w := eq_of_replaceNul (fun hw => hnul (hw ▸ List.mem_cons_self)) h.1.symm
      exact List.cons_prefix_cons.mpr ⟨rfl, ih (List.not_mem_of_not_mem_cons hline)
        (List.not_mem_of_not_mem_cons hnul) h.2⟩

theorem infix_of_unified {word cs : List Char} (hline : '\n' ∉ word) (hnul : '\ufffd' ∉ word)
    (h : word <:+: (unifyLineEnds cs).map replaceNul) : word <:+: cs := by
  fun_induction unifyLineEnds cs with
  | case1 => exact h
  | case2 cs ih =>
    obtain h | h := List.infix_cons_iff.mp h
    · rw [eq_nil_of_line_end hline h]
      exact List.nil_infix
    · exact List.infix_cons (List.infix_cons (ih h))
  | case3 cs hcs ih =>
    obtain h | h := List.infix_cons_iff.mp h
    · rw [eq_nil_of_line_end hline h]
      exact List.nil_infix
    · exact List.infix_cons (ih h)
  | case4 c cs h₁ h₂ ih =>
    obtain h | h := List.infix_cons_iff.mp h
    · have hprefix : word <+: (unifyLineEnds (c :: cs)).map replaceNul := by
        rwa [unifyLineEnds.eq_4 _ _ h₁ h₂, List.map_cons]
      exact (prefix_of_unified hline hnul hprefix).isInfix
    · exact List.infix_cons (ih h)

/-! ### Documents -/

theorem clear_of_settled (hb : b.Settled spelt []) (i : Nat) :
    (b.node i).content.Clear spelt [] := by
  obtain hb | hb := hb
  · exact hb.node i
  · have hclear := hb.clear.node i
    exact hclear.mono (spellsNoMore_of_sublist (List.nil_sublist _))

def Document.textOf (text : String) : Reading :=
  readOn (4 * (unifyLineEnds (text ++ ending).toList).length + 1) {} Builder.initial
    (unifyLineEnds text.toList)

theorem unmarked_unifyLineEnds {cs : List Char} (hamp : '&' ∉ cs) (hmark : ¬ endMark <:+: cs) :
    Unmarked (unifyLineEnds cs) :=
  ⟨fun h => hamp (mem_of_mem_unifyLineEnds (by decide) h),
    fun h => hmark (infix_of_unified (by decide) (by decide) h)⟩

theorem clear_initial (cs : List Char) : Lexer.Clear {} cs :=
  ⟨nofun, nofun, fun _ => rfl, not_endMark_nil⟩

/-- A text of the tree shows the end mark, if with text behind it that a table holds back. -/
def Builder.Shows (b : Builder) : Prop :=
  Spells [] b.tableText.reverse ∨
    ∃ n ∈ b.nodes, ∃ s, n.content = .text s ∧ Spells s.toList b.tableText.reverse

theorem Builder.Settled.of_shows (hb : b.Settled spelt []) (h : b.Shows) : spelt := by
  have hshown : (Spells [] b.tableText.reverse → spelt) ∧
      ∀ n ∈ b.nodes, n.content.Clear spelt b.tableText.reverse := by
    obtain hb | hb := hb
    · rw [hb.tableText]
      exact ⟨hb.coming, hb.nodes⟩
    · have hclear := hb.clear
      rw [List.append_nil] at hclear
      exact ⟨hclear.coming, hclear.nodes⟩
  obtain h | ⟨n, hn, s, hs, h⟩ := h
  · exact hshown.1 h
  · have htext := hshown.2 n hn
    rw [hs] at htext
    exact htext h

theorem Content.Clear.grant {spelt' : Prop} {content : Content} (h : content.Clear spelt pending)
    (hshown : ∀ s, content = .text s → Spells s.toList pending → spelt') :
    content.Clear spelt' pending := by
  cases content with
  | text s => exact hshown s rfl
  | _ => exact h

/-- What shows now is all that may show later, if nothing more is to come. -/
theorem Builder.Settled.shows (hb : b.Settled spelt []) : b.Settled b.Shows [] := by
  obtain hb | hb := hb
  · have hnone : b.tableText.reverse = [] := by rw [hb.tableText]; rfl
    refine .inl { hb with coming := fun h => .inl (hnone ▸ h), nodes := fun n hn => ?_ }
    exact (hb.nodes n hn).grant fun s hs h => .inr ⟨n, hn, s, hs, hnone ▸ h⟩
  · have hheld : b.tableText.reverse ++ [] = b.tableText.reverse := List.append_nil _
    have hclear := hb.clear
    refine .inr ⟨{ hclear with
      coming := fun h => .inl (hheld ▸ h)
      nodes := fun n hn => ?_ }, hb.html⟩
    exact (hclear.nodes n hn).grant fun s hs h => .inr ⟨n, hn, s, hs, hheld ▸ h⟩

theorem settled_initial (h : Spells [] pending → spelt) :
    Builder.initial.Settled spelt pending :=
  .inl ⟨h, by simp [Builder.initial, Content.Clear], nofun, rfl, nofun, nofun, nofun⟩

/-- A text that leaves no content open keeps the end of the document out of the tree: what shows in
the end shows where the text ends, and spells the mark with characters of the text. -/
theorem settled_ofBody {text : String} (hamp : '&' ∉ text.toList)
    (hmark : ¬ endMark <:+: text.toList)
    (hopen : (Document.textOf text).lexer.state.swallows = false) :
    ((Document.textOf text).builder.Shows → endMark.Sublist (Document.textOf text).plain) ∧
      ∃ b : Builder, b.Settled (Document.textOf text).builder.Shows [] ∧
        (Document.ofBody text).body = b.body := by
  have hcs : unifyLineEnds (text ++ Document.ending).toList =
      unifyLineEnds text.toList ++ '<' :: "/body></html>".toList := by
    rw [String.toList_append]
    exact unifyLineEnds_append text.toList _
  have hplain : Spells [] ((Document.textOf text).plain ++ []) →
      endMark.Sublist (Document.textOf text).plain := by
    rintro ⟨more, hmore, hshown⟩
    rw [List.append_nil] at hmore
    exact hshown.sublist.trans hmore
  obtain ⟨hb, hsteps, hrun⟩ := readOn_spec
    (4 * (unifyLineEnds (text ++ Document.ending).toList).length + 1)
    (unmarked_unifyLineEnds hamp hmark) (clear_initial _) (settled_initial hplain)
    "/body></html>".toList
  rw [← hcs] at hrun
  refine ⟨hb.of_shows, _, ?_, rfl⟩
  rw [hrun]
  obtain hnone | hl := hsteps
  · -- no steps are left for the end
    rw [hnone]
    exact hb.shows
  · have hpass : ∀ c ∈ endMark.head?, (Document.textOf text).lexer.state.passes c = true := by
      rintro c hc
      obtain rfl : '<' = c := Option.some.inj hc
      exact passes_of_swallows hopen
    exact settled_run_passes _ (List.suffix_refl endMark) hpass hopen (by decide) (by decide)
      (hl.extend hopen (by decide)) hb.shows

end DocStream.Html

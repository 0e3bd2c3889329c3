import DocStream.Proofs.BlockTree

/-! The blocks of a document in the order in which they are walked, each with the way up to the top.
A walk completes with the flattened image of what it walked if it accepts every block; otherwise it
stops at the first block it does not accept, having emitted exactly what stands ahead of that
block. -/

namespace DocStream

/-- A block on the way down to another, and the blocks before it on its level. -/
structure Rung where
  elders : List Block
  kind : BlockKind

/-- A block as the walk meets it, with the blocks around it, innermost first. -/
structure Visit extends Rung where
  above : List Rung

def underList : List Rung → Bool
  | [] => false
  | r :: _ => r.kind.isList

namespace Visit

def depth (v : Visit) : Nat := v.above.length + 1

mutual

def ofBlock (above : List Rung) (elders : List Block) : Block → List Visit
  | .mk kind children =>
    ⟨⟨elders, kind⟩, above⟩ :: ofBlocks (⟨elders, kind⟩ :: above) [] children

def ofBlocks (above : List Rung) (elders : List Block) : List Block → List Visit
  | [] => []
  | b :: bs => ofBlock above elders b ++ ofBlocks above (elders ++ [b]) bs

end

def opened (v : Visit) : Failure → List Event
  | .fragment _ => Walker.ownOpenings (underList v.above) v.kind
  | .nestingTooDeep .. => []

end Visit

def Document.visits (d : Document) : List Visit := Visit.ofBlocks [] [] d.blocks

namespace Walker

def failureAt (w : Walker) (v : Visit) : Option Failure :=
  if w.maxDepth < v.depth then some (.nestingTooDeep v.depth w.maxDepth)
  else w.textRefusal (underList v.above) v.kind

def FailsFirst (w : Walker) (vs : List Visit) (v : Visit) (f : Failure) : Prop :=
  ∃ before after, vs = before ++ v :: after ∧ (∀ u ∈ before, w.failureAt u = none) ∧
    w.failureAt v = some f

theorem FailsFirst.append {w : Walker} {vs : List Visit} {v : Visit} {f : Failure}
    (h : w.FailsFirst vs v f) (us : List Visit) : w.FailsFirst (vs ++ us) v f := by
  obtain ⟨before, after, rfl, hbefore, hv⟩ := h
  exact ⟨before, after ++ us, by simp, hbefore, hv⟩

theorem FailsFirst.prepend {w : Walker} {vs us : List Visit} {v : Visit} {f : Failure}
    (h : w.FailsFirst vs v f) (hus : ∀ u ∈ us, w.failureAt u = none) :
    w.FailsFirst (us ++ vs) v f := by
  obtain ⟨before, after, rfl, hbefore, hv⟩ := h
  refine ⟨us ++ before, after, by simp, fun u hu => ?_, hv⟩
  exact (List.mem_append.1 hu).elim (hus u) (hbefore u)

/-- What is emitted on the way down into a block, up to its first child. -/
def entered (w : Walker) : List Rung → List Event
  | [] => []
  | r :: above =>
    w.entered above ++ Tree.flattenAll (w.blocksTrees (underList above) r.elders) ++
      w.leadIn (underList above) r.kind

def arrival (w : Walker) (above : List Rung) (elders : List Block) : List Event :=
  w.entered above ++ Tree.flattenAll (w.blocksTrees (underList above) elders)

theorem arrival_append (w : Walker) (above : List Rung) (as bs : List Block) :
    w.arrival above (as ++ bs) =
      w.arrival above as ++ Tree.flattenAll (w.blocksTrees (underList above) bs) := by
  simp only [arrival, blocksTrees_append, Tree.flattenAll_append, List.append_assoc]

theorem arrival_below (w : Walker) (r : Rung) (above : List Rung) :
    w.arrival (r :: above) [] = w.arrival above r.elders ++ w.leadIn (underList above) r.kind := by
  simp [arrival, entered, blocksTrees]

/-- What a walk over some visits emits, given what was emitted before and the image of what it
walks. -/
inductive Outcome (w : Walker) (start : List Event) (vs : List Visit) (ts : List Tree) :
    Emission → Prop where
  | completes (hvs : ∀ v ∈ vs, w.failureAt v = none) :
    Outcome w start vs ts (.done (Tree.flattenAll ts))
  | aborts {v : Visit} {f : Failure} {es : List Event} (hv : w.FailsFirst vs v f)
      (hdepth : v.above.length ≤ w.maxDepth)
      (hes : start ++ es = w.arrival v.above v.elders ++ v.opened f) :
    Outcome w start vs ts ((Emission.fail f).onto es)

theorem Outcome.andThen {w : Walker} {start : List Event} {vs us : List Visit}
    {ts rs : List Tree} {a b : Emission} (ha : w.Outcome start vs ts a)
    (hb : w.Outcome (start ++ Tree.flattenAll ts) us rs b) :
    w.Outcome start (vs ++ us) (ts ++ rs) (a.andThen fun _ => b) := by
  cases ha with
  | aborts hv hdepth hes =>
    rw [Emission.onto_andThen, Emission.fail_andThen]
    exact .aborts (hv.append us) hdepth hes
  | completes hvs =>
    rw [Emission.done_andThen]
    cases hb with
    | completes hus =>
      rw [Emission.onto_done, ← Tree.flattenAll_append]
      exact .completes fun v hv => (List.mem_append.1 hv).elim (hvs v) (hus v)
    | aborts hv hdepth hes =>
      rw [Emission.onto_onto]
      exact .aborts (hv.prepend hvs) hdepth (by rw [← List.append_assoc, hes])

theorem Outcome.enclose {w : Walker} {inList : Bool} {kind : BlockKind} {here : Visit}
    {start : List Event} {vs : List Visit} {ts : List Tree} {e : Emission}
    (hhere : w.failureAt here = none)
    (h : w.Outcome (start ++ w.leadIn inList kind) vs ts e) :
    w.Outcome start (here :: vs) (w.shell inList kind ts)
      ((e.andThen fun _ => .done (leadOut inList kind)).onto (w.leadIn inList kind)) := by
  have hmem : ∀ v ∈ [here], w.failureAt v = none := by simpa using hhere
  cases h with
  | completes hvs =>
    rw [Emission.done_andThen, Emission.onto_done, Emission.onto_done, ← List.append_assoc,
      ← flattenAll_shell]
    exact .completes fun v hv => (List.mem_append.1 hv).elim (hmem v) (hvs v)
  | aborts hv hdepth hes =>
    rw [Emission.onto_andThen, Emission.fail_andThen, Emission.onto_onto]
    exact .aborts (hv.prepend hmem) hdepth (by rw [← List.append_assoc, hes])

theorem failureAt_of_deep (w : Walker) {v : Visit} (h : w.maxDepth < v.depth) :
    w.failureAt v = some (.nestingTooDeep v.depth w.maxDepth) := if_pos h

theorem failureAt_of_le (w : Walker) {v : Visit} (h : v.depth ≤ w.maxDepth) :
    w.failureAt v = w.textRefusal (underList v.above) v.kind := if_neg (Nat.not_lt.2 h)

theorem opened_of_textRefusal (w : Walker) {v : Visit} {f : Failure}
    (h : w.textRefusal (underList v.above) v.kind = some f) :
    v.opened f = ownOpenings (underList v.above) v.kind := by
  obtain ⟨e, rfl⟩ := eq_fragment_of_textRefusal h
  rfl

theorem block_of_deep (w : Walker) {depth : Nat} (h : w.maxDepth < depth) (inList : Bool)
    (b : Block) : w.block depth inList b = .fail (.nestingTooDeep depth w.maxDepth) := by
  obtain ⟨kind, children⟩ := b
  unfold block
  rw [w.enter_of_lt h, Emission.fail_andThen]

mutual

theorem block_outcome (w : Walker) (above : List Rung) (elders : List Block)
    (hd : above.length ≤ w.maxDepth) :
    ∀ b : Block, w.Outcome (w.arrival above elders) (Visit.ofBlock above elders b)
      (w.blockTrees (underList above) b) (w.block (above.length + 1) (underList above) b)
  | .mk kind children => by
    -- In document order: the depth of the block, its text, and only then its children, for which
    -- `arrival` has moved on by what the block emits ahead of them.
    let here : Visit := ⟨⟨elders, kind⟩, above⟩
    have hfirst {f : Failure} (hf : w.failureAt here = some f) :
        w.FailsFirst (Visit.ofBlock above elders (.mk kind children)) here f :=
      ⟨[], _, rfl, by simp, hf⟩
    rcases Nat.lt_or_ge w.maxDepth (above.length + 1) with hdeep | hdeep
    · rw [w.block_of_deep hdeep]
      exact .aborts (hfirst (w.failureAt_of_deep hdeep)) hd rfl
    have hfail : w.failureAt here = w.textRefusal (underList above) kind :=
      w.failureAt_of_le hdeep
    cases htext : w.textRefusal (underList above) kind with
    | some f =>
      rw [w.block_of_refusal hdeep htext]
      refine .aborts (hfirst (hfail.trans htext)) hd ?_
      rw [w.opened_of_textRefusal htext]
    | none =>
      rw [w.block_of_no_refusal hdeep htext, Visit.ofBlock, blockTrees]
      refine .enclose (hfail.trans htext) ?_
      have hbelow := blocks_outcome w (⟨elders, kind⟩ :: above) [] hdeep children
      rwa [arrival_below] at hbelow

theorem blocks_outcome (w : Walker) (above : List Rung) (elders : List Block)
    (hd : above.length ≤ w.maxDepth) :
    ∀ bs : List Block, w.Outcome (w.arrival above elders) (Visit.ofBlocks above elders bs)
      (w.blocksTrees (underList above) bs) (w.blocks (above.length + 1) (underList above) bs)
  | [] => .completes (by simp [Visit.ofBlocks])
  | b :: bs => by
    rw [Visit.ofBlocks, blocksTrees, blocks]
    refine (block_outcome w above elders hd b).andThen ?_
    have h := blocks_outcome w above (elders ++ [b]) hd bs
    rwa [arrival_append, blocksTrees, blocksTrees, List.append_nil] at h

end

theorem arrival_top (w : Walker) : w.arrival [] [] = [] := rfl

end Walker

namespace Translator

/-- A whole run: the image of the document if every block is accepted, and otherwise the stream up
to the first block that is not. -/
theorem run_cases (t : Translator) (wiki : Bool) (d : Document) :
    ((∀ v ∈ d.visits, (t.walker wiki).failureAt v = none) ∧
      t.run wiki d.blocks = .done (Tree.container (.document t.dialect)
        ((t.walker wiki).blocksTrees false d.blocks)).flatten) ∨
    ∃ v f, (t.walker wiki).FailsFirst d.visits v f ∧ v.above.length ≤ t.maxDepth ∧
      t.run wiki d.blocks = (Emission.fail f).onto
        (.opening (.document t.dialect) ::
          (t.walker wiki).arrival v.above v.elders ++ v.opened f) := by
  have h : (t.walker wiki).Outcome _ d.visits _ ((t.walker wiki).blocks 1 false d.blocks) :=
    (t.walker wiki).blocks_outcome [] [] (Nat.zero_le _) d.blocks
  rw [Walker.arrival_top] at h
  unfold run
  generalize (t.walker wiki).blocks 1 false d.blocks = e at h
  cases h with
  | completes hvs => exact .inl ⟨hvs, rfl⟩
  | aborts hv hdepth hes =>
    refine .inr ⟨_, _, hv, hdepth, ?_⟩
    rw [List.nil_append] at hes
    rw [Emission.onto_andThen, Emission.fail_andThen, hes, Emission.done_andThen,
      Emission.onto_onto, List.singleton_append, List.cons_append]

end Translator

end DocStream

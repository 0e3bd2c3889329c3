import DocStream.Fragment.Plain
import DocStream.Proofs.Visit

/-! What a failing run leaves behind: a stream that can be read back up to its end, with just the
containers of the blocks around the failing one open, and those the failing block has opened ahead
of its text. -/

namespace DocStream

def BlockKind.openCount (inList : Bool) : BlockKind → Nat
  | .sect level _ _ => level
  | .list _ => 1
  | .listItem _ => if inList then 1 else 0
  | _ => 0

def openAbove : List Rung → Nat
  | [] => 0
  | r :: above => openAbove above + r.kind.openCount (underList above)

def Visit.openCount (v : Visit) : Failure → Nat
  | .nestingTooDeep .. => 0
  | .fragment _ =>
    match v.kind with
    | .sect level _ _ => level + 1
    | .listItem _ => if underList v.above then 1 else 0
    | _ => 0

namespace Walker
open Forest

theorem opens_textTrees (w : Walker) (read : FragmentReader) (text : String) (strip : Bool) :
    Opens 0 (Tree.flattenAll (w.textTrees read text strip)) :=
  opens_flattenAll (w.allWellFormed_textTrees read text strip)

theorem opens_leadIn (w : Walker) (inList : Bool) (kind : BlockKind) :
    Opens (kind.openCount inList) (w.leadIn inList kind) := by
  cases kind with
  | sect level id title =>
    have hheader : Tree.AllWellFormed
        [.container (.header level id) (w.textTrees w.plain title true)] := by
      simpa using w.allWellFormed_textTrees w.plain title true
    have h := (opens_replicate .sect level).append (opens_flattenAll hheader)
    rwa [Tree.flattenAll_cons, Tree.flattenAll_nil, List.append_nil] at h
  | list context => exact opens_opening _
  | listItem text =>
    cases inList with
    | false => exact opens_nil
    | true => exact (opens_opening .listItem).append (w.opens_textTrees w.inline text true)
  | paragraph content => exact w.opens_textTrees w.inline content false
  | other context => exact opens_nil

theorem opens_blocksTrees (w : Walker) (inList : Bool) (bs : List Block) :
    Opens 0 (Tree.flattenAll (w.blocksTrees inList bs)) :=
  opens_flattenAll (w.allWellFormed_blocksTrees inList bs)

theorem opens_entered (w : Walker) (above : List Rung) :
    Opens (openAbove above) (w.entered above) := by
  induction above with
  | nil => exact opens_nil
  | cons r above ih =>
    exact (ih.append (w.opens_blocksTrees (underList above) r.elders)).append
      (w.opens_leadIn (underList above) r.kind)

theorem opens_arrival (w : Walker) (above : List Rung) (elders : List Block) :
    Opens (openAbove above) (w.arrival above elders) :=
  (w.opens_entered above).append (w.opens_blocksTrees (underList above) elders)

theorem opens_opened (v : Visit) (f : Failure) : Opens (v.openCount f) (v.opened f) := by
  cases f with
  | nestingTooDeep depth limit => exact opens_nil
  | fragment e =>
    obtain ⟨⟨elders, kind⟩, above⟩ := v
    cases kind with
    | sect level id title => exact (opens_replicate .sect level).append (opens_opening _)
    | listItem text =>
      simp only [Visit.opened, Visit.openCount, ownOpenings]
      split
      · exact opens_opening _
      · exact opens_nil
    | list context => exact opens_nil
    | paragraph content => exact opens_nil
    | other context => exact opens_nil

end Walker

namespace Translator
open Forest

/-- Nothing of the failing block is in the stream but what it opens ahead of its text: the rest
comes from the blocks around it and from those before them and before it. -/
theorem ofEvents_failing_run (t : Translator) (wiki : Bool) (d : Document) (f : Failure)
    (h : (t.run wiki d.blocks).failure = some f) :
    ∃ v, (t.walker wiki).FailsFirst d.visits v f ∧
      (t.run wiki d.blocks).events = .opening (.document t.dialect) ::
        (t.walker wiki).arrival v.above v.elders ++ v.opened f ∧
      Forest.ofEvents (t.run wiki d.blocks).events =
        .error (.unclosed (1 + openAbove v.above + v.openCount f)) := by
  obtain ⟨-, hrun⟩ | ⟨v, g, hv, -, hrun⟩ := t.run_cases wiki d
  · rw [hrun] at h
    cases h
  obtain rfl : g = f := by
    rw [hrun] at h
    exact Option.some.inj h
  have hopens := ((opens_opening (.document t.dialect)).append
    ((t.walker wiki).opens_arrival v.above v.elders)).append (Walker.opens_opened v g)
  have hevents : (t.run wiki d.blocks).events = .opening (.document t.dialect) ::
      (t.walker wiki).arrival v.above v.elders ++ v.opened g := by
    rw [hrun]
    simp [Emission.onto, Emission.fail]
  refine ⟨v, hv, hevents, ?_⟩
  -- The document itself is open, so the stream cannot pass for a complete one.
  have hcount : 1 + openAbove v.above + v.openCount g =
      openAbove v.above + v.openCount g + 1 := by omega
  rw [hevents, hcount]
  rw [hcount] at hopens
  exact hopens.ofEvents

theorem ofEvents_failing_run_item :
    let read : FragmentReader := fun text =>
      if text = "bad" then .error ⟨text, "refused"⟩ else Fragment.Plain.reader text
    let t : Translator := { inline := read, plain := read }
    let d : Document :=
      { blocks := [.mk (.sect 2 none "T")
          [.mk (.list "ulist") [.mk (.listItem "good") [], .mk (.listItem "bad") []]]] }
    (t.run false d.blocks).failure = some (.fragment ⟨"bad", "refused"⟩) ∧
      Forest.ofEvents (t.run false d.blocks).events = .error (.unclosed 5) ∧
      ∃ v, (t.walker false).FailsFirst d.visits v (.fragment ⟨"bad", "refused"⟩) ∧
        1 + openAbove v.above + v.openCount (.fragment ⟨"bad", "refused"⟩) = 5 := by
  intro read t d
  obtain ⟨v, hv, -, hopen⟩ := ofEvents_failing_run t false d (.fragment ⟨"bad", "refused"⟩) rfl
  have h : Forest.ofEvents (t.run false d.blocks).events = .error (.unclosed 5) := rfl
  rw [h, Except.error.injEq, BalanceError.unclosed.injEq] at hopen
  exact ⟨rfl, h, v, hv, hopen.symm⟩

end Translator

end DocStream

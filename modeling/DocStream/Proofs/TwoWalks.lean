import DocStream.Translator

/-! Two walks over the same blocks. A relation between emissions that holds of equal streams and
survives going on carries over from the depths and texts of the blocks to the whole walk, so a
property of two runs is shown on single steps. The streams need only be those that blocks emit
around their texts. -/

namespace DocStream

def Container.isBlock : Container → Bool
  | sect => true
  | header .. => true
  | list _ => true
  | listItem => true
  | _ => false

def Event.isBlock : Event → Bool
  | opening c => c.isBlock
  | closing c => c.isBlock
  | _ => false

namespace Emission

structure BlockCongruence (R : Emission → Emission → Prop) : Prop where
  done : ∀ es : List Event, (∀ e ∈ es, e.isBlock = true) → R (.done es) (.done es)
  andThen : ∀ {a a' b b' : Emission}, R a a' → R b b' →
    R (a.andThen fun _ => b) (a'.andThen fun _ => b')

structure Congruence (R : Emission → Emission → Prop) : Prop where
  done : ∀ es, R (.done es) (.done es)
  andThen : ∀ {a a' b b' : Emission}, R a a' → R b b' →
    R (a.andThen fun _ => b) (a'.andThen fun _ => b')

theorem Congruence.ofBlocks {R : Emission → Emission → Prop} (hR : Congruence R) :
    BlockCongruence R := ⟨fun es _ => hR.done es, hR.andThen⟩

end Emission

namespace Walker

theorem isBlock_sectOpenings (level : Nat) : ∀ e ∈ sectOpenings level, e.isBlock = true :=
  fun _ he => List.eq_of_mem_replicate he ▸ rfl

theorem isBlock_sectClosings (level : Nat) : ∀ e ∈ sectClosings level, e.isBlock = true :=
  fun _ he => List.eq_of_mem_replicate he ▸ rfl

structure Related (R : Emission → Emission → Prop) (w w' : Walker) : Prop where
  enter : ∀ depth, R (w.enter depth) (w'.enter depth)
  plain : ∀ text strip, R (w.fragment w.plain text strip) (w'.fragment w'.plain text strip)
  inline : ∀ text strip, R (w.fragment w.inline text strip) (w'.fragment w'.inline text strip)

variable {R : Emission → Emission → Prop} {w w' : Walker}

mutual

theorem Related.walkBlock (hR : Emission.BlockCongruence R) (hw : Related R w w') (depth : Nat)
    (inList : Bool) : ∀ b : Block, R (w.block depth inList b) (w'.block depth inList b)
  | .mk kind children => by
    have hbelow (inList : Bool) :
        R (w.blocks (depth + 1) inList children) (w'.blocks (depth + 1) inList children) :=
      Related.walkBlocks hR hw (depth + 1) inList children
    have hevent (e : Event) (he : e.isBlock = true) : R (.done [e]) (.done [e]) :=
      hR.done [e] (by simpa using he)
    -- Opening and closing events are the same in both walks, whatever the kind of block.
    unfold Walker.block
    refine hR.andThen (hw.enter depth) ?_
    cases kind with
    | sect level id title =>
      have hopen : ∀ e ∈ sectOpenings level ++ [.opening (.header level id)],
          e.isBlock = true := by
        simp only [List.forall_mem_append, List.forall_mem_singleton]
        exact ⟨isBlock_sectOpenings level, rfl⟩
      exact hR.andThen (hR.done _ hopen) (hR.andThen (hw.plain title true)
        (hR.andThen (hevent _ rfl)
          (hR.andThen (hbelow false) (hR.done _ (isBlock_sectClosings level)))))
    | list context => exact hR.andThen (hevent _ rfl) (hR.andThen (hbelow true) (hevent _ rfl))
    | listItem text =>
      cases inList with
      | false => exact hbelow false
      | true =>
        exact hR.andThen (hevent _ rfl) (hR.andThen (hw.inline text true)
          (hR.andThen (hbelow false) (hevent _ rfl)))
    | paragraph content => exact hR.andThen (hw.inline content false) (hbelow false)
    | other context => exact hbelow false

theorem Related.walkBlocks (hR : Emission.BlockCongruence R) (hw : Related R w w') (depth : Nat)
    (inList : Bool) : ∀ bs : List Block, R (w.blocks depth inList bs) (w'.blocks depth inList bs)
  | [] => by
    unfold Walker.blocks
    exact hR.done [] nofun
  | b :: bs => by
    unfold Walker.blocks
    exact hR.andThen (Related.walkBlock hR hw depth inList b)
      (Related.walkBlocks hR hw depth inList bs)

end

theorem Related.blocks (hR : Emission.Congruence R) (hw : Related R w w') (depth : Nat)
    (inList : Bool) (bs : List Block) : R (w.blocks depth inList bs) (w'.blocks depth inList bs) :=
  hw.walkBlocks hR.ofBlocks depth inList bs

end Walker

end DocStream

import DocStream.Proofs.FragmentTree
import DocStream.Translator

/-! The tree image of a block tree, and what the walk over one block emits: the events ahead of its
children, those of its children, and those behind them. The image of the block flattens to the three
in a row, and the walk stops short of them only where the depth or the text of the block is
refused. -/

namespace DocStream

def BlockKind.isList : BlockKind → Bool
  | .list _ => true
  | _ => false

namespace Walker

/-! ### The image -/

def textTrees (w : Walker) (read : FragmentReader) (text : String) (strip : Bool) : List Tree :=
  Fragment.textTrees text read strip w.wiki

def nestSections : Nat → List Tree → List Tree
  | 0, ts => ts
  | level + 1, ts => [.container .sect (nestSections level ts)]

/-- What a block makes of the trees of its children. -/
def shell (w : Walker) (inList : Bool) : BlockKind → List Tree → List Tree
  | .sect level id title, ts =>
    nestSections level (.container (.header level id) (w.textTrees w.plain title true) :: ts)
  | .list context, ts => [.container (.list (.ofContext context)) ts]
  | .listItem text, ts =>
    if inList then [.container .listItem (w.textTrees w.inline text true ++ ts)] else ts
  | .paragraph content, ts => w.textTrees w.inline content false ++ ts
  | .other _, ts => ts

mutual

def blockTrees (w : Walker) (inList : Bool) : Block → List Tree
  | .mk kind children => w.shell inList kind (w.blocksTrees kind.isList children)

def blocksTrees (w : Walker) (inList : Bool) : List Block → List Tree
  | [] => []
  | b :: bs => w.blockTrees inList b ++ w.blocksTrees inList bs

end

theorem blocksTrees_append (w : Walker) (inList : Bool) (as bs : List Block) :
    w.blocksTrees inList (as ++ bs) = w.blocksTrees inList as ++ w.blocksTrees inList bs := by
  induction as with
  | nil => rfl
  | cons a as ih => simp only [List.cons_append, blocksTrees, ih, List.append_assoc]

theorem allWellFormed_nestSections (level : Nat) {ts : List Tree} (h : Tree.AllWellFormed ts) :
    Tree.AllWellFormed (nestSections level ts) := by
  induction level with
  | zero => exact h
  | succ level ih => simpa [nestSections] using ih

theorem allWellFormed_textTrees (w : Walker) (read : FragmentReader) (text : String)
    (strip : Bool) : Tree.AllWellFormed (w.textTrees read text strip) :=
  Fragment.allWellFormed_textTrees text read strip w.wiki

theorem allWellFormed_shell (w : Walker) (inList : Bool) (kind : BlockKind) {ts : List Tree}
    (h : Tree.AllWellFormed ts) : Tree.AllWellFormed (w.shell inList kind ts) := by
  cases kind with
  | sect level id title =>
    apply allWellFormed_nestSections
    simp [allWellFormed_textTrees, h]
  | list context => simpa [shell] using h
  | listItem text => cases inList <;> simp [shell, allWellFormed_textTrees, h]
  | paragraph content => simp [shell, allWellFormed_textTrees, h]
  | other context => exact h

mutual

theorem allWellFormed_blockTrees (w : Walker) (inList : Bool) :
    ∀ b : Block, Tree.AllWellFormed (w.blockTrees inList b)
  | .mk kind children => by
    rw [blockTrees]
    exact w.allWellFormed_shell inList kind (allWellFormed_blocksTrees w kind.isList children)

theorem allWellFormed_blocksTrees (w : Walker) (inList : Bool) :
    ∀ bs : List Block, Tree.AllWellFormed (w.blocksTrees inList bs)
  | [] => trivial
  | b :: bs => by
    rw [blocksTrees, Tree.allWellFormed_append]
    exact ⟨allWellFormed_blockTrees w inList b, allWellFormed_blocksTrees w inList bs⟩

end

/-! ### The events -/

def ownOpenings (inList : Bool) : BlockKind → List Event
  | .sect level id _ => sectOpenings level ++ [.opening (.header level id)]
  | .listItem _ => if inList then [.opening .listItem] else []
  | _ => []

def leadIn (w : Walker) (inList : Bool) : BlockKind → List Event
  | .sect level id title =>
    sectOpenings level ++
      (Tree.container (.header level id) (w.textTrees w.plain title true)).flatten
  | .list context => [.opening (.list (.ofContext context))]
  | .listItem text =>
    if inList then .opening .listItem :: Tree.flattenAll (w.textTrees w.inline text true) else []
  | .paragraph content => Tree.flattenAll (w.textTrees w.inline content false)
  | .other _ => []

def leadOut (inList : Bool) : BlockKind → List Event
  | .sect level _ _ => sectClosings level
  | .list context => [.closing (.list (.ofContext context))]
  | .listItem _ => if inList then [.closing .listItem] else []
  | _ => []

theorem flattenAll_nestSections (level : Nat) (ts : List Tree) :
    Tree.flattenAll (nestSections level ts) =
      sectOpenings level ++ Tree.flattenAll ts ++ sectClosings level := by
  induction level with
  | zero => simp [nestSections, sectOpenings, sectClosings]
  | succ level ih =>
    have hclose : sectClosings (level + 1) = sectClosings level ++ [.closing .sect] :=
      List.replicate_succ'
    rw [nestSections, Tree.flattenAll_cons, Tree.flatten_container, ih, hclose]
    simp [sectOpenings, List.replicate_succ]

theorem flattenAll_shell (w : Walker) (inList : Bool) (kind : BlockKind) (ts : List Tree) :
    Tree.flattenAll (w.shell inList kind ts) =
      w.leadIn inList kind ++ Tree.flattenAll ts ++ leadOut inList kind := by
  cases kind with
  | sect level id title => simp [shell, leadIn, leadOut, flattenAll_nestSections]
  | list context => simp [shell, leadIn, leadOut]
  | listItem text => cases inList <;> simp [shell, leadIn, leadOut]
  | paragraph content => simp [shell, leadIn, leadOut]
  | other context => simp [shell, leadIn, leadOut]

/-! ### The walk over one block -/

def refusal (read : FragmentReader) (text : String) : Option Failure :=
  match read text with
  | .ok _ => none
  | .error e => some (.fragment e)

def textRefusal (w : Walker) (inList : Bool) : BlockKind → Option Failure
  | .sect _ _ title => refusal w.plain title
  | .listItem text => if inList then refusal w.inline text else none
  | .paragraph content => refusal w.inline content
  | _ => none

theorem refusal_eq_some_iff {read : FragmentReader} {text : String} {f : Failure} :
    refusal read text = some f ↔ ∃ e, read text = .error e ∧ f = .fragment e := by
  unfold refusal
  cases read text with
  | ok g => simp
  | error e => simp [eq_comm]

theorem eq_fragment_of_textRefusal {w : Walker} {inList : Bool} {kind : BlockKind} {f : Failure}
    (h : w.textRefusal inList kind = some f) : ∃ e, f = .fragment e := by
  have hread {read : FragmentReader} {text : String} (h : refusal read text = some f) :
      ∃ e, f = .fragment e := by
    obtain ⟨e, -, hf⟩ := refusal_eq_some_iff.1 h
    exact ⟨e, hf⟩
  cases kind with
  | sect level id title => exact hread h
  | list context => cases h
  | listItem text =>
    cases inList with
    | false => cases h
    | true => exact hread h
  | paragraph content => exact hread h
  | other context => cases h

theorem fragment_of_some (w : Walker) {read : FragmentReader} {text : String} {f : Failure}
    (h : refusal read text = some f) (strip : Bool) : w.fragment read text strip = .fail f := by
  obtain ⟨e, he, rfl⟩ := refusal_eq_some_iff.1 h
  rw [fragment, Fragment.translate_of_error he]

theorem fragment_of_none (w : Walker) {read : FragmentReader} {text : String}
    (h : refusal read text = none) (strip : Bool) :
    w.fragment read text strip = .done (Tree.flattenAll (w.textTrees read text strip)) := by
  unfold refusal at h
  cases hr : read text with
  | error e => simp [hr] at h
  | ok g => rw [fragment, Fragment.translate_of_ok hr, textTrees]

theorem block_of_refusal (w : Walker) {depth : Nat} {inList : Bool} {kind : BlockKind}
    {f : Failure} (hd : depth ≤ w.maxDepth) (h : w.textRefusal inList kind = some f)
    (children : List Block) :
    w.block depth inList (.mk kind children) =
      (Emission.fail f).onto (ownOpenings inList kind) := by
  unfold block
  rw [w.enter_of_le hd, Emission.done_andThen, Emission.onto_nil]
  cases kind with
  | sect level id title => simp [w.fragment_of_some h, ownOpenings]
  | list context => cases h
  | listItem text =>
    cases inList with
    | false => cases h
    | true => simp [w.fragment_of_some h, ownOpenings]
  | paragraph content => simp [w.fragment_of_some h, ownOpenings]
  | other context => cases h

theorem block_of_no_refusal (w : Walker) {depth : Nat} {inList : Bool} {kind : BlockKind}
    (hd : depth ≤ w.maxDepth) (h : w.textRefusal inList kind = none) (children : List Block) :
    w.block depth inList (.mk kind children) =
      ((w.blocks (depth + 1) kind.isList children).andThen fun _ =>
        .done (leadOut inList kind)).onto (w.leadIn inList kind) := by
  unfold block
  rw [w.enter_of_le hd, Emission.done_andThen, Emission.onto_nil]
  cases kind with
  | sect level id title =>
    simp [w.fragment_of_none h, leadIn, leadOut, BlockKind.isList, Emission.onto_onto]
  | list context => simp [leadIn, leadOut, BlockKind.isList]
  | listItem text =>
    cases inList with
    | false => simp [leadIn, leadOut, BlockKind.isList]
    | true => simp [w.fragment_of_none h, leadIn, leadOut, BlockKind.isList, Emission.onto_onto]
  | paragraph content => simp [w.fragment_of_none h, leadIn, leadOut, BlockKind.isList]
  | other context => simp [leadIn, leadOut, BlockKind.isList]

end Walker

end DocStream

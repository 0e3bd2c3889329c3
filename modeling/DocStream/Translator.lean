import DocStream.Emission
import DocStream.Reclassify
import DocStream.Source

/-! A block tree as a stream of events. Blocks are walked in document order, each opening and
closing its container around the events of its text and of its children. -/

namespace DocStream

structure Walker where
  inline : FragmentReader
  plain : FragmentReader
  wiki : Bool
  maxDepth : Nat

namespace Walker

def fragment (w : Walker) (read : FragmentReader) (text : String) (strip : Bool) : Emission :=
  match Fragment.translate text read strip w.wiki with
  | .ok es => .done es
  | .error e => .fail (.fragment e)

def enter (w : Walker) (depth : Nat) : Emission :=
  if w.maxDepth < depth then .fail (.nestingTooDeep depth w.maxDepth) else .done []

theorem enter_of_le (w : Walker) {depth : Nat} (h : depth ≤ w.maxDepth) :
    w.enter depth = .done [] := if_neg (Nat.not_lt.2 h)

theorem enter_of_lt (w : Walker) {depth : Nat} (h : w.maxDepth < depth) :
    w.enter depth = .fail (.nestingTooDeep depth w.maxDepth) := if_pos h

def sectOpenings (level : Nat) : List Event := List.replicate level (.opening .sect)

def sectClosings (level : Nat) : List Event := List.replicate level (.closing .sect)

mutual

/-- A list item stands for itself only right under a list, which is what `inList` says. -/
def block (w : Walker) (depth : Nat) (inList : Bool) : Block → Emission
  | .mk kind children =>
    w.enter depth |>.andThen fun _ =>
      match kind with
      | .sect level id title =>
        (Emission.done (sectOpenings level ++ [.opening (.header level id)])).andThen fun _ =>
          (w.fragment w.plain title true).andThen fun _ =>
            (Emission.done [.closing (.header level id)]).andThen fun _ =>
              (w.blocks (depth + 1) false children).andThen fun _ => .done (sectClosings level)
      | .list context =>
        let kind := ListKind.ofContext context
        (Emission.done [.opening (.list kind)]).andThen fun _ =>
          (w.blocks (depth + 1) true children).andThen fun _ => .done [.closing (.list kind)]
      | .listItem text =>
        if inList then
          (Emission.done [.opening .listItem]).andThen fun _ =>
            (w.fragment w.inline text true).andThen fun _ =>
              (w.blocks (depth + 1) false children).andThen fun _ => .done [.closing .listItem]
        else w.blocks (depth + 1) false children
      | .paragraph content =>
        (w.fragment w.inline content false).andThen fun _ => w.blocks (depth + 1) false children
      | .other _ => w.blocks (depth + 1) false children

def blocks (w : Walker) (depth : Nat) (inList : Bool) : List Block → Emission
  | [] => .done []
  | b :: bs => (w.block depth inList b).andThen fun _ => w.blocks depth inList bs

end

end Walker

def defaultMaxDepth : Nat := 256

structure Translator where
  inline : FragmentReader
  plain : FragmentReader
  dialect : Dialect := default
  maxDepth : Nat := defaultMaxDepth

namespace Translator

def walker (t : Translator) (wiki : Bool) : Walker := ⟨t.inline, t.plain, wiki, t.maxDepth⟩

def run (t : Translator) (wiki : Bool) (blocks : List Block) : Emission :=
  (Emission.done [.opening (.document t.dialect)]).andThen fun _ =>
    ((t.walker wiki).blocks 1 false blocks).andThen fun _ =>
      .done [.closing (.document t.dialect)]

/-- Goes on with a stream. What a failing run has emitted stays in it. -/
def runOnto (t : Translator) (wiki : Bool) (blocks : List Block) (stream : List Event) :
    Emission :=
  (t.run wiki blocks).onto stream

def translate (t : Translator) (wiki : Bool) (blocks : List Block) :
    Except Failure (List Event) :=
  let e := t.run wiki blocks
  match e.failure with
  | none => .ok e.events
  | some f => .error f

end Translator

end DocStream

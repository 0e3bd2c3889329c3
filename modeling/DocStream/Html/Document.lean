import DocStream.Html.Construction
import DocStream.Html.Lexer

/-! A text read as the body of a document. Lexer and tree take turns: a step of the lexer, its
tokens into the tree, and back to the lexer how the text goes on. The text is followed by the tags
that end the document, which an unfinished construct in it swallows. -/

namespace DocStream.Html

def unifyLineEnds : List Char → List Char
  | [] => []
  | '\r' :: '\n' :: cs => '\n' :: unifyLineEnds cs
  | '\r' :: cs => '\n' :: unifyLineEnds cs
  | c :: cs => c :: unifyLineEnds cs

def Lexer.switch (l : Lexer) : Option Build.Switch → Lexer
  | none => l
  | some (.raw k) => l.enter (.rawData k)
  | some .plaintext => l.enter .plaintext

namespace Builder

def accept (b : Builder) : List Token → Option Build.Switch × Builder
  | [] => (none, b)
  | [t] => (Build.accept t).run b
  | t :: ts => ((Build.accept t).run b).2.accept ts

def inForeign (b : Builder) : Bool :=
  !b.opened.isEmpty && (b.elementName b.current).space ≠ .html

def dom (b : Builder) : (height : Nat) → Nat → Dom
  | 0, _ => .comment
  | height + 1, i =>
    match (b.node i).content with
    | .element name attributes .. =>
      .element name.localName attributes ((b.node i).children.toList.map (b.dom height))
    | .text s => .text s
    | .comment | .fragment => .comment

def body (b : Builder) : List Dom :=
  (b.node bodyNode).children.toList.map (b.dom b.nodes.size)

end Builder

def run : (steps : Nat) → Lexer → Builder → List Char → Builder
  | 0, _, b, _ => b
  | _ + 1, l, b, [] => (b.accept l.finish).2
  | steps + 1, l, b, c :: rest =>
    let s := l.step b.inForeign c rest
    let (next, b) := b.accept s.tokens
    run steps (s.lexer.switch next) b s.rest

structure Document where
  body : List Dom
  firstFault : Option Fault

namespace Document

def ending : String := "</body></html>"

/-- A character is looked at four times at most before it is taken. -/
def ofBody (text : String) : Document :=
  let cs := unifyLineEnds (text ++ ending).toList
  let b := run (4 * cs.length + 1) {} Builder.initial cs
  ⟨b.body, b.faults.getLast?⟩

end Document

end DocStream.Html

import DocStream.Proofs.Balance
import DocStream.Reclassify

/-! The tree image of inline markup: a container for every paragraph, style and link, a leaf for
every text and line break. It flattens to the events of the fragment. -/

namespace DocStream

namespace FragmentNode

mutual

def tree : FragmentNode → Tree
  | paragraph cs => .container .paragraph (trees cs)
  | format s cs => .container (.format s) (trees cs)
  | link h cs => .container (.link h) (trees cs)
  | text s => .leaf (.text s)
  | lineBreak => .leaf .lineBreak

def trees : List FragmentNode → List Tree
  | [] => []
  | n :: ns => n.tree :: trees ns

end

mutual

theorem flatten_tree : ∀ n : FragmentNode, n.tree.flatten = n.events
  | paragraph cs => by rw [tree, events, Tree.flatten_container, flattenAll_trees cs]
  | format s cs => by rw [tree, events, Tree.flatten_container, flattenAll_trees cs]
  | link h cs => by rw [tree, events, Tree.flatten_container, flattenAll_trees cs]
  | text s => rfl
  | lineBreak => rfl

theorem flattenAll_trees : ∀ ns : List FragmentNode, Tree.flattenAll (trees ns) = eventsAll ns
  | [] => rfl
  | n :: ns => by rw [trees, eventsAll, Tree.flattenAll_cons, flatten_tree n, flattenAll_trees ns]

end

mutual

theorem wellFormed_tree : ∀ n : FragmentNode, n.tree.WellFormed
  | paragraph cs => by simpa only [tree, Tree.wellFormed_container] using allWellFormed_trees cs
  | format s cs => by simpa only [tree, Tree.wellFormed_container] using allWellFormed_trees cs
  | link h cs => by simpa only [tree, Tree.wellFormed_container] using allWellFormed_trees cs
  | text s => ⟨rfl, rfl⟩
  | lineBreak => ⟨rfl, rfl⟩

theorem allWellFormed_trees : ∀ ns : List FragmentNode, Tree.AllWellFormed (trees ns)
  | [] => trivial
  | n :: ns => ⟨wellFormed_tree n, allWellFormed_trees ns⟩

end

theorem balanced_eventsAll (ns : List FragmentNode) : Forest.Balanced (eventsAll ns) :=
  ⟨trees ns, allWellFormed_trees ns, flattenAll_trees ns⟩

theorem trees_append (ns ms : List FragmentNode) : trees (ns ++ ms) = trees ns ++ trees ms := by
  induction ns with
  | nil => rfl
  | cons n ns ih => rw [List.cons_append, trees, trees, ih, List.cons_append]

theorem eventsAll_append (ns ms : List FragmentNode) :
    eventsAll (ns ++ ms) = eventsAll ns ++ eventsAll ms := by
  rw [← flattenAll_trees, trees_append, Tree.flattenAll_append, flattenAll_trees,
    flattenAll_trees]

end FragmentNode

namespace Fragment

/-- The trees of a text: of the fragment read from it, without its outer wrapper if asked, its links
reclassified. A text that cannot be read has none. -/
def textTrees (text : String) (read : FragmentReader) (strip wiki : Bool) : List Tree :=
  match read text with
  | .ok f => FragmentNode.trees ((if strip then f.stripWrapper else f).reclassify wiki)
  | .error _ => []

theorem allWellFormed_textTrees (text : String) (read : FragmentReader) (strip wiki : Bool) :
    Tree.AllWellFormed (textTrees text read strip wiki) := by
  unfold textTrees
  split
  · exact FragmentNode.allWellFormed_trees _
  · trivial

theorem translate_eq_events {text : String} {read : FragmentReader} {f : Fragment}
    (h : read text = .ok f) (strip wiki : Bool) :
    translate text read strip wiki =
      .ok ((if strip then f.stripWrapper else f).reclassify wiki).events := by
  simp only [translate, h]
  rfl

theorem translate_of_ok {text : String} {read : FragmentReader} {f : Fragment}
    (h : read text = .ok f) (strip wiki : Bool) :
    translate text read strip wiki = .ok (Tree.flattenAll (textTrees text read strip wiki)) := by
  rw [translate_eq_events h]
  simp only [textTrees, h, FragmentNode.flattenAll_trees]
  rfl

theorem translate_congr {text : String} {p q : FragmentReader} (h : p text = q text)
    (strip wiki : Bool) : translate text p strip wiki = translate text q strip wiki := by
  rw [translate, translate, h]

theorem translate_of_error {text : String} {read : FragmentReader} {e : FragmentError}
    (h : read text = .error e) (strip wiki : Bool) :
    translate text read strip wiki = .error e := by
  simp only [translate, h]
  rfl

end Fragment

end DocStream

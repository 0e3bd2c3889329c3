import DocStream.Proofs.FragmentTree
import Mathlib.Logic.Function.Basic

/-! Reading a fragment back. The forest of a fragment's events is its image, and a decoder takes the
image, and nothing else, back to the fragment, so the events of a fragment determine it. -/

namespace DocStream

namespace FragmentNode

def ofContainer : Container → List FragmentNode → Option FragmentNode
  | .paragraph, ns => some (paragraph ns)
  | .format s, ns => some (format s ns)
  | .link h, ns => some (link h ns)
  | _, _ => none

mutual

def ofTree : Tree → Option FragmentNode
  | .leaf (.text s) => some (text s)
  | .leaf .lineBreak => some lineBreak
  | .leaf _ => none
  | .node (.opening o) (.closing c) ts =>
    if c = o then (ofTrees ts).bind (ofContainer o) else none
  | .node _ _ _ => none

def ofTrees : List Tree → Option (List FragmentNode)
  | [] => some []
  | t :: ts => (ofTree t).bind fun n => (ofTrees ts).map (n :: ·)

end

theorem ofTree_container (c : Container) (ts : List Tree) :
    ofTree (.container c ts) = (ofTrees ts).bind (ofContainer c) := by
  simp [Tree.container, ofTree]

mutual

theorem ofTree_tree : ∀ n : FragmentNode, ofTree n.tree = some n
  | paragraph cs => by rw [tree, ofTree_container, ofTrees_trees cs]; rfl
  | format s cs => by rw [tree, ofTree_container, ofTrees_trees cs]; rfl
  | link h cs => by rw [tree, ofTree_container, ofTrees_trees cs]; rfl
  | text s => rfl
  | lineBreak => rfl

theorem ofTrees_trees : ∀ ns : List FragmentNode, ofTrees (trees ns) = some ns
  | [] => rfl
  | n :: ns => by
    rw [trees, ofTrees, ofTree_tree n, ofTrees_trees ns]
    rfl

end

theorem tree_of_ofContainer {c : Container} {ns : List FragmentNode} {n : FragmentNode}
    (h : ofContainer c ns = some n) : n.tree = .container c (trees ns) := by
  cases c with
  | paragraph => cases h; rfl
  | format s => cases h; rfl
  | link l => cases h; rfl
  | document d => cases h
  | sect => cases h
  | header level id => cases h
  | list kind => cases h
  | listItem => cases h

theorem exists_of_ofTree_node {o c : Event} {ts : List Tree} {n : FragmentNode}
    (h : ofTree (.node o c ts) = some n) :
    ∃ k ns, o = .opening k ∧ c = .closing k ∧ ofTrees ts = some ns ∧
      ofContainer k ns = some n := by
  cases o with
  | closing o => cases h
  | text s => cases h
  | lineBreak => cases h
  | opening o =>
    cases c with
    | opening c => cases h
    | text s => cases h
    | lineBreak => cases h
    | closing c =>
      rw [ofTree] at h
      split at h
      next hco =>
        obtain ⟨ns, hns, hn⟩ := Option.bind_eq_some_iff.1 h
        exact ⟨o, ns, rfl, by rw [hco], hns, hn⟩
      next => cases h

mutual

theorem tree_of_ofTree : ∀ (t : Tree) (n : FragmentNode), ofTree t = some n → n.tree = t
  | .leaf e, n, h => by
    cases e with
    | text s => cases h; rfl
    | lineBreak => cases h; rfl
    | opening c => cases h
    | closing c => cases h
  | .node o c ts, n, h => by
    obtain ⟨k, ns, rfl, rfl, hns, hn⟩ := exists_of_ofTree_node h
    rw [tree_of_ofContainer hn, trees_of_ofTrees ts ns hns]
    rfl

theorem trees_of_ofTrees :
    ∀ (ts : List Tree) (ns : List FragmentNode), ofTrees ts = some ns → trees ns = ts
  | [], ns, h => by cases h; rfl
  | t :: ts, ns, h => by
    rw [ofTrees] at h
    obtain ⟨n, hn, h⟩ := Option.bind_eq_some_iff.1 h
    obtain ⟨ms, hms, rfl⟩ := Option.map_eq_some_iff.1 h
    rw [trees, tree_of_ofTree t n hn, trees_of_ofTrees ts ms hms]

end

theorem ofTrees_eq_some_iff {ts : List Tree} {ns : List FragmentNode} :
    ofTrees ts = some ns ↔ trees ns = ts := by
  constructor
  · exact trees_of_ofTrees ts ns
  · rintro rfl
    exact ofTrees_trees ns

end FragmentNode

namespace Fragment
open FragmentNode

theorem ofEvents_events (f : Fragment) : Forest.ofEvents f.events = .ok (trees f) := by
  rw [events, ← flattenAll_trees]
  exact Forest.ofEvents_flattenAll (allWellFormed_trees f)

theorem trees_injective : Function.Injective trees := by
  intro ns ms h
  have hms : ofTrees (trees ns) = some ms := ofTrees_eq_some_iff.2 h.symm
  exact Option.some.inj ((ofTrees_trees ns).symm.trans hms)

theorem events_determine_fragment :
    (∀ f : Fragment, Forest.ofEvents f.events = .ok (trees f)) ∧
    (∀ (ts : List Tree) (f : Fragment), ofTrees ts = some f ↔ trees f = ts) ∧
    Function.Injective Fragment.events := by
  refine ⟨ofEvents_events, fun ts f => ofTrees_eq_some_iff, fun f g h => ?_⟩
  have hforest : Forest.ofEvents f.events = .ok (trees g) := h ▸ ofEvents_events g
  rw [ofEvents_events f] at hforest
  exact trees_injective (Except.ok.inj hforest)

end Fragment

end DocStream

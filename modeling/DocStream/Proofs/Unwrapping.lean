import DocStream.Proofs.FragmentContent
import DocStream.Proofs.FragmentReadback
import DocStream.Translator

/-! A text without its wrapper. The first node is opened by one level and nothing else is touched,
in the fragment as in the forest of its events, before the links are changed as well as after. The
readers of HTML and of plain text put a paragraph first, so a text of theirs loses the two events
of that paragraph and nothing that it shows. -/

namespace DocStream

def Tree.branches : Tree → List Tree
  | leaf _ => []
  | node _ _ ts => ts

def Forest.unwrapFirst : List Tree → List Tree
  | [] => []
  | t :: ts => t.branches ++ ts

namespace FragmentNode

theorem branches_tree (n : FragmentNode) : n.tree.branches = trees n.children := by
  cases n <;> rfl

theorem mapAllFrom_append {σ : Type} (change : σ → Link → σ × Link) (s : σ)
    (ns ms : List FragmentNode) :
    mapAllFrom change s (ns ++ ms) =
      ((mapAllFrom change (mapAllFrom change s ns).1 ms).1,
        (mapAllFrom change s ns).2 ++ (mapAllFrom change (mapAllFrom change s ns).1 ms).2) := by
  induction ns generalizing s with
  | nil => rfl
  | cons n ns ih => simp only [List.cons_append, mapAllFrom, ih]

end FragmentNode

namespace Fragment
open FragmentNode

theorem trees_stripWrapper (f : Fragment) :
    trees f.stripWrapper = Forest.unwrapFirst (trees f) := by
  cases f with
  | nil => rfl
  | cons n ns => rw [stripWrapper, trees_append, trees, Forest.unwrapFirst, branches_tree]

/-! ### Links -/

theorem mapLinks_append (change : Link → Link) (f g : Fragment) :
    (f ++ g).mapLinks change = f.mapLinks change ++ g.mapLinks change :=
  congrArg Prod.snd (mapAllFrom_append (fun (_ : Unit) l => ((), change l)) () f g)

theorem children_mapLinksFrom (change : Link → Link) (n : FragmentNode) :
    (n.mapLinksFrom (fun (_ : Unit) l => ((), change l)) ()).2.children =
      mapLinks change n.children := by
  cases n <;> rfl

theorem stripWrapper_mapLinks (change : Link → Link) (f : Fragment) :
    (f.mapLinks change).stripWrapper = f.stripWrapper.mapLinks change := by
  cases f with
  | nil => rfl
  | cons n ns =>
    rw [stripWrapper, mapLinks_append, ← children_mapLinksFrom]
    rfl

theorem stripWrapper_reclassify (f : Fragment) (wiki : Bool) :
    (f.reclassify wiki).stripWrapper = f.stripWrapper.reclassify wiki :=
  stripWrapper_mapLinks _ f

/-! ### Wrappers of paragraphs -/

def LeadsWithParagraph (f : Fragment) : Prop := ∀ n ∈ f.head?, ∃ cs, n = .paragraph cs

theorem LeadsWithParagraph.cases {f : Fragment} (h : f.LeadsWithParagraph) :
    f = [] ∨ ∃ cs ns, f = .paragraph cs :: ns := by
  cases f with
  | nil => exact .inl rfl
  | cons n ns =>
    obtain ⟨cs, rfl⟩ := h n rfl
    exact .inr ⟨cs, ns, rfl⟩

theorem LeadsWithParagraph.reclassify {f : Fragment} (h : f.LeadsWithParagraph) (wiki : Bool) :
    (f.reclassify wiki).LeadsWithParagraph := by
  obtain rfl | ⟨cs, ns, rfl⟩ := h.cases
  · exact nofun
  · intro n hn
    exact ⟨_, (Option.some.inj hn).symm⟩

/-- Streams that differ by the two events of one paragraph, which the longer one begins with, or
that are both empty. -/
def LosesWrapper (es fs : List Event) : Prop :=
  es = [] ∧ fs = [] ∨
    ∃ inner rest, Forest.Balanced inner ∧
      es = .opening .paragraph :: inner ++ .closing .paragraph :: rest ∧ fs = inner ++ rest

theorem LeadsWithParagraph.losesWrapper {f : Fragment} (h : f.LeadsWithParagraph) :
    LosesWrapper f.events f.stripWrapper.events := by
  obtain rfl | ⟨cs, ns, rfl⟩ := h.cases
  · exact .inl ⟨rfl, rfl⟩
  · refine .inr ⟨eventsAll cs, eventsAll ns, balanced_eventsAll cs, ?_, eventsAll_append cs ns⟩
    show (paragraph cs).events ++ eventsAll ns = _
    rw [FragmentNode.events, List.append_assoc, List.singleton_append]

inductive Bundled : FragmentReader → Prop where
  | html (strict : Bool) : Bundled (Html.reader strict)
  | plain : Bundled Plain.reader

theorem Bundled.leadsWithParagraph {read : FragmentReader} (h : Bundled read) {text : String}
    {f : Fragment} (hread : read text = .ok f) : f.LeadsWithParagraph := by
  cases h with
  | html strict =>
    obtain ⟨body, rfl⟩ := Html.readsBodies_reader strict text f hread
    intro n hn
    obtain ⟨cs, hcs, -⟩ := Html.forall_mem_blocks body n (List.mem_of_mem_head? hn)
    exact ⟨cs, hcs⟩
  | plain =>
    obtain rfl : Plain.read text = f := Except.ok.inj hread
    unfold Plain.read
    split
    · exact nofun
    · intro n hn
      exact ⟨_, (Option.some.inj hn).symm⟩

end Fragment

namespace Walker
open Fragment FragmentNode

theorem fragment_of_ok (w : Walker) {read : FragmentReader} {text : String} {f : Fragment}
    (h : read text = .ok f) (strip : Bool) :
    w.fragment read text strip =
      .done ((if strip then f.stripWrapper else f).reclassify w.wiki).events := by
  rw [fragment, translate_eq_events h]

theorem fragment_of_error (w : Walker) {read : FragmentReader} {text : String} {e : FragmentError}
    (h : read text = .error e) (strip : Bool) :
    w.fragment read text strip = .fail (.fragment e) := by
  rw [fragment, translate_of_error h]

theorem fragment_unwraps (w : Walker) (read : FragmentReader) (text : String) :
    ((∃ e, read text = .error e ∧ ∀ strip, w.fragment read text strip = .fail (.fragment e)) ∨
      ∃ es fs ts, w.fragment read text false = .done es ∧ w.fragment read text true = .done fs ∧
        Forest.ofEvents es = .ok ts ∧ Forest.ofEvents fs = .ok (Forest.unwrapFirst ts) ∧
        (Bundled read → LosesWrapper es fs)) ∧
    (∀ f : Fragment, f.stripWrapper.reclassify w.wiki = (f.reclassify w.wiki).stripWrapper) ∧
    (Bundled read → ∀ f, read text = .ok f → f.LeadsWithParagraph) := by
  refine ⟨?_, fun f => (stripWrapper_reclassify f w.wiki).symm, fun h f => h.leadsWithParagraph⟩
  cases hread : read text with
  | error e => exact .inl ⟨e, rfl, w.fragment_of_error hread⟩
  | ok f =>
    let g : Fragment := f.reclassify w.wiki
    have hfull : w.fragment read text false = .done g.events := w.fragment_of_ok hread false
    have hbare : w.fragment read text true = .done g.stripWrapper.events := by
      rw [w.fragment_of_ok hread, if_pos rfl, ← stripWrapper_reclassify]
    have hforest : Forest.ofEvents g.stripWrapper.events = .ok (Forest.unwrapFirst (trees g)) := by
      rw [ofEvents_events, trees_stripWrapper]
    exact .inr ⟨_, _, trees g, hfull, hbare, ofEvents_events g, hforest, fun h =>
      ((h.leadsWithParagraph hread).reclassify w.wiki).losesWrapper⟩

theorem fragment_unwraps_title :
    let w : Walker := { inline := Plain.reader, plain := Plain.reader, wiki := true, maxDepth := 0 }
    let fs : List Event := [.text "a", .lineBreak, .text "b"]
    let es : List Event := .opening .paragraph :: fs ++ [.closing .paragraph]
    Bundled w.plain ∧ w.fragment w.plain "a\nb" false = .done es ∧
      w.fragment w.plain "a\nb" true = .done fs ∧ LosesWrapper es fs ∧
      LeadsWithParagraph [.paragraph [.text "a", .lineBreak, .text "b"]] := by
  intro w fs es
  obtain ⟨hruns, -, hleads⟩ := w.fragment_unwraps w.plain "a\nb"
  have hread : w.plain "a\nb" = .ok [.paragraph [.text "a", .lineBreak, .text "b"]] := by rfl
  have hfull : w.fragment w.plain "a\nb" false = .done es := w.fragment_of_ok hread false
  have hbare : w.fragment w.plain "a\nb" true = .done fs := w.fragment_of_ok hread true
  refine ⟨.plain, hfull, hbare, ?_, hleads .plain _ hread⟩
  obtain ⟨e, he, -⟩ | ⟨es', fs', -, hes, hfs, -, -, hloses⟩ := hruns
  · cases hread.symm.trans he
  · obtain rfl : es = es' := congrArg Emission.events (hfull.symm.trans hes)
    obtain rfl : fs = fs' := congrArg Emission.events (hbare.symm.trans hfs)
    exact hloses .plain

end Walker

end DocStream

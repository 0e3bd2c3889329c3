import DocStream.Proofs.BlankText
import DocStream.Proofs.BodyReading

/-! The white space of a fragment that was read from a body. At any depth a text shows something and
its blanks are single spaces, and a paragraph has no blanks at its edges: an edge is trimmed until
what stands there is no text, or a text that begins or ends with another character. -/

namespace DocStream

namespace FragmentNode

structure SpacedText (s : String) : Prop where
  ne_empty : s ≠ ""
  spaced : Text.Spaced s.toList

def FrontTrimmed (f : List FragmentNode) : Prop :=
  ∀ s, f.head? = some (text s) → ∀ c ∈ s.toList.head?, Text.isBlank c = false

def BackTrimmed (f : List FragmentNode) : Prop :=
  ∀ s, f.getLast? = some (text s) → ∀ c ∈ s.toList.getLast?, Text.isBlank c = false

mutual

def Tidy : FragmentNode → Prop
  | paragraph cs => (FrontTrimmed cs ∧ BackTrimmed cs) ∧ AllTidy cs
  | format _ cs => AllTidy cs
  | link _ cs => AllTidy cs
  | text s => SpacedText s
  | lineBreak => True

def AllTidy : List FragmentNode → Prop
  | [] => True
  | n :: ns => n.Tidy ∧ AllTidy ns

end

theorem allTidy_iff {ns : List FragmentNode} : AllTidy ns ↔ ∀ n ∈ ns, n.Tidy := by
  induction ns with
  | nil => simp [AllTidy]
  | cons n ns ih => simp [AllTidy, ih]

theorem allTidy_nil : AllTidy [] := trivial

theorem allTidy_append {ns ms : List FragmentNode} (hns : AllTidy ns) (hms : AllTidy ms) :
    AllTidy (ns ++ ms) :=
  allTidy_iff.2 (List.forall_mem_append.2 ⟨allTidy_iff.1 hns, allTidy_iff.1 hms⟩)

theorem SpacedText.of_isInfix {s t : String} (h : SpacedText s) (hne : t.isEmpty = false)
    (ht : t.toList <:+: s.toList) : SpacedText t where
  ne_empty heq := Bool.eq_false_iff.1 hne (String.isEmpty_iff.2 heq)
  spaced := h.spaced.of_isInfix ht

/-! ### Edges -/

theorem FrontTrimmed.of_append {f g : List FragmentNode} (h : FrontTrimmed (f ++ g)) :
    FrontTrimmed f := by
  intro s hs
  apply h s
  rw [List.head?_append, hs]
  rfl

theorem frontTrimmed_append {f g : List FragmentNode} (h : FrontTrimmed f) (hne : f ≠ []) :
    FrontTrimmed (f ++ g) := by
  cases f with
  | nil => exact absurd rfl hne
  | cons n f => exact h

theorem backTrimmed_reverse {f : List FragmentNode} :
    BackTrimmed f.reverse ↔
      ∀ s, f.head? = some (text s) → ∀ c ∈ s.toList.getLast?, Text.isBlank c = false := by
  rw [BackTrimmed, List.getLast?_reverse]

end FragmentNode

namespace Fragment.Html
open DocStream.Html FragmentNode

theorem allTidy_trim {f : Fragment} (h : AllTidy f) : AllTidy (trim f) :=
  allTidy_iff.2 (forall_mem_trim
    (fun s hs hne => SpacedText.of_isInfix hs hne (Text.trimStart_isSuffix s).isInfix)
    (fun s hs hne => SpacedText.of_isInfix hs hne (Text.trimEnd_isPrefix s).isInfix)
    (allTidy_iff.1 h))

theorem frontTrimmed_trimFront (f : Fragment) : FrontTrimmed (trimFront f) := by
  fun_induction trimFront f with
  | case1 =>
    intro u hu
    cases hu
  | case2 s ns t hempty ih => exact ih
  | case3 s ns t hkeep =>
    intro u hu
    obtain rfl : t = u := FragmentNode.text.inj (Option.some.inj hu)
    exact Text.head?_trimStart s
  | case4 n ns hn =>
    intro u hu
    exact absurd (Option.some.inj hu) (hn u)

theorem backTrimmed_reverse_trimBack (f : Fragment) : BackTrimmed (trimBack f).reverse := by
  rw [backTrimmed_reverse]
  fun_induction trimBack f with
  | case1 =>
    intro u hu
    cases hu
  | case2 s ns t hempty ih => exact ih
  | case3 s ns t hkeep =>
    intro u hu
    obtain rfl : t = u := FragmentNode.text.inj (Option.some.inj hu)
    exact Text.getLast?_trimEnd s
  | case4 n ns hn =>
    intro u hu
    exact absurd (Option.some.inj hu) (hn u)

/-- What is left of a text at the end is its beginning, so trimming the end leaves the front as it
is. -/
theorem frontTrimmed_reverse_trimBack {f : Fragment} (h : FrontTrimmed f.reverse) :
    FrontTrimmed (trimBack f).reverse := by
  fun_induction trimBack f with
  | case1 => exact h
  | case2 s ns t hempty ih =>
    rw [List.reverse_cons] at h
    exact ih h.of_append
  | case3 s ns t hkeep =>
    rw [List.reverse_cons] at h ⊢
    rcases eq_or_ne ns [] with rfl | hne
    · intro u hu c hc
      obtain rfl : t = u := FragmentNode.text.inj (Option.some.inj hu)
      obtain ⟨rest, hrest⟩ := Text.trimEnd_isPrefix s
      refine h s rfl c ?_
      rw [← hrest, List.head?_append, Option.mem_def.1 hc]
      rfl
    · exact frontTrimmed_append h.of_append (by simpa using hne)
  | case4 n ns hn => exact h

theorem frontTrimmed_trim (f : Fragment) : FrontTrimmed (trim f) := by
  apply frontTrimmed_reverse_trimBack
  rw [List.reverse_reverse]
  exact frontTrimmed_trimFront f

theorem tidy_paragraph {f : Fragment} (h : AllTidy f) : (FragmentNode.paragraph (trim f)).Tidy :=
  ⟨⟨frontTrimmed_trim f, backTrimmed_reverse_trimBack _⟩, allTidy_trim h⟩

theorem allTidy_paragraphOf {run : Fragment} (h : AllTidy run) : AllTidy (paragraphOf run) := by
  unfold paragraphOf
  dsimp only
  split
  · trivial
  · exact ⟨tidy_paragraph h, trivial⟩

/-! ### Bodies -/

mutual

theorem allTidy_inline : ∀ d : Dom, AllTidy (inline d)
  | .text s => by
    rw [inline]
    split
    · trivial
    next hne =>
      refine ⟨⟨fun h => hne (String.isEmpty_iff.2 h), ?_⟩, trivial⟩
      rw [Text.collapseBlanks, String.toList_ofList]
      exact Text.spaced_collapse s.toList
  | .comment => by
    rw [inline]
    trivial
  | .element name attributes children => by
    have hchildren : AllTidy (inlineAll children) := allTidy_inlineAll children
    have hspec := inline_spec name attributes children
    generalize inline (.element name attributes children) = f at hspec
    cases hspec with
    | styled hstyle => exact ⟨hchildren, trivial⟩
    | lineBreak => exact ⟨trivial, trivial⟩
    | link hlink => exact ⟨hchildren, trivial⟩
    | silent hsilent => trivial
    | content hstyle hbr hlink hsilent => exact hchildren

theorem allTidy_inlineAll : ∀ ds : List Dom, AllTidy (inlineAll ds)
  | [] => by
    rw [inlineAll]
    trivial
  | d :: ds => by
    rw [inlineAll]
    exact allTidy_append (allTidy_inline d) (allTidy_inlineAll ds)

end

mutual

theorem allTidy_ofBlock : ∀ d : Dom, AllTidy (ofBlock blocks d)
  | .text _ => trivial
  | .comment => trivial
  | .element name attributes children => by
    rw [ofBlock]
    split
    next =>
      rw [← inlineAll_eq_flatMap]
      exact ⟨tidy_paragraph (allTidy_inlineAll children), trivial⟩
    next => exact allTidy_blocksAfter allTidy_nil children

theorem allTidy_blocksAfter {run : Fragment} (h : AllTidy run) :
    ∀ ds : List Dom, AllTidy (blocksAfter run ds)
  | [] => by
    rw [blocksAfter_nil]
    exact allTidy_paragraphOf h
  | d :: ds => by
    cases hd : isBlock d with
    | true =>
      rw [blocksAfter_block hd]
      have hrest : AllTidy (blocks ds) := allTidy_blocksAfter allTidy_nil ds
      exact allTidy_append (allTidy_append (allTidy_paragraphOf h) (allTidy_ofBlock d)) hrest
    | false =>
      rw [blocksAfter_inline hd]
      exact allTidy_blocksAfter (allTidy_append h (allTidy_inline d)) ds

end

theorem blocks_tidy (ds : List Dom) : AllTidy (blocks ds) := allTidy_blocksAfter allTidy_nil ds

example :
    blocks [.text " \n", .comment, .text "\t", .element "em" [] [.text "\ta \n b "], .text " c\n"] =
      [.paragraph [.format .italic [.text " a b "], .text " c"]] := by rfl

end Fragment.Html

end DocStream

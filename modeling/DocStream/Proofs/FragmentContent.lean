import DocStream.Fragment.Html
import DocStream.Fragment.Plain
import DocStream.Reclassify

/-! What the readers of texts leave in a fragment. A body read as HTML becomes paragraphs that hold
no further paragraph at any depth, wherever the `p` elements stand in it; a plain text becomes one
paragraph of lines. Changing the links keeps all that. -/

namespace DocStream

namespace FragmentNode

def IsLeaf : FragmentNode → Prop
  | text _ => True
  | lineBreak => True
  | _ => False

mutual

def IsPhrasing : FragmentNode → Prop
  | paragraph _ => False
  | format _ cs => AllPhrasing cs
  | link _ cs => AllPhrasing cs
  | text _ => True
  | lineBreak => True

def AllPhrasing : List FragmentNode → Prop
  | [] => True
  | n :: ns => n.IsPhrasing ∧ AllPhrasing ns

end

def IsFlow (n : FragmentNode) : Prop := ∃ cs, n = paragraph cs ∧ AllPhrasing cs

theorem allPhrasing_iff {ns : List FragmentNode} :
    AllPhrasing ns ↔ ∀ n ∈ ns, n.IsPhrasing := by
  induction ns with
  | nil => simp [AllPhrasing]
  | cons n ns ih => simp [AllPhrasing, ih]

theorem allPhrasing_nil : AllPhrasing [] := trivial

theorem allPhrasing_append {ns ms : List FragmentNode} (hns : AllPhrasing ns)
    (hms : AllPhrasing ms) : AllPhrasing (ns ++ ms) :=
  allPhrasing_iff.2 (List.forall_mem_append.2 ⟨allPhrasing_iff.1 hns, allPhrasing_iff.1 hms⟩)

theorem allPhrasing_singleton {n : FragmentNode} (h : n.IsPhrasing) : AllPhrasing [n] :=
  ⟨h, trivial⟩

/-! ### Changed links -/

section
variable {σ : Type} {change : σ → Link → σ × Link}

theorem forall_mem_mapAllFrom {P : FragmentNode → Prop}
    (hP : ∀ s n, P n → P (mapLinksFrom change s n).2) (s : σ) {ns : List FragmentNode}
    (h : ∀ n ∈ ns, P n) : ∀ n ∈ (mapAllFrom change s ns).2, P n := by
  induction ns generalizing s with
  | nil => exact nofun
  | cons n ns ih =>
    rw [List.forall_mem_cons] at h
    exact List.forall_mem_cons.2 ⟨hP s n h.1, ih _ h.2⟩

mutual

theorem isPhrasing_mapLinksFrom (s : σ) :
    ∀ n : FragmentNode, n.IsPhrasing → (mapLinksFrom change s n).2.IsPhrasing
  | paragraph _, h => h.elim
  | format _ cs, h => allPhrasing_mapAllFrom s cs h
  | link _ cs, h => allPhrasing_mapAllFrom _ cs h
  | text _, _ => trivial
  | lineBreak, _ => trivial

theorem allPhrasing_mapAllFrom (s : σ) :
    ∀ ns : List FragmentNode, AllPhrasing ns → AllPhrasing (mapAllFrom change s ns).2
  | [], _ => trivial
  | n :: ns, h => ⟨isPhrasing_mapLinksFrom s n h.1, allPhrasing_mapAllFrom _ ns h.2⟩

end

theorem isFlow_mapLinksFrom (s : σ) (n : FragmentNode) (h : n.IsFlow) :
    (mapLinksFrom change s n).2.IsFlow := by
  obtain ⟨cs, rfl, hcs⟩ := h
  exact ⟨(mapAllFrom change s cs).2, rfl, allPhrasing_mapAllFrom s cs hcs⟩

theorem isLeaf_mapLinksFrom (s : σ) (n : FragmentNode) (h : n.IsLeaf) :
    (mapLinksFrom change s n).2.IsLeaf := by
  cases n with
  | text t => trivial
  | lineBreak => trivial
  | paragraph cs => cases h
  | format style cs => cases h
  | link head cs => cases h

end

end FragmentNode

namespace Fragment
open FragmentNode

theorem forall_mem_reclassify {P : FragmentNode → Prop} {f : Fragment} (wiki : Bool)
    (hP : ∀ n, P n → P (n.mapLinksFrom (fun (_ : Unit) l => ((), l.reclassify wiki)) ()).2)
    (h : ∀ n ∈ f, P n) : ∀ n ∈ f.reclassify wiki, P n :=
  forall_mem_mapAllFrom (fun _ => hP) () h

theorem forall_mem_stripWrapper {f : Fragment} (h : ∀ n ∈ f, n.IsFlow) :
    ∀ n ∈ f.stripWrapper, n.IsFlow ∨ n.IsPhrasing := by
  cases f with
  | nil => exact nofun
  | cons n ns =>
    rw [List.forall_mem_cons] at h
    obtain ⟨⟨cs, rfl, hcs⟩, hns⟩ := h
    refine List.forall_mem_append.2 ⟨fun m hm => .inr ?_, fun m hm => .inl (hns m hm)⟩
    exact allPhrasing_iff.1 hcs m hm

namespace Html
open DocStream.Html

/-! ### Bodies -/

mutual

theorem allPhrasing_inline : ∀ d : Dom, AllPhrasing (inline d)
  | .text s => by
    rw [inline]
    split
    · trivial
    · exact allPhrasing_singleton trivial
  | .comment => by
    rw [inline]
    trivial
  | .element name attributes children => by
    have hchildren : AllPhrasing (inlineAll children) := allPhrasing_inlineAll children
    rw [inline]
    split
    · exact allPhrasing_singleton hchildren
    split
    · exact allPhrasing_singleton trivial
    split
    · split
      · exact allPhrasing_singleton hchildren
      · exact hchildren
    split
    · trivial
    · exact hchildren

theorem allPhrasing_inlineAll : ∀ ds : List Dom, AllPhrasing (inlineAll ds)
  | [] => by
    rw [inlineAll]
    trivial
  | d :: ds => by
    rw [inlineAll]
    exact allPhrasing_append (allPhrasing_inline d) (allPhrasing_inlineAll ds)

end

section
variable {P : FragmentNode → Prop}

theorem forall_mem_trimFront
    (hP : ∀ s, P (.text s) → (Text.trimStart s).isEmpty = false → P (.text (Text.trimStart s)))
    {f : Fragment} (h : ∀ n ∈ f, P n) : ∀ n ∈ trimFront f, P n := by
  fun_induction trimFront f with
  | case1 => exact h
  | case2 s ns t hempty ih => exact ih (List.forall_mem_cons.1 h).2
  | case3 s ns t hkeep =>
    obtain ⟨htext, hns⟩ := List.forall_mem_cons.1 h
    exact List.forall_mem_cons.2 ⟨hP s htext (Bool.eq_false_iff.2 hkeep), hns⟩
  | case4 n ns hn => exact h

theorem forall_mem_trimBack
    (hP : ∀ s, P (.text s) → (Text.trimEnd s).isEmpty = false → P (.text (Text.trimEnd s)))
    {f : Fragment} (h : ∀ n ∈ f, P n) : ∀ n ∈ trimBack f, P n := by
  fun_induction trimBack f with
  | case1 => exact h
  | case2 s ns t hempty ih => exact ih (List.forall_mem_cons.1 h).2
  | case3 s ns t hkeep =>
    obtain ⟨htext, hns⟩ := List.forall_mem_cons.1 h
    exact List.forall_mem_cons.2 ⟨hP s htext (Bool.eq_false_iff.2 hkeep), hns⟩
  | case4 n ns hn => exact h

theorem forall_mem_trim
    (hstart : ∀ s, P (.text s) → (Text.trimStart s).isEmpty = false → P (.text (Text.trimStart s)))
    (hend : ∀ s, P (.text s) → (Text.trimEnd s).isEmpty = false → P (.text (Text.trimEnd s)))
    {f : Fragment} (h : ∀ n ∈ f, P n) : ∀ n ∈ trim f, P n := by
  have hfront : ∀ n ∈ (trimFront f).reverse, P n := fun n hn =>
    forall_mem_trimFront hstart h n (List.mem_reverse.1 hn)
  exact fun n hn => forall_mem_trimBack hend hfront n (List.mem_reverse.1 hn)

end

theorem allPhrasing_trim {f : Fragment} (h : AllPhrasing f) : AllPhrasing (trim f) :=
  allPhrasing_iff.2
    (forall_mem_trim (fun _ _ _ => trivial) (fun _ _ _ => trivial) (allPhrasing_iff.1 h))

theorem forall_mem_paragraphOf {run : Fragment} (h : AllPhrasing run) :
    ∀ n ∈ paragraphOf run, n.IsFlow := by
  unfold paragraphOf
  dsimp only
  split
  · exact nofun
  · rw [List.forall_mem_singleton]
    exact ⟨trim run, rfl, allPhrasing_trim h⟩

mutual

theorem block_content {run : Fragment} (h : AllPhrasing run) :
    ∀ d : Dom, (∀ n ∈ (block run d).1, n.IsFlow) ∧ AllPhrasing (block run d).2
  | .text s => by
    rw [block]
    · exact ⟨nofun, allPhrasing_append h (allPhrasing_inline _)⟩
    · exact nofun
  | .comment => by
    rw [block]
    · exact ⟨nofun, allPhrasing_append h (allPhrasing_inline _)⟩
    · exact nofun
  | .element name attributes children => by
    rw [block]
    split
    · -- A paragraph element: what ran on before it is closed, and what is inside is all phrasing.
      refine ⟨List.forall_mem_append.2 ⟨forall_mem_paragraphOf h, ?_⟩, trivial⟩
      rw [List.forall_mem_singleton]
      exact ⟨_, rfl, allPhrasing_trim (allPhrasing_inlineAll children)⟩
    split
    · obtain ⟨hdone, hrest⟩ := blocksFrom_content allPhrasing_nil children
      refine ⟨?_, trivial⟩
      simp only [List.forall_mem_append]
      exact ⟨⟨forall_mem_paragraphOf h, hdone⟩, forall_mem_paragraphOf hrest⟩
    · exact ⟨nofun, allPhrasing_append h (allPhrasing_inline _)⟩

theorem blocksFrom_content {run : Fragment} (h : AllPhrasing run) :
    ∀ ds : List Dom,
      (∀ n ∈ (blocksFrom run ds).1, n.IsFlow) ∧ AllPhrasing (blocksFrom run ds).2
  | [] => by
    rw [blocksFrom]
    exact ⟨nofun, h⟩
  | d :: ds => by
    obtain ⟨hdone, hrun⟩ := block_content h d
    obtain ⟨hmore, hrest⟩ := blocksFrom_content hrun ds
    rw [blocksFrom]
    exact ⟨List.forall_mem_append.2 ⟨hdone, hmore⟩, hrest⟩

end

theorem forall_mem_blocks (ds : List Dom) : ∀ n ∈ blocks ds, n.IsFlow := by
  obtain ⟨hdone, hrest⟩ := blocksFrom_content allPhrasing_nil ds
  exact List.forall_mem_append.2 ⟨hdone, forall_mem_paragraphOf hrest⟩

/-- What the reader accepts is the content of some body, whichever. -/
def ReadsBodies (read : FragmentReader) : Prop :=
  ∀ text f, read text = .ok f → ∃ body : List Dom, f = blocks body

theorem readsBodies_reader (strict : Bool) : ReadsBodies (reader strict) := by
  intro text f h
  simp only [reader] at h
  split at h
  · cases h
  · exact ⟨_, (Except.ok.inj h).symm⟩

end Html

namespace Plain

theorem forall_mem_lineNodes (line : String) : ∀ n ∈ lineNodes line, n.IsLeaf := by
  unfold lineNodes
  split
  · exact nofun
  · simp [IsLeaf]

theorem forall_mem_joinLines (ls : List String) : ∀ n ∈ joinLines ls, n.IsLeaf := by
  fun_induction joinLines ls with
  | case1 => exact nofun
  | case2 l => exact forall_mem_lineNodes l
  | case3 l ls hls ih =>
    rw [List.forall_mem_append, List.forall_mem_cons]
    exact ⟨forall_mem_lineNodes l, trivial, ih⟩

theorem forall_mem_stripWrapper_read (text : String) :
    ∀ n ∈ (read text).stripWrapper, n.IsLeaf := by
  unfold read
  split
  · exact nofun
  · simpa [stripWrapper, children] using forall_mem_joinLines (Text.lines text)

end Plain

end Fragment

end DocStream

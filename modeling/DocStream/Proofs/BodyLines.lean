import DocStream.Proofs.BodyReading
import DocStream.Proofs.TextSeams

/-! Doubled blanks in what a body becomes. A comment, an element that is left out or the edge of one
that is nothing but its content keeps two texts of a body apart that come to stand in a row. If a
blank ends the first and a blank begins the second, both stay. So a body has single blanks
throughout exactly when its texts do not meet like this in any of its lines, blank texts at the
edges of a paragraph not counted. -/

namespace DocStream

namespace Fragment.Html
open DocStream.Html FragmentNode

/-! ### Trimming -/

/-- The first nodes are left out as long as they are blank texts, and then at most one more text is
changed. -/
inductive Trims (key : String → Bool) : Fragment → Fragment → Prop where
  | nil : Trims key [] []
  | blank {s : String} {ns ms : Fragment} (hs : Text.isAllBlank s = true) (h : Trims key ns ms) :
    Trims key (.text s :: ns) ms
  | text {s t : String} {ns : Fragment} (hs : Text.isAllBlank s = false)
    (ht : Text.isAllBlank t = false) (hkey : key t = key s) :
    Trims key (.text s :: ns) (.text t :: ns)
  | other {n : FragmentNode} {ns : Fragment} (hn : textOf n = none) : Trims key (n :: ns) (n :: ns)

theorem trims_other {n : FragmentNode} (hn : ∀ s, n ≠ .text s) (key : String → Bool)
    (ns : Fragment) : Trims key (n :: ns) (n :: ns) := by
  apply Trims.other
  cases n with
  | text s => exact absurd rfl (hn s)
  | _ => rfl

theorem trims_trimFront (f : Fragment) : Trims Text.endsBlank f (trimFront f) := by
  fun_induction trimFront f with
  | case1 => exact .nil
  | case2 s ns t hempty ih => exact .blank ((Text.isEmpty_trimStart s).symm.trans hempty) ih
  | case3 s ns t hkeep =>
    have hs : Text.isAllBlank s = false :=
      (Text.isEmpty_trimStart s).symm.trans (Bool.eq_false_iff.2 hkeep)
    exact .text hs ((Text.isAllBlank_trimStart s).trans hs) (Text.endsBlank_trimStart hs)
  | case4 n ns hn => exact trims_other hn Text.endsBlank ns

theorem trims_trimBack (f : Fragment) : Trims Text.beginsBlank f (trimBack f) := by
  fun_induction trimBack f with
  | case1 => exact .nil
  | case2 s ns t hempty ih => exact .blank ((Text.isEmpty_trimEnd s).symm.trans hempty) ih
  | case3 s ns t hkeep =>
    have hs : Text.isAllBlank s = false :=
      (Text.isEmpty_trimEnd s).symm.trans (Bool.eq_false_iff.2 hkeep)
    exact .text hs ((Text.isAllBlank_trimEnd s).trans hs) (Text.beginsBlank_trimEnd hs)
  | case4 n ns hn => exact trims_other hn Text.beginsBlank ns

section
variable {key : String → Bool} {f g : Fragment}

theorem Trims.sameFront (h : Trims key f g) :
    (lineOf g).SameFront key ((lineOf f).dropWhile Line.isBlankText) := by
  induction h with
  | nil => exact .nil
  | @blank s ns ms hs h ih =>
    have hblank : Line.isBlankText (textOf (.text s)) = true := hs
    rwa [lineOf_cons, List.dropWhile_cons_of_pos hblank]
  | @text s t ns hs ht hkey =>
    have hkeep : Line.isBlankText (textOf (.text s)) = false := hs
    have hleft : Line.isBlankText (textOf (.text t)) = false := ht
    rw [lineOf_cons, lineOf_cons, List.dropWhile_cons_of_neg (Bool.eq_false_iff.1 hkeep)]
    exact .cons hleft hkeep hkey _
  | @other n ns hn =>
    have hkeep : Line.isBlankText (textOf n) = false := by
      rw [hn]
      rfl
    rw [lineOf_cons, List.dropWhile_cons_of_neg (Bool.eq_false_iff.1 hkeep)]
    exact .cons hkeep hkeep rfl _

theorem Trims.allInContainers_iff {P : List FragmentNode → Prop} (h : Trims key f g) :
    AllInContainers P g ↔ AllInContainers P f := by
  induction h with
  | nil => rfl
  | blank hs h ih => simp [AllInContainers, InContainers, ih]
  | text hs ht hkey => rfl
  | other hn => rfl

end

theorem seamless_trim (f : Fragment) :
    (lineOf (trim f)).Seamless ↔ (lineOf f).inner.Seamless := by
  have hreverse (ns : Fragment) : lineOf ns.reverse = (lineOf ns).reverse := List.map_reverse
  have hback := (trims_trimBack (trimFront f).reverse).sameFront
  rw [hreverse] at hback
  rw [trim, hreverse]
  exact Line.seamless_iff_inner (trims_trimFront f).sameFront hback

theorem allInContainers_trim {P : List FragmentNode → Prop} (f : Fragment) :
    AllInContainers P (trim f) ↔ AllInContainers P f := by
  have hreverse (ns : Fragment) : AllInContainers P ns.reverse ↔ AllInContainers P ns := by
    simp [FragmentNode.allInContainers_iff]
  rw [trim, hreverse, (trims_trimBack _).allInContainers_iff, hreverse,
    (trims_trimFront f).allInContainers_iff]

/-! ### Lines of a body -/

mutual

/-- What stands in a line: texts, and whatever else shows. Elements that are nothing but their
content leave no trace. -/
def inLine : Dom → Line
  | .text s => if s.isEmpty then [] else [some s]
  | .comment => []
  | .element name attributes children =>
    if name ∈ silentElements then []
    else if name = "br" || (mark name attributes).isSome then [none]
    else inLineAll children

def inLineAll : List Dom → Line
  | [] => []
  | d :: ds => inLine d ++ inLineAll ds

end

inductive MarkedIn : Dom → List Dom → Prop where
  | here {name : String} {attributes : List DocStream.Html.Attribute} {children : List Dom}
    {c : Container} (hmark : mark name attributes = some c) :
    MarkedIn (.element name attributes children) children
  | inside {name : String} {attributes : List DocStream.Html.Attribute} {children : List Dom}
    {d : Dom} {es : List Dom} (hsilent : name ∉ silentElements) (hbr : name ≠ "br")
    (hd : d ∈ children) (h : MarkedIn d es) : MarkedIn (.element name attributes children) es

/-- The content of a paragraph: what stands between two blocks, or in a `p`, also in a container. -/
inductive ParagraphOf : List Dom → List Dom → Prop where
  | run {ds run : List Dom} (hmem : run ∈ pieces ds) (hrun : ∀ d ∈ run, isBlock d = false) :
    ParagraphOf ds run
  | explicit {ds : List Dom} {attributes : List DocStream.Html.Attribute} {children : List Dom}
    (hmem : .element "p" attributes children ∈ ds) : ParagraphOf ds children
  | inside {ds : List Dom} {name : String} {attributes : List DocStream.Html.Attribute}
    {children run : List Dom} (hmem : .element name attributes children ∈ ds) (hp : name ≠ "p")
    (hname : name ∈ blockNames) (h : ParagraphOf children run) : ParagraphOf ds run

theorem mark_of_silent {name : String} (h : name ∈ silentElements)
    (attributes : List DocStream.Html.Attribute) : mark name attributes = none := by
  have ha : ∀ name ∈ silentElements, name ≠ "a" := by decide
  exact mark_eq_none attributes (lookup_of_silent name h) fun heq => absurd heq (ha name h)

theorem inLine_marked {name : String} {attributes : List DocStream.Html.Attribute}
    (children : List Dom) (h : (mark name attributes).isSome = true) :
    inLine (.element name attributes children) = [none] := by
  have hsilent : name ∉ silentElements := by
    intro hsilent
    rw [mark_of_silent hsilent attributes] at h
    cases h
  rw [inLine, if_neg hsilent, if_pos (by simp [h])]

mutual

theorem lineOf_inline : ∀ d : Dom,
    lineOf (inline d) = (inLine d).map (Option.map Text.collapseBlanks)
  | .text s => by
    have hempty : (Text.collapseBlanks s).isEmpty = s.isEmpty := by
      rw [← Text.isEmpty_toList, ← Text.isEmpty_toList, Text.collapseBlanks, String.toList_ofList,
        Bool.eq_iff_iff, List.isEmpty_iff, List.isEmpty_iff, Text.collapse_eq_nil_iff]
    rw [inline, inLine, hempty]
    split
    · rfl
    · rfl
  | .comment => by
    rw [inline, inLine]
    rfl
  | .element name attributes children => by
    have hchildren := lineOf_inlineAll children
    have hspec := inline_spec name attributes children
    generalize inline (.element name attributes children) = f at hspec
    cases hspec with
    | styled hstyle =>
      have hmark := mark_of_lookup attributes hstyle
      rw [inLine_marked children (by rw [hmark]; rfl)]
      rfl
    | lineBreak =>
      rw [inLine, if_neg (by decide), if_pos (by simp)]
      rfl
    | link hlink =>
      rw [inLine_marked children (by rw [mark_anchor, hlink]; rfl)]
      rfl
    | silent hsilent =>
      rw [inLine, if_pos hsilent]
      rfl
    | content hstyle hbr hlink hsilent =>
      have hmark := mark_eq_none attributes hstyle hlink
      rw [inLine, if_neg hsilent, if_neg (by simp [hbr, hmark]), hchildren]

theorem lineOf_inlineAll : ∀ ds : List Dom,
    lineOf (inlineAll ds) = (inLineAll ds).map (Option.map Text.collapseBlanks)
  | [] => by
    rw [inlineAll, inLineAll]
    rfl
  | d :: ds => by
    rw [inlineAll, inLineAll, lineOf, List.map_append, List.map_append]
    exact congrArg₂ (· ++ ·) (lineOf_inline d) (lineOf_inlineAll ds)

end

/-! ### Containers -/

section
variable {name : String} {attributes : List DocStream.Html.Attribute} {children es : List Dom}
  {P : List FragmentNode → Prop}

theorem MarkedIn.cases (h : MarkedIn (.element name attributes children) es) :
    (mark name attributes).isSome = true ∧ es = children ∨
      name ∉ silentElements ∧ name ≠ "br" ∧ ∃ d ∈ children, MarkedIn d es := by
  cases h with
  | here hmark => exact .inl ⟨by rw [hmark]; rfl, rfl⟩
  | inside hsilent hbr hd h => exact .inr ⟨hsilent, hbr, _, hd, h⟩

theorem forall_markedIn_marked {c : Container} (hmark : mark name attributes = some c)
    (hsilent : name ∉ silentElements) (hbr : name ≠ "br") :
    (∀ es, MarkedIn (.element name attributes children) es → P (inlineAll es)) ↔
      P (inlineAll children) ∧ ∀ d ∈ children, ∀ es, MarkedIn d es → P (inlineAll es) := by
  constructor
  · intro h
    exact ⟨h children (.here hmark), fun d hd es hes => h es (.inside hsilent hbr hd hes)⟩
  · rintro ⟨hhere, hinside⟩ es hes
    obtain ⟨-, rfl⟩ | ⟨-, -, d, hd, hes⟩ := hes.cases
    · exact hhere
    · exact hinside d hd es hes

theorem forall_markedIn_content (hmark : mark name attributes = none)
    (hsilent : name ∉ silentElements) (hbr : name ≠ "br") :
    (∀ es, MarkedIn (.element name attributes children) es → P (inlineAll es)) ↔
      ∀ d ∈ children, ∀ es, MarkedIn d es → P (inlineAll es) := by
  constructor
  · exact fun h d hd es hes => h es (.inside hsilent hbr hd hes)
  · rintro h es hes
    obtain ⟨hsome, -⟩ | ⟨-, -, d, hd, hes⟩ := hes.cases
    · rw [hmark] at hsome
      cases hsome
    · exact h d hd es hes

theorem not_markedIn (hmark : mark name attributes = none)
    (hleft : name ∈ silentElements ∨ name = "br") :
    ¬MarkedIn (.element name attributes children) es := by
  intro h
  obtain ⟨hsome, -⟩ | ⟨hsilent, hbr, -⟩ := h.cases
  · rw [hmark] at hsome
    cases hsome
  · exact hleft.elim hsilent hbr

end

section
variable {P : List FragmentNode → Prop}

mutual

theorem allInContainers_inline : ∀ d : Dom,
    AllInContainers P (inline d) ↔ ∀ es, MarkedIn d es → P (inlineAll es)
  | .text s => by
    rw [inline]
    split
    · exact iff_of_true trivial nofun
    · exact iff_of_true ⟨trivial, trivial⟩ nofun
  | .comment => by
    rw [inline]
    exact iff_of_true trivial nofun
  | .element name attributes children => by
    have hchildren := allInContainers_inlineAll children
    have hspec := inline_spec name attributes children
    generalize inline (.element name attributes children) = f at hspec
    cases hspec with
    | styled hstyle =>
      obtain ⟨hsilent, hbr⟩ := name_of_lookup hstyle
      rw [forall_markedIn_marked (mark_of_lookup attributes hstyle) hsilent hbr, ← hchildren]
      exact and_iff_left trivial
    | lineBreak =>
      have hmark : mark "br" attributes = none := rfl
      exact iff_of_true ⟨trivial, trivial⟩ fun es hes => absurd hes (not_markedIn hmark (.inr rfl))
    | @link h hlink =>
      have hmark : mark "a" attributes = some (.link h) := by rw [mark_anchor, hlink]; rfl
      rw [forall_markedIn_marked hmark (by decide) (by decide), ← hchildren]
      exact and_iff_left trivial
    | silent hsilent =>
      have hmark := mark_of_silent hsilent attributes
      exact iff_of_true trivial fun es hes => absurd hes (not_markedIn hmark (.inl hsilent))
    | content hstyle hbr hlink hsilent =>
      have hmark := mark_eq_none attributes hstyle hlink
      rw [forall_markedIn_content hmark hsilent hbr, ← hchildren]

theorem allInContainers_inlineAll : ∀ ds : List Dom,
    AllInContainers P (inlineAll ds) ↔ ∀ d ∈ ds, ∀ es, MarkedIn d es → P (inlineAll es)
  | [] => by
    rw [inlineAll]
    exact iff_of_true trivial nofun
  | d :: ds => by
    rw [inlineAll, List.forall_mem_cons, ← allInContainers_inline d,
      ← allInContainers_inlineAll ds, allInContainers_append]

end

theorem cases_of_mem_pieces {ds piece : List Dom} (h : piece ∈ pieces ds) :
    (∃ d ∈ ds, isBlock d = true ∧ piece = [d]) ∨ ∀ d ∈ piece, isBlock d = false := by
  have hchain : piece.IsChain fun d e => (!isBlock d && !isBlock e) = true :=
    List.isChain_of_mem_splitBy h
  have hlong (d e : Dom) (rest : List Dom)
      (hrest : (d :: e :: rest).IsChain fun d e => (!isBlock d && !isBlock e) = true) :
      ∀ x ∈ d :: e :: rest, isBlock x = false := by
    induction rest generalizing d e with
    | nil => simpa using hrest
    | cons x rest ih =>
      obtain ⟨hde, hrest⟩ := List.isChain_cons_cons.1 hrest
      have hd : isBlock d = false := by simp_all
      exact List.forall_mem_cons.2 ⟨hd, ih e x hrest⟩
  match piece with
  | [] => exact .inr nofun
  | [d] =>
    cases hd : isBlock d with
    | true => exact .inl ⟨d, mem_of_mem_pieces h List.mem_cons_self, hd, rfl⟩
    | false => exact .inr (List.forall_mem_singleton.2 hd)
  | d :: e :: rest => exact .inr (hlong d e rest hchain)

theorem mem_pieces_of_isBlock {ds : List Dom} {d : Dom} (hd : d ∈ ds) (h : isBlock d = true) :
    [d] ∈ pieces ds := by
  obtain ⟨xs, ys, rfl⟩ := List.append_of_mem hd
  rw [pieces_append_block h]
  simp

theorem allInContainers_ofRun (hnil : P []) (run : List Dom) :
    AllInContainers P (ofRun run) ↔
      P (trim (inlineAll run)) ∧ AllInContainers P (inlineAll run) := by
  rw [← allInContainers_trim (inlineAll run), inlineAll_eq_flatMap, ofRun]
  cases trim (run.flatMap inline) with
  | nil => exact iff_of_true trivial ⟨hnil, trivial⟩
  | cons n f => exact and_iff_left trivial

theorem allInContainers_paragraph (children : List Dom) :
    AllInContainers P [.paragraph (trim (children.flatMap inline))] ↔
      P (trim (inlineAll children)) ∧ AllInContainers P (inlineAll children) := by
  rw [← allInContainers_trim (inlineAll children), inlineAll_eq_flatMap]
  exact and_iff_left trivial

theorem allInContainers_blocks_iff (hnil : P []) (ds : List Dom) :
    AllInContainers P (blocks ds) ↔
      ∀ run, ParagraphOf ds run →
        P (trim (inlineAll run)) ∧ AllInContainers P (inlineAll run) := by
  have hinside {name : String} {attributes : List DocStream.Html.Attribute} {children : List Dom}
      (hmem : .element name attributes children ∈ ds) :
      AllInContainers P (blocks children) ↔ ∀ run, ParagraphOf children run →
        P (trim (inlineAll run)) ∧ AllInContainers P (inlineAll run) := by
    have hlt := List.sizeOf_lt_of_mem hmem
    rw [Dom.element.sizeOf_spec] at hlt
    have hsmaller : sizeOf children < sizeOf ds := by omega
    exact allInContainers_blocks_iff hnil children
  rw [blocks_eq_pieces, allInContainers_flatMap]
  constructor
  · intro h run hrun
    cases hrun with
    | run hmem hrun =>
      have hpiece := h run hmem
      rwa [ofPiece_of_run blocks hrun, allInContainers_ofRun hnil] at hpiece
    | explicit hmem =>
      have hpiece := h _ (mem_pieces_of_isBlock hmem rfl)
      rwa [ofPiece_block blocks rfl, ofBlock, if_pos rfl, allInContainers_paragraph] at hpiece
    | @inside ds name attributes children run hmem hp hname hrun =>
      have hblock : isBlock (.element name attributes children) = true := by simp [isBlock, hname]
      have hpiece := h _ (mem_pieces_of_isBlock hmem hblock)
      rw [ofPiece_block blocks hblock, ofBlock, if_neg hp] at hpiece
      exact (hinside hmem).1 hpiece run hrun
  · intro h piece hpiece
    obtain ⟨d, hd, hblock, rfl⟩ | hrun := cases_of_mem_pieces hpiece
    · rw [ofPiece_block blocks hblock]
      cases d with
      | text s => cases hblock
      | comment => cases hblock
      | element name attributes children =>
        rw [ofBlock]
        split
        next hp =>
          subst hp
          rw [allInContainers_paragraph]
          exact h children (.explicit hd)
        next hp =>
          have hname : name ∈ blockNames := by simpa [isBlock, hp] using hblock
          exact (hinside hd).2 fun run hrun => h run (.inside hd hp hname hrun)
    · rw [ofPiece_of_run blocks hrun, allInContainers_ofRun hnil]
      exact h piece (.run hpiece hrun)
termination_by sizeOf ds

end

/-- The texts of a body have single blanks in a row, in every container, exactly when no two of them
meet with blanks in the inner part of a paragraph's line or in the line of a style or a link. -/
theorem blocks_collapsed_iff (ds : List Dom) :
    AllInContainers Collapsed (blocks ds) ↔
      ∀ run, ParagraphOf ds run →
        (inLineAll run).inner.Seamless ∧
          ∀ d ∈ run, ∀ es, MarkedIn d es → (inLineAll es).Seamless := by
  have htidy : AllTidy (blocks ds) := allTidy_blocksAfter allTidy_nil ds
  rw [allInContainers_congr (fun _ => collapsed_iff_seamless) (blocks ds) htidy,
    allInContainers_blocks_iff .nil]
  refine forall₂_congr fun run _ => and_congr ?_ ?_
  · rw [seamless_trim, lineOf_inlineAll, Line.inner_map_collapseBlanks,
      Line.seamless_map_collapseBlanks]
  · rw [allInContainers_inlineAll]
    refine forall₄_congr fun d _ es _ => ?_
    rw [lineOf_inlineAll, Line.seamless_map_collapseBlanks]

/-- A comment between two blanks is not seen, and both of them stay. -/
theorem blocks_doubled :
    ¬AllInContainers Collapsed (blocks [.text "a ", .comment, .text " b"]) := by
  have hblocks : blocks [.text "a ", .comment, .text " b"] =
      [.paragraph [.text "a ", .text " b"]] := by rfl
  rw [hblocks]
  rintro ⟨⟨hcollapsed, -⟩, -⟩
  have hsingle : Text.Single "a  b".toList := hcollapsed ["a ", " b"] List.infix_rfl
  have hdouble : ¬Text.Single "a  b".toList := by
    rw [Text.Single]
    decide
  exact hdouble hsingle

end Fragment.Html

end DocStream

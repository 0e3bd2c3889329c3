import DocStream.Fragment.Html
import Mathlib.Data.List.Pairwise
import Mathlib.Data.List.SplitBy

/-! Where the paragraphs of a body begin and end. A block cuts the text that runs on before it, so a
body falls into pieces, each block on its own and each run between two blocks, and its paragraphs
are those of the pieces. -/

namespace DocStream.Fragment.Html
open DocStream.Html

def isBlock : Dom → Bool
  | .element name _ _ => name = "p" || blockNames.contains name
  | _ => false

/-- Neighbours stay together unless one of them is a block. -/
def pieces (ds : List Dom) : List (List Dom) := ds.splitBy fun d e => !isBlock d && !isBlock e

/-- What runs on between two blocks is one paragraph, or none if trimming leaves nothing of it. -/
def ofRun (run : List Dom) : Fragment :=
  let f := trim (run.flatMap inline)
  if f.isEmpty then [] else [.paragraph f]

def ofBlock (inside : List Dom → Fragment) : Dom → Fragment
  | .element name _ children =>
    if name = "p" then [.paragraph (trim (children.flatMap inline))] else inside children
  | _ => []

def ofPiece (inside : List Dom → Fragment) : List Dom → Fragment
  | [d] => if isBlock d then ofBlock inside d else ofRun [d]
  | run => ofRun run

/-! ### Pieces -/

theorem pieces_append_block {d : Dom} (h : isBlock d = true) (xs ys : List Dom) :
    pieces (xs ++ d :: ys) = pieces xs ++ [d] :: pieces ys := by
  have hbefore : ∀ x ∈ xs.getLast?, (!isBlock x && !isBlock d) = false := by simp [h]
  have hafter : ∀ x ∈ [d].getLast?, ∀ y ∈ ys.head?, (!isBlock x && !isBlock y) = false := by
    simp [h]
  have hcut : pieces (d :: ys) = [d] :: pieces ys := List.splitBy_append hafter
  rw [← hcut]
  exact List.splitBy_append_cons ys hbefore

theorem pieces_of_run {run : List Dom} (hne : run ≠ []) (h : ∀ d ∈ run, isBlock d = false) :
    pieces run = [run] := by
  apply List.splitBy_of_isChain hne
  apply List.Pairwise.isChain
  apply List.pairwise_of_forall_mem_list
  intro d hd e he
  simp [h d hd, h e he]

theorem mem_of_mem_pieces {ds piece : List Dom} {d : Dom} (hpiece : piece ∈ pieces ds)
    (hd : d ∈ piece) : d ∈ ds := by
  have hjoin : (pieces ds).flatten = ds := List.flatten_splitBy _ ds
  rw [← hjoin]
  exact List.mem_flatten_of_mem hpiece hd

theorem ofPiece_of_run (inside : List Dom → Fragment) {run : List Dom}
    (h : ∀ d ∈ run, isBlock d = false) : ofPiece inside run = ofRun run := by
  unfold ofPiece
  split
  next d => rw [if_neg (by simp [h d])]
  next => rfl

theorem ofPiece_block (inside : List Dom → Fragment) {d : Dom} (h : isBlock d = true) :
    ofPiece inside [d] = ofBlock inside d := if_pos h

/-! ### Reading with a run before -/

theorem inlineAll_eq_flatMap (ds : List Dom) : inlineAll ds = ds.flatMap inline := by
  induction ds with
  | nil => rw [inlineAll, List.flatMap_nil]
  | cons d ds ih => rw [inlineAll, List.flatMap_cons, ih]

def blocksAfter (run : Fragment) (ds : List Dom) : Fragment :=
  (blocksFrom run ds).1 ++ paragraphOf (blocksFrom run ds).2

theorem blocks_eq_blocksAfter (ds : List Dom) : blocks ds = blocksAfter [] ds := rfl

theorem block_of_isBlock {d : Dom} (h : isBlock d = true) (run : Fragment) :
    block run d = (paragraphOf run ++ ofBlock blocks d, []) := by
  cases d with
  | text s => cases h
  | comment => cases h
  | element name attributes children =>
    rw [block, ofBlock]
    split
    next => rw [inlineAll_eq_flatMap]
    next hp =>
      have hname : blockNames.contains name = true := by simpa [isBlock, hp] using h
      rw [if_pos hname]
      show (paragraphOf run ++ (blocksFrom [] children).1 ++ paragraphOf (blocksFrom [] children).2,
        ([] : Fragment)) = _
      rw [List.append_assoc]
      rfl

theorem block_of_not_isBlock {d : Dom} (h : isBlock d = false) (run : Fragment) :
    block run d = ([], run ++ inline d) := by
  cases d with
  | text s =>
    rw [block]
    exact nofun
  | comment =>
    rw [block]
    exact nofun
  | element name attributes children =>
    have hname : name ≠ "p" ∧ name ∉ blockNames := by simpa [isBlock] using h
    have hblock : ¬blockNames.contains name = true := by simpa using hname.2
    rw [block, if_neg hname.1, if_neg hblock]

@[simp] theorem blocksAfter_nil (run : Fragment) : blocksAfter run [] = paragraphOf run := by
  rw [blocksAfter, blocksFrom, List.nil_append]

theorem blocksAfter_block {d : Dom} (h : isBlock d = true) (run : Fragment) (ds : List Dom) :
    blocksAfter run (d :: ds) = paragraphOf run ++ ofBlock blocks d ++ blocks ds := by
  rw [blocksAfter, blocksFrom, block_of_isBlock h, List.append_assoc]
  rfl

theorem blocksAfter_inline {d : Dom} (h : isBlock d = false) (run : Fragment) (ds : List Dom) :
    blocksAfter run (d :: ds) = blocksAfter (run ++ inline d) ds := by
  rw [blocksAfter, blocksFrom, block_of_not_isBlock h]
  rfl

theorem blocksAfter_of_run {xs : List Dom} (h : ∀ d ∈ xs, isBlock d = false) (run : Fragment) :
    blocksAfter run xs = paragraphOf (run ++ xs.flatMap inline) := by
  induction xs generalizing run with
  | nil => rw [blocksAfter_nil, List.flatMap_nil, List.append_nil]
  | cons d xs ih =>
    obtain ⟨hd, hxs⟩ := List.forall_mem_cons.1 h
    rw [blocksAfter_inline hd, ih hxs, List.flatMap_cons, List.append_assoc]

theorem blocksAfter_append_block {d : Dom} (h : isBlock d = true) (run : Fragment)
    (xs ys : List Dom) :
    blocksAfter run (xs ++ d :: ys) = blocksAfter run xs ++ ofBlock blocks d ++ blocks ys := by
  induction xs generalizing run with
  | nil => rw [List.nil_append, blocksAfter_block h, blocksAfter_nil]
  | cons x xs ih =>
    rw [List.cons_append]
    cases hx : isBlock x with
    | true =>
      have hrest := ih []
      rw [← blocks_eq_blocksAfter, ← blocks_eq_blocksAfter] at hrest
      rw [blocksAfter_block hx, blocksAfter_block hx, hrest]
      simp only [List.append_assoc]
    | false => rw [blocksAfter_inline hx, blocksAfter_inline hx, ih]

/-! ### The paragraphs of the pieces -/

theorem blocks_of_run {run : List Dom} (h : ∀ d ∈ run, isBlock d = false) :
    blocks run = ofRun run := blocksAfter_of_run h []

theorem blocks_append_block {d : Dom} (h : isBlock d = true) (xs ys : List Dom) :
    blocks (xs ++ d :: ys) = blocks xs ++ ofBlock blocks d ++ blocks ys :=
  blocksAfter_append_block h [] xs ys

theorem blocks_block {d : Dom} (h : isBlock d = true) : blocks [d] = ofBlock blocks d := by
  have hcut := blocks_append_block h [] []
  have hnil : blocks [] = [] := rfl
  rwa [hnil, List.nil_append, List.nil_append, List.append_nil] at hcut

theorem ofRun_cases (run : List Dom) :
    ofRun run = [] ∨ ∃ f, f ≠ [] ∧ f = trim (run.flatMap inline) ∧ ofRun run = [.paragraph f] := by
  cases h : trim (run.flatMap inline) with
  | nil => exact .inl (by simp [ofRun, h])
  | cons n f => exact .inr ⟨n :: f, List.cons_ne_nil n f, rfl, by simp [ofRun, h]⟩

theorem blocks_eq_pieces (ds : List Dom) : blocks ds = (pieces ds).flatMap (ofPiece blocks) := by
  by_cases h : ∃ d ∈ ds, isBlock d = true
  · -- Cut the body at any block: both sides are shorter, and both sides fall into pieces alone.
    obtain ⟨d, hmem, hd⟩ := h
    obtain ⟨xs, ys, rfl⟩ := List.append_of_mem hmem
    rw [blocks_append_block hd, pieces_append_block hd, List.flatMap_append, List.flatMap_cons,
      ofPiece_block blocks hd, ← blocks_eq_pieces xs, ← blocks_eq_pieces ys, List.append_assoc]
  · have hrun : ∀ d ∈ ds, isBlock d = false := by simpa using h
    rcases eq_or_ne ds [] with rfl | hne
    · rfl
    · rw [blocks_of_run hrun, pieces_of_run hne hrun, List.flatMap_singleton,
        ofPiece_of_run blocks hrun]
termination_by ds.length

theorem ofPiece_congr {P Q : List Dom → Fragment} {ds : List Dom}
    (h : ∀ cs : List Dom, sizeOf cs < sizeOf ds → P cs = Q cs) :
    ∀ piece ∈ pieces ds, ofPiece P piece = ofPiece Q piece := by
  intro piece hpiece
  unfold ofPiece
  split
  next d =>
    split
    next hd =>
      cases d with
      | text s => rfl
      | comment => rfl
      | element name attributes children =>
        have hmem := mem_of_mem_pieces hpiece (List.mem_singleton.2 rfl)
        have hlt := List.sizeOf_lt_of_mem hmem
        rw [Dom.element.sizeOf_spec] at hlt
        rw [ofBlock, ofBlock, h children (by omega)]
    next => rfl
  next => rfl

theorem eq_blocks_of_pieces {P : List Dom → Fragment}
    (h : ∀ ds, P ds = (pieces ds).flatMap (ofPiece P)) (ds : List Dom) : P ds = blocks ds := by
  have hinside : ∀ cs : List Dom, sizeOf cs < sizeOf ds → P cs = blocks cs := fun cs _ =>
    eq_blocks_of_pieces h cs
  rw [h ds, blocks_eq_pieces ds]
  exact List.flatMap_congr (ofPiece_congr hinside)
termination_by sizeOf ds

/-- Reading a body is the one function that takes it in pieces and the content of every container
block in the same way. A block divides what stands before it from what comes after, and what no
block divides is one paragraph at most, never an empty one. -/
theorem blocks_by_pieces :
    (∀ P : List Dom → Fragment, (∀ ds, P ds = (pieces ds).flatMap (ofPiece P)) ↔ P = blocks) ∧
    (∀ (xs ys : List Dom) (d : Dom), isBlock d = true →
      blocks (xs ++ d :: ys) = blocks xs ++ blocks [d] ++ blocks ys) ∧
    ∀ run : List Dom, (∀ d ∈ run, isBlock d = false) →
      blocks run = [] ∨
        ∃ f, f ≠ [] ∧ f = trim (run.flatMap inline) ∧ blocks run = [.paragraph f] := by
  refine ⟨fun P => ⟨fun h => funext (eq_blocks_of_pieces h), ?_⟩, fun xs ys d hd => ?_,
    fun run hrun => ?_⟩
  · rintro rfl
    exact blocks_eq_pieces
  · rw [blocks_append_block hd, blocks_block hd]
  · rw [blocks_of_run hrun]
    exact ofRun_cases run

theorem blocks_by_pieces_container :
    let a : List Dom := [.text " a ", .element "em" [] [.text "b"], .comment]
    let p : Dom := .element "p" [] [.text " "]
    let c : Dom := .element "div" [] [.text "c", .element "br" [] []]
    isBlock p = true ∧ isBlock c = true ∧ (∀ d ∈ a, isBlock d = false) ∧
      (∃ f, f ≠ [] ∧ f = trim (a.flatMap inline) ∧ blocks a = [.paragraph f]) ∧
      blocks (a ++ [p, c]) =
        [.paragraph [.text "a ", .format .italic [.text "b"]], .paragraph [],
          .paragraph [.text "c", .lineBreak]] := by
  intro a p c
  obtain ⟨-, hcut, hrun⟩ := blocks_by_pieces
  have ha : ∀ d ∈ a, isBlock d = false := by simp [a, isBlock, blockNames]
  have hp : isBlock p = true := rfl
  have hc : isBlock c = true := rfl
  have hshows : blocks a ≠ [] := nofun
  refine ⟨hp, hc, ha, (hrun a ha).resolve_left hshows, ?_⟩
  rw [hcut a [c] p hp]
  rfl

end DocStream.Fragment.Html

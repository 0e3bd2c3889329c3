import DocStream.Fragment.Plain
import DocStream.Proofs.Unwrapping
import Mathlib.Data.List.Chain

/-! Plain text is read without loss. Its lines are the pieces between the line feeds of the text
once no carriage return stands before a line feed and no line feed at the end, and a paragraph of
lines written out is that text again. So what a title becomes tells two titles apart as far as their
texts differ in more than that. -/

namespace DocStream

namespace Text

/-- A line feed takes the carriage return right before it along. -/
def unifyBreaks : List Char → List Char
  | [] => []
  | '\r' :: '\n' :: cs => '\n' :: unifyBreaks cs
  | c :: cs => c :: unifyBreaks cs

def dropLastFeed (cs : List Char) : List Char :=
  if cs.getLast? = some '\n' then cs.dropLast else cs

def lineText (s : String) : List Char := dropLastFeed (unifyBreaks s.toList)

theorem induction_on_lines {motive : List Char → Prop} (nil : motive [])
    (last : ∀ line, line ≠ [] → '\n' ∉ line → motive line)
    (line : ∀ line rest, '\n' ∉ line → motive rest → motive (line ++ '\n' :: rest))
    (cs : List Char) : motive cs := by
  induction hn : cs.length using Nat.strongRecOn generalizing cs with
  | ind n ih =>
    subst hn
    by_cases h : '\n' ∈ cs
    · obtain ⟨front, rest, rfl, hfront⟩ := List.eq_append_cons_of_mem h
      exact line front rest hfront (ih rest.length (by simp; omega) rest rfl)
    · rcases eq_or_ne cs [] with rfl | hne
      · exact nil
      · exact last cs hne h

section
variable {line : List Char}

theorem pieces_of_not_mem (hne : line ≠ []) (h : '\n' ∉ line) : pieces line = [line] := by
  fun_induction pieces line with
  | case1 => exact absurd rfl hne
  | case2 cs ih => exact absurd List.mem_cons_self h
  | case3 c cs hc hnil ih =>
    rcases eq_or_ne cs [] with rfl | hcs
    · rfl
    · rw [ih hcs fun hmem => h (List.mem_cons_of_mem c hmem)] at hnil
      cases hnil
  | case4 c cs hc p ps hcons ih =>
    have hcs : cs ≠ [] := by
      rintro rfl
      cases hcons
    rw [ih hcs fun hmem => h (List.mem_cons_of_mem c hmem)] at hcons
    obtain ⟨rfl, rfl⟩ := List.cons.inj hcons
    rfl

theorem pieces_line (h : '\n' ∉ line) (rest : List Char) :
    pieces (line ++ '\n' :: rest) = (line ++ ['\n']) :: pieces rest := by
  induction line with
  | nil => rfl
  | cons c line ih =>
    rw [List.mem_cons, not_or] at h
    rw [List.cons_append, pieces, ih h.2]
    · rfl
    · exact fun hc => h.1 hc.symm

theorem bare_of_not_mem (h : '\n' ∉ line) : bare line = line := by
  fun_induction bare line with
  | case1 => simp at h
  | case2 => simp at h
  | case3 c cs _ _ ih => rw [ih fun hmem => h (List.mem_cons_of_mem c hmem)]
  | case4 => rfl

theorem unifyBreaks_of_not_mem (h : '\n' ∉ line) : unifyBreaks line = line := by
  fun_induction unifyBreaks line with
  | case1 => rfl
  | case2 cs ih => simp at h
  | case3 c cs _ ih => rw [ih fun hmem => h (List.mem_cons_of_mem c hmem)]

theorem bare_cons_cons {c d : Char} (hd : d ≠ '\n') (cs : List Char) :
    bare (c :: d :: cs) = c :: bare (d :: cs) := by
  rw [bare]
  · simp
  · simp [hd]

theorem unifyBreaks_cons_cons {c d : Char} (hd : d ≠ '\n') (cs : List Char) :
    unifyBreaks (c :: d :: cs) = c :: unifyBreaks (d :: cs) := by
  rw [unifyBreaks]
  rintro rest - hcons
  exact hd (List.cons.inj hcons).1

theorem unifyBreaks_line (h : '\n' ∉ line) (rest : List Char) :
    unifyBreaks (line ++ '\n' :: rest) = bare (line ++ ['\n']) ++ '\n' :: unifyBreaks rest := by
  induction line with
  | nil => rfl
  | cons c line ih =>
    rw [List.mem_cons, not_or] at h
    cases line with
    | nil =>
      by_cases hc : c = '\r'
      · subst hc
        rfl
      · simp [unifyBreaks, bare, hc]
    | cons d line =>
      have hd : d ≠ '\n' := fun heq => h.2 (heq ▸ List.mem_cons_self)
      simp only [List.cons_append] at ih ⊢
      rw [unifyBreaks_cons_cons hd, bare_cons_cons hd, ih h.2, List.cons_append]

theorem bare_line_isPrefix (h : '\n' ∉ line) : bare (line ++ ['\n']) <+: line := by
  induction line with
  | nil => exact List.nil_prefix
  | cons c line ih =>
    rw [List.mem_cons, not_or] at h
    cases line with
    | nil =>
      by_cases hc : c = '\r'
      · subst hc
        exact List.nil_prefix
      · simp [bare, hc]
    | cons d line =>
      have hd : d ≠ '\n' := fun heq => h.2 (heq ▸ List.mem_cons_self)
      simp only [List.cons_append] at ih ⊢
      rw [bare_cons_cons hd]
      exact List.cons_prefix_cons.2 ⟨rfl, ih h.2⟩

theorem feed_not_mem_bare_line (h : '\n' ∉ line) : '\n' ∉ bare (line ++ ['\n']) :=
  fun hmem => h ((bare_line_isPrefix h).subset hmem)

end

theorem unifyBreaks_eq_nil {cs : List Char} (h : unifyBreaks cs = []) : cs = [] := by
  fun_cases unifyBreaks cs with
  | case1 => rfl
  | case2 cs => cases h
  | case3 c cs hc =>
    rw [unifyBreaks] at h
    · cases h
    · exact hc

theorem dropLastFeed_of_not_mem {cs : List Char} (h : '\n' ∉ cs) : dropLastFeed cs = cs :=
  if_neg fun hlast => h (List.mem_of_getLast? hlast)

theorem dropLastFeed_append_feed (cs : List Char) : dropLastFeed (cs ++ ['\n']) = cs := by
  simp [dropLastFeed]

theorem dropLastFeed_line {rest : List Char} (hne : rest ≠ []) (line : List Char) :
    dropLastFeed (line ++ '\n' :: rest) = line ++ '\n' :: dropLastFeed rest := by
  rw [List.append_cons line '\n' rest, List.append_cons line '\n' (dropLastFeed rest),
    dropLastFeed, dropLastFeed, List.getLast?_append_of_ne_nil _ hne]
  split
  · exact List.dropLast_append_of_ne_nil hne
  · rfl

/-- The lines of a text are the pieces between its line feeds, once line ends are unified and the
last one is left out. -/
theorem map_bare_pieces {cs : List Char} (hne : cs ≠ []) :
    (pieces cs).map bare = (dropLastFeed (unifyBreaks cs)).splitOn '\n' := by
  induction cs using induction_on_lines with
  | nil => exact absurd rfl hne
  | last line hline h =>
    rw [pieces_of_not_mem hline h, unifyBreaks_of_not_mem h, dropLastFeed_of_not_mem h,
      List.splitOn_eq_singleton h, List.map_singleton, bare_of_not_mem h]
  | line line rest h ih =>
    have hbare := feed_not_mem_bare_line h
    rw [pieces_line h, unifyBreaks_line h, List.map_cons]
    rcases eq_or_ne rest [] with rfl | hrest
    · rw [unifyBreaks, dropLastFeed_append_feed, List.splitOn_eq_singleton hbare]
      rfl
    · have hunify : unifyBreaks rest ≠ [] := fun hnil => hrest (unifyBreaks_eq_nil hnil)
      rw [dropLastFeed_line hunify, List.splitOn_append_cons_self_of_not_mem hbare, ih hrest]

theorem map_toList_lines {s : String} (hne : s ≠ "") :
    (lines s).map String.toList = (lineText s).splitOn '\n' := by
  have hlist : s.toList ≠ [] := fun h => hne (String.toList_inj.1 h)
  rw [lineText, ← map_bare_pieces hlist, lines, List.map_map]
  exact List.map_congr_left fun p _ => String.toList_ofList

theorem feed_not_mem_of_mem_lines {s l : String} (h : l ∈ lines s) : '\n' ∉ l.toList := by
  obtain ⟨p, hp, rfl⟩ := List.mem_map.1 h
  rw [String.toList_ofList]
  generalize s.toList = cs at hp
  induction cs using induction_on_lines with
  | nil => cases hp
  | last line hline hfeed =>
    rw [pieces_of_not_mem hline hfeed, List.mem_singleton] at hp
    rwa [hp, bare_of_not_mem hfeed]
  | line line rest hfeed ih =>
    rw [pieces_line hfeed] at hp
    rcases List.mem_cons.1 hp with rfl | hp
    · exact feed_not_mem_bare_line hfeed
    · exact ih hp

end Text

namespace FragmentNode

def written : FragmentNode → List Char
  | text s => s.toList
  | lineBreak => ['\n']
  | _ => []

/-- Line breaks and texts that are not empty, of two neighbours at most one a text. -/
structure LinesOnly (f : List FragmentNode) : Prop where
  leaf : ∀ n ∈ f, n = lineBreak ∨ ∃ s, n = text s ∧ s ≠ "" ∧ '\n' ∉ s.toList
  apart : f.IsChain fun m n => m = lineBreak ∨ n = lineBreak

theorem linesOnly_nil : LinesOnly [] := ⟨nofun, .nil⟩

theorem LinesOnly.append_lineBreak {f g : List FragmentNode} (hf : LinesOnly f)
    (hg : LinesOnly g) : LinesOnly (f ++ lineBreak :: g) where
  leaf := by
    rw [List.forall_mem_append, List.forall_mem_cons]
    exact ⟨hf.leaf, .inl rfl, hg.leaf⟩
  apart := by
    rw [List.isChain_append]
    refine ⟨hf.apart, List.isChain_cons.2 ⟨fun n hn => .inl rfl, hg.apart⟩, fun m hm n hn => ?_⟩
    exact .inr (Option.some.inj hn).symm

end FragmentNode

namespace Fragment.Plain
open FragmentNode

theorem flatMap_written_lineNodes (line : String) :
    (lineNodes line).flatMap written = line.toList := by
  unfold lineNodes
  split
  next h =>
    rw [String.isEmpty_iff.1 h]
    rfl
  next => simp [written]

theorem linesOnly_lineNodes {line : String} (h : '\n' ∉ line.toList) :
    LinesOnly (lineNodes line) := by
  unfold lineNodes
  split
  next => exact linesOnly_nil
  next hne =>
    refine ⟨?_, .singleton _⟩
    rw [List.forall_mem_singleton]
    exact .inr ⟨line, rfl, fun heq => hne (String.isEmpty_iff.2 heq), h⟩

theorem flatMap_written_joinLines (ls : List String) :
    (joinLines ls).flatMap written = ['\n'].intercalate (ls.map String.toList) := by
  fun_induction joinLines ls with
  | case1 => rfl
  | case2 l => simp [flatMap_written_lineNodes]
  | case3 l ls hls ih =>
    have hmap : ls.map String.toList ≠ [] := fun h => hls (List.map_eq_nil_iff.1 h)
    rw [List.flatMap_append, List.flatMap_cons, flatMap_written_lineNodes, ih, List.map_cons,
      List.intercalate_cons_of_ne_nil hmap]
    simp [written]

theorem linesOnly_joinLines {ls : List String} (h : ∀ l ∈ ls, '\n' ∉ l.toList) :
    LinesOnly (joinLines ls) := by
  fun_induction joinLines ls with
  | case1 => exact linesOnly_nil
  | case2 l => exact linesOnly_lineNodes (h l List.mem_cons_self)
  | case3 l ls hls ih =>
    obtain ⟨hl, hrest⟩ := List.forall_mem_cons.1 h
    exact (linesOnly_lineNodes hl).append_lineBreak (ih hrest)

theorem stripWrapper_read (text : String) :
    (read text).stripWrapper =
      joinLines (((Text.lineText text).splitOn '\n').map String.ofList) := by
  unfold read
  split
  next h =>
    rw [String.isEmpty_iff.1 h]
    rfl
  next h =>
    have hne : text ≠ "" := fun heq => h (String.isEmpty_iff.2 heq)
    have hlines : Text.lines text = ((Text.lineText text).splitOn '\n').map String.ofList := by
      rw [← Text.map_toList_lines hne, List.map_map]
      simp
    rw [hlines]
    exact List.append_nil _

theorem flatMap_written_stripWrapper_read (text : String) :
    (read text).stripWrapper.flatMap written = Text.lineText text := by
  rw [stripWrapper_read, flatMap_written_joinLines, List.map_map]
  simp

end Fragment.Plain

namespace Fragment
open FragmentNode

theorem reclassify_of_forall_isLeaf {f : Fragment} (h : ∀ n ∈ f, n.IsLeaf) (wiki : Bool) :
    f.reclassify wiki = f := by
  rw [reclassify, mapLinks, mapLinksFrom]
  induction f with
  | nil => rfl
  | cons n f ih =>
    obtain ⟨hn, hf⟩ := List.forall_mem_cons.1 h
    cases n with
    | text s => exact congrArg (FragmentNode.text s :: ·) (ih hf)
    | lineBreak => exact congrArg (FragmentNode.lineBreak :: ·) (ih hf)
    | paragraph cs => cases hn
    | format style cs => cases hn
    | link head cs => cases hn

namespace Plain

theorem fragment_plain (w : Walker) (title : String) :
    w.fragment reader title true = .done (read title).stripWrapper.events := by
  have hread : reader title = .ok (read title) := rfl
  rw [Walker.fragment_of_ok w hread true]
  exact congrArg (fun f => Emission.done (Fragment.events f))
    (reclassify_of_forall_isLeaf (forall_mem_stripWrapper_read title) w.wiki)

theorem events_stripWrapper_read_iff (s t : String) :
    (read s).stripWrapper.events = (read t).stripWrapper.events ↔
      Text.lineText s = Text.lineText t := by
  constructor
  · intro h
    have hforest := (h ▸ ofEvents_events (read s).stripWrapper).symm.trans
      (ofEvents_events (read t).stripWrapper)
    have hnodes := trees_injective (Except.ok.inj hforest)
    rw [← flatMap_written_stripWrapper_read, ← flatMap_written_stripWrapper_read, hnodes]
  · intro h
    rw [stripWrapper_read, stripWrapper_read, h]

/-- A text that is not empty is read as one paragraph, of which the text can be had back but for its
carriage returns before line feeds and its last line feed. As a title it leaves just that behind. -/
theorem read_lossless (text : String) :
    (∃ f, reader text = .ok f ∧ (f = [] ↔ text = "") ∧
      (text = "" ∨ ∃ content, f = [.paragraph content] ∧ LinesOnly content ∧
        content.flatMap written = Text.lineText text)) ∧
    ∀ (w : Walker) (other : String),
      w.fragment reader text true = w.fragment reader other true ↔
        Text.lineText text = Text.lineText other := by
  refine ⟨⟨read text, rfl, ?_⟩, fun w other => ?_⟩
  · rcases eq_or_ne text "" with rfl | hne
    · exact ⟨iff_of_true rfl rfl, .inl rfl⟩
    have hread : read text = [.paragraph (joinLines (Text.lines text))] :=
      if_neg fun h => hne (String.isEmpty_iff.1 h)
    have hcontent : (read text).stripWrapper = joinLines (Text.lines text) := by
      rw [hread]
      exact List.append_nil _
    refine ⟨iff_of_false (hread ▸ List.cons_ne_nil _ _) hne, .inr ⟨_, hread, ?_, ?_⟩⟩
    · exact linesOnly_joinLines fun l => Text.feed_not_mem_of_mem_lines
    · rw [← hcontent]
      exact flatMap_written_stripWrapper_read text
  · rw [fragment_plain, fragment_plain, ← events_stripWrapper_read_iff]
    exact ⟨congrArg Emission.events, congrArg Emission.done⟩

example : Text.lineText "a\r\r\n\r\n\n\r" = "a\r\n\n\n\r".toList := by decide

end Plain

end Fragment

end DocStream

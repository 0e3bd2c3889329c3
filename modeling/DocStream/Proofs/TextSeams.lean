import DocStream.Proofs.WhiteSpace
import Mathlib.Data.List.Chain

/-! Where blanks are doubled in a row of texts. If each text has single blanks for itself, two of
them stand next to each other only where a text ends with a blank and the next one begins with one.
Texts and what stands between them are a line here, and its seams are such meetings; trimming a line
at both ends leaves the seams of its inner part. -/

namespace DocStream

namespace Text

def Single (cs : List Char) : Prop := cs.IsChain fun c d => ¬(isBlank c = true ∧ isBlank d = true)

def beginsBlank (s : String) : Bool := s.toList.head?.any isBlank

def endsBlank (s : String) : Bool := s.toList.getLast?.any isBlank

def isAllBlank (s : String) : Bool := s.toList.all isBlank

theorem Spaced.isChain {cs : List Char} (h : Spaced cs) : Single cs := by
  rw [Single, List.isChain_iff_forall_rel_of_append_cons_cons]
  rintro c d front rest rfl ⟨hc, hd⟩
  have hc' : c = ' ' := h.space c (by simp) hc
  have hd' : d = ' ' := h.space d (by simp) hd
  subst hc' hd'
  exact h.single ⟨front, rest, by simp⟩

theorem single_flatMap_iff {run : List String} (h : ∀ s ∈ run, s ≠ "" ∧ Spaced s.toList) :
    Single (run.flatMap String.toList) ↔
      run.IsChain fun s t => ¬(endsBlank s = true ∧ beginsBlank t = true) := by
  have hnil : [] ∉ run.map String.toList := by
    rw [List.mem_map]
    rintro ⟨s, hs, hempty⟩
    exact (h s hs).1 (String.toList_inj.1 hempty)
  have hsingle : ∀ cs ∈ run.map String.toList, Single cs := by
    intro cs hcs
    obtain ⟨s, hs, rfl⟩ := List.mem_map.1 hcs
    exact (h s hs).2.isChain
  rw [Single, List.flatMap_def, List.isChain_flatten hnil]
  refine (and_iff_right hsingle).trans ?_
  rw [List.isChain_map]
  refine List.IsChain.iff fun s t => ?_
  rw [endsBlank, beginsBlank]
  cases s.toList.getLast? with
  | none => simp
  | some c =>
    cases t.toList.head? with
    | none => simp
    | some d => simp

theorem collapse_eq_nil_iff {cs : List Char} : collapse cs = [] ↔ cs = [] := by
  constructor
  · intro h
    fun_induction collapse cs with
    | case1 => rfl
    | case2 c cs hc hnext ih =>
      rw [ih h] at hnext
      cases hnext
    | case3 c cs hc hnext ih => cases h
    | case4 c cs hc ih => cases h
  · rintro rfl
    rfl

theorem beginsBlank_collapseBlanks (s : String) :
    beginsBlank (collapseBlanks s) = beginsBlank s := by
  rw [beginsBlank, beginsBlank, collapseBlanks, String.toList_ofList]
  generalize s.toList = cs
  fun_induction collapse cs with
  | case1 => rfl
  | case2 c cs hc hnext ih => exact ih.trans (hnext.trans hc.symm)
  | case3 c cs hc hnext ih => exact isBlank_space.trans hc.symm
  | case4 c cs hc ih => rfl

theorem endsBlank_collapseBlanks (s : String) : endsBlank (collapseBlanks s) = endsBlank s := by
  rw [endsBlank, endsBlank, collapseBlanks, String.toList_ofList]
  generalize s.toList = cs
  have hlast {c d : Char} (hcd : isBlank c = isBlank d) {cs ds : List Char}
      (hnil : cs = [] ↔ ds = []) (h : cs.getLast?.any isBlank = ds.getLast?.any isBlank) :
      (c :: cs).getLast?.any isBlank = (d :: ds).getLast?.any isBlank := by
    rcases eq_or_ne ds [] with rfl | hds
    · rw [hnil.2 rfl]
      exact hcd
    · rwa [List.getLast?_cons_of_ne_nil fun hcs => hds (hnil.1 hcs),
        List.getLast?_cons_of_ne_nil hds]
  fun_induction collapse cs with
  | case1 => rfl
  | case2 c cs hc hnext ih =>
    have hne : cs ≠ [] := by
      rintro rfl
      cases hnext
    rw [ih, List.getLast?_cons_of_ne_nil hne]
  | case3 c cs hc hnext ih => exact hlast (isBlank_space.trans hc.symm) collapse_eq_nil_iff ih
  | case4 c cs hc ih => exact hlast rfl collapse_eq_nil_iff ih

theorem isAllBlank_eq_isEmpty_filter (s : String) :
    isAllBlank s = (s.toList.filter fun c => !isBlank c).isEmpty := by
  rw [isAllBlank]
  induction s.toList with
  | nil => rfl
  | cons c cs ih => cases h : isBlank c <;> simp [h, ih]

theorem isAllBlank_collapseBlanks (s : String) :
    isAllBlank (collapseBlanks s) = isAllBlank s := by
  rw [isAllBlank_eq_isEmpty_filter, isAllBlank_eq_isEmpty_filter, collapseBlanks,
    String.toList_ofList, filter_collapse]

/-! ### Trimmed texts -/

theorem isEmpty_toList (s : String) : s.toList.isEmpty = s.isEmpty := by
  rw [Bool.eq_iff_iff, List.isEmpty_iff, String.isEmpty_iff]
  show s.toList = "".toList ↔ s = ""
  exact String.toList_inj

theorem isEmpty_dropWhile_isBlank (cs : List Char) :
    (cs.dropWhile isBlank).isEmpty = cs.all isBlank := by
  induction cs with
  | nil => rfl
  | cons c cs ih => cases h : isBlank c <;> simp [h, ih]

theorem isEmpty_trimStart (s : String) : (trimStart s).isEmpty = isAllBlank s := by
  rw [← isEmpty_toList, trimStart, String.toList_ofList, isEmpty_dropWhile_isBlank, isAllBlank]

theorem isEmpty_trimEnd (s : String) : (trimEnd s).isEmpty = isAllBlank s := by
  rw [← isEmpty_toList, trimEnd, String.toList_ofList, List.isEmpty_reverse,
    isEmpty_dropWhile_isBlank, List.all_reverse, isAllBlank]

theorem isAllBlank_trimStart (s : String) : isAllBlank (trimStart s) = isAllBlank s := by
  rw [isAllBlank_eq_isEmpty_filter, isAllBlank_eq_isEmpty_filter, trimStart, String.toList_ofList,
    filter_dropWhile_isBlank]

theorem isAllBlank_trimEnd (s : String) : isAllBlank (trimEnd s) = isAllBlank s := by
  rw [isAllBlank_eq_isEmpty_filter, isAllBlank_eq_isEmpty_filter, trimEnd, String.toList_ofList,
    List.filter_reverse, filter_dropWhile_isBlank, List.filter_reverse, List.reverse_reverse]

theorem endsBlank_trimStart {s : String} (h : isAllBlank s = false) :
    endsBlank (trimStart s) = endsBlank s := by
  obtain ⟨blanks, hblanks⟩ := trimStart_isSuffix s
  rw [← isEmpty_trimStart, ← isEmpty_toList, List.isEmpty_eq_false_iff] at h
  rw [endsBlank, endsBlank, ← hblanks, List.getLast?_append_of_ne_nil _ h]

theorem beginsBlank_trimEnd {s : String} (h : isAllBlank s = false) :
    beginsBlank (trimEnd s) = beginsBlank s := by
  obtain ⟨blanks, hblanks⟩ := trimEnd_isPrefix s
  rw [← isEmpty_trimEnd, ← isEmpty_toList, List.isEmpty_eq_false_iff] at h
  rw [beginsBlank, beginsBlank, ← hblanks, List.head?_append_of_ne_nil _ h]

end Text

/-! ### Lines -/

/-- Texts in a row, and for everything else that shows, nothing more than that it is there. -/
abbrev Line := List (Option String)

namespace Line

def Seamless (l : Line) : Prop :=
  l.IsChain fun a b => ¬(a.any Text.endsBlank = true ∧ b.any Text.beginsBlank = true)

def isBlankText (a : Option String) : Bool := a.any Text.isAllBlank

def inner (l : Line) : Line :=
  ((l.dropWhile isBlankText).reverse.dropWhile isBlankText).reverse

theorem seamless_map_collapseBlanks (l : Line) :
    Seamless (l.map (Option.map Text.collapseBlanks)) ↔ Seamless l := by
  rw [Seamless, List.isChain_map]
  refine List.IsChain.iff fun a b => ?_
  simp only [Option.any_map, Text.endsBlank_collapseBlanks, Text.beginsBlank_collapseBlanks]

theorem inner_map_collapseBlanks (l : Line) :
    inner (l.map (Option.map Text.collapseBlanks)) =
      (inner l).map (Option.map Text.collapseBlanks) := by
  have hblank : isBlankText ∘ Option.map Text.collapseBlanks = isBlankText := by
    funext a
    cases a with
    | none => rfl
    | some s => exact Text.isAllBlank_collapseBlanks s
  rw [inner, List.dropWhile_map, ← List.map_reverse, List.dropWhile_map, ← List.map_reverse,
    hblank, inner]

theorem dropWhile_append_singleton {a : Option String} (h : isBlankText a = false) (l : Line) :
    (l ++ [a]).dropWhile isBlankText = l.dropWhile isBlankText ++ [a] := by
  have hsingle : [a].dropWhile isBlankText = [a] := List.dropWhile_cons_of_neg (by simp [h])
  rw [List.dropWhile_append, hsingle]
  split
  next hempty => rw [List.isEmpty_iff.1 hempty, List.nil_append]
  next => rfl

theorem seamless_edges {a b x y : Option String}
    (hend : a.any Text.endsBlank = b.any Text.endsBlank)
    (hbegin : x.any Text.beginsBlank = y.any Text.beginsBlank) (mid : Line) :
    Seamless (a :: mid ++ [x]) ↔ Seamless (b :: mid ++ [y]) := by
  cases mid with
  | nil => simp [Seamless, hend, hbegin]
  | cons m mid =>
    simp only [Seamless, List.cons_append, List.isChain_cons_cons, hend]
    rw [← List.cons_append, ← List.cons_append, List.isChain_append, List.isChain_append]
    simp [hbegin]

/-- Lines that differ in their first entry only, and there in nothing that counts for a seam. -/
inductive SameFront (key : String → Bool) : Line → Line → Prop where
  | nil : SameFront key [] []
  | cons {a b : Option String} (ha : isBlankText a = false) (hb : isBlankText b = false)
    (hkey : a.any key = b.any key) (rest : Line) : SameFront key (a :: rest) (b :: rest)

theorem seamless_iff_inner {l front trimmed : Line}
    (hfront : SameFront Text.endsBlank front (l.dropWhile isBlankText))
    (hback : SameFront Text.beginsBlank trimmed (front.reverse.dropWhile isBlankText)) :
    Seamless trimmed.reverse ↔ Seamless (inner l) := by
  rw [inner]
  generalize l.dropWhile isBlankText = dropped at hfront
  cases hfront with
  | nil =>
    cases hback
    exact Iff.rfl
  | @cons a b ha hb hend rest =>
    rw [List.reverse_cons, dropWhile_append_singleton ha] at hback
    rw [List.reverse_cons, dropWhile_append_singleton hb]
    generalize rest.reverse.dropWhile isBlankText = mid at hback
    cases mid with
    | nil =>
      cases hback
      simp [Seamless]
    | cons c mid =>
      cases hback with
      | cons hx hc hbegin =>
        have hedges := seamless_edges hend hbegin mid.reverse
        simpa using hedges

end Line

namespace FragmentNode

def textOf : FragmentNode → Option String
  | text s => some s
  | _ => none

def lineOf (f : List FragmentNode) : Line := f.map textOf

theorem lineOf_cons (n : FragmentNode) (f : List FragmentNode) :
    lineOf (n :: f) = n.textOf :: lineOf f := rfl

def Collapsed (f : List FragmentNode) : Prop :=
  ∀ run : List String, run.map text <:+: f → Text.Single (run.flatMap String.toList)

theorem collapsed_iff_seamless {f : List FragmentNode} (h : AllTidy f) :
    Collapsed f ↔ (lineOf f).Seamless := by
  have hspaced {run : List String} (hrun : run.map text <:+: f) :
      ∀ s ∈ run, s ≠ "" ∧ Text.Spaced s.toList := by
    intro s hs
    have htext : SpacedText s := allTidy_iff.1 h (text s) (hrun.subset (List.mem_map_of_mem hs))
    exact ⟨htext.ne_empty, htext.spaced⟩
  rw [lineOf, Line.Seamless, List.isChain_map]
  constructor
  · intro hcollapsed
    rw [List.isChain_iff_forall_rel_of_append_cons_cons]
    rintro m n front rest rfl ⟨hm, hn⟩
    cases m with
    | text s =>
      cases n with
      | text t =>
        have hrun : [s, t].map text <:+: front ++ text s :: text t :: rest :=
          ⟨front, rest, by simp⟩
        have hchain := (Text.single_flatMap_iff (hspaced hrun)).1 (hcollapsed _ hrun)
        exact List.isChain_pair.1 hchain ⟨hm, hn⟩
      | _ => cases hn
    | _ => cases hm
  · intro hchain run hrun
    rw [Text.single_flatMap_iff (hspaced hrun)]
    have hpart := List.IsChain.infix hchain hrun
    exact (List.isChain_map _).1 hpart

mutual

def InContainers (P : List FragmentNode → Prop) : FragmentNode → Prop
  | paragraph cs => P cs ∧ AllInContainers P cs
  | format _ cs => P cs ∧ AllInContainers P cs
  | link _ cs => P cs ∧ AllInContainers P cs
  | text _ => True
  | lineBreak => True

def AllInContainers (P : List FragmentNode → Prop) : List FragmentNode → Prop
  | [] => True
  | n :: ns => InContainers P n ∧ AllInContainers P ns

end

section
variable {P Q : List FragmentNode → Prop}

theorem allInContainers_iff {ns : List FragmentNode} :
    AllInContainers P ns ↔ ∀ n ∈ ns, InContainers P n := by
  induction ns with
  | nil => simp [AllInContainers]
  | cons n ns ih => simp [AllInContainers, ih]

theorem allInContainers_append {ns ms : List FragmentNode} :
    AllInContainers P (ns ++ ms) ↔ AllInContainers P ns ∧ AllInContainers P ms := by
  simp only [allInContainers_iff, List.forall_mem_append]

theorem allInContainers_flatMap {α : Type} {xs : List α} {f : α → List FragmentNode} :
    AllInContainers P (xs.flatMap f) ↔ ∀ x ∈ xs, AllInContainers P (f x) := by
  simp only [allInContainers_iff, List.mem_flatMap, forall_exists_index, and_imp]
  exact ⟨fun h x hx n hn => h n x hx hn, fun h n x hx hn => h x hx n hn⟩

mutual

theorem inContainers_congr (hPQ : ∀ cs, AllTidy cs → (P cs ↔ Q cs)) :
    ∀ n : FragmentNode, n.Tidy → (InContainers P n ↔ InContainers Q n)
  | paragraph cs, h => and_congr (hPQ cs h.2) (allInContainers_congr hPQ cs h.2)
  | format _ cs, h => and_congr (hPQ cs h) (allInContainers_congr hPQ cs h)
  | link _ cs, h => and_congr (hPQ cs h) (allInContainers_congr hPQ cs h)
  | text _, _ => Iff.rfl
  | lineBreak, _ => Iff.rfl

theorem allInContainers_congr (hPQ : ∀ cs, AllTidy cs → (P cs ↔ Q cs)) :
    ∀ ns : List FragmentNode, AllTidy ns → (AllInContainers P ns ↔ AllInContainers Q ns)
  | [], _ => Iff.rfl
  | n :: ns, h => and_congr (inContainers_congr hPQ n h.1) (allInContainers_congr hPQ ns h.2)

end

end

end FragmentNode

end DocStream

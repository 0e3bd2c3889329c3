import DocStream.Text.Blank
import Mathlib.Data.List.Infix
import Mathlib.Data.List.TakeWhile

/-! White space, and what becomes of it in a text. Its words are the runs of other characters with a
blank or an end of the text on either side; collapsing leaves no blank but the space, and no two
spaces next to each other; trimming takes the blanks off one end and nothing else. -/

namespace DocStream.Text

/-- The numbers of the characters with Unicode's White_Space property. -/
def whiteSpace : List Nat :=
  [0x9, 0xa, 0xb, 0xc, 0xd, 0x20, 0x85, 0xa0, 0x1680, 0x2000, 0x2001, 0x2002, 0x2003, 0x2004,
   0x2005, 0x2006, 0x2007, 0x2008, 0x2009, 0x200a, 0x2028, 0x2029, 0x202f, 0x205f, 0x3000]

theorem isBlank_iff {c : Char} : isBlank c = true ↔ c.toNat ∈ whiteSpace := by
  simp only [isBlank, whiteSpace, Bool.or_eq_true, Bool.and_eq_true, decide_eq_true_eq, beq_iff_eq,
    List.mem_cons, List.not_mem_nil, or_false]
  omega

/-! ### Words -/

section
variable {sep : Char → Bool}

theorem splitRuns_sep {c : Char} (h : sep c = true) (cs : List Char) :
    splitRuns sep (c :: cs) = splitRuns sep cs := by rw [splitRuns, if_pos h]

theorem splitRuns_run {run rest : List Char} (hne : run ≠ []) (hrun : ∀ c ∈ run, sep c = false)
    (hrest : ∀ c ∈ rest.head?, sep c = true) :
    splitRuns sep (run ++ rest) = run :: splitRuns sep rest := by
  induction run with
  | nil => exact absurd rfl hne
  | cons c run ih =>
    obtain ⟨hc, hrun⟩ := List.forall_mem_cons.1 hrun
    rw [List.cons_append, splitRuns, if_neg (by simp [hc])]
    cases run with
    | nil =>
      have hend : rest.head?.any (fun d => !sep d) = false := by
        cases hhead : rest.head? with
        | none => rfl
        | some d => simp [hrest d hhead]
      simp only [List.nil_append, hend]
      cases splitRuns sep rest <;> rfl
    | cons d run =>
      have hd : ((d :: run) ++ rest).head?.any (fun e => !sep e) = true := by
        simp [hrun d List.mem_cons_self]
      simp only [ih (List.cons_ne_nil d run) hrun, hd]

theorem induction_on_runs (sep : Char → Bool) {motive : List Char → Prop} (nil : motive [])
    (sepCons : ∀ c cs, sep c = true → motive cs → motive (c :: cs))
    (run : ∀ run rest, run ≠ [] → (∀ c ∈ run, sep c = false) →
      (∀ c ∈ rest.head?, sep c = true) → motive rest → motive (run ++ rest))
    (cs : List Char) : motive cs := by
  induction hn : cs.length using Nat.strongRecOn generalizing cs with
  | ind n ih =>
    subst hn
    cases cs with
    | nil => exact nil
    | cons c cs =>
      cases hc : sep c with
      | true => exact sepCons c cs hc (ih cs.length (Nat.lt_succ_self _) cs rfl)
      | false =>
        let first := cs.takeWhile fun d => !sep d
        let rest := cs.dropWhile fun d => !sep d
        have hcs : c :: cs = (c :: first) ++ rest :=
          congrArg (c :: ·) List.takeWhile_append_dropWhile.symm
        have hfirst : ∀ d ∈ c :: first, sep d = false := by
          refine List.forall_mem_cons.2 ⟨hc, fun d hd => ?_⟩
          simpa using List.mem_takeWhile_imp hd
        have hrest : ∀ d ∈ rest.head?, sep d = true := by
          intro d hd
          have hstop := List.head?_dropWhile_not (fun d => !sep d) cs
          rw [Option.mem_def.1 hd] at hstop
          simpa using hstop
        have hlt : rest.length < (c :: cs).length :=
          Nat.lt_succ_of_le (List.dropWhile_sublist _).length_le
        rw [hcs]
        exact run (c :: first) rest (List.cons_ne_nil c first) hfirst hrest
          (ih rest.length hlt rest rfl)

theorem splitRuns_append_sep {d : Char} (hd : sep d = true) (xs ys : List Char) :
    splitRuns sep (xs ++ d :: ys) = splitRuns sep xs ++ splitRuns sep ys := by
  induction xs using induction_on_runs sep with
  | nil => exact splitRuns_sep hd ys
  | sepCons c cs hc ih => rw [List.cons_append, splitRuns_sep hc, splitRuns_sep hc, ih]
  | run run rest hne hrun hrest ih =>
    have hmore : ∀ c ∈ (rest ++ d :: ys).head?, sep c = true := by
      cases rest with
      | nil => simpa using hd
      | cons e rest => exact hrest
    rw [List.append_assoc, splitRuns_run hne hrun hmore, splitRuns_run hne hrun hrest, ih,
      List.cons_append]

/-- The characters stand in the text with a separator or an end of it on either side. -/
def StandsIn (sep : Char → Bool) (w cs : List Char) : Prop :=
  ∃ before after, cs = before ++ w ++ after ∧ (∀ c ∈ before.getLast?, sep c = true) ∧
    ∀ c ∈ after.head?, sep c = true

theorem StandsIn.behind {w cs : List Char} (h : StandsIn sep w cs) (hne : w ≠ [])
    (hw : ∀ c ∈ w, sep c = false) {run : List Char} (hcs : ∀ c ∈ cs.head?, sep c = true) :
    StandsIn sep w (run ++ cs) := by
  obtain ⟨before, after, rfl, hbefore, hafter⟩ := h
  refine ⟨run ++ before, after, by simp only [List.append_assoc], ?_, hafter⟩
  cases before with
  | nil =>
    -- The word would begin with a separator.
    obtain ⟨c, w, rfl⟩ := List.exists_cons_of_ne_nil hne
    have hsep : sep c = true := hcs c rfl
    rw [hw c List.mem_cons_self] at hsep
    cases hsep
  | cons c before => simpa [List.getLast?_append] using hbefore

theorem mem_splitRuns_iff {w cs : List Char} :
    w ∈ splitRuns sep cs ↔ w ≠ [] ∧ (∀ c ∈ w, sep c = false) ∧ StandsIn sep w cs := by
  constructor
  · intro h
    induction cs using induction_on_runs sep with
    | nil => cases h
    | sepCons c cs hc ih =>
      rw [splitRuns_sep hc] at h
      obtain ⟨hne, hw, before, after, rfl, hbefore, hafter⟩ := ih h
      refine ⟨hne, hw, c :: before, after, rfl, ?_, hafter⟩
      cases before with
      | nil => simpa using hc
      | cons d before => simpa using hbefore
    | run run rest hne hrun hrest ih =>
      rw [splitRuns_run hne hrun hrest] at h
      rcases List.mem_cons.1 h with rfl | h
      · exact ⟨hne, hrun, [], rest, rfl, nofun, hrest⟩
      · obtain ⟨hwne, hw, hstands⟩ := ih h
        exact ⟨hwne, hw, hstands.behind hwne hw hrest⟩
  · rintro ⟨hne, hw, before, after, rfl, hbefore, hafter⟩
    have hword : w ∈ splitRuns sep (w ++ after) := by
      rw [splitRuns_run hne hw hafter]
      exact List.mem_cons_self
    rw [List.append_assoc]
    rcases List.eq_nil_or_concat before with rfl | ⟨before, d, rfl⟩
    · exact hword
    · have hd : sep d = true := hbefore d (by simp)
      rw [List.concat_eq_append, List.append_assoc, List.singleton_append,
        splitRuns_append_sep hd]
      exact List.mem_append_right _ hword

end

theorem mem_words_iff {s w : String} :
    w ∈ words s ↔
      w ≠ "" ∧ (∀ c ∈ w.toList, isBlank c = false) ∧ StandsIn isBlank w.toList s.toList := by
  rw [words, List.mem_map]
  constructor
  · rintro ⟨cs, hcs, rfl⟩
    obtain ⟨hne, hrun, hstands⟩ := mem_splitRuns_iff.1 hcs
    rw [String.toList_ofList]
    refine ⟨fun h => hne ?_, hrun, hstands⟩
    rw [← String.toList_ofList (l := cs), h]
    rfl
  · rintro ⟨hne, hrun, hstands⟩
    have hlist : w.toList ≠ [] := fun h => hne (String.toList_inj.1 h)
    exact ⟨w.toList, mem_splitRuns_iff.2 ⟨hlist, hrun, hstands⟩, String.ofList_toList⟩

/-! ### Collapsed blanks -/

/-- No blank but the space, and no two spaces next to each other. -/
structure Spaced (cs : List Char) : Prop where
  space : ∀ c ∈ cs, isBlank c = true → c = ' '
  single : ¬[' ', ' '] <:+: cs

theorem Spaced.of_isInfix {cs ds : List Char} (h : Spaced cs) (hds : ds <:+: cs) : Spaced ds where
  space c hc := h.space c (hds.subset hc)
  single hdouble := h.single (hdouble.trans hds)

theorem Spaced.cons {c : Char} {cs : List Char} (h : Spaced cs)
    (hc : isBlank c = true → c = ' ' ∧ ∀ d ∈ cs.head?, isBlank d = false) : Spaced (c :: cs) where
  space := List.forall_mem_cons.2 ⟨fun hblank => (hc hblank).1, h.space⟩
  single hdouble := by
    rcases List.infix_cons_iff.1 hdouble with hstart | hinside
    · obtain ⟨rfl, rest, rfl⟩ := List.cons_prefix_cons.1 hstart
      have hnext : isBlank ' ' = false := (hc (by decide)).2 ' ' rfl
      cases hnext
    · exact h.single hinside

theorem head?_collapse {cs : List Char} (h : cs.head?.any isBlank = false) :
    ∀ c ∈ (collapse cs).head?, isBlank c = false := by
  cases cs with
  | nil => exact nofun
  | cons c cs =>
    have hc : isBlank c = false := h
    rw [collapse, if_neg (by simp [hc])]
    simpa using hc

theorem spaced_collapse (cs : List Char) : Spaced (collapse cs) := by
  fun_induction collapse cs with
  | case1 => exact ⟨nofun, by simp⟩
  | case2 c cs hc hnext ih => exact ih
  | case3 c cs hc hnext ih => exact ih.cons fun _ => ⟨rfl, head?_collapse (by simpa using hnext)⟩
  | case4 c cs hc ih => exact ih.cons fun hblank => absurd hblank hc

/-! ### Trimmed ends -/

theorem head?_dropWhile_blank (cs : List Char) :
    ∀ c ∈ (cs.dropWhile isBlank).head?, isBlank c = false := by
  intro c hc
  have hstop := List.head?_dropWhile_not isBlank cs
  rwa [Option.mem_def.1 hc] at hstop

theorem head?_trimStart (s : String) : ∀ c ∈ (trimStart s).toList.head?, isBlank c = false := by
  rw [trimStart, String.toList_ofList]
  exact head?_dropWhile_blank s.toList

theorem getLast?_trimEnd (s : String) : ∀ c ∈ (trimEnd s).toList.getLast?, isBlank c = false := by
  rw [trimEnd, String.toList_ofList, List.getLast?_reverse]
  exact head?_dropWhile_blank s.toList.reverse

theorem trimStart_isSuffix (s : String) : (trimStart s).toList <:+ s.toList := by
  rw [trimStart, String.toList_ofList]
  exact List.dropWhile_suffix isBlank

theorem trimEnd_isPrefix (s : String) : (trimEnd s).toList <+: s.toList := by
  rw [trimEnd, String.toList_ofList, ← List.reverse_suffix, List.reverse_reverse]
  exact List.dropWhile_suffix isBlank

end DocStream.Text

import DocStream.Rendering
import Mathlib.Algebra.GroupWithZero.Nat

/-! The lines of a rendered stream. Quoted text stays on the line of its event. What is written as
it is, an id, a target or the name of a parameter, breaks the line wherever it holds a line feed, so
the lines are those of the events exactly when none of it does. -/

namespace DocStream

namespace Text

def breaks (s : String) : Nat := s.toList.count '\n'

def feedPieces (s : String) : List String := (s.toList.splitOn '\n').map String.ofList

@[simp] theorem breaks_append (s t : String) : breaks (s ++ t) = breaks s + breaks t := by
  simp [breaks]

theorem breaks_join (ss : List String) : breaks (String.join ss) = (ss.map breaks).sum := by
  induction ss with
  | nil => rfl
  | cons s ss ih => rw [String.join_cons, breaks_append, ih, List.map_cons, List.sum_cons]

theorem breaks_eq_zero_iff {s : String} : breaks s = 0 ↔ '\n' ∉ s.toList := List.count_eq_zero

/-! ### Quoted text -/

theorem digitChar_ne_feed : ∀ n < 16, n.digitChar ≠ '\n' := by decide

theorem feed_not_mem_toDigits {base : Nat} (hlow : 1 < base) (hhigh : base ≤ 16) (n : Nat) :
    '\n' ∉ Nat.toDigits base n := by
  induction n using Nat.strongRecOn with
  | ind n ih =>
    rcases Nat.lt_or_ge n base with hlt | hge
    · rw [Nat.toDigits_of_lt_base hlt, List.mem_singleton]
      exact (digitChar_ne_feed n (by omega)).symm
    · have hdigits : '\n' ∉ Nat.toDigits base (n / base) := ih _ (Nat.div_lt_self (by omega) hlow)
      have hmod : n % base < base := Nat.mod_lt n (by omega)
      have hlast : '\n' ≠ (n % base).digitChar := (digitChar_ne_feed _ (by omega)).symm
      rw [Nat.toDigits_of_base_le hlow hge, List.mem_append, List.mem_singleton]
      exact fun h => h.elim hdigits hlast

theorem breaks_toString (n : Nat) : breaks (toString n) = 0 := by
  rw [breaks_eq_zero_iff, Nat.toString_eq_ofList_toDigits, String.toList_ofList]
  exact feed_not_mem_toDigits (by decide) (by decide) n

theorem feed_not_mem_escape (c : Char) : '\n' ∉ escape c := by
  unfold escape
  split
  iterate 6 decide
  next hfeed _ =>
    split
    · exact fun h => hfeed (List.mem_singleton.1 h).symm
    · have hdigits : '\n' ∉ Nat.toDigits 16 c.toNat :=
        feed_not_mem_toDigits (by decide) (by decide) _
      simpa using hdigits

@[simp] theorem breaks_quote (s : String) : breaks (quote s) = 0 := by
  have hescaped : '\n' ∉ s.toList.flatMap escape := by
    rw [List.mem_flatMap]
    rintro ⟨c, -, hc⟩
    exact feed_not_mem_escape c hc
  rw [breaks_eq_zero_iff, quote, String.toList_ofList]
  simpa using hescaped

/-! ### Pieces -/

theorem length_feedPieces (s : String) : (feedPieces s).length = breaks s + 1 := by
  have hsplit (cs : List Char) : (cs.splitOn '\n').length = cs.count '\n' + 1 := by
    induction cs with
    | nil => rfl
    | cons c cs ih =>
      rw [List.splitOn_cons_eq_if_modifyHead, List.count_cons]
      split
      · simp [ih]
      · simp [ih]
  rw [feedPieces, List.length_map, hsplit, breaks]

theorem feedPieces_join {ls : List String} (h : ∀ l ∈ ls, breaks l = 0) :
    feedPieces (String.join (ls.map (· ++ "\n"))) = ls ++ [""] := by
  induction ls with
  | nil => rfl
  | cons l ls ih =>
    rw [List.forall_mem_cons] at h
    have hl : '\n' ∉ l.toList := breaks_eq_zero_iff.1 h.1
    have hrest := ih h.2
    rw [feedPieces] at hrest ⊢
    have hcons : (String.join ((l :: ls).map (· ++ "\n"))).toList =
        l.toList ++ '\n' :: (String.join (ls.map (· ++ "\n"))).toList := by
      simp
    rw [hcons, List.splitOn_append_cons_self_of_not_mem hl, List.map_cons, hrest,
      String.ofList_toList, List.cons_append]

end Text

open Text

/-! ### Lines of events -/

/-- The parts of a container that its line takes over as they are. -/
def Container.unquoted : Container → List String
  | header _ id => id.toList
  | link l => l.reference.target :: l.reference.parameters.entries.map Prod.fst
  | _ => []

def Event.unquoted : Event → List String
  | opening c => c.unquoted
  | closing c => c.unquoted
  | text _ => []
  | lineBreak => []

def Event.ruptures (e : Event) : Nat := (e.unquoted.map breaks).sum

theorem Reference.breaks_line (r : Reference) :
    breaks r.line = breaks r.target + (r.parameters.entries.map fun p => breaks p.1).sum := by
  have hkind : breaks r.kind.label = 0 := by cases r.kind <;> rfl
  have htyped : breaks (if r.typed then "" else " untyped") = 0 := by cases r.typed <;> rfl
  have hparameter (p : String × String) :
      breaks (" " ++ p.1 ++ "=" ++ quote p.2) = breaks p.1 := by
    have hspace : breaks " " = 0 := rfl
    have hequals : breaks "=" = 0 := rfl
    simp [hspace, hequals]
  have hcolon : breaks ":" = 0 := rfl
  simp only [line, breaks_append, breaks_join, List.map_map, Function.comp_def, hparameter, hkind,
    htyped, hcolon]
  omega

theorem Container.breaks_details (c : Container) :
    breaks c.details = (c.unquoted.map breaks).sum := by
  cases c with
  | document d => cases d <;> rfl
  | sect => rfl
  | listItem => rfl
  | paragraph => rfl
  | list kind => cases kind <;> rfl
  | format style => cases style <;> rfl
  | header level id =>
    have hlevel : breaks " [level=" = 0 := rfl
    have hid : breaks ", id=" = 0 := rfl
    have hclose : breaks "]" = 0 := rfl
    cases id with
    | none =>
      simp only [details, unquoted, breaks_append, breaks_toString, hlevel, hclose]
      rfl
    | some id =>
      simp only [details, unquoted, breaks_append, breaks_toString, hlevel, hid, hclose,
        Option.toList_some, List.map_cons, List.map_nil, List.sum_cons, List.sum_nil]
      omega
  | link l =>
    have hopen : breaks " [" = 0 := rfl
    have hclose : breaks "]" = 0 := rfl
    have hstanding : breaks (if l.freeStanding then " free-standing" else "") = 0 := by
      cases l.freeStanding <;> rfl
    simp only [details, unquoted, breaks_append, hopen, hclose, hstanding,
      Reference.breaks_line, List.map_cons, List.map_map, Function.comp_def, List.sum_cons]
    omega

theorem Container.breaks_name (c : Container) : breaks c.name = 0 := by
  cases c <;> (rw [name]; rfl)

theorem Event.breaks_line (e : Event) : breaks e.line = e.ruptures := by
  have hbegin : breaks "Begin" = 0 := rfl
  have hend : breaks "End" = 0 := rfl
  have hspace : breaks " " = 0 := rfl
  have htext : breaks "RawText" = 0 := rfl
  cases e with
  | opening c => simp [line, name, ruptures, unquoted, c.breaks_name, c.breaks_details, hbegin]
  | closing c => simp [line, name, ruptures, unquoted, c.breaks_name, c.breaks_details, hend]
  | text s => simp [line, name, ruptures, unquoted, hspace, htext]
  | lineBreak => rfl

/-! ### Streams -/

theorem breaks_render (es : List Event) :
    breaks (render .text es) = es.length + (es.map Event.ruptures).sum := by
  have hline (e : Event) : breaks (e.line ++ "\n") = e.ruptures + 1 := by
    rw [breaks_append, e.breaks_line]
    rfl
  rw [render, breaks_join, List.map_map]
  induction es with
  | nil => rfl
  | cons e es ih =>
    rw [List.map_cons, List.sum_cons, ih, Function.comp_apply, hline, List.map_cons, List.sum_cons,
      List.length_cons]
    omega

theorem feedPieces_render {es : List Event} (h : ∀ e ∈ es, e.ruptures = 0) :
    feedPieces (render .text es) = es.map Event.line ++ [""] := by
  have hlines : ∀ l ∈ es.map Event.line, breaks l = 0 := by
    rw [List.forall_mem_map]
    intro e he
    rw [e.breaks_line, h e he]
  have hpieces := feedPieces_join hlines
  rwa [List.map_map] at hpieces

theorem feedPieces_render_iff {es : List Event} :
    feedPieces (render .text es) = es.map Event.line ++ [""] ↔ ∀ e ∈ es, e.ruptures = 0 := by
  refine ⟨fun h => ?_, feedPieces_render⟩
  -- There is one piece more than there are line feeds, and the lines take one each.
  have hlength := congrArg List.length h
  rw [length_feedPieces, breaks_render, List.length_append, List.length_map,
    List.length_singleton] at hlength
  have hsum : (es.map Event.ruptures).sum = 0 := by omega
  rw [List.sum_eq_zero_iff_forall_eq_nat] at hsum
  exact fun e he => hsum _ (List.mem_map_of_mem he)

/-- Each event has a line of its own, the one it displays as, in just those streams in which no id,
no target and no name of a parameter holds a line feed; every line feed there adds a line. Of two
such streams neither can be taken for the other unless all their lines agree. -/
theorem render_text_lines (es : List Event) :
    (feedPieces (render .text es)).length = es.length + (es.map Event.ruptures).sum + 1 ∧
    (feedPieces (render .text es) = es.map Event.line ++ [""] ↔
      ∀ e ∈ es, ∀ s ∈ e.unquoted, '\n' ∉ s.toList) ∧
    ((∀ e ∈ es, e.ruptures = 0) → ∀ others : List Event, (∀ e ∈ others, e.ruptures = 0) →
      render .text others = render .text es → others.map Event.line = es.map Event.line) := by
  have hruptures (e : Event) : e.ruptures = 0 ↔ ∀ s ∈ e.unquoted, '\n' ∉ s.toList := by
    simp only [Event.ruptures, List.sum_eq_zero_iff_forall_eq_nat, List.forall_mem_map,
      breaks_eq_zero_iff]
  refine ⟨?_, ?_, fun hes others hothers heq => ?_⟩
  · rw [length_feedPieces, breaks_render]
  · simp only [feedPieces_render_iff, hruptures]
  · have hpieces := (feedPieces_render hothers).symm.trans (heq ▸ feedPieces_render hes)
    exact List.append_cancel_right hpieces

theorem render_text_forged :
    let forged : Event := .opening (.header 1 (some "a]\nEndHeader [level=1, id=a"))
    let header : Container := .header 1 (some "a")
    render .text [forged] = render .text [.opening header, .closing header] ∧
      feedPieces (render .text [forged]) ≠ [forged].map Event.line ++ [""] := by
  decide

end DocStream

import DocStream.Proofs.FirstHopeless
import Mathlib.Data.List.Forall2

/-! Streams that stop too early. A step closes one container at most, so a stream takes as many
further events as it leaves containers open, and if it gets no more than that, each of them has to
close the innermost one. -/

namespace DocStream.Forest

inductive LeftOpen : List Event → List Event → Prop where
  | balanced {es : List Event} (h : Balanced es) : LeftOpen es []
  | opening {es body os : List Event} {o : Event} (h : LeftOpen es os) (ho : o.isOpening = true)
      (hbody : Balanced body) : LeftOpen (es ++ o :: body) (o :: os)

def Repairs (es more : List Event) : Prop := ∃ ts, ofEvents (es ++ more) = .ok ts

/-! ### What is left open -/

theorem leftOpen_trail {frames : List Frame} (hframes : ∀ f ∈ frames, f.Sound) {level : List Tree}
    (hlevel : Tree.AllWellFormed level) :
    LeftOpen (Progress.trail ⟨frames, level⟩) (frames.map Frame.opener) := by
  have hbalanced {level : List Tree} (h : Tree.AllWellFormed level) :
      Balanced (Tree.flattenAll level.reverse) :=
    ⟨level.reverse, (Tree.allWellFormed_reverse level).2 h, rfl⟩
  induction frames generalizing level with
  | nil => exact .balanced (hbalanced hlevel)
  | cons f frames ih =>
    obtain ⟨hf, hrest⟩ := List.forall_mem_cons.1 hframes
    have htrail : Progress.trail ⟨f :: frames, level⟩ =
        Progress.trail ⟨frames, f.before⟩ ++ f.opener :: Tree.flattenAll level.reverse := by
      simp only [Progress.trail, framesTrail, List.append_assoc, List.singleton_append]
    rw [htrail, List.map_cons]
    exact .opening (ih hrest hf.before) hf.opener (hbalanced hlevel)

theorem LeftOpen.exists_advance {es os : List Event} (h : LeftOpen es os) :
    ∃ s, advance {} 0 es = .ok s ∧ s.frames.map Frame.opener = os := by
  induction h with
  | balanced hes =>
    obtain ⟨s, hs, hframes⟩ := balanced_iff_advance.1 hes
    exact ⟨s, hs, by rw [hframes, List.map_nil]⟩
  | opening _ ho hbody ih =>
    obtain ⟨s, hs, hos⟩ := ih
    obtain ⟨level, hopen⟩ := exists_advance_opening hs ho hbody
    exact ⟨_, hopen, by rw [List.map_cons, hos]⟩

theorem leftOpen_iff_frames {es os : List Event} {s : Progress} (h : advance {} 0 es = .ok s) :
    LeftOpen es os ↔ os = s.frames.map Frame.opener := by
  constructor
  · intro hos
    obtain ⟨t, ht, rfl⟩ := hos.exists_advance
    obtain rfl : t = s := Except.ok.inj (ht.symm.trans h)
    rfl
  · rintro rfl
    have hs : s.Sound := sound_of_advance h
    have hopen := leftOpen_trail hs.frames hs.level
    rwa [trail_of_advance h] at hopen

/-! ### How fast containers are closed -/

theorem Step.length_frames_le {p : Nat} {s s' : Progress} {e : Event} (h : Step p s e (.ok s')) :
    s.frames.length ≤ s'.frames.length + 1 := by
  cases h with
  | opens _ ho => simp only [List.length_cons]; omega
  | closes he => exact le_rfl
  | leaf _ ho hc => exact Nat.le_succ _

theorem Step.closes_of_length {p : Nat} {s s' : Progress} {e : Event} (h : Step p s e (.ok s'))
    (hlen : s'.frames.length < s.frames.length) :
    ∃ f, s.frames = f :: s'.frames ∧ e.closes f.opener = true := by
  cases h with
  | opens _ ho => simp only [List.length_cons] at hlen; omega
  | closes he => exact ⟨_, rfl, he⟩
  | leaf _ ho hc => exact absurd hlen (Nat.lt_irrefl _)

theorem length_frames_le_of_advance {s s' : Progress} {p : Nat} {es : List Event}
    (h : advance s p es = .ok s') : s.frames.length ≤ s'.frames.length + es.length := by
  induction es generalizing s p with
  | nil =>
    cases h
    exact le_rfl
  | cons e es ih =>
    obtain ⟨t, ht, hrest⟩ := step_of_advance_cons h
    have hstep := ht.length_frames_le
    have htail := ih hrest
    rw [List.length_cons]
    omega

theorem closes_of_advance {s s' : Progress} {p : Nat} {es : List Event}
    (h : advance s p es = .ok s') (hdone : s'.frames = []) (hlen : es.length = s.frames.length) :
    List.Forall₂ (fun e o => e.closes o = true) es (s.frames.map Frame.opener) := by
  induction es generalizing s p with
  | nil =>
    have hframes : s.frames = [] := List.eq_nil_of_length_eq_zero hlen.symm
    rw [hframes]
    exact .nil
  | cons e es ih =>
    obtain ⟨t, ht, hrest⟩ := step_of_advance_cons h
    have htail : t.frames.length ≤ es.length := by
      have hle := length_frames_le_of_advance hrest
      rwa [hdone, List.length_nil, Nat.zero_add] at hle
    rw [List.length_cons] at hlen
    obtain ⟨f, hf, he⟩ := ht.closes_of_length (by omega)
    rw [hf, List.length_cons] at hlen
    rw [hf, List.map_cons]
    exact .cons he (ih hrest (by omega))

theorem eq_map_closer {es os : List Event}
    (h : List.Forall₂ (fun e o => e.closes o = true) es os) : es = os.map Event.closer := by
  induction h with
  | nil => rfl
  | cons he _ ih => rw [List.map_cons, ← Event.eq_closer_of_closes he, ← ih]

theorem forall₂_closes_map_closer {frames : List Frame} (h : ∀ f ∈ frames, f.Sound) :
    List.Forall₂ (fun e o => e.closes o = true)
      ((frames.map Frame.opener).map Event.closer) (frames.map Frame.opener) := by
  rw [List.forall₂_map_left_iff, List.forall₂_same]
  intro o ho
  obtain ⟨f, hf, rfl⟩ := List.mem_map.1 ho
  exact Event.closes_closer (h f hf).opener

/-! ### Repairing a stream -/

section
variable {es : List Event} {s : Progress} (hs : advance {} 0 es = .ok s)
include hs

theorem repairs_iff_advance {more : List Event} :
    Repairs es more ↔ ∃ t, advance s es.length more = .ok t ∧ t.frames = [] := by
  rw [Repairs, ← balanced_iff_ofEvents, balanced_iff_advance, advance_append_of_ok hs,
    Nat.zero_add]

theorem length_frames_le_of_repairs {more : List Event} (h : Repairs es more) :
    s.frames.length ≤ more.length := by
  obtain ⟨t, ht, hdone⟩ := (repairs_iff_advance hs).1 h
  have hle := length_frames_le_of_advance ht
  rwa [hdone, List.length_nil, Nat.zero_add] at hle

theorem repairs_iff_eq_closers {more : List Event} (hlen : more.length = s.frames.length) :
    Repairs es more ↔ more = (s.frames.map Frame.opener).map Event.closer := by
  rw [repairs_iff_advance hs]
  constructor
  · rintro ⟨t, ht, hdone⟩
    exact eq_map_closer (closes_of_advance ht hdone hlen)
  · rintro rfl
    rw [List.map_map]
    exact advance_closers (sound_of_advance hs).frames s.level es.length

end

theorem exists_advance_of_unclosed {es : List Event} {n : Nat}
    (h : ofEvents es = .error (.unclosed n)) :
    ∃ s, advance {} 0 es = .ok s ∧ s.frames ≠ [] ∧ s.frames.length = n := by
  have hcompletable : Completable es := ofEvents_ok_or_unclosed_iff.1 (.inr ⟨n, h⟩)
  obtain ⟨s, hs⟩ := completable_iff_advance.1 hcompletable
  rw [ofEvents_of_advance hs, finish_eq_error_iff] at h
  exact ⟨s, hs, h.1, BalanceError.unclosed.inj h.2⟩

/-- The number that an unclosed stream is refused with is the least number of events that repair
it, and just one list of that length does: the closings of what is left open. -/
theorem unclosed_repair {es : List Event} {n : Nat} (h : ofEvents es = .error (.unclosed n)) :
    1 ≤ n ∧ (∀ more, more.length < n → ¬Repairs es more) ∧
      (∃! more, more.length = n ∧ Repairs es more) ∧
      ∃ openers closers, (∀ os, LeftOpen es os ↔ os = openers) ∧
        List.Forall₂ (fun e o => e.closes o = true) closers openers ∧ closers.length = n ∧
        Repairs es closers := by
  obtain ⟨s, hs, hne, rfl⟩ := exists_advance_of_unclosed h
  let openers := s.frames.map Frame.opener
  have hlen : (openers.map Event.closer).length = s.frames.length := by simp [openers]
  have hrepairs : Repairs es (openers.map Event.closer) := (repairs_iff_eq_closers hs hlen).2 rfl
  refine ⟨List.length_pos_iff.2 hne, fun more hmore hmore' => ?_, ?_, ?_⟩
  · have hle := length_frames_le_of_repairs hs hmore'
    omega
  · refine ⟨openers.map Event.closer, ⟨hlen, hrepairs⟩, ?_⟩
    rintro more ⟨hmore, hmore'⟩
    exact (repairs_iff_eq_closers hs hmore).1 hmore'
  · exact ⟨openers, openers.map Event.closer, fun os => leftOpen_iff_frames hs,
      forall₂_closes_map_closer (sound_of_advance hs).frames, hlen, hrepairs⟩

theorem unclosed_repair_header :
    let head : LinkHead := { reference := { kind := .url, target := "u" } }
    let es : List Event := [.lineBreak, .opening (.header 2 (some "a")), .text "t",
      .opening (.link head), .opening (.format .bold), .closing (.format .bold)]
    ofEvents es = .error (.unclosed 2) ∧ (∀ more, more.length < 2 → ¬Repairs es more) ∧
      ∀ more, more.length = 2 → Repairs es more →
        more = [.closing (.link head), .closing (.header 2 (some "a"))] := by
  intro head es
  have h : ofEvents es = .error (.unclosed 2) := rfl
  obtain ⟨-, hshort, hunique, -⟩ := unclosed_repair h
  refine ⟨h, hshort, fun more hlen hmore => ?_⟩
  have hclosings : Repairs es [.closing (.link head), .closing (.header 2 (some "a"))] := ⟨_, rfl⟩
  exact hunique.unique ⟨hlen, hmore⟩ ⟨rfl, hclosings⟩

end DocStream.Forest

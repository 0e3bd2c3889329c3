import DocStream.Proofs.Rebuild
import Mathlib.Logic.ExistsUnique

/-! Balanced streams. What has been read of a stream is always the flattening of the progress made,
so a stream that is read back to its end is the flattening of its forest: reading and flattening
are inverse to each other between balanced streams and well-formed forests. -/

namespace DocStream

namespace Tree

@[simp] theorem allWellFormed_reverse (ts : List Tree) :
    AllWellFormed ts.reverse ↔ AllWellFormed ts := by
  induction ts with
  | nil => rfl
  | cons t ts ih => simp [ih, and_comm]

end Tree

namespace Forest

/-- A stream in which every container is opened, filled and closed in turn. -/
def Balanced (es : List Event) : Prop := ∃ ts, Tree.AllWellFormed ts ∧ Tree.flattenAll ts = es

/-! ### One step -/

inductive Step (p : Nat) : Progress → Event → Except BalanceError Progress → Prop where
  | opens (s : Progress) {o : Event} (ho : o.isOpening = true) :
    Step p s o (.ok ⟨⟨o, s.level⟩ :: s.frames, []⟩)
  | closes {f : Frame} {frames : List Frame} {level : List Tree} {e : Event}
      (he : e.closes f.opener = true) :
    Step p ⟨f :: frames, level⟩ e (.ok ⟨frames, .node f.opener e level.reverse :: f.before⟩)
  | leaf (s : Progress) {e : Event} (ho : e.isOpening = false) (hc : e.isClosing = false) :
    Step p s e (.ok { s with level := .leaf e :: s.level })
  | unexpectedEnd {level : List Tree} {e : Event} (hc : e.isClosing = true) :
    Step p ⟨[], level⟩ e (.error (.unexpectedEnd p e))
  | mismatched {f : Frame} {frames : List Frame} {level : List Tree} {e : Event}
      (hc : e.isClosing = true) (he : e.closes f.opener = false) :
    Step p ⟨f :: frames, level⟩ e (.error (.mismatched p f.opener e))

theorem step_spec (s : Progress) (p : Nat) (e : Event) : Step p s e (s.step p e) := by
  cases ho : e.isOpening with
  | true =>
    rw [step_opening s p ho]
    exact .opens s ho
  | false =>
    cases hc : e.isClosing with
    | false =>
      rw [step_leaf s p ho hc]
      exact .leaf s ho hc
    | true =>
      obtain ⟨_ | ⟨f, frames⟩, level⟩ := s
      · have h : Progress.step ⟨[], level⟩ p e = .error (.unexpectedEnd p e) := by
          simp [Progress.step, ho, hc]
        rw [h]
        exact .unexpectedEnd hc
      · cases he : e.closes f.opener with
        | true =>
          rw [step_closing he]
          exact .closes he
        | false =>
          have h : Progress.step ⟨f :: frames, level⟩ p e = .error (.mismatched p f.opener e) := by
            simp [Progress.step, ho, hc, he]
          rw [h]
          exact .mismatched hc he

theorem step_of_eq {s : Progress} {p : Nat} {e : Event} {r : Except BalanceError Progress}
    (h : s.step p e = r) : Step p s e r := h ▸ step_spec s p e

theorem Step.eq {s : Progress} {p : Nat} {e : Event} {r : Except BalanceError Progress}
    (h : Step p s e r) : s.step p e = r := by
  have hopening {e : Event} (hc : e.isClosing = true) : e.isOpening = false := by
    cases e <;> simp_all [Event.isOpening, Event.isClosing]
  cases h with
  | opens _ ho => exact step_opening s p ho
  | closes he => exact step_closing he p _ _ _
  | leaf _ ho hc => exact step_leaf s p ho hc
  | unexpectedEnd hc => simp [Progress.step, hopening hc, hc]
  | mismatched hc he => simp [Progress.step, hopening hc, hc, he]

/-! ### What has been read -/

def framesTrail : List Frame → List Event
  | [] => []
  | f :: frames => framesTrail frames ++ Tree.flattenAll f.before.reverse ++ [f.opener]

def Progress.trail (s : Progress) : List Event :=
  framesTrail s.frames ++ Tree.flattenAll s.level.reverse

structure Frame.Sound (f : Frame) : Prop where
  opener : f.opener.isOpening = true
  before : Tree.AllWellFormed f.before

structure Progress.Sound (s : Progress) : Prop where
  frames : ∀ f ∈ s.frames, f.Sound
  level : Tree.AllWellFormed s.level

theorem sound_start : Progress.Sound {} := ⟨nofun, trivial⟩

theorem trail_start : Progress.trail {} = [] := rfl

theorem Step.trail {p : Nat} {s s' : Progress} {e : Event} (h : Step p s e (.ok s')) :
    s'.trail = s.trail ++ [e] := by
  cases h with
  | opens ho => simp [Progress.trail, framesTrail]
  | closes he => simp [Progress.trail, framesTrail, Tree.flatten]
  | leaf ho hc => simp [Progress.trail, Tree.flatten]

theorem Step.sound {p : Nat} {s s' : Progress} {e : Event} (h : Step p s e (.ok s'))
    (hs : s.Sound) : s'.Sound := by
  cases h with
  | opens _ ho =>
    refine ⟨?_, trivial⟩
    rw [List.forall_mem_cons]
    exact ⟨⟨ho, hs.level⟩, hs.frames⟩
  | closes he =>
    obtain ⟨⟨ho, hbefore⟩, hframes⟩ := List.forall_mem_cons.1 hs.frames
    exact ⟨hframes, ⟨ho, he, (Tree.allWellFormed_reverse _).2 hs.level⟩, hbefore⟩
  | leaf _ ho hc => exact ⟨hs.frames, ⟨ho, hc⟩, hs.level⟩

theorem step_of_advance_cons {s s' : Progress} {p : Nat} {e : Event} {es : List Event}
    (h : advance s p (e :: es) = .ok s') :
    ∃ t, Step p s e (.ok t) ∧ advance t (p + 1) es = .ok s' := by
  rw [advance] at h
  cases he : s.step p e with
  | error err =>
    rw [he] at h
    cases h
  | ok t =>
    rw [he] at h
    exact ⟨t, step_of_eq he, h⟩

theorem advance_trail {s s' : Progress} {p : Nat} {es : List Event}
    (h : advance s p es = .ok s') : s'.trail = s.trail ++ es := by
  induction es generalizing s p with
  | nil =>
    cases h
    rw [List.append_nil]
  | cons e es ih =>
    obtain ⟨t, ht, hrest⟩ := step_of_advance_cons h
    rw [ih hrest, ht.trail, List.append_assoc, List.singleton_append]

theorem advance_sound {s s' : Progress} {p : Nat} {es : List Event}
    (h : advance s p es = .ok s') (hs : s.Sound) : s'.Sound := by
  induction es generalizing s p with
  | nil =>
    cases h
    exact hs
  | cons e es ih =>
    obtain ⟨t, ht, hrest⟩ := step_of_advance_cons h
    exact ih hrest (ht.sound hs)

theorem trail_of_advance {s : Progress} {es : List Event} (h : advance {} 0 es = .ok s) :
    s.trail = es := by
  rw [advance_trail h, trail_start, List.nil_append]

theorem sound_of_advance {s : Progress} {es : List Event} (h : advance {} 0 es = .ok s) :
    s.Sound := advance_sound h sound_start

/-! ### Reading to the end -/

theorem ofEvents_eq_ok_iff_advance {es : List Event} {ts : List Tree} :
    ofEvents es = .ok ts ↔
      ∃ s, advance {} 0 es = .ok s ∧ s.frames = [] ∧ s.level.reverse = ts := by
  cases h : advance {} 0 es with
  | error err => simp [ofEvents_of_advance_error h]
  | ok s => simp [ofEvents_of_advance h, finish_eq_ok_iff]

theorem ofEvents_eq_ok_iff {es : List Event} {ts : List Tree} :
    ofEvents es = .ok ts ↔ Tree.AllWellFormed ts ∧ Tree.flattenAll ts = es := by
  constructor
  · intro h
    obtain ⟨s, hs, hframes, rfl⟩ := ofEvents_eq_ok_iff_advance.1 h
    refine ⟨(Tree.allWellFormed_reverse _).2 (sound_of_advance hs).level, ?_⟩
    -- With no container open the trail is the flattening of the level alone.
    have htrail : s.trail = es := trail_of_advance hs
    rwa [Progress.trail, hframes, framesTrail, List.nil_append] at htrail
  · rintro ⟨hts, rfl⟩
    exact ofEvents_flattenAll hts

theorem balanced_iff_ofEvents {es : List Event} : Balanced es ↔ ∃ ts, ofEvents es = .ok ts := by
  simp only [ofEvents_eq_ok_iff, Balanced]

theorem validate_eq_ok_iff {es : List Event} : validate es = .ok () ↔ Balanced es := by
  rw [balanced_iff_ofEvents, validate]
  cases ofEvents es <;> simp [Except.map]

theorem existsUnique_forest {es : List Event} (h : Balanced es) :
    ∃! ts, Tree.AllWellFormed ts ∧ Tree.flattenAll ts = es := by
  obtain ⟨ts, hts⟩ := h
  refine ⟨ts, hts, fun us hus => ?_⟩
  have heq := (ofEvents_eq_ok_iff.2 hus).symm.trans (ofEvents_eq_ok_iff.2 hts)
  exact Except.ok.inj heq

/-- Reading takes a stream to a forest just when the forest is well-formed and flattens to the
stream; so the balanced streams are accepted, each with one forest, and no others. -/
theorem reading_inverts_flattening :
    (∀ (es : List Event) (ts : List Tree),
      ofEvents es = .ok ts ↔ Tree.AllWellFormed ts ∧ Tree.flattenAll ts = es) ∧
    (∀ es : List Event, validate es = .ok () ↔ Balanced es) ∧
    ∀ es : List Event, validate es = .ok () ↔
      ∃! ts, Tree.AllWellFormed ts ∧ Tree.flattenAll ts = es := by
  refine ⟨fun es ts => ofEvents_eq_ok_iff, fun es => validate_eq_ok_iff, fun es => ?_⟩
  rw [validate_eq_ok_iff]
  exact ⟨existsUnique_forest, ExistsUnique.exists⟩

end Forest

end DocStream
